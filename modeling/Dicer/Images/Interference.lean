import Dicer.Images.Moves
import Dicer.Maps

namespace Dicer.Images

open Function

/-!
# Every interleaving of the manager's calls

The moves keep what is true of the pulls, of the loads and of the index, and none of them changes
what another thread knows about its own place.
-/

variable {before after world : World} {thread id : Nat} {digest : String} {image : Image}
  {pull : Pull} {joined : List (Nat × Nat)}

theorem Image.digest_usedAt (image : Image) (at_ : Nat) :
    (image.usedAt at_).digest = image.digest := by
  simp only [usedAt]
  split_ifs <;> rfl

namespace World

theorem image_eq_none : world.image digest = none ↔ ∀ image ∈ world.images,
    image.digest ≠ digest := by
  simp [image]

theorem image_eq_none_iff : world.image digest = none ↔ digest ∉ world.images.map Image.digest := by
  simp [image]

theorem of_image_eq_some (there : world.image digest = some image) :
    image ∈ world.images ∧ image.digest = digest := by
  have same : image.digest = digest := by simpa using List.find?_some there
  exact ⟨List.mem_of_find?_eq_some there, same⟩

theorem image_of_mem (digests : (world.images.map Image.digest).Nodup)
    (member : image ∈ world.images) : world.image image.digest = some image :=
  (find?_key_iff digests).mpr ⟨member, rfl⟩

theorem image_append_eq_none (absent : world.image digest = none)
    (different : image.digest ≠ digest) :
    World.image { world with images := world.images ++ [image] } digest = none := by
  rw [image_eq_none_iff, List.map_append, List.mem_append, not_or]
  exact ⟨image_eq_none_iff.mp absent, fun isNew => different (List.mem_singleton.mp isNew).symm⟩

theorem digests_recordUse (world : World) (digest : String) (at_ : Nat) :
    (world.recordUse digest at_).images.map Image.digest = world.images.map Image.digest := by
  rw [recordUse, List.map_map]
  refine List.map_congr_left fun image _ => ?_
  simp only [Function.comp_apply, apply_ite, Image.digest_usedAt, ite_self]

theorem recordUse_image_eq_none {at_ : Nat} {other : String} :
    (world.recordUse other at_).image digest = none ↔ world.image digest = none := by
  rw [image_eq_none_iff, digests_recordUse, image_eq_none_iff]

end World

/-! ## The pulls -/

namespace Shared

variable (shared : Shared world)
include shared

theorem known (open_ : (world.pullOf id).phase ≠ .done) : id < world.next := by
  by_contra beyond
  exact open_ (shared.beyond id (Nat.le_of_not_lt beyond)).1

/-- No two pulls under way are of one digest. -/
theorem unique {other : Nat} (first : (world.pullOf id).phase.underWay = true)
    (second : (world.pullOf other).phase.underWay = true)
    (same : (world.pullOf id).resolved.digest = (world.pullOf other).resolved.digest) :
    id = other := by
  have known : ∀ id, (world.pullOf id).phase.underWay = true → id < world.next := by
    intro id underWay
    exact shared.known fun done => by simp [done, Phase.underWay] at underWay
  have isFirst := (shared.numbered _ id).mpr ⟨known id first, same, first⟩
  have isSecond := (shared.numbered _ other).mpr ⟨known other second, rfl, second⟩
  exact Option.some.inj (isFirst.symm.trans isSecond)

/-- A pull's record changes, and with it whether it is among those under way, and who waits for
it. -/
theorem record {pulls : String → Option Nat} {gaveUp : List Nat} (known : id < world.next)
    (sane : PullSane pull) (own : ∀ digest, pulls digest = some id ↔ pull.resolved.digest = digest ∧
      pull.phase.underWay = true)
    (others : ∀ digest other, other ≠ id →
      (pulls digest = some other ↔ world.pulls digest = some other))
    (stays : (world.pullOf id).phase = .done → pull.phase = .done)
      (counted : ∀ other, other < world.next → (update world.pullOf id pull other).waiters =
      (joined.map Prod.snd).count other)
    (isJoined : ∀ entry ∈ joined, entry.2 < world.next)
    (waits : ∀ entry ∈ world.joined, entry.1 ∈ world.cancelled ∨ entry ∈ joined)
    (isCancelled : ∀ thread ∈ gaveUp, thread ∈ world.cancelled) :
    Shared { world.setPull id pull with pulls := pulls, joined := joined, gaveUp := gaveUp } where
  numbered := fun digest => (forall_update_iff world.pullOf fun other pull =>
      pulls digest = some other ↔ other < world.next ∧ pull.resolved.digest = digest ∧
        pull.phase.underWay = true).mpr
    ⟨(own digest).trans (and_iff_right known).symm,
      fun other different => (others digest other different).trans (shared.numbered digest other)⟩
  beyond := (forall_update_iff world.pullOf fun other pull => world.next ≤ other →
    pull.phase = .done ∧ pull.owner = none).mpr
    ⟨fun isBeyond => absurd isBeyond (Nat.not_le_of_lt known), fun other _ => shared.beyond other⟩
  each := (forall_update_iff world.pullOf fun other pull => other < world.next → PullSane pull).mpr
    ⟨fun _ => sane, fun other _ => shared.each other⟩
  counted := counted
  joined := isJoined
  answered := by
    intro entry member
    rcases shared.answered entry member with ⟨entryKnown, done, waiting⟩
    refine ⟨entryKnown, ?_, waiting.elim .inl (waits entry)⟩
    by_cases same : entry.2 = id
    · simpa [World.setPull, same] using stays (same ▸ done)
    · simpa [World.setPull, update_of_ne same] using done
  gaveUp := isCancelled

/-- A record of the same digest that is under way or not as before leaves the pulls under way as
they are. -/
theorem numbered_own (known : id < world.next)
    (resolved : pull.resolved = (world.pullOf id).resolved)
    (underWay : pull.phase.underWay = (world.pullOf id).phase.underWay) (digest : String) :
    world.pulls digest = some id ↔ pull.resolved.digest = digest ∧ pull.phase.underWay = true := by
  rw [resolved, underWay]
  exact (shared.numbered digest id).trans (and_iff_right known)

theorem progress (open_ : (world.pullOf id).phase ≠ .done)
    (sane : PullSane (world.pullOf id) → PullSane pull)
    (resolved : pull.resolved = (world.pullOf id).resolved)
    (underWay : pull.phase.underWay = (world.pullOf id).phase.underWay)
    (waiters : pull.waiters = (world.pullOf id).waiters) : Shared (world.setPull id pull) := by
  have known := shared.known open_
  refine shared.record known (sane (shared.each id known))
    (shared.numbered_own known resolved underWay) (fun _ _ _ => .rfl)
    (fun done => absurd done open_) ?_ shared.joined (fun _ => .inr) shared.gaveUp
  exact (forall_update_iff world.pullOf fun other pull => other < world.next → pull.waiters = _).mpr
    ⟨fun known => waiters.trans (shared.counted id known), fun other _ => shared.counted other⟩

theorem start {resolved : ResolvedRef} (free : world.pulls resolved.digest = none) :
    Shared { world.setPull world.next ⟨resolved, 1, false, false, none, .started, none, false⟩ with
      pulls := update world.pulls resolved.digest (some world.next)
      next := world.next + 1
      joined := (thread, world.next) :: world.joined } where
  numbered := by
    intro digest other
    have isOld := shared.numbered digest other
    simp only [update_eq_some_iff, World.setPull]
    by_cases isNew : other = world.next
    · subst isNew
      have unknown : world.pulls digest ≠ some world.next :=
        fun there => absurd (isOld.mp there).1 (Nat.lt_irrefl _)
      simp [unknown, Phase.underWay, eq_comm]
    · have taken : world.pulls digest = some other → digest ≠ resolved.digest := by
        rintro there rfl
        exact nomatch free.symm.trans there
      have old : other < world.next + 1 ↔ other < world.next := by omega
      simp only [isNew, and_false, false_or, update_of_ne isNew, old, ← isOld]
      exact and_iff_right_of_imp taken
  beyond := (forall_update_iff world.pullOf fun other pull => world.next + 1 ≤ other →
    pull.phase = .done ∧ pull.owner = none).mpr
        ⟨fun isBeyond => absurd isBeyond (Nat.not_succ_le_self _), fun other _ isBeyond =>
      shared.beyond other (Nat.le_of_succ_le isBeyond)⟩
  each := (forall_update_iff world.pullOf fun other pull => other < world.next + 1 →
    PullSane pull).mpr ⟨fun _ => by constructor <;> simp [Phase.unfinished], fun other isOld known =>
      shared.each other (Nat.lt_of_le_of_ne (Nat.le_of_lt_succ known) isOld)⟩
  counted := by
    intro other known
    by_cases isNew : other = world.next
    · subst isNew
      have none : (world.joined.map Prod.snd).count world.next = 0 := by
        apply List.count_eq_zero_of_not_mem
        intro member
        rcases List.mem_map.mp member with ⟨entry, isEntry, same⟩
        exact absurd (shared.joined entry isEntry) (by omega)
      simp [World.setPull, none]
    · have old := shared.counted other (Nat.lt_of_le_of_ne (Nat.le_of_lt_succ known) isNew)
      simpa [World.setPull, update_of_ne isNew, List.count_cons_of_ne (Ne.symm isNew)] using old
  joined := by
    exact List.forall_mem_cons.mpr ⟨Nat.lt_succ_self _, fun entry old =>
      Nat.lt_succ_of_lt (shared.joined entry old)⟩
  answered := by
    intro entry member
    rcases shared.answered entry member with ⟨known, done, waits⟩
    refine ⟨Nat.lt_succ_of_lt known, ?_, waits.imp_right (List.mem_cons_of_mem _)⟩
    simpa [World.setPull, update_of_ne (Nat.ne_of_lt known)] using done
  gaveUp := shared.gaveUp

theorem remove (returned : (world.pullOf id).phase = .returned) :
    Shared { world.setPull id { world.pullOf id with phase := .removed } with
      pulls := update world.pulls (world.pullOf id).resolved.digest none } := by
  have known : id < world.next := shared.known (by simp [returned])
  have sane := shared.each id known
  have there : world.pulls (world.pullOf id).resolved.digest = some id :=
    (shared.numbered _ id).mpr ⟨known, rfl, by simp [returned, Phase.underWay]⟩
  refine shared.record known ⟨by simp, sane.left, fun _ => .inr rfl, sane.cutShort,
      fun _ => sane.result (by simp [returned, Phase.unfinished])⟩ (fun digest => ?_)
      (fun digest other different => ?_)
    (by simp [returned])
    ((forall_update_iff world.pullOf fun other pull => other < world.next → pull.waiters = _).mpr
      ⟨shared.counted id, fun other _ => shared.counted other⟩)
    shared.joined (fun _ => .inr) shared.gaveUp
  · simp only [update_none_eq_some_iff, shared.numbered digest id, Phase.underWay,
      Bool.false_eq_true, and_false, iff_false]
    exact fun both => both.1 both.2.2.1.symm
  · rw [update_none_eq_some_iff]
    refine and_iff_right_of_imp ?_
    rintro isOther rfl
    exact different (Option.some.inj (isOther.symm.trans there))

end Shared

/-- Someone joins a pull, or leaves it: of the counts only that pull's changes. -/
theorem Shared.counted_change (shared : Shared world)
    (own : pull.waiters = (joined.map Prod.snd).count id)
    (others : ∀ other, other ≠ id → (joined.map Prod.snd).count other =
      (world.joined.map Prod.snd).count other) :
    ∀ other, other < world.next → (update world.pullOf id pull other).waiters =
    (joined.map Prod.snd).count other :=
  (forall_update_iff world.pullOf fun other pull => other < world.next → pull.waiters = _).mpr
    ⟨fun _ => own, fun other different known => (shared.counted other known).trans
    (others other different).symm⟩

theorem count_erase (waits : (thread, id) ∈ joined) :
    ((joined.erase (thread, id)).map Prod.snd).count id = (joined.map Prod.snd).count id - 1 ∧
        ∀ other, other ≠ id → ((joined.erase (thread, id)).map Prod.snd).count other =
        (joined.map Prod.snd).count other := by
  have split := ((List.perm_cons_erase waits).map Prod.snd)
  refine ⟨?_, fun other different => ?_⟩
  · rw [split.count_eq, List.map_cons, List.count_cons_self, Nat.add_sub_cancel]
  · rw [split.count_eq, List.map_cons, List.count_cons_of_ne (Ne.symm different)]

theorem Shared.leave (shared : Shared world) (waits : (thread, id) ∈ world.joined)
    (isCancelled : thread ∈ world.cancelled) (sane : PullSane (world.pullOf id) → PullSane pull)
    (resolved : pull.resolved = (world.pullOf id).resolved)
    (phase : pull.phase = (world.pullOf id).phase)
    (waiters : pull.waiters = (world.pullOf id).waiters - 1) :
    Shared { world.setPull id pull with
      joined := world.joined.erase (thread, id), gaveUp := thread :: world.gaveUp } := by
  have known := shared.joined _ waits
  rcases count_erase waits with ⟨own, others⟩
  refine shared.record known (sane (shared.each id known))
    (shared.numbered_own known resolved (by rw [phase])) (fun _ _ _ => .rfl)
    (fun done => phase.trans done) (shared.counted_change
      (by rw [waiters, own, shared.counted id known]) others)
    (fun entry member => shared.joined entry (List.mem_of_mem_erase member))
      (fun entry member => ?_)
    (List.forall_mem_cons.mpr ⟨isCancelled, shared.gaveUp⟩)
  by_cases same : entry = (thread, id)
  · subst same
    exact .inl isCancelled
  · exact .inr ((List.mem_erase_of_ne same).mpr member)

theorem Moved.shared (shared : Shared before) (moved : Moved thread before after) :
    Shared after := by
  cases moved with
  | claimed id started =>
    refine shared.progress (by simp [started])
      (fun sane => ⟨by simp, sane.left, fun cancelled => ?_, sane.cutShort,
      by simp [Phase.unfinished]⟩) rfl
      (by simp [started, Phase.underWay]) rfl
    exact .inl ((sane.cancelled cancelled).resolve_right (by simp [started, Phase.unfinished]))
  | finished id resolved owns result =>
    have saneAfter (sane : PullSane (before.pullOf id)) : PullSane { before.pullOf id with
        phase := .returned, result := some result, cutShort := (before.pullOf id).cancelled } := by
      have cutShort : (before.pullOf id).cancelled = true → (before.pullOf id).abandoned = true :=
          fun cancelled =>
        (sane.cancelled cancelled).resolve_right (by simp [owns.phase, Phase.unfinished])
      exact ⟨by simp, sane.left, fun cancelled => .inl (cutShort cancelled), cutShort, by simp⟩
    exact { shared.progress (by simp [owns.phase]) saneAfter rfl (by simp [owns.phase, Phase.underWay]) rfl with }
  | removed id resolved owns =>
    rw [← owns.resolved]
    exact shared.remove owns.phase
  | cancelled id resolved owns =>
    exact shared.progress (by simp [owns.phase])
      (fun sane => { sane with cancelled := fun _ => .inr (by simp [owns.phase, Phase.unfinished]) }) rfl rfl rfl
  | closed id resolved owns =>
    exact shared.progress (by simp [owns.phase])
      (fun sane => ⟨by simp, sane.left, fun _ => .inr (by simp [Phase.unfinished]), sane.cutShort,
        fun _ => sane.result (by simp [owns.phase, Phase.unfinished])⟩) rfl
        (by simp [owns.phase, Phase.underWay]) rfl
  | joined id digest there wanted =>
    rcases (shared.numbered digest id).mp there with ⟨known, _, _⟩
    have sane := shared.each id known
    refine shared.record known { sane with left := ?_ }
      (shared.numbered_own known rfl rfl) (fun _ _ _ => .rfl) (fun done => done)
      (shared.counted_change ?_ fun other different => ?_)
      (List.forall_mem_cons.mpr ⟨known, shared.joined⟩)
        (fun _ member => .inr (List.mem_cons_of_mem _ member))
      shared.gaveUp
    · simp [wanted]
    · rw [List.map_cons, List.count_cons_self, shared.counted id known]
    · rw [List.map_cons, List.count_cons_of_ne (Ne.symm different)]
  | started resolved free => exact shared.start free
  | gaveUp isCancelled => exact { shared with gaveUp := List.forall_mem_cons.mpr ⟨isCancelled, shared.gaveUp⟩ }
  | served id waits done | refused id waits done =>
    exact { shared with
      answered := List.forall_mem_cons.mpr
        ⟨⟨shared.joined _ waits, done, .inr waits⟩, shared.answered⟩ }
  | left id waits isCancelled rest counted more =>
    refine shared.leave waits isCancelled (fun sane => { sane with left := fun abandoned => ?_ })
      rfl rfl counted
    rw [sane.left abandoned] at counted
    exact absurd counted more
  | abandoned id waits isCancelled last =>
    exact shared.leave waits isCancelled
      (fun sane => ⟨sane.unclaimed, fun _ => rfl, fun _ => .inl rfl, fun _ => rfl, sane.result⟩) rfl
      rfl last.symm
  | _ => exact { shared with }

/-! ## The loads -/

namespace Loaded

variable {load : Load} (loaded : Loaded world)
include loaded

/-- No two threads load one image. -/
theorem unique (shared : Shared world) {other : Nat} {otherLoad : Load}
    (first : world.loads.lookup thread = some load)
    (second : world.loads.lookup other = some otherLoad)
    (same : load.digest = otherLoad.digest) : thread = other := by
  rcases loaded.owned thread load first with ⟨firstID, firstOwner, firstRuns, firstDigest⟩
  rcases loaded.owned other otherLoad second with ⟨secondID, secondOwner, secondRuns, secondDigest⟩
  obtain rfl := shared.unique (by simp [firstRuns, Phase.underWay])
    (by simp [secondRuns, Phase.underWay]) (firstDigest.trans (same.trans secondDigest.symm))
  exact Option.some.inj (firstOwner.symm.trans secondOwner)

theorem setLoad (loads : after.loads = world.loads.set thread (some load))
    (pulls : after.pullOf = world.pullOf) (images : after.images = world.images)
    (owned : ∃ id, (world.pullOf id).owner = some thread ∧ (world.pullOf id).phase = .running ∧
      (world.pullOf id).resolved.digest = load.digest)
    (absent : load.stage ≠ .stored → world.image load.digest = none) : Loaded after where
  owned := by
    rw [loads, pulls]
    exact ByThread.forall_set owned fun other _ => loaded.owned other
  absent := by
    simp only [loads, World.image, images]
    exact ByThread.forall_set absent fun other _ => loaded.absent other

theorem advance {further : Load} (loads : after.loads = world.loads.set thread (some further))
    (pulls : after.pullOf = world.pullOf) (images : after.images = world.images)
    (loading : world.loads.lookup thread = some load) (same : further.digest = load.digest)
    (unstored : further.stage ≠ .stored → load.stage ≠ .stored) : Loaded after := by
  apply loaded.setLoad loads pulls images
  · rw [same]
    exact loaded.owned thread load loading
  · rw [same]
    exact fun isUnstored => loaded.absent thread load loading (unstored isUnstored)

/-- The record of a pull changes, but not whose running pull it is. -/
theorem setPull (pulls : after.pullOf = update world.pullOf id pull)
    (loads : after.loads = world.loads) (images : after.images = world.images)
    (kept : (world.pullOf id).phase = .running → pull.owner = (world.pullOf id).owner ∧
      pull.phase = .running ∧ pull.resolved = (world.pullOf id).resolved) : Loaded after where
  owned := by
    intro other load loading
    rcases loaded.owned other load (loads ▸ loading) with ⟨ownID, owner, runs, isDigest⟩
    refine ⟨ownID, ?_⟩
    rw [pulls]
    by_cases same : ownID = id
    · subst same
      rcases kept runs with ⟨sameOwner, stillRuns, sameResolved⟩
      simpa [sameOwner, stillRuns, sameResolved] using ⟨owner, isDigest⟩
    · simpa [update_of_ne same] using ⟨owner, runs, isDigest⟩
  absent := by
    simpa only [loads, World.image, images] using loaded.absent

theorem create (shared : Shared world)
    (ready : world.loads.lookup thread = some ⟨image.digest, .ready⟩) :
    Loaded { world.setLoad thread (some ⟨image.digest, .stored⟩) with images := world.images ++ [image] } where
  owned := ByThread.forall_set (loaded.owned thread ⟨image.digest, .ready⟩ ready) fun other _ =>
    loaded.owned other
  absent := by
    refine ByThread.forall_set (absurd rfl) fun other isOther load loading unstored => ?_
    have different : image.digest ≠ load.digest := fun same =>
      isOther (loaded.unique shared loading ready same.symm)
    exact World.image_append_eq_none (loaded.absent other load loading unstored) different

theorem drop {keeps : Image → Bool} :
    Loaded { world with images := world.images.filter keeps } where
  owned := loaded.owned
  absent := by
    intro other load loading unstored
    have absent := World.image_eq_none_iff.mp (loaded.absent other load loading unstored)
    exact World.image_eq_none_iff.mpr fun member =>
      absent ((List.filter_sublist.map _).subset member)

end Loaded

theorem Moved.loaded (shared : Shared before) (loaded : Loaded before)
    (moved : Moved thread before after) : Loaded after := by
  cases moved with
  | created image ready => exact { loaded.create shared ready with }
  | used =>
    refine { loaded with absent := fun other load loading unstored => ?_ }
    exact World.recordUse_image_eq_none.mpr (loaded.absent other load loading unstored)
  | dropped | collected => exact { loaded.drop with }
  | packed _ missing | readied _ missing | discarded _ missing =>
    exact loaded.advance rfl rfl rfl missing rfl (by simp)
  | missed id resolved owns absent =>
    exact loaded.setLoad rfl rfl rfl ⟨id, owns.owner, owns.phase, by rw [owns.resolved]⟩ fun _ =>
      absent
  | hit id resolved owns =>
    exact loaded.setLoad rfl rfl rfl ⟨id, owns.owner, owns.phase, by rw [owns.resolved]⟩ (by simp)
  | claimed id started => exact loaded.setPull rfl rfl rfl (by simp [started])
  | finished id resolved owns =>
    refine ⟨ByThread.forall_set trivial fun other different load loading => ?_,
      ByThread.forall_set trivial fun other _ => loaded.absent other⟩
    · rcases loaded.owned other load loading with ⟨ownID, owner, runs, isDigest⟩
      have notThis : ownID ≠ id := by
        rintro rfl
        exact different (Option.some.inj (owner.symm.trans owns.owner))
      exact ⟨ownID, by simpa [World.setLoad, World.setPull, notThis] using ⟨owner, runs, isDigest⟩⟩
  | removed id resolved owns | cancelled id resolved owns | closed id resolved owns =>
    exact loaded.setPull rfl rfl rfl (by simp [owns.phase])
  | joined | left | abandoned => exact loaded.setPull rfl rfl rfl fun runs => ⟨rfl, runs, rfl⟩
  | started =>
    exact loaded.setPull rfl rfl rfl fun runs =>
      by simp [(shared.beyond before.next (Nat.le_refl _)).1] at runs
  | _ => exact { loaded with }

namespace Indexed

theorem setFiles (indexed : Indexed world) {files : Option Files}
    (changed : after.files = update world.files digest files) (images : after.images = world.images)
    (own : ∀ image, files.bind Files.metadata = some image → image.digest = digest) :
    Indexed after where
  digests := images ▸ indexed.digests
  metadata := by
    rw [changed]
    exact (forall_update_iff world.files fun other files =>
        ∀ image, files.bind Files.metadata = some image → image.digest = other).mpr
      ⟨own, fun other _ => indexed.metadata other⟩

theorem drop (indexed : Indexed world) {keeps : Image → Bool} :
    Indexed { world with images := world.images.filter keeps } where
  digests := indexed.digests.sublist (List.filter_sublist.map _)
  metadata := indexed.metadata

end Indexed

theorem Moved.indexed (indexed : Indexed before) (moved : Moved thread before after) :
    Indexed after := by
  cases moved with
  | created image ready absent =>
    refine { indexed with digests := ?_ }
    rw [List.map_append, List.map_cons, List.map_nil]
    exact indexed.digests.append (List.nodup_singleton _)
      (List.disjoint_singleton.mpr (World.image_eq_none_iff.mp absent))
  | used =>
    refine { indexed with digests := ?_ }
    rw [World.digests_recordUse]
    exact indexed.digests
  | dropped | collected => exact { indexed.drop with }
  | saved digest image files there own =>
    refine indexed.setFiles rfl rfl fun other isOther => ?_
    obtain rfl : image = other := by simpa using isOther
    exact own
  | prepared digest =>
    refine indexed.setFiles rfl rfl fun image there => ?_
    cases files : before.files digest with
    | none => simp [files] at there
    | some => exact indexed.metadata digest image (by simpa [files] using there)
  | packed digest | packedPartly digest =>
    exact indexed.setFiles rfl rfl fun image there => indexed.metadata digest image
      (by simpa using there)
  | discarded | deleted => exact indexed.setFiles rfl rfl (by simp)
  | _ => exact { indexed with }

theorem Moved.sane (sane : Sane before) (moved : Moved thread before after) : Sane after :=
  ⟨moved.shared sane.shared, moved.loaded sane.shared sane.loaded, moved.indexed sane.indexed⟩

theorem Happened.sane (sane : Sane before) (happened : Happened before after) : Sane after := by
  rcases happened with ⟨event, rfl⟩
  cases event with
  | cancel =>
    refine ⟨{ sane.shared with answered := ?_, gaveUp := ?_ }, { sane.loaded with },
      { sane.indexed with }⟩
    · intro entry member
      rcases sane.shared.answered entry member with ⟨known, done, waits⟩
      exact ⟨known, done, waits.imp_left (List.mem_cons_of_mem _)⟩
    · exact fun other member => List.mem_cons_of_mem _ (sane.shared.gaveUp other member)
  | _ => exact ⟨{ sane.shared with }, { sane.loaded with }, { sane.indexed with }⟩

theorem sane_fresh (slots : Nat) : Sane (World.fresh slots) where
  shared := by
    constructor <;> simp [World.fresh, World.noPull]
  loaded := by
    constructor <;> simp [World.fresh]
  indexed := by
    constructor <;> simp [World.fresh]

end Dicer.Images
