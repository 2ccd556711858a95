import Dicer.Images.Tags

namespace Dicer.Images

/-!
# Histories of pulls

A pull stores an image under the name it was pulled by first, with the time of that.  So a tag names
what it was last pulled as only if the registry never answers it with a digest pulled before, by
another name or before the tag moved on to another digest.
-/

/-- A call to `Pull` that is over: its reference, the digest that was resolved to, and the digest of
the image it returned. -/
structure Pulled where
  ref : Ref
  digest : Option String
  returned : Option String
  deriving DecidableEq, Repr

/-- The digest a name was last resolved to.  The latest call comes first. -/
def lastResolved : List Pulled → String → Option String
  | [], _ => none
  | call :: calls, name =>
    if call.ref.name = name then call.digest.or (lastResolved calls name)
    else lastResolved calls name

/-- The digest that the last call for a name returned. -/
def lastReturned : List Pulled → String → Option String
  | [], _ => none
  | call :: calls, name => if call.ref.name = name then call.returned else lastReturned calls name

section

variable (parse : String → Except Err Ref) (meets : List Pulled → Ref → String → Prop)

/-- The histories whose calls each resolve to a digest that meets a condition on the calls
before. -/
inductive History (slots : Nat) : List Pulled → World → Prop
  | fresh : History slots [] (World.fresh slots)
  | pull {calls : List Pulled} {world after : World} (ref : String) (parsed : Ref)
      (answer : Except Err String) (size time : Nat) (result : Except Err Image)
      (returned : Option String)
      (earlier : History slots calls world) (later : 0 < time) (isRef : parse ref = .ok parsed)
      (met : ∀ resolved, resolve parsed answer = .ok resolved → meets calls parsed resolved.digest)
      (pulled : (result, after) ∈ (Images.pull parse (fun resolved => pullAlone resolved size) ref
        answer).run.outcomes 0 { world with clock := world.clock + time })
      (isReturned : returned = none ∨ returned = result.toOption.map Image.digest) :
      History slots (⟨parsed, (resolve parsed answer).toOption.map ResolvedRef.digest, returned⟩ ::
        calls) after

end

/-- The registry does not answer with a digest that was resolved to before, unless by the same name
only and last for it. -/
def Steady (calls : List Pulled) (ref : Ref) (digest : String) : Prop :=
  (∀ call ∈ calls, call.digest ≠ some digest) ∨
      (∀ call ∈ calls, call.digest = some digest → call.ref.name = ref.name) ∧
      lastResolved calls ref.name = some digest

instance (calls : List Pulled) (ref : Ref) (digest : String) :
    Decidable (Steady calls ref digest) := by
  unfold Steady
  infer_instance

variable {calls : List Pulled} {world after : World} {name digest : String} {parsed : Ref}
    {image : Image}

theorem resolve_name {answer : Except Err String} {resolved : ResolvedRef}
    (isResolved : resolve parsed answer = .ok resolved) : resolved.name = parsed.name := by
  unfold resolve at isResolved
  split at isResolved
  · rw [← Except.ok.inj isResolved]
  split at isResolved
  · rw [← Except.ok.inj isResolved]
  · exact nomatch isResolved

theorem latestByName_eq {images : List Image} (member : image ∈ images) (named : image.name = name)
    (newest : ∀ other ∈ images, other.name = name → other = image ∨
      other.createdAt < image.createdAt) :
    latestByName name images = some image := by
  induction images using List.reverseRecOn with
  | nil => exact nomatch member
  | append_singleton images last ih =>
    have newestBefore : ∀ other ∈ images, other.name = name → other = image ∨
        other.createdAt < image.createdAt :=
      fun other isOther => newest other (List.mem_append_left _ isOther)
    rw [latestByName_append, later]
    by_cases earlier : image ∈ images
    · rw [ih earlier newestBefore]
      split_ifs with takes
      · simp only [Option.all_some, decide_eq_true_eq] at takes
        rcases newest last (List.mem_append_right _ (List.mem_singleton.mpr rfl)) takes.1
          with rfl | before
        · rfl
        · exact absurd takes.2 (Nat.lt_asymm before)
      · rfl
    · obtain rfl : image = last := by simpa [earlier] using member
      split_ifs with takes
      · rfl
      cases found : latestByName name images with
      | none => simp [found, named] at takes
      | some other =>
        rcases mem_of_latestByName found with ⟨isOther, otherNamed⟩
        rcases newestBefore other isOther otherNamed with rfl | before
        · rfl
        · simp [found, named, before] at takes

/-! ## What the index tells of a history -/

/-- Images are stored by names they were pulled by, and the digest a name was last resolved to, if
it was stored by that name, was stored last. -/
structure Told (calls : List Pulled) (world : World) : Prop where
  resting : Resting world
  digests : (world.images.map Image.digest).Nodup
  disks : ∀ digest, world.hasDisk digest = true → world.image digest ≠ none
  created : ∀ image ∈ world.images, image.createdAt ≤ world.clock
  pulled : ∀ image ∈ world.images, ∃ call ∈ calls, call.digest = some image.digest ∧
    call.ref.name = image.name
  latest : ∀ image ∈ world.images, lastResolved calls image.name = some image.digest →
    ∀ other ∈ world.images, other.name = image.name → other.digest ≠ image.digest →
    other.createdAt < image.createdAt
  told : ∀ name digest, lastReturned calls name = some digest → lastResolved calls name =
    some digest ∧ ∃ image ∈ world.images, image.name = name ∧ image.digest = digest

theorem told_fresh (slots : Nat) : Told [] (World.fresh slots) := by
  constructor
  · exact ⟨fun _ => rfl, rfl⟩
  all_goals simp [World.fresh, World.hasDisk, lastReturned]

namespace Told

theorem named (told : Told calls world) {ref : Ref} (isTag : ref.digest = none)
    (returned : lastReturned calls ref.name = some digest) :
    ∃ image, world.named ref = some image ∧ image.digest = digest := by
  rcases told.told ref.name digest returned with ⟨resolved, image, member, named, isDigest⟩
  refine ⟨image, ?_, isDigest⟩
  simp only [World.named, isTag]
  refine latestByName_eq member named fun other isOther otherNamed => ?_
  by_cases same : other.digest = image.digest
  · exact .inl (List.inj_on_of_nodup_map told.digests isOther member same)
  · exact .inr (told.latest image member (by rw [named, resolved, isDigest]) other isOther
      (otherNamed.trans named.symm) same)

theorem elapse (told : Told calls world) (time : Nat) :
    Told calls { world with clock := world.clock + time } :=
  { told with
    resting := { told.resting with }
    created := fun image member => Nat.le_trans (told.created image member) (Nat.le_add_right _ _) }

/-- A call that tells nothing new of what is in the index. -/
theorem again (told : Told calls world) {call : Pulled}
    (resolved : ∀ image ∈ world.images, lastResolved (call :: calls) image.name =
      some image.digest → lastResolved calls image.name = some image.digest)
    (returned : ∀ name digest, lastReturned (call :: calls) name = some digest →
      lastResolved (call :: calls) name = some digest ∧ ∃ image ∈ world.images, image.name = name ∧
      image.digest = digest) :
    Told (call :: calls) world := by
  refine { told with pulled := ?_, latest := ?_, told := returned }
  · intro image member
    rcases told.pulled image member with ⟨call, isCall, both⟩
    exact ⟨call, List.mem_cons_of_mem _ isCall, both⟩
  · exact fun image member isLast => told.latest image member (resolved image member isLast)

theorem alike (told : Told calls world) {use : Image → Image}
    (name : ∀ image, (use image).name = image.name)
    (digest : ∀ image, (use image).digest = image.digest)
    (created : ∀ image, (use image).createdAt = image.createdAt)
    (images : after.images = world.images.map use)
    (disks : ∀ digest, after.hasDisk digest = true → world.hasDisk digest = true)
    (clock : after.clock = world.clock)
    (resting : Resting after) : Told calls after where
  resting := resting
  digests := by simpa [images, Function.comp_def, digest] using told.digests
  disks := by
    intro other disk
    have there := told.disks other (disks other disk)
    simpa [World.image_eq_none, images, digest] using there
  created := by simpa [images, clock, created] using told.created
  pulled := by simpa [images, name, digest] using told.pulled
  latest := by simpa [images, name, digest, created] using told.latest
  told := by simpa [images, name, digest] using told.told

theorem unresolved (told : Told calls world) (parsed : Ref) :
    Told (⟨parsed, none, none⟩ :: calls) world := by
  have same : ∀ name, lastResolved (⟨parsed, none, none⟩ :: calls) name = lastResolved calls
      name := by
    intro name
    simp [lastResolved]
  refine told.again (fun image _ resolved => same image.name ▸ resolved) fun name digest returned =>
    ?_
  rw [same]
  unfold lastReturned at returned
  split at returned
  · exact nomatch returned
  · exact told.told name digest returned

/-- A call whose pull failed: what its name was last resolved to is not in the index. -/
theorem failed (told : Told calls world) (absent : world.image digest = none)
    (images : after.images = world.images)
    (disks : ∀ digest, after.hasDisk digest = true → world.hasDisk digest = true)
    (clock : after.clock = world.clock)
    (resting : Resting after) : Told (⟨parsed, some digest, none⟩ :: calls) after := by
  have told := told.alike (fun _ => rfl) (fun _ => rfl) (fun _ => rfl)
    (images.trans (List.map_id _).symm) disks clock resting
  refine told.again (fun image member resolved => ?_) fun name _ returned => ?_
  · have different : digest ≠ image.digest := fun same =>
      World.image_eq_none.mp absent image (images ▸ member) same.symm
    unfold lastResolved at resolved
    split at resolved
    · simp [different] at resolved
    · exact resolved
  · unfold lastReturned at returned
    split at returned
    · exact nomatch returned
    rename_i otherName
    rw [lastResolved, if_neg otherName]
    exact told.told name _ returned

variable {returned : Option String}

/-- A call that pulled its image stored it last. -/
theorem stored (told : Told calls world) (absent : world.image image.digest = none)
    (isNamed : image.name = parsed.name)
    (isNew : ∀ other ∈ world.images, other.createdAt < image.createdAt)
    (isCreated : image.createdAt ≤ world.clock) (images : after.images = world.images ++ [image])
    (disks : ∀ digest, after.hasDisk digest = true → world.hasDisk digest = true ∨
      digest = image.digest)
    (clock : after.clock = world.clock) (resting : Resting after)
    (isReturned : returned = none ∨ returned = some image.digest) :
    Told (⟨parsed, some image.digest, returned⟩ :: calls) after where
  resting := resting
  digests := by
    rw [images, List.map_append]
    exact told.digests.append (List.nodup_singleton _)
      (List.disjoint_singleton.mpr (World.image_eq_none_iff.mp absent))
  disks := by
    intro digest disk gone
    rw [World.image_eq_none, images] at gone
    rcases disks digest disk with old | rfl
    · refine told.disks digest old (World.image_eq_none.mpr fun other isOther => ?_)
      exact gone other (List.mem_append_left _ isOther)
    · exact gone image (List.mem_append_right _ (List.mem_singleton.mpr rfl)) rfl
  created := by
    rw [images, clock, List.forall_mem_append, List.forall_mem_singleton]
    exact ⟨told.created, isCreated⟩
  pulled := by
    rw [images, List.forall_mem_append, List.forall_mem_singleton]
    refine ⟨fun other old => ?_, _, List.mem_cons_self, rfl, isNamed.symm⟩
    rcases told.pulled other old with ⟨call, isCall, both⟩
    exact ⟨call, List.mem_cons_of_mem _ isCall, both⟩
  latest := by
    simp only [images, List.forall_mem_append, List.forall_mem_singleton]
    refine ⟨fun newest old resolved => ?_, fun _ =>
      ⟨fun other old _ _ => isNew other old, fun _ => absurd rfl⟩⟩
    have otherDigest : image.digest ≠ newest.digest := fun same =>
      World.image_eq_none.mp absent newest old same.symm
    unfold lastResolved at resolved
    split at resolved
    · simp [otherDigest] at resolved
    rename_i otherName
    exact ⟨told.latest newest old resolved, fun sameName => absurd (isNamed.symm.trans sameName)
      otherName⟩
  told := by
    intro name digest isLast
    unfold lastReturned at isLast
    split at isLast
    · rename_i isName
      rcases isReturned with rfl | rfl
      · exact nomatch isLast
      cases isLast
      refine ⟨by rw [lastResolved, if_pos isName]; rfl, image, ?_, isNamed.trans isName, rfl⟩
      rw [images]
      exact List.mem_append_right _ (List.mem_singleton.mpr rfl)
    · rename_i otherName
      rcases told.told name digest isLast with ⟨resolved, found, isFound, both⟩
      refine ⟨by simpa [lastResolved, otherName] using resolved, found, ?_, both⟩
      rw [images]
      exact List.mem_append_left _ isFound

/-- A call that found its image: by the same name only, and what that name was last resolved to. -/
theorem found (told : Told calls world) {at_ : Nat} (steady : Steady calls parsed image.digest)
    (there : image ∈ world.images) (images : after.images =
      (world.recordUse image.digest at_).images)
    (disks : ∀ digest, after.hasDisk digest = world.hasDisk digest)
    (clock : after.clock = world.clock)
    (resting : Resting after) (isReturned : returned = none ∨ returned = some image.digest) :
    Told (⟨parsed, some image.digest, returned⟩ :: calls) after := by
  rcases told.pulled image there with ⟨first, isFirst, firstDigest, firstName⟩
  have again : (∀ call ∈ calls, call.digest = some image.digest → call.ref.name = parsed.name) ∧
      lastResolved calls parsed.name = some image.digest :=
    steady.resolve_left fun never => never first isFirst firstDigest
  have isNamed : image.name = parsed.name :=
    firstName.symm.trans (again.1 first isFirst firstDigest)
  have same : ∀ name, lastResolved (⟨parsed, some image.digest, returned⟩ :: calls) name =
      lastResolved calls name := by
    intro name
    rw [lastResolved]
    split_ifs with isName
    · rw [← isName, again.2]
      rfl
    · rfl
  have kept : ∀ old : Image, let used := if old.digest = image.digest then old.usedAt at_ else old
      used.name = old.name ∧ used.digest = old.digest ∧ used.createdAt = old.createdAt := by
    intro old
    dsimp only [Image.usedAt]
    split_ifs <;> exact ⟨rfl, rfl, rfl⟩
  have told := told.alike (fun old => (kept old).1) (fun old => (kept old).2.1)
    (fun old => (kept old).2.2) images (fun digest disk => disks digest ▸ disk) clock resting
  refine told.again (fun image _ resolved => same image.name ▸ resolved) fun name digest isLast =>
    ?_
  rw [same]
  unfold lastReturned at isLast
  split at isLast
  · rename_i isName
    rcases isReturned with rfl | rfl
    · exact nomatch isLast
    cases isLast
    refine ⟨isName ▸ again.2, _, images ▸ List.mem_map.mpr ⟨image, there, rfl⟩, ?_,
      (kept image).2.1⟩
    exact (kept image).1.trans (isNamed.trans isName)
  · exact told.told name digest isLast

/-- A call to `Pull` at a later time keeps the index telling. -/
theorem call (told : Told calls world) {answer : Except Err String} {size time : Nat}
    {result : Except Err Image} (later : 0 < time)
    (steady : ∀ resolved, resolve parsed answer = .ok resolved →
      Steady calls parsed resolved.digest)
    (answered : Answered { world with clock := world.clock + time } parsed answer size result after)
    (isReturned : returned = none ∨ returned = result.toOption.map Image.digest) :
    Told (⟨parsed, (resolve parsed answer).toOption.map ResolvedRef.digest, returned⟩ :: calls)
    after := by
  have elapsed := told.elapse time
  cases answered with
  | unresolved error unresolved isError same =>
    subst isError same
    obtain rfl : returned = none := by simpa [Except.toOption] using isReturned
    simpa [unresolved, Except.toOption] using elapsed.unresolved parsed
  | found resolved isResolved image there isImage at_ images disks clock resting =>
    rcases World.of_image_eq_some there with ⟨member, sameDigest⟩
    have isSteady := steady resolved isResolved
    rw [← sameDigest] at isSteady images
    subst isImage
    have kept := elapsed.found isSteady member images disks clock resting
      (by simpa [Except.toOption] using isReturned)
    simpa [isResolved, Except.toOption, sameDigest] using kept
  | pulled resolved isResolved absent stored clock resting =>
    cases result with
    | error =>
      obtain rfl : returned = none := by simpa [Except.toOption] using isReturned
      have kept : Told (⟨parsed, some resolved.digest, none⟩ :: calls) after :=
        elapsed.failed absent stored.1 stored.2 clock resting
      simpa [isResolved, Except.toOption] using kept
    | ok image =>
      rcases stored with ⟨isFresh, images, disks⟩
      have sameDigest : image.digest = resolved.digest := by rw [isFresh]; rfl
      have kept : Told (⟨parsed, some image.digest, returned⟩ :: calls) after := by
        refine elapsed.stored (sameDigest ▸ absent) ?_ (fun other member => ?_) ?_ images
          (sameDigest ▸ disks) clock resting (by simpa [Except.toOption] using isReturned)
        · rw [isFresh]
          exact resolve_name isResolved
        · have created := told.created other member
          rw [isFresh]
          simp only [freshImage]
          omega
        · rw [isFresh]
          exact Nat.le_refl _
      simpa [isResolved, Except.toOption, sameDigest] using kept

end Told

theorem History.told {parse : String → Except Err Ref} {slots : Nat}
    (history : History parse Steady slots calls world) : Told calls world := by
  induction history with
  | fresh => exact told_fresh slots
  | pull ref parsed answer size time result returned _ later isRef met pulled isReturned ih =>
    have elapsed := ih.elapse time
    have answered := pull_alone isRef elapsed.resting elapsed.disks _ _ pulled
    exact ih.call later met answered isReturned

/-- Calls made one after another, a second apart, with what the registry answers each; all that can
succeed does. -/
def callInTurn (meets : List Pulled → Ref → String → Prop)
    [∀ calls ref digest, Decidable (meets calls ref digest)] :
    List (String × String) → List Pulled → World → Option (List Pulled × World)
  | [], calls, world => some (calls, world)
  | (ref, digest) :: rest, calls, world =>
    if meets calls ⟨ref, none⟩ digest then
      match (pull tagged (fun resolved => pullAlone resolved 5) ref (.ok digest)).run.outcomes 0
        { world with clock := world.clock + 1 } with
      | [] => none
      | (result, after) :: _ =>
        callInTurn meets rest (⟨⟨ref, none⟩, some digest, result.toOption.map Image.digest⟩ ::
        calls) after
    else none

theorem history_of_callInTurn {meets : List Pulled → Ref → String → Prop}
    [∀ calls ref digest, Decidable (meets calls ref digest)] {slots : Nat}
    {requests : List (String × String)}
    {calls final : List Pulled} {world last : World}
    (called : callInTurn meets requests calls world = some (final, last))
    (earlier : History tagged meets slots calls world) : History tagged meets slots final last := by
  induction requests generalizing calls world with
  | nil =>
    obtain ⟨rfl, rfl⟩ := Prod.mk.inj (Option.some.inj called)
    exact earlier
  | cons request rest ih =>
    rcases request with ⟨ref, digest⟩
    unfold callInTurn at called
    split at called
    case isFalse => exact nomatch called
    rename_i met
    split at called
    · exact nomatch called
    rename_i result after others outcomes
    refine ih called (.pull ref ⟨ref, none⟩ (.ok digest) 5 1 result _ earlier Nat.one_pos rfl
      (fun resolved isResolved => ?_) (outcomes ▸ List.mem_cons_self) (.inr rfl))
    obtain rfl := Except.ok.inj isResolved
    exact met

theorem history_of_schedule (meets : List Pulled → Ref → String → Prop)
    [∀ calls ref digest, Decidable (meets calls ref digest)] (shows : List Pulled → World → Bool)
    (requests : List (String × String))
    (shown : (callInTurn meets requests [] (World.fresh 1)).any
      (fun state => shows state.1 state.2) = true) :
    ∃ calls world, History tagged meets 1 calls world ∧ shows calls world = true := by
  rcases (Option.any_eq_true _ _).mp shown with ⟨⟨calls, world⟩, called, shows⟩
  exact ⟨calls, world, history_of_callInTurn called .fresh, shows⟩

/-- After every history of calls that resolve steadily, a tag whose last call returned an image
names it. -/
theorem tag_names_last_pulled (parse : String → Except Err Ref) (slots : Nat)
    (history : History parse Steady slots calls world) (ref : Ref) (isTag : ref.digest = none)
    (digest : String)
    (returned : lastReturned calls ref.name = some digest) :
    ∃ image, world.named ref = some image ∧ image.digest = digest :=
  history.told.named isTag returned

/-- A tag that moves on, and is pulled once more where it is. -/
theorem tag_names_last_pulled_moved : ∃ calls world, History tagged Steady 1 calls world ∧
    lastReturned calls "app:1" = some "d3" ∧ ∃ image, world.named ⟨"app:1", none⟩ = some image ∧
    image.digest = "d3" := by
  rcases history_of_schedule Steady (fun calls _ => lastReturned calls "app:1" = some "d3")
    [("app:1", "d1"), ("app:2", "d2"), ("app:1", "d3"), ("app:1", "d3")] (by decide +kernel) with
    ⟨calls, world, history, returned⟩
  have isReturned : lastReturned calls "app:1" = some "d3" := by simpa using returned
  exact ⟨calls, world, history, isReturned, tag_names_last_pulled tagged 1 history ⟨"app:1", none⟩
    rfl "d3" isReturned⟩

/-- A tag that moves back to an earlier digest goes on naming the other one, and a second tag of a
digest names nothing. -/
theorem tags_misnamed :
    (∃ calls world, History tagged (fun _ _ _ => True) 1 calls world ∧ lastReturned calls "app:1" =
      some "d1" ∧ (world.named ⟨"app:1", none⟩).map Image.digest = some "d2") ∧
    ∃ calls world, History tagged (fun _ _ _ => True) 1 calls world ∧ lastReturned calls "app:2" =
      some "d1" ∧ world.named ⟨"app:2", none⟩ = none := by
  constructor
  · rcases history_of_schedule (fun _ _ _ => True)
      (fun calls world => lastReturned calls "app:1" = some "d1" ∧
      (world.named ⟨"app:1", none⟩).map Image.digest = some "d2")
      [("app:1", "d1"), ("app:1", "d2"), ("app:1", "d1")] (by decide +kernel)
        with ⟨calls, world, history, shown⟩
    exact ⟨calls, world, history, by simpa using shown⟩
  · rcases history_of_schedule (fun _ _ _ => True)
      (fun calls world => lastReturned calls "app:2" = some "d1" ∧ world.named ⟨"app:2", none⟩ =
          none) [("app:1", "d1"), ("app:2", "d1")] (by decide +kernel) with
      ⟨calls, world, history, shown⟩
    exact ⟨calls, world, history, by simpa using shown⟩

end Dicer.Images
