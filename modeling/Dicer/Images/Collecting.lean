import Dicer.Images.Sharing

namespace Dicer.Images

open Concurrency

/-!
# Garbage collection and the images that calls return

A pass works from a list and from the images in use that it read earlier.  What it decides is right
for an image whose recorded use has not changed since, that no call has found without having
recorded its use yet, and if the pass goes by the time at which it read what is in use.
-/

variable {before after world : World} {thread : Nat} {digest : String} {use : Nat}

/-- What a step of the runs that are spoken of does not do: nobody removes images by hand; a pass
takes an image out as it listed it, and not between a call's finding it and recording its use; and
no time passes between a pass's reading what is in use and the time. -/
structure Settled (before after : World) : Prop where
  byHand : after.byHand = before.byHand
  asListed : ∀ entry ∈ after.collected, entry.1.lastUsedAt = entry.2.lastUsedAt
  unfound : ∀ entry ∈ after.collected, after.collected = entry :: before.collected →
    ∀ found ∈ before.finds.entries, found.2 ≠ ⟨entry.2.digest, none⟩
  timely : (∃ entry ∈ before.passes.entries, entry.2.now = none) → after.clock = before.clock

instance : DecidableRel Settled := fun before after =>
  decidable_of_iff (after.byHand = before.byHand ∧
      (∀ entry ∈ after.collected, entry.1.lastUsedAt = entry.2.lastUsedAt) ∧
      (∀ entry ∈ after.collected, after.collected = entry :: before.collected →
        ∀ found ∈ before.finds.entries, found.2 ≠ ⟨entry.2.digest, none⟩) ∧
      ((∃ entry ∈ before.passes.entries, entry.2.now = none) → after.clock = before.clock))
    ⟨fun ⟨byHand, asListed, unfound, timely⟩ => ⟨byHand, asListed, unfound, timely⟩,
      fun settled => ⟨settled.byHand, settled.asListed, settled.unfound, settled.timely⟩⟩

variable {image : Image}

/-! ## What becomes of an image in the index -/

namespace World

theorem image_append {created : Image} (there : world.image digest = some image) :
    World.image { world with images := world.images ++ [created] } digest = some image := by
  simp only [World.image] at there ⊢
  rw [List.find?_append, there, Option.some_or]

theorem image_recordUse (other : String) (at_ : Nat) : (world.recordUse other at_).image digest =
      (world.image digest).map fun image => if image.digest = other then image.usedAt at_
      else image := by
  have same : ∀ image : Image, (if image.digest = other then image.usedAt at_ else image).digest =
      image.digest := by
    intro image
    split_ifs
    · exact image.digest_usedAt at_
    · rfl
  simp only [World.image, recordUse, List.find?_map, Function.comp_def, same]

theorem image_without_of_ne (thread : Nat) {removal : String} (different : digest ≠ removal) :
    (world.without thread removal).image digest = world.image digest := by
  simp only [World.image, without, List.find?_filter]
  congr 1
  funext image
  by_cases same : image.digest = digest
  · simp [same, different]
  · simp [same]

end World

theorem Image.le_usedAt (image : Image) (at_ : Nat) :
    image.lastUsedAt ≤ (image.usedAt at_).lastUsedAt ∧ at_ ≤ (image.usedAt at_).lastUsedAt := by
  unfold usedAt
  split_ifs with earlier
  · exact ⟨Nat.le_of_lt earlier, Nat.le_refl _⟩
  · exact ⟨Nat.le_refl _, Nat.le_of_not_lt earlier⟩

/-- The image is in the index and was used then or since. -/
def UsedSince (world : World) (digest : String) (use : Nat) : Prop :=
  ∃ image, world.image digest = some image ∧ use ≤ image.lastUsedAt

/-- A pass takes the image out as it listed it. -/
def TakenOut (before : World) (digest : String) (last : Nat) : Prop :=
  ∃ thread pass at_ listed, before.passes.lookup thread = some pass ∧ pass.now = some at_ ∧
    isCollectable pass.inUse at_ listed = true ∧ listed.digest = digest ∧ listed.lastUsedAt = last

theorem Moved.usedSince (settled : Settled before after) (moved : Moved thread before after)
    (there : before.image digest = some image) (used : use ≤ image.lastUsedAt) :
    UsedSince after digest use ∨ TakenOut before digest image.lastUsedAt := by
  cases moved with
  | created => exact .inl ⟨image, World.image_append there, used⟩
  | used other at_ =>
    refine .inl ⟨if image.digest = other then image.usedAt at_ else image, ?_, ?_⟩
    · exact (World.image_recordUse other at_).trans (congrArg (Option.map _) there)
    split_ifs
    · exact Nat.le_trans used (image.le_usedAt at_).1
    · exact used
  | dropped =>
    have byHand := settled.byHand
    simp at byHand
  | collected listed current isCurrent pass at_ passing timed collectable =>
    by_cases same : digest = listed.digest
    · subst same
      cases isCurrent.symm.trans there
      exact .inr ⟨thread, pass, at_, listed, passing, timed, collectable, rfl,
        settled.asListed _ List.mem_cons_self⟩
    · refine .inl ⟨image, ?_, used⟩
      exact (World.image_without_of_ne thread same).trans there
  | _ => exact .inl ⟨image, there, used⟩

/-- The image was used then or since, or the grace period after that is over. -/
def Held (world : World) (digest : String) (use : Nat) : Prop :=
  UsedSince world digest use ∨ use + gcGracePeriod ≤ world.clock

/-- Someone who was there by the end of the grace period needs the image. -/
def Needed (world : World) (digest : String) (use : Nat) : Prop :=
  ∃ user ∈ world.users, user.digest = digest ∧ user.definedAt < use + gcGracePeriod

/-- What a call has found is in the index until it records its use, and held from then on. -/
def Find.Good (find : Find) (world : World) : Prop :=
  match find.use with
  | none => world.image find.digest ≠ none
  | some use => Held world find.digest use

/-- What a pass has read: who was there before the time it goes by, or before now if it has none
yet. -/
def Pass.Read (pass : Pass) (world : World) : Prop :=
  match pass.now with
  | none => ∀ user ∈ world.users, user.definedAt < world.clock → user.digest ∈ pass.inUse
  | some at_ => at_ ≤ world.clock ∧ ∀ user ∈ world.users, user.definedAt < at_ →
    user.digest ∈ pass.inUse

/-- What calls have found, pulls have loaded and passes have read is still good, and so is what was
returned at the time of its use. -/
structure Spared (world : World) : Prop where
  finds : ∀ thread find, world.finds.lookup thread = some find → find.Good world
  results : ∀ id image, (world.pullOf id).result = some (.ok image) →
    Held world image.digest image.lastUsedAt
  read : ∀ thread pass, world.passes.lookup thread = some pass → pass.Read world
  held : ∀ digest at_, (digest, at_, some at_) ∈ world.returned → Held world digest at_
  needed : ∀ digest at_, (digest, at_, some at_) ∈ world.returned → Needed world digest at_ →
    UsedSince world digest at_

theorem TakenOut.expired (spared : Spared before) (taken : TakenOut before digest use) :
    use + gcGracePeriod ≤ before.clock ∧ ∀ user ∈ before.users, user.digest = digest →
      use + gcGracePeriod ≤ user.definedAt := by
  rcases taken with ⟨thread, pass, at_, listed, passing, timed, collectable, rfl, rfl⟩
  have read := spared.read thread pass passing
  simp only [Pass.Read, timed] at read
  simp only [isCollectable, Bool.and_eq_true, Bool.not_eq_true', List.contains_eq_mem,
    decide_eq_false_iff_not, Nat.not_lt] at collectable
  rcases collectable with ⟨unused, old⟩
  refine ⟨by unfold gcGracePeriod at *; omega, fun user member isDigest => ?_⟩
  by_contra early
  have earlier : user.definedAt < at_ := by unfold gcGracePeriod at *; omega
  exact unused (isDigest ▸ read.2 user member earlier)

theorem Moved.outside (moved : Moved thread before after) :
    after.clock = before.clock ∧ after.users = before.users := by
  cases moved <;> exact ⟨rfl, rfl⟩

/-- What a call has found is not taken out before it has recorded its use. -/
theorem Moved.image_ne_none (settled : Settled before after) (moved : Moved thread before after)
    {other : Nat} (found : before.finds.lookup other = some ⟨digest, none⟩)
    (there : before.image digest ≠ none) :
    after.image digest ≠ none := by
  cases moved with
  | created image =>
    rcases Option.ne_none_iff_exists'.mp there with ⟨current, isCurrent⟩
    have kept : World.image { before with images := before.images ++ [image] } digest =
        some current :=
      World.image_append isCurrent
    exact fun gone => nomatch kept.symm.trans gone
  | used => exact fun gone => there (World.recordUse_image_eq_none.mp gone)
  | dropped =>
    have byHand := settled.byHand
    simp at byHand
  | collected listed current isCurrent =>
    have different : digest ≠ listed.digest := by
      rintro rfl
      have unfound := settled.unfound _ List.mem_cons_self rfl _ (AList.mem_lookup_iff.mp found)
      rw [(World.of_image_eq_some isCurrent).2] at unfound
      exact unfound rfl
    exact fun gone => there ((World.image_without_of_ne thread different).symm.trans gone)
  | _ => exact there

theorem usedSince_of_image (there : world.image image.digest = some image) :
    Held world image.digest image.lastUsedAt :=
  .inl ⟨image, there, Nat.le_refl _⟩

section

variable (settled : Settled before after) (spared : Spared before)
    (move : Moved thread before after)
include settled spared move

theorem Held.moved (clock : after.clock = before.clock) (held : Held before digest use) :
    Held after digest use := by
  rcases held with ⟨image, there, used⟩ | past
  · rcases move.usedSince settled there used with still | taken
    · exact .inl still
    · have expired := (taken.expired spared).1
      exact .inr (by rw [clock]; omega)
  · exact .inr (clock ▸ past)

theorem Moved.needed (users : after.users = before.users) (needed : Needed after digest use)
    (used : UsedSince before digest use) : UsedSince after digest use := by
  rcases used with ⟨image, there, used⟩
  rcases move.usedSince settled there used with still | taken
  · exact still
  rcases needed with ⟨user, member, isDigest, early⟩
  have late := (taken.expired spared).2 user (users ▸ member) isDigest
  omega

theorem Find.Good.moved {other : Nat} {find : Find}
    (found : before.finds.lookup other = some find) : find.Good after := by
  have good := spared.finds other find found
  rcases find with ⟨digest, _ | use⟩
  · exact move.image_ne_none settled found good
  · exact Held.moved settled spared move move.outside.1 good

theorem Moved.finds : ∀ other find, after.finds.lookup other = some find → find.Good after := by
  have kept : ∀ other find, before.finds.lookup other = some find → find.Good after :=
    fun other find found => Find.Good.moved settled spared move found
  cases move with
  | found image there =>
    exact ByThread.forall_set (fun gone => nomatch there.symm.trans gone) fun other _ => kept other
  | got image there =>
    exact ByThread.forall_set (usedSince_of_image there) fun other _ => kept other
  | created image ready absent =>
    refine ByThread.forall_set (.inl ⟨image, ?_, Nat.le_refl _⟩) fun other _ => kept other
    simp only [World.image] at absent ⊢
    rw [List.find?_append, absent]
    simp
  | used digest at_ own =>
    cases found : before.finds.lookup thread with
    | none =>
      simp only [World.recordUse, World.noteUse, found]
      exact kept
    | some find =>
      simp only [World.recordUse, World.noteUse, found]
      refine ByThread.forall_set ?_ fun other _ => kept other
      obtain rfl := own find found
      rcases Option.ne_none_iff_exists'.mp (spared.finds thread _ found) with ⟨image, there⟩
      refine .inl ⟨image.usedAt at_, ?_, (image.le_usedAt at_).2⟩
      refine (World.image_recordUse digest at_).trans ((congrArg (Option.map _) there).trans ?_)
      simp [(World.of_image_eq_some there).2]
  | hit id resolved owns image there =>
    exact ByThread.forall_set (usedSince_of_image ((World.of_image_eq_some there).2.symm ▸ there))
      fun other _ => kept other
  | served id waits done image result =>
    have held := Held.moved settled spared (.served id waits done image result) rfl
      (spared.results id image result)
    exact ByThread.forall_set held fun other _ => kept other
  | gave => exact ByThread.forall_set trivial fun other _ => kept other
  | _ => exact kept

/-- What pulls have loaded is held for whoever waits for it. -/
theorem Moved.results :
    ∀ id image, (after.pullOf id).result = some (.ok image) →
    Held after image.digest image.lastUsedAt := by
  have held : ∀ id image, (before.pullOf id).result = some (.ok image) →
      Held after image.digest image.lastUsedAt := fun id image isResult =>
    Held.moved settled spared move move.outside.1 (spared.results id image isResult)
  have changed : ∀ (id : Nat) (pull : Pull),
      (pull.result = (before.pullOf id).result ∨ pull.result = none) → ∀ other image,
        (Function.update before.pullOf id pull other).result = some (.ok image) →
            Held after image.digest image.lastUsedAt := by
    intro id pull kept other image isResult
    by_cases same : other = id
    · subst same
      rw [Function.update_self] at isResult
      rcases kept with kept | none
      · exact held other image (kept ▸ isResult)
      · simp [none] at isResult
    · rw [Function.update_of_ne same] at isResult
      exact held other image isResult
  cases move with
  | claimed id | removed id | cancelled id | closed id | joined id | left id | abandoned id =>
    exact changed id _ (.inl rfl)
  | finished id resolved owns result find =>
    intro other image isResult
    by_cases same : other = id
    · subst same
      have isOk : result = .ok image := by simpa [World.setPull, World.setLoad] using isResult
      exact Find.Good.moved settled spared (.finished other resolved owns result find)
        (find image isOk)
    · exact held other image (by simpa [World.setPull, World.setLoad, same] using isResult)
  | started => exact changed before.next _ (.inr rfl)
  | _ => exact held

end

theorem Pass.Read.moved {pass : Pass} (read : pass.Read before)
    (moved : Moved thread before after) : pass.Read after := by
  unfold Pass.Read at read ⊢
  rw [moved.outside.1, moved.outside.2]
  exact read

theorem Moved.reads (spared : Spared before) (moved : Moved thread before after) :
    ∀ other pass, after.passes.lookup other = some pass → pass.Read after := by
  have kept : ∀ other pass, before.passes.lookup other = some pass → pass.Read after :=
    fun other pass passing => (spared.read other pass passing).moved moved
  cases moved with
  | read =>
    exact ByThread.forall_set (fun user member _ => List.mem_map.mpr ⟨user, member, rfl⟩)
      fun other _ => kept other
  | timed pass passing untimed =>
    have read := spared.read thread pass passing
    simp only [Pass.Read, untimed] at read
    exact ByThread.forall_set ⟨Nat.le_refl _, read⟩ fun other _ => kept other
  | listed pass passing => exact ByThread.forall_set (spared.read thread pass passing) fun other _ => kept other
  | _ => exact kept

/-- What is returned was recorded as used, or was returned before. -/
theorem Moved.returned (moved : Moved thread before after) {entry : String × Nat × Option Nat}
    (member : entry ∈ after.returned) :
    entry ∈ before.returned ∨ after.images = before.images ∧ ∃ use,
      entry = (entry.1, before.clock, some use) ∧ before.finds.lookup thread =
      some ⟨entry.1, some use⟩ := by
  cases moved with
  | gave digest use find =>
    rcases List.mem_cons.mp member with rfl | old
    · exact .inr ⟨rfl, use, rfl, find⟩
    · exact .inl old
  | _ => exact .inl member

theorem Spared.moved (settled : Settled before after) (moved : Moved thread before after)
    (spared : Spared before) : Spared after where
  finds := moved.finds settled spared
  results := moved.results settled spared
  read := moved.reads spared
  held := by
    intro digest at_ member
    rcases moved.returned member with old | ⟨_, use, same, found⟩
    · exact Held.moved settled spared moved moved.outside.1 (spared.held digest at_ old)
    · obtain rfl : at_ = use := by simpa using congrArg (fun entry => entry.2.2) same
      exact Find.Good.moved settled spared moved found
  needed := by
    intro digest at_ member needed
    rcases moved.returned member with old | ⟨sameImages, use, same, found⟩
    · have neededBefore : Needed before digest at_ := by
        unfold Needed at needed ⊢
        rwa [moved.outside.2] at needed
      exact moved.needed settled spared moved.outside.2 needed
        (spared.needed digest at_ old neededBefore)
    · obtain ⟨rfl, rfl⟩ : at_ = before.clock ∧ at_ = use := by simpa using congrArg Prod.snd same
      have good : Held before digest before.clock := spared.finds thread _ found
      rcases good with ⟨image, there, used⟩ | past
      · exact ⟨image, by simpa only [World.image, sameImages] using there, used⟩
      · unfold gcGracePeriod at past
        omega

/-! ## What happens meanwhile -/

variable (event : Event)

theorem Held.happen (held : Held before digest use) : Held (happen event before) digest use := by
  cases event with
  | elapse => exact held.imp_right fun past => Nat.le_trans past (Nat.le_add_right _ _)
  | _ => exact held

theorem Find.Good.happen {find : Find} (good : find.Good before) :
    find.Good (happen event before) := by
  rcases find with ⟨digest, _ | use⟩
  · cases event <;> exact good
  · exact Held.happen event good

/-- No time passes before a pass has read it, and a user that comes later is not one it missed. -/
theorem Pass.Read.happen (settled : Settled before (happen event before)) {pass : Pass}
    (passing : before.passes.lookup thread = some pass) (read : pass.Read before) :
    pass.Read (happen event before) := by
  unfold Pass.Read at read ⊢
  cases timed : pass.now with
  | none =>
    have clock := settled.timely ⟨_, AList.mem_lookup_iff.mp passing, timed⟩
    simp only [timed, clock] at read ⊢
    cases event with
    | elapse | cancel => exact read
    | define =>
      exact List.forall_mem_cons.mpr ⟨fun early => absurd early (Nat.lt_irrefl _), read⟩
    | undefine => exact fun user member => read user (List.mem_filter.mp member).1
  | some =>
    simp only [timed] at read ⊢
    rcases read with ⟨past, read⟩
    cases event with
    | elapse => exact ⟨Nat.le_trans past (Nat.le_add_right _ _), read⟩
    | cancel => exact ⟨past, read⟩
    | define =>
      exact ⟨past, List.forall_mem_cons.mpr
        ⟨fun early => absurd early (Nat.not_lt_of_le past), read⟩⟩
    | undefine => exact ⟨past, fun user member => read user (List.mem_filter.mp member).1⟩

/-- A user that comes in time finds the image there. -/
theorem Spared.needed_happen (spared : Spared before)
    (returned : (digest, use, some use) ∈ before.returned)
    (needed : Needed (happen event before) digest use) :
    UsedSince before digest use := by
  rcases needed with ⟨user, member, isDigest, early⟩
  have old : user ∈ before.users → UsedSince before digest use := fun isUser =>
    spared.needed digest use returned ⟨user, isUser, isDigest, early⟩
  cases event with
  | elapse | cancel => exact old member
  | define =>
    rcases List.mem_cons.mp member with rfl | isUser
    · exact (spared.held _ _ returned).resolve_right (Nat.not_le_of_lt early)
    · exact old isUser
  | undefine => exact old (List.mem_filter.mp member).1

theorem Spared.happen (settled : Settled before (happen event before)) (spared : Spared before) :
    Spared (happen event before) where
  finds := by
    intro thread find found
    exact (spared.finds thread find (by cases event <;> exact found)).happen event
  results := by
    intro id image isResult
    exact (spared.results id image (by cases event <;> exact isResult)).happen event
  read := by
    intro thread pass passing
    have passingBefore : before.passes.lookup thread = some pass := by cases event <;> exact passing
    exact (spared.read thread pass passingBefore).happen event settled passingBefore
  held := by
    intro digest at_ member
    exact (spared.held digest at_ (by cases event <;> exact member)).happen event
  needed := by
    intro digest at_ member needed
    have used := spared.needed_happen event (by cases event <;> exact member) needed
    cases event <;> exact used

/-- An image that a call returned at the time of the use it recorded stays in the index for the
grace period, and after that for as long as someone needs it who was there before the period's end,
in every run in which passes take out what is as they found it. -/
theorem returned_images_stay (parse : String → Except Err Ref) (slots : Nat) {pool : Pool Nat World}
    (reached : (system parse).Reaches Settled (World.fresh slots) pool) :
    ∀ digest at_, (digest, at_, some at_) ∈ pool.world.returned →
      (pool.world.clock < at_ + gcGracePeriod → pool.world.image digest ≠ none) ∧
        ∀ user ∈ pool.world.users, user.digest = digest → user.definedAt < at_ + gcGracePeriod →
          pool.world.image digest ≠ none := by
  have spared : Spared pool.world := by
    refine holds_of_run ?_ (fun _ _ _ _ _ settled moved holds => holds.moved settled moved)
      (fun event _ _ settled holds => holds.happen event settled) reached
    constructor <;> simp [World.fresh, World.noPull]
  have inIndex : ∀ digest at_, UsedSince pool.world digest at_ → pool.world.image digest ≠
      none := by
    rintro digest at_ ⟨image, there, _⟩
    simp [there]
  intro digest at_ returned
  refine ⟨fun within => inIndex digest at_ ?_, fun user member isDigest early =>
    inIndex digest at_ ?_⟩
  · exact (spared.held digest at_ returned).resolve_right (Nat.not_le_of_lt within)
  · exact spared.needed digest at_ returned ⟨user, member, isDigest, early⟩

/-- One image is ensured and an instance defined from it; a later pass takes out another, and not
this one. -/
theorem returned_images_stay_in_use : ∃ pool, (system tagged).Reaches Settled (World.fresh 1) pool ∧
      (("d1", 700, some 700) ∈ pool.world.returned ∧
        (∃ user ∈ pool.world.users, user.digest = "d1" ∧ user.definedAt < 700 + gcGracePeriod) ∧
        pool.world.collected.length = 1) ∧
        pool.world.image "d1" ≠ none :=
  (system tagged).known_of_schedule
    ([.spawn 0 (.pull "app:1" (.ok "d1") 1), .act 0 0, .act 0 0, .spawn 1 (.run 0 5)] ++
      List.replicate 16 (.act 1 0) ++ [.act 0 0, .act 0 0] ++
      [.spawn 2 (.pull "app:2" (.ok "d2") 1), .act 2 0, .act 2 0, .spawn 3 (.run 1 5)] ++
      List.replicate 16 (.act 3 0) ++ [.act 2 0, .act 2 0, .happen (.elapse 700)] ++
      [.spawn 4 (.ensure "app:1" .missing (.ok "d1") 1)] ++ List.replicate 5 (.act 4 0) ++
      [.happen (.define "web" "d1"), .happen (.elapse 650), .spawn 5 (.collect ⟨100, 0⟩)] ++
      List.replicate 9 (.act 5 0)) (by decide +kernel)
    fun reached ⟨returned, ⟨user, member, isDigest, early⟩, _⟩ =>
      (returned_images_stay tagged 1 reached "d1" 700 returned).2 user member isDigest early

/-- A pass lists an image that was not used of late; a call marks it used and returns it, and an
instance is defined from it; the pass takes it out. -/
theorem returned_image_collected : ∃ pool,
    (system tagged).Reaches (fun before after => after.byHand = before.byHand)
      (World.fresh 1) pool ∧ ("d1", 700, some 700) ∈ pool.world.returned ∧
        pool.world.clock < 700 + gcGracePeriod ∧ (∃ user ∈ pool.world.users, user.digest = "d1") ∧
        pool.world.image "d1" = none :=
  (system tagged).pool_of_schedule
    ([.spawn 0 (.pull "app:1" (.ok "d1") 1), .act 0 0, .act 0 0, .spawn 1 (.run 0 5)] ++
      List.replicate 16 (.act 1 0) ++ [.act 0 0, .act 0 0, .happen (.elapse 700)] ++
      [.spawn 2 (.collect ⟨100, 0⟩), .act 2 0, .act 2 0, .act 2 0] ++
      [.spawn 3 (.ensure "app:1" .missing (.ok "d1") 1)] ++ List.replicate 5 (.act 3 0) ++
      [.happen (.define "web" "d1"), .act 2 0]) (by decide +kernel)

end Dicer.Images
