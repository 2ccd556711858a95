import Dicer.Images.Sharing

namespace Dicer.Images

open Concurrency
open Program (Leads)

/-!
# What a tag names

The manager keeps no map from tags to images: a tag names the image created last of those stored
with its name.  Here calls to `Pull` come one after another, each at a later time.  The goroutine of
a pull runs while its caller waits; a caller that gives up leaves the pull to run to its end.
-/

variable {world after : World} {resolved : ResolvedRef} {size : Nat}

/-- `sharedPull` of a caller whom nobody shares the pull with, and the pull's goroutine. -/
def pullAlone (resolved : ResolvedRef) (size : Nat) : Call Image := do
  match ← joinPull resolved with
  | .abandoned _ => ExceptT.lift never
  | .joined id => do
    runPull id size
    match ← awaitPull id with
    | some (.ok image) => return image
    | some (.error error) => throw error
    | none => do
      leavePull id
      throw canceled

/-! ## What one call does -/

/-- What loading an image leaves as it was. -/
structure Beside (world after : World) : Prop where
  clock : after.clock = world.clock
  pulls : after.pulls = world.pulls
  pullOf : after.pullOf = world.pullOf
  cancelled : after.cancelled = world.cancelled

/-- The image a pull stores. -/
def freshImage (world : World) (resolved : ResolvedRef) (size : Nat) : Image :=
  ⟨resolved.name, resolved.digest, size, world.clock, world.clock⟩

/-- The index and the disks after a pull of an image that was not there: as before, or with the
image. -/
def Stored (world : World) (resolved : ResolvedRef) (size : Nat) (result : Except Err Image)
    (after : World) : Prop :=
  match result with
  | .error _ => after.images = world.images ∧
      ∀ digest, after.hasDisk digest = true → world.hasDisk digest = true
  | .ok image => image = freshImage world resolved size ∧ after.images = world.images ++ [image] ∧
      ∀ digest, after.hasDisk digest = true → world.hasDisk digest = true ∨ digest = resolved.digest

/-- While an image is fetched, only its own files change. -/
structure Fetching (world : World) (digest : String) (after : World) :
    Prop extends Beside world after where
  images : after.images = world.images
  disks : ∀ other, other ≠ digest → after.hasDisk other = world.hasDisk other

section

variable (fetching : Fetching world resolved.digest after)
include fetching

theorem Fetching.stored (error : Err) (bare : after.hasDisk resolved.digest = false)
    : Stored world resolved size (.error error) after := by
  refine ⟨fetching.images, fun digest disk => ?_⟩
  by_cases same : digest = resolved.digest
  · simp [same, bare] at disk
  · rwa [fetching.disks digest same] at disk

theorem Fetching.setFiles (files : Option Files) :
    Fetching world resolved.digest (after.setFiles resolved.digest files) := by
  refine { fetching with disks := fun other different => ?_ }
  rw [← fetching.disks other different]
  simp [World.hasDisk, World.setFiles, different]

theorem discardFailedPull_alone (error : Err) :
    Leads 0 (do
        discardFailedPull resolved.digest
        throw error : Call Unit).run
      (fun result final => Beside world final ∧
        Stored world resolved size (result.map fun _ => freshImage world resolved size) final)
        after := by
  have cleared := fetching.setFiles none
  apply Leads.lifted
  refine .acts rfl (.done ⟨{ cleared with }, ?_⟩)
  have stored : Stored world resolved size (.error error) (after.setFiles resolved.digest none) :=
    cleared.stored error (by simp [World.hasDisk, World.setFiles])
  exact stored

/-- The disk is packed, and the image comes into the index and its metadata into its directory. -/
theorem createAndSave_alone (absent : world.image resolved.digest = none) :
    Leads 0 (do
        let _ ← (indexCreate (freshImage world resolved size) : Call Bool)
        saveMetadata resolved.digest (freshImage world resolved size) : Call Unit).run
      (fun result final => Beside world final ∧
        Stored world resolved size (result.map fun _ => freshImage world resolved size) final)
        after := by
  have stillAbsent : after.image resolved.digest = none := by
    simpa only [World.image, fetching.images] using absent
  apply Leads.lifted
  refine .acts (by simp only [freshImage, stillAbsent]; rfl) ?_
  apply Leads.lift
  apply Leads.perform
  intro answer saved member
  have disks : ∀ (files : String → Option Files),
      (∀ other, other ≠ resolved.digest → files other = after.files other) → ∀ digest,
        (files digest).any Files.disk = true → world.hasDisk digest = true ∨
            digest = resolved.digest := by
    intro files same digest disk
    by_cases own : digest = resolved.digest
    · exact .inr own
    left
    rw [← fetching.disks digest own, World.hasDisk, ← same digest own]
    exact disk
  have isStored : ∀ final : World, final.images = after.images ++ [freshImage world resolved size] →
      (∀ other, other ≠ resolved.digest → final.files other = after.files other) →
        Stored world resolved size (.ok (freshImage world resolved size)) final :=
            fun final images files =>
    ⟨rfl, by rw [images, fetching.images], disks final.files files⟩
  split at member
  · rcases sole member with ⟨_, rfl⟩
    refine ⟨{ fetching with }, isStored _ rfl fun other different => ?_⟩
    simp [World.setFiles, World.setLoad, World.setFind, different]
  · rcases sole member with ⟨_, rfl⟩
    exact ⟨{ fetching with }, isStored _ rfl fun _ _ => rfl⟩

theorem pullFromRegistry_alone (absent : world.image resolved.digest = none) :
    Leads 0 (pullFromRegistry resolved size).run (fun result final => Beside world final ∧
        Stored world resolved size (result.map fun _ => freshImage world resolved size) final)
        after := by
  apply Leads.lifted
  refine .acts rfl ?_
  have isPrepared := fetching.setFiles (some ((after.files resolved.digest).getD ⟨false, none⟩))
  generalize after.setFiles resolved.digest _ = prepared at isPrepared
  apply Leads.lifted
  apply Leads.perform
  intro answer called member
  rcases either member with ⟨rfl, rfl⟩ | ⟨rfl, rfl⟩
  · apply Leads.lifted
    apply Leads.perform
    intro answer packed member
    have isPacked := isPrepared.setFiles
      (some ⟨true, (called.files resolved.digest).bind Files.metadata⟩)
    rcases oneOf member with ⟨rfl, rfl⟩ | ⟨rfl, rfl⟩ | ⟨rfl, rfl⟩
    · apply Leads.lifted
      refine .acts rfl ?_
      have clock : called.clock = world.clock := isPrepared.clock
      have isFresh : (⟨resolved.name, resolved.digest, size, called.clock, called.clock⟩ : Image) =
          freshImage world resolved size := by rw [freshImage, clock]
      dsimp only [World.setLoad, World.setFiles]
      rw [isFresh]
      exact createAndSave_alone { isPacked with } absent
    · exact discardFailedPull_alone isPrepared _
    · exact discardFailedPull_alone isPacked _
  · exact discardFailedPull_alone isPrepared _

end

/-- What a pull stores depends only on the index, the disks and the time it begins with. -/
theorem Stored.of_same {begun : World} (images : begun.images = world.images)
    (files : begun.files = world.files) (clock : begun.clock = world.clock)
    {result : Except Err Image} (stored : Stored begun resolved size result after) :
    Stored world resolved size result after := by
  cases result with
  | error => simpa only [Stored, World.hasDisk, images, files] using stored
  | ok => simpa only [Stored, World.hasDisk, images, files, freshImage, clock] using stored

theorem pullAndGet_alone (fetching : Fetching world resolved.digest after)
    (absent : world.image resolved.digest = none) :
    Leads 0 (pullAndGet resolved size).run
      (fun result final => Beside world final ∧ Stored world resolved size result final) after := by
  apply Leads.bindExcept
  refine .mono (pullFromRegistry_alone fetching absent) ?_
  rintro result pulled ⟨beside, stored⟩
  cases result with
  | error => exact ⟨beside, stored⟩
  | ok =>
    have there : pulled.image resolved.digest = some (freshImage world resolved size) := by
      simp only [World.image] at absent ⊢
      rw [stored.2.1, List.find?_append, absent]
      simp [freshImage]
    apply Leads.lifted
    refine .acts (by simp only [there]; rfl) ?_
    exact .done ⟨{ beside with }, stored⟩

theorem loadFromDisk_alone {digest : String} (bare : world.hasDisk digest = false) :
    Leads 0 (loadFromDisk digest) (fun loaded final => loaded = none ∧ final = world) world := by
  apply Leads.bind
  refine .acts rfl ?_
  rw [bare]
  exact .done ⟨rfl, rfl⟩

theorem loadOrPull_alone {context : World → Bool} (absent : world.image resolved.digest = none)
    (bare : world.hasDisk resolved.digest = false) :
    Leads 0 (loadOrPull context resolved size).run
      (fun result final => Beside world final ∧ Stored world resolved size result final) world := by
  apply Leads.lifted
  apply Leads.perform
  intro answer looked member
  simp only [absent, List.mem_singleton, Prod.mk.injEq] at member
  rcases member with ⟨rfl, isLooked⟩
  have begun : Fetching world resolved.digest looked := by
    rw [isLooked]
    exact ⟨⟨rfl, rfl, rfl, rfl⟩, rfl, fun _ _ => rfl⟩
  have isBare : looked.hasDisk resolved.digest = false := by
    rw [isLooked]
    exact bare
  clear isLooked
  apply Leads.lifted
  refine .mono (loadFromDisk_alone isBare) ?_
  rintro _ _ ⟨rfl, rfl⟩
  apply Leads.bindExcept
  apply Leads.perform
  intro acquired slotted member
  rcases List.mem_append.mp member with taken | cancelled
  · split at taken
    case isFalse => exact nomatch taken
    rcases sole taken with ⟨rfl, isSlotted⟩
    have fetching : Fetching world resolved.digest slotted := by
      rw [isSlotted]
      exact { begun with }
    apply Leads.lifted
    refine .mono (pullAndGet_alone fetching absent) ?_
    rintro result final ⟨beside, stored⟩
    apply Leads.lifted
    refine .acts rfl ?_
    cases result with
    | ok | error => exact Leads.done ⟨{ beside with }, stored⟩
  · split at cancelled
    case isFalse => exact nomatch cancelled
    cases lone cancelled
    exact ⟨begun.toBeside, begun.stored _ isBare⟩

/-- After a whole pull: its goroutine is done, and its result is there for its caller. -/
structure Finished (world : World) (resolved : ResolvedRef) (size id : Nat)
    (result : Except Err Image) (after : World) : Prop where
  stored : Stored world resolved size result after
  clock : after.clock = world.clock
  cancelled : after.cancelled = world.cancelled
  pulls : after.pulls = Function.update world.pulls resolved.digest none
  done : (after.pullOf id).phase = .done
  result : (after.pullOf id).result = some result

/-- The steps of a goroutine after `loadOrPull`. -/
theorem endPull_alone {id : Nat} {result : Except Err Image} {loaded : World}
    (beside : Beside world loaded) (stored : Stored world resolved size result loaded) :
    Leads 0 (do
        finishPull id result
        removePull id resolved.digest
        cancelPull id
        closePull id)
      (fun _ final => Finished world resolved size id result final) loaded := by
  apply Leads.bind
  refine .acts rfl ?_
  apply Leads.bind
  refine .acts rfl ?_
  apply Leads.bind
  refine .acts rfl ?_
  refine .acts rfl ?_
  constructor
  · cases result <;> exact stored
  · exact beside.clock
  · exact beside.cancelled
  · simp only [World.setPull, World.setLoad, beside.pulls]
  · simp [World.setPull]
  · simp [World.setPull, World.setLoad]

theorem runPull_alone {id : Nat} (started : (world.pullOf id).phase = .started)
    (isResolved : (world.pullOf id).resolved = resolved)
    (absent : world.image resolved.digest = none)
    (bare : world.hasDisk resolved.digest = false) :
    Leads 0 (runPull id size) (fun _ final => ∃ result, Finished world resolved size id result
      final)
      world := by
  apply Leads.bind
  apply Leads.perform
  intro answer claimed member
  simp only [started, if_true, isResolved, List.mem_singleton, Prod.mk.injEq] at member
  rcases member with ⟨rfl, isClaimed⟩
  have absentThen : claimed.image answer.digest = none := by
    rw [isClaimed]
    exact absent
  have bareThen : claimed.hasDisk answer.digest = false := by
    rw [isClaimed]
    exact bare
  apply Leads.bind
  refine .mono (loadOrPull_alone absentThen bareThen) ?_
  rintro result loaded ⟨beside, stored⟩
  refine .mono (endPull_alone beside stored) ?_
  rintro _ final finished
  subst isClaimed
  exact ⟨result, { finished with stored := finished.stored.of_same rfl rfl rfl }⟩

/-- What is true between two calls: nothing is under way, and nobody's context is cancelled. -/
structure Resting (world : World) : Prop where
  idle : ∀ digest, world.pulls digest = none
  kept : world.cancelled = []

theorem pullAlone_alone (resting : Resting world) (absent : world.image resolved.digest = none)
    (bare : world.hasDisk resolved.digest = false) :
    Leads 0 (pullAlone resolved size).run
      (fun result final => Stored world resolved size result final ∧ final.clock = world.clock ∧
      Resting final) world := by
  apply Leads.lifted
  apply Leads.perform
  intro answer joined member
  simp only [resting.idle, List.mem_singleton, Prod.mk.injEq] at member
  rcases member with ⟨rfl, isJoined⟩
  have started : (joined.pullOf world.next).phase = .started := by
    rw [isJoined]
    simp [World.setPull]
  have isResolved : (joined.pullOf world.next).resolved = resolved := by
    rw [isJoined]
    simp [World.setPull]
  have absentThen : joined.image resolved.digest = none := by
    rw [isJoined]
    exact absent
  have bareThen : joined.hasDisk resolved.digest = false := by
    rw [isJoined]
    exact bare
  apply Leads.lifted
  refine .mono (runPull_alone started isResolved absentThen bareThen) ?_
  rintro _ run ⟨result, finished⟩
  subst isJoined
  have rests : Resting run := by
    refine ⟨fun digest => ?_, finished.cancelled.trans resting.kept⟩
    rw [finished.pulls]
    by_cases same : digest = resolved.digest
    · simp [same]
    · simp [same, resting.idle]
  have isStored : Stored world resolved size result run := finished.stored.of_same rfl rfl rfl
  apply Leads.lifted
  refine .acts (by simp only [finished.done, finished.result, rests.kept, if_true, Option.getD_some,
    List.contains_nil, Bool.false_eq_true, if_false, List.append_nil]; rfl) ?_
  cases result with
  | error | ok => exact Leads.done ⟨isStored, finished.clock, rests.idle, rfl⟩

/-- What a call to `Pull` does: it fails before it looks for the image, finds it in the index, or
pulls it. -/
inductive Answered (world : World) (parsed : Ref) (answer : Except Err String) (size : Nat)
    (result : Except Err Image) (after : World) : Prop
  | unresolved (error : Err) (unresolved : resolve parsed answer = .error error)
      (isError : result = .error error) (same : after = world)
  | found (resolved : ResolvedRef) (isResolved : resolve parsed answer = .ok resolved)
      (image : Image) (there : world.image resolved.digest = some image)
      (isImage : result = .ok image) (at_ : Nat)
      (images : after.images = (world.recordUse resolved.digest at_).images)
      (disks : ∀ digest, after.hasDisk digest = world.hasDisk digest)
      (clock : after.clock = world.clock)
      (resting : Resting after)
  | pulled (resolved : ResolvedRef) (isResolved : resolve parsed answer = .ok resolved)
      (absent : world.image resolved.digest = none)
      (stored : Stored world resolved size result after)
      (clock : after.clock = world.clock) (resting : Resting after)

theorem markUsed_alone {digest : String} {at_ : Nat} :
    Leads 0 (markUsed digest at_) (fun _ final =>
      final.images = (world.recordUse digest at_).images ∧
        (∀ other, final.hasDisk other = world.hasDisk other) ∧ final.clock = world.clock ∧
        final.pulls = world.pulls ∧ final.cancelled = world.cancelled) world := by
  apply Leads.bind
  apply Leads.perform
  intro answer marked member
  rcases sole member with ⟨_, rfl⟩
  cases answer with
  | none => exact Leads.done ⟨rfl, fun _ => rfl, rfl, rfl, rfl⟩
  | some =>
    apply Leads.perform
    intro _ saved member
    split at member
    · rename_i files there
      have isThere : world.files digest = some files := there
      rcases sole member with ⟨_, rfl⟩
      refine ⟨rfl, fun other => ?_, rfl, rfl, rfl⟩
      by_cases same : other = digest
      · subst same
        simp [World.hasDisk, World.setFiles, isThere]
      · simp [World.hasDisk, World.setFiles, World.recordUse, World.noteUse, same]
    · rcases sole member with ⟨_, rfl⟩
      exact ⟨rfl, fun _ => rfl, rfl, rfl, rfl⟩

section

variable {parse : String → Except Err Ref} {ref : String} {parsed : Ref}
    {answer : Except Err String}

theorem pull_alone (isRef : parse ref = .ok parsed) (resting : Resting world)
    (disks : ∀ digest, world.hasDisk digest = true → world.image digest ≠ none) :
    Leads 0 (pull parse (fun resolved => pullAlone resolved size) ref answer).run
      (fun result final => Answered world parsed answer size result final) world := by
  unfold pull
  simp only [isRef]
  cases isResolved : resolve parsed answer with
  | error error => exact Leads.done (.unresolved error isResolved rfl rfl)
  | ok resolved =>
    apply Leads.lifted
    apply Leads.perform
    intro found looked member
    simp only [World.named] at member
    cases there : world.image resolved.digest with
    | some image =>
      simp only [there, List.mem_singleton, Prod.mk.injEq] at member
      rcases member with ⟨rfl, isLooked⟩
      apply Leads.lifted
      refine .acts rfl ?_
      apply Leads.lifted
      refine .mono markUsed_alone ?_
      rintro _ final ⟨images, disks, clock, pulls, cancelled⟩
      subst isLooked
      refine .done (.found resolved isResolved image there rfl _ images disks clock ?_)
      exact ⟨fun digest => (congrFun pulls digest).trans (resting.idle digest),
        cancelled.trans resting.kept⟩
    | none =>
      simp only [there, List.mem_singleton, Prod.mk.injEq] at member
      rcases member with ⟨rfl, rfl⟩
      have bare : looked.hasDisk resolved.digest = false := by
        by_contra disk
        exact disks resolved.digest (by simpa using disk) there
      refine .mono (pullAlone_alone resting there bare) ?_
      rintro result final ⟨stored, clock, rests⟩
      exact .pulled resolved isResolved there stored clock rests

end

end Dicer.Images
