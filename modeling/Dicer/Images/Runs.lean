import Dicer.Images.Pulling

namespace Dicer.Images

open Concurrency
open Program (Ensures)

/-!
# Removals, passes and whole runs

A removal deletes the files of what it took out of the index, and a pass takes out only what it may
by the images in use and the time it goes by.  With the programs all keeping to the moves, what the
moves preserve holds throughout every run.
-/

variable {place : Place} {thread : Nat} {images : List Image} {remover : Remover}
  {post : Except Err Unit → Place → Prop} {parse : String → Except Err Ref} {slots : Nat}
    {pool : Pool Nat World}
  {meets : World → World → Prop}

theorem removeEach_during {post : Unit → Place → Prop}
    (removable : ∀ image ∈ images, Removable place image remover) (idle : place.removing = none)
    (done : post () place) : During thread (removeEach remover images) post place := by
  induction images with
  | nil => exact Ensures.done done
  | cons image rest ih =>
    have removeRest := ih fun other member => removable other (List.mem_cons_of_mem _ member)
    apply Ensures.bind
    apply indexDelete_during (removable image List.mem_cons_self)
    · exact removeRest
    apply Ensures.bind
    apply deleteFiles_during rfl
    have same : ({ place with removing := none } : Place) = place := by rw [← idle]
    rw [same]
    exact removeRest

theorem remove_during (removable : ∀ image ∈ images, Removable place image remover)
    (idle : place.removing = none) (done : ∀ result, post result place) :
    During thread (remove remover images).run post place := by
  apply lifted
  apply removeEach_during removable idle
  apply lifted
  apply indexList_during
  intro images
  exact registryCall_during done

theorem delete_during (parse : String → Except Err Ref) (ref : String)
    (inUse : List (String × String)) : During thread (delete parse ref inUse).run (fun _ _ => True)
    place := by
  unfold delete
  split
  · exact Ensures.done trivial
  apply lifted
  apply lookUp_during
  intro found
  cases found with
  | none => exact Ensures.done trivial
  | some =>
    dsimp only
    split
    · exact Ensures.done trivial
    apply lifted
    apply indexDeleteAnyway_during
    apply Ensures.lift
    exact deleteFiles_during rfl trivial

theorem prune_during (inUse : List String) (idle : place.removing = none) :
    During thread (prune inUse).run (fun _ _ => True) place := by
  apply lifted
  apply indexList_during
  intro images
  exact remove_during (fun _ _ => trivial) idle (fun _ => trivial)

/-! ## Garbage collection -/

/-- A pass that goes by these images in use and this time, and removes nothing at the moment. -/
structure Passing (inUse : List String) (at_ : Nat) (place : Place) : Prop where
  find : place.find = none
  removing : place.removing = none
  pass : ∃ listed, place.pass = some ⟨inUse, some at_, listed⟩

variable {inUse : List String} {at_ : Nat}

theorem markEachUsed_during {digests : List String} {post : Unit → Place → Prop}
    (unfound : place.find = none) (done : post () place) :
    During thread (markEachUsed at_ digests) post place := by
  induction digests with
  | nil => exact Ensures.done done
  | cons digest rest ih =>
    apply Ensures.bind
    apply markUsed_during
    · simp [unfound]
    have same : ({ place with find := place.find.map fun _ => ⟨digest, some at_⟩ } : Place) =
        place := by
      rw [unfound, Option.map_none, ← unfound]
    rw [same]
    exact ih

/-- The images of a list that a pass may take out. -/
def Collectable (inUse : List String) (at_ : Nat) (images : List Image) : Prop :=
  ∀ image ∈ images, isCollectable inUse at_ image = true

theorem collectable_collectableImages (images : List Image) :
    Collectable inUse at_ (collectableImages images inUse at_) := by
  intro image member
  exact (List.mem_filter.mp ((List.mem_insertionSort _).mp member)).2

theorem collectable_expiredImages (policy : GCPolicy) (images : List Image) :
    Collectable inUse at_ (policy.expiredImages images inUse at_) := by
  intro image member
  unfold GCPolicy.expiredImages at member
  split at member
  · exact nomatch member
  · exact collectable_collectableImages images image (List.mem_filter.mp member).1

section

variable (passing : Passing inUse at_ place) (collectable : Collectable inUse at_ images)
include passing collectable

theorem Passing.removable : ∀ image ∈ images, Removable place image .pass := by
  intro image member
  rcases passing.pass with ⟨listed, isPass⟩
  exact ⟨_, at_, isPass, rfl, collectable image member⟩

theorem collect_during (done : ∀ result, post result place) :
    During thread (collect images).run post place := by
  unfold collect
  split
  · exact Ensures.done (done _)
  · exact remove_during (passing.removable collectable) passing.removing done

theorem collectBySize_during {maxSize : Nat} :
    During thread (collectBySize maxSize images).run (fun _ _ => True) place := by
  induction images with
  | nil => exact Ensures.done trivial
  | cons image rest ih =>
    apply Ensures.bindExcept
    apply exceeds_during
    intro measured
    cases measured with
    | error => trivial
    | ok exceeded =>
      cases exceeded with
      | false => exact Ensures.done trivial
      | true =>
        apply Ensures.bindExcept
        apply collect_during passing
        · intro only member
          exact collectable only (List.mem_cons.mpr (.inl (List.mem_singleton.mp member)))
        intro result
        cases result with
        | error => trivial
        | ok => exact ih fun other member => collectable other (List.mem_cons_of_mem _ member)

end

theorem collectGarbage_during (policy : GCPolicy) (passing : Passing inUse at_ place) :
    During thread (collectGarbage policy inUse at_).run (fun _ _ => True) place := by
  apply lifted
  apply markEachUsed_during passing.find
  rcases passing.pass with ⟨_, isPass⟩
  apply lifted
  apply passList_during isPass
  intro images
  have stillPassing : ∀ listed, Passing inUse at_
      { place with pass := some ⟨inUse, some at_, listed⟩ } :=
    fun listed => ⟨passing.find, passing.removing, listed, rfl⟩
  apply Ensures.bindExcept
  apply collect_during (stillPassing images) (collectable_expiredImages policy images)
  intro result
  cases result with
  | error => trivial
  | ok =>
    dsimp only
    split
    · exact Ensures.done trivial
    apply lifted
    apply passList_during rfl
    intro later
    exact collectBySize_during (stillPassing later) (collectable_collectableImages later)

theorem runGCPass_during (policy : GCPolicy) (unfound : place.find = none)
    (idle : place.removing = none) : During thread (runGCPass policy).run (fun _ _ => True)
    place := by
  apply lifted
  apply imagesInUse_during
  intro inUse
  apply lifted
  apply passNow_during rfl rfl
  intro at_
  exact collectGarbage_during policy ⟨unfound, idle, [], rfl⟩

theorem discard_during {Result : Type} {call : Call Result}
    (during : During thread call.run (fun _ _ => True) place) :
    During thread (bestEffort call) (fun _ _ => True) place := by
  apply Ensures.bind
  exact during.mono fun _ _ _ => Ensures.done trivial

theorem contract_holds (parse : String → Except Err Ref) : contract.Holds (system parse) where
  mayKeeps := fun _ _ _ sane _ moved => moved.sane sane
  happens := by
    intro event before after sane _ happened
    have isAfter : Happened before after := ⟨event, (Option.some.inj happened).symm⟩
    exact ⟨isAfter, isAfter.sane sane⟩
  idleMay := fun _ _ _ _ different sane moved idle => moved.knows sane different idle
  idleOutside := fun _ _ _ _ happened idle => happened.knows idle
  crashes := nofun
  serves := by
    intro request thread world sane idle _
    have during : During thread ((system parse).program request) (fun _ _ => True) Place.fresh := by
      cases request with
      | pull ref answer attempts => exact serve_during (pull_during parse ref answer attempts)
      | ensure ref policy answer attempts =>
        exact serve_during (ensure_during parse ref policy answer attempts)
      | run id size => exact runPull_during size
      | delete ref inUse => exact discard_during (delete_during parse ref inUse)
      | prune inUse => exact discard_during (prune_during inUse rfl)
      | collect policy => exact discard_during (runGCPass_during policy rfl rfl)
    exact (during world sane idle).mono sane fun _ _ _ _ => trivial

theorem holds_of_run {property : World → Prop} (initially : property (World.fresh slots))
    (moves : ∀ thread before after, Sane before → Sane after → meets before after →
      Moved thread before after → property before → property after)
    (happens : ∀ event before, Sane before → meets before (happen event before) → property before →
      property (happen event before)) (reached :
      (system parse).Reaches meets (World.fresh slots) pool)
    : property pool.world := by
  refine (contract_holds parse).preserved (fun _ _ _ => trivial) (sane_fresh slots) ?_ initially ?_
    reached
  · intro thread
    constructor <;> simp [Place.fresh, World.fresh]
  intro before after sane saneAfter met step holds
  rcases step with rfl | ⟨thread, moved⟩ | ⟨event, rfl⟩ | crashed
  · exact holds
  · exact moves thread before after sane saneAfter met moved holds
  · exact happens event before sane met holds
  · cases crashed

theorem sane_of_run (reached : (system parse).Reaches meets (World.fresh slots) pool) :
    Sane pool.world :=
  holds_of_run (sane_fresh slots) (fun _ _ _ _ saneAfter _ _ _ => saneAfter)
    (fun event _ sane _ _ => Happened.sane sane ⟨event, rfl⟩) reached

end Dicer.Images
