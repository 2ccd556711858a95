import Dicer.Instance.Recovering
import Dicer.Instance.Waiting

namespace Dicer.Instance

open Concurrency

/-!
# The daemon keeps to the moves

Every request is shown to make no move but those of `Dicer.Instance.Moves`, in any interleaving with
any others, in runs in which no instance is named by an ID that was given out.  What holds of all
such runs can then be derived from the moves, without a look at any operation.
-/

section

variable {capacity : Capacity} {thread : Nat} {world : World}

/-- What is known when a request comes, from when it can come. -/
def Request.facts : Request → Facts
  | update spec => ⟨true, [spec.id], none⟩
  | exit spec _ | unhealthy spec _ _ => ⟨false, [spec.id], none⟩
  | wake id | restart id _ | removal id => ⟨false, [id], none⟩
  | recover => ⟨false, [], none⟩
  | _ => ⟨true, [], none⟩

theorem Request.facts_stand (sane : Sane world) {request : Request}
    (admitted : request.admits world = true) : request.facts.Stand thread world := by
  have knowing : ∀ {serving : Bool} {known : List String},
      (serving = true → world.stage = .serving) → (∀ id ∈ known, world.Ready id) →
          (Facts.mk serving known none).Stand thread world :=
    fun serves ready => ⟨serves, ready, by simp⟩
  cases request with
  | update =>
    simp only [Request.admits, Bool.and_eq_true, decide_eq_true_eq,
      List.contains_iff_mem] at admitted
    refine knowing (fun _ => admitted.1) ?_
    simpa using ⟨admitted.2, World.settled_iff.mpr (.inl admitted.1)⟩
  | wake id =>
    simp only [Request.admits, Bool.and_eq_true, List.contains_iff_mem] at admitted
    exact knowing (by simp) (by simpa using show world.Ready id from admitted.symm)
  | exit spec pid =>
    have watched : (spec.id, pid) ∈ world.watchers := List.contains_iff_mem.mp admitted
    exact knowing (by simp) (by simpa using sane.ready spec.id (.watched pid watched))
  | unhealthy spec pid =>
    have supervised : world.supervised spec.id = some pid :=
      by simpa [Request.admits] using admitted
    exact knowing (by simp) (by simpa using sane.ready spec.id (.supervised pid supervised))
  | restart id pending =>
    have due : world.restarts id = some pending := by simpa [Request.admits] using admitted
    exact knowing (by simp) (by simpa using sane.ready id (.restarts pending due))
  | removal id =>
    have listed : id ∈ world.removals := List.contains_iff_mem.mp admitted
    exact knowing (by simp) (by simpa using sane.ready id (.removal listed))
  | recover => exact knowing (by simp) (by simp)
  | _ =>
    have serving : world.stage = .serving := by simpa [Request.admits] using admitted
    exact knowing (fun _ => serving) (by simp)

theorem Request.fine (request : Request)
    (notWait : ∀ nameOrID id nextStop, request ≠ .wait nameOrID id nextStop) :
    Fine thread (request.call capacity) request.facts := by
  cases request with
  | create => exact create_fine rfl
  | update => exact update_fine (by simp [Request.facts])
  | rename => exact rename_fine rfl
  | delete => exact delete_fine rfl
  | start => exact start_fine rfl
  | stop => exact stop_fine rfl
  | pause => exact pause_fine rfl
  | unpause => exact unpause_fine rfl
  | resize => exact resize_fine rfl
  | standby => exact standby_fine rfl
  | createSnapshot => exact createSnapshot_fine rfl
  | deleteSnapshot => exact deleteSnapshot_fine rfl
  | restoreSnapshot => exact restoreSnapshot_fine rfl
  | forkSnapshot => exact forkSnapshot_fine rfl
  | forkInstance => exact forkInstance_fine rfl
  | createVolume | deleteVolume =>
    unfold Request.call
    exact calm_free fun _ => trivial
  | wait nameOrID id nextStop => exact absurd rfl (notWait nameOrID id nextStop)
  | startOnBoot => exact startOnBoot_fine rfl
  | wake => exact wake_fine (by simp [Request.facts])
  | exit => exact handleExit_fine (by simp [Request.facts])
  | unhealthy => exact handleUnhealthy_fine (by simp [Request.facts])
  | restart => exact restart_fine (by simp [Request.facts])
  | removal => exact deleteFor_free (by simp) (by simp [Request.facts]) fun _ => trivial
  | recover => exact recover_fine

theorem Request.safe (sane : Sane world) (idle : Idle thread world) {request : Request}
    (admitted : request.admits world = true) :
    (request.call capacity).run.Safe contract thread (fun _ _ => True) world := by
  by_cases waits : ∃ nameOrID id nextStop, request = .wait nameOrID id nextStop
  · rcases waits with ⟨nameOrID, id, nextStop, rfl⟩
    have serving : world.stage = .serving := by simpa [Request.admits] using admitted
    have unwaiting : world.tracks thread = [] := by simpa [World.tracks] using idle.unwaiting
    have ensured : (waitForStop nameOrID id nextStop).run.Ensures (whileWaiting thread)
        (fun _ _ => True) ⟨[], none⟩ := waitForStop_waits rfl fun _ _ => trivial
    exact (ensured world sane ⟨serving, by simp, unwaiting⟩).mono sane fun _ _ _ _ => trivial
  · have ensured : Fine thread (request.call capacity) request.facts :=
      request.fine fun nameOrID id nextStop same => waits ⟨nameOrID, id, nextStop, same⟩
    exact (ensured world sane ⟨request.facts_stand sane admitted, idle.empty⟩).mono sane
      fun _ _ _ _ => trivial

end

/-- Every step of every thread is a move, whatever the others do. -/
theorem holds (capacity : Capacity) : contract.Holds (system capacity) where
  mayKeeps := fun _ _ _ sane apart move => sane.moved apart move
  happens := fun event _ _ sane _ happened => ⟨⟨event, happened⟩, sane.happened happened⟩
  idleMay := fun _ _ _ _ different _ move idle => idle.kept move different
  idleOutside := fun _ _ _ _ ⟨_, happened⟩ idle => idle.happened happened
  crashes := by
    intro before after sane _ crashed
    cases crashed
    exact ⟨sane.crashed, fun thread => ⟨by simp [EmptyHanded, World.crash], by simp [World.crash]⟩⟩
  serves := by
    intro request thread world sane idle admitted
    apply Program.Safe.bind
    exact (Request.safe sane idle admitted).mono sane fun _ _ _ _ => trivial

end Dicer.Instance
