import Dicer.Instance.Launching
import Dicer.Instance.Roaming

namespace Dicer.Instance

open Concurrency
open Program (Ensures)

/-!
# Ending a guest, step by step

A stop, a delete and a standby end the guest they find, and none of them may lose sight of one that
runs, whatever fails on the way.
-/

section

variable {capacity : Capacity} {thread : Nat} {id : String} {facts : Facts} {view later : View}
    {spec current : Spec}

/-- The call keeps to the moves when it is made without a lock. -/
abbrev Fine {Value : Type} (thread : Nat) (call : Call Value) (facts : Facts) : Prop :=
  Free thread call.run (fun _ _ => True) facts

variable {nameOrID : String}

section

variable {Value : Type} {purpose : Purpose}

/-- A call under a lock, on an instance that was left in order. -/
theorem locked_fine {call : Call Value} (known : id ∈ facts.known)
    (brief : purpose ∉ [.recover, .policyRestart])
      (body : ∀ view : View, view.AsFound → view.purpose = purpose → view.InOrder →
      Under thread id facts call.run (fun _ later => later.InOrder) view) :
    Fine thread (locked id purpose call) facts := by
  simp only [List.mem_cons, List.not_mem_nil, or_false, not_or] at brief
  refine locked_left known brief.1 (fun _ => trivial) fun view found isPurpose =>
    body view found isPurpose ?_
  exact found.inOrder (isPurpose ▸ brief.1) fun claims => absurd (isPurpose.symm.trans claims)
    brief.2

/-- A call on the instance of this name, with its definition and status read under the lock. -/
theorem reported_fine {rest : Spec → Status → Call Value} (serving : facts.serving = true)
    (brief : purpose ∉ [.recover, .policyRestart])
    (body : ∀ id spec, ∀ view : View, view.AsFound → view.purpose = purpose → view.InOrder →
      view.spec = some spec → spec.id = id →
      Under thread id (facts.knowing [id]) (rest spec view.reported).run
      (fun _ later => later.InOrder) view) :
    Fine thread (do
      let asked ← storeInstance nameOrID
      locked asked.id purpose do
        let spec ← storeInstance asked.id
        let status ← always (statusOf spec)
        rest spec status) facts := by
  refine storeInstance_then_free serving (fun _ => trivial) fun asked => ?_
  refine locked_fine List.mem_cons_self brief fun view found isPurpose inOrder => ?_
  refine storeInstance_then (fun spec known sameID => ?_) fun _ _ => inOrder
  apply always_then
  exact statusOf_under known sameID rfl (body _ spec view found isPurpose inOrder known sameID)

end

theorem start_fine (serving : facts.serving = true) :
    Fine thread (start capacity nameOrID) facts := by
  refine storeInstance_then_free serving (fun _ => trivial) fun spec => ?_
  refine locked_left List.mem_cons_self (by simp) (fun _ => trivial) fun view found purpose => ?_
  exact startLocked_leaves found rfl (.inl purpose)

namespace View

theorem reported_awake (awake : view.reported.state ≠ .standby) : view.reported = view.raw := by
  unfold reported at awake ⊢
  split
  · rename_i frozen
    simp [frozen] at awake
  · rfl

theorem reported_active (active : view.reported.state.isActive = true) :
    view.reported = view.raw := by
  refine reported_awake fun standby => ?_
  simp [standby, State.isActive] at active

theorem reported_bare (awake : view.reported.state ≠ .standby)
    (down : view.raw.state.isDown = true) : view.frozen = false := by
  by_contra frozen
  simp [reported, down, Bool.not_eq_false _ ▸ frozen] at awake

theorem reported_standby (awake : view.raw.state ≠ .standby)
    (standby : view.reported.state = .standby) : view.raw.state.isDown = true := by
  unfold reported at standby
  split at standby
  · rename_i frozen
    exact frozen.1
  · exact absurd standby awake

theorem recorded_of_up (up : view.raw.state ≠ .stopped) : view.status ≠ none := by
  intro missing
  simp [raw, missing, Status.stopped] at up

/-- Giving up a stale frozen guest stops nothing, so nobody is left to be told. -/
theorem told_thawed (known : view.spec = some current)
    (bare : view.raw.state.isDown = true → view.frozen = false) (told : view.told = true) :
    view.thawed.told = true := by
  have raw : View.raw { view with frozen := false } = view.raw := rfl
  cases down : view.raw.state.isDown with
  | false => simp [thawed, become, rests, raw, down]
  | true => simp [thawed, become, rests, down, bare down, known, told]

theorem Refuses.inactive (refuses : view.Refuses .stopping) :
    view.raw.state.isActive = false ∧ view.raw.state ≠ .restarting := by
  rcases refuses with refuses | down
  · cases state : view.raw.state <;>
      simp_all [State.canTransitionTo, State.allowedTransitions, State.isActive]
  · exact State.inactive_of_down down

end View

/-- A stop from the moment its transition was recorded. -/
theorem stopRecorded_leaves (same : spec.id = id) (purpose : view.purpose = .stop)
    (known : view.spec = some current) (policy : current.restart = spec.restart) :
    Leaves thread id facts (do
      always (stopVMM id)
      removeRuntimeDir id
      always (notifyWaiters id)
      always (scheduleRemoval spec)
      always (noteStopped spec) : Call Unit) view := by
  have ends : view.purpose.ends = true := by
    rw [purpose]
    rfl
  apply always_then
  refine stopVMM_under ?_
  apply Ensures.bindExcept
  refine removeRuntimeDir_under (.inr ends) ?_ ?_
  · apply always_then
    refine notifyWaiters_under (.inl ends) ?_
    apply always_then
    refine scheduleRemoval_under same ?_
    apply always_ensures
    refine noteStopped_under known same policy purpose rfl ?_
    exact .unsupervised rfl (.inr ⟨rfl, nofun, fun _ _ => rfl⟩)
  · rintro error later (rfl | rfl) <;> exact .unsupervised rfl (.inl rfl)

theorem stop_fine (serving : facts.serving = true) : Fine thread (stop nameOrID) facts := by
  refine storeInstance_then_free serving (fun _ => trivial) fun asked => ?_
  refine locked_left List.mem_cons_self (by simp) (fun _ => trivial) fun view found purpose => ?_
  refine storeInstance_then (fun spec known sameID => ?_) fun _ _ =>
    found.inOrder (by simp [purpose]) (by simp [purpose])
  apply always_then
  rw [sameID]
  refine cancelRestart_under ?_
  apply always_then
  refine setStoppedByUser_under known (.inl ⟨rfl, purpose⟩) fun now sameName policy => ?_
  generalize isMarked : ({ view with awaited := false, spec := some now } : View) = marked
  have isKnown : marked.spec = some now := by rw [← isMarked]
  have raw : marked.raw = view.raw := by rw [← isMarked]; rfl
  have purpose : marked.purpose = .stop := by rw [← isMarked]; exact purpose
  have ends : marked.purpose.ends = true := by rw [purpose]; rfl
  have exited : marked.exited = none := by rw [← isMarked]; exact found.exited
  have active : marked.supervised ≠ none → marked.raw.state.isActive = true := by
    rw [raw, ← isMarked]
    exact found.active
  have tells : marked.found.told = true → marked.told = true :=
    by rw [← isMarked]; exact found.tells
  -- An instance that is not active and not Restarting is left as it is.
  have leaves : ∀ told : Bool, marked.raw.state.isActive = false → marked.raw.state ≠ .restarting →
      (marked.found.told = true → told = true) →
          View.InOrder { marked.thawed with told := told } := by
    intro told inactive notRestarting tells
    refine .unsupervised ?_ (.inr ⟨inactive, fun restarting => absurd restarting notRestarting,
      fun isTold _ => tells isTold⟩)
    by_contra supervised
    simp [active supervised] at inactive
  have faulty : ∀ later : View, later = marked ∨ later = marked.thawed → later.failed.InOrder := by
    rintro later (rfl | rfl)
    all_goals exact ⟨active, fun pid isExited => absurd (exited.symm.trans isExited) nofun, nofun,
      nofun, nofun⟩
  apply always_then
  refine statusOf_under isKnown sameID sameName.symm ?_
  refine Ensures.given (fun _ sane sees => sees.awake sane) fun awake => ?_
  apply Ensures.bindExcept
  refine discardStandby_under isKnown sameName.symm (.inr (.inl purpose)) ?_ fun error => faulty
  dsimp only
  split
  · rename_i stopped
    have awake : marked.reported.state ≠ .standby := by simp [stopped]
    have down : marked.raw.state.isDown = true := by
      rw [← View.reported_awake awake, stopped]
      rfl
    apply always_ensures
    refine noteStopped_under isKnown sameID policy purpose down ?_
    refine leaves _ (State.inactive_of_down down).1 (State.inactive_of_down down).2 fun told => ?_
    exact View.told_thawed isKnown (View.reported_bare awake) (tells told)
  · rename_i standby
    have down := View.reported_standby awake standby
    apply always_then
    refine notifyWaiters_under (.inl ends) ?_
    apply always_then
    refine scheduleRemoval_under sameID ?_
    apply always_ensures
    refine noteStopped_under isKnown sameID policy purpose down ?_
    exact leaves true (State.inactive_of_down down).1 (State.inactive_of_down down).2 fun _ => rfl
  · rename_i notStopped notStandby
    rw [View.reported_awake notStandby] at notStopped
    have recorded : marked.thawed.status ≠ none := View.recorded_of_up notStopped
    apply Ensures.bindExcept
    refine transition_under sameID recorded ?_ ?_ ?_ ?_
    · exact fun hold isPurpose _ => .stops notStopped (isPurpose.trans purpose)
    · exact fun status _ => stopRecorded_leaves sameID purpose isKnown policy
    · intro error refuses
      refine leaves _ refuses.inactive.1 refuses.inactive.2 fun told => ?_
      exact View.told_thawed isKnown (View.reported_bare notStandby) (tells told)
    · exact fun error => faulty _ (.inr rfl)

/-! ## Deleting -/

theorem deleteFor_free {purpose : Purpose} {force : Bool} {post : Except Err Unit → Facts → Prop}
    (isDelete : purpose ∈ [.delete, .removal, .forkDelete]) (known : id ∈ facts.known)
    (returned : ∀ result, post result facts) :
    Free thread (deleteFor purpose id force).run post facts := by
  have ends : purpose.ends = true := by
    simp only [List.mem_cons, List.not_mem_nil, or_false] at isDelete
    rcases isDelete with rfl | rfl | rfl <;> rfl
  refine locked_left known (by rintro rfl; simp at isDelete) returned fun view found isPurpose => ?_
  subst isPurpose
  have inOrder : view.InOrder := by
    refine found.inOrder ?_ ?_
    all_goals
      intro is
      simp [is] at isDelete
  refine storeInstance_then (fun spec isKnown sameID => ?_) fun _ _ => inOrder
  apply always_then
  refine statusOf_under isKnown sameID rfl ?_
  split
  · exact throw_ensures inOrder
  apply always_then
  rw [sameID]
  refine cancelRestart_under ?_
  apply always_then
  refine stopVMM_under ?_
  -- The status file is gone by now, or it could not be removed.
  have deletes : ∀ later : View, later.purpose = view.purpose → later.spec = some spec →
      later.supervised = none → (later.status = none ∨ later.faulty = true) →
      Leaves thread id facts (do storeDeleteInstance spec.name; always (notifyWaiters id) : Call
          Unit) later := by
    intro later isPurpose isKnown unsupervised removed
    apply Ensures.bindExcept
    refine storeDeleteInstance_under isKnown (isPurpose ▸ isDelete) removed ?_ ?_
    · apply always_ensures
      refine notifyWaiters_under (.inl (show later.purpose.ends = true from isPurpose ▸ ends)) ?_
      refine .unsupervised unsupervised (removed.symm.imp_right fun missing => ?_)
      have state : later.raw.state = .stopped := by
        rw [View.raw, missing]
        rfl
      exact ⟨congrArg State.isActive state, fun restarting => absurd (state.symm.trans restarting)
        (by decide), fun _ _ => rfl⟩
    · rintro error gone (rfl | rfl) <;> exact .unsupervised unsupervised (.inl rfl)
  apply always_then
  apply bestEffort_ensures
  refine removeRuntimeDir_under (.inr ends) (deletes _ rfl isKnown rfl (.inl rfl)) ?_
  rintro error gone (rfl | rfl)
  · exact deletes _ rfl isKnown rfl (.inr rfl)
  · exact deletes _ rfl isKnown rfl (.inr rfl)

theorem delete_fine {force : Bool} (serving : facts.serving = true) :
    Fine thread (delete nameOrID force) facts := by
  refine storeInstance_then_free serving (fun _ => trivial) fun spec => ?_
  exact deleteFor_free (by simp) List.mem_cons_self fun _ => trivial

variable {retries : Nat} {address : String}

/-- A guest is frozen, its VMM is ended, and only then is it on standby. -/
theorem freezeGuest_leaves {status : Status} {pid : Nat} (same : spec.id = id)
    (inOrder : view.InOrder) (known : view.spec = some spec) (purpose : view.purpose = .standby)
    (active : view.raw.state.isActive = true) :
    Leaves thread id facts (freezeGuest spec status pid address retries) view := by
  subst same
  refine calm_then (fun _ => inOrder) fun _ => ?_
  refine calm_then (fun _ => inOrder) fun _ => ?_
  apply always_then
  refine stopVMM_under ?_
  apply attempt_then
  refine putStandby_under ?_ ?_ ?_ ?_ fun error => ?_
  · exact known
  · exact purpose
  · exact active
  · refine removeRuntimeDir_under (.inr ?_) ?_ ?_
    · show view.purpose.ends = true
      rw [purpose]
      rfl
    · refine .unsupervised rfl (.inr ⟨rfl, nofun, fun _ rests => ?_⟩)
      simp [View.rests, View.write, View.become, known] at rests
    · rintro error gone (rfl | rfl) <;> exact .unsupervised rfl (.inl rfl)
  · apply always_then
    refine fail_under (.inl (by simp [known])) ?_ fun later isOver =>
      throw_ensures (.ofOver isOver rfl)
    exact fun hold isPurpose _ => .ends _ rfl (.inr (by simp [isPurpose, purpose]))

theorem standbyActive_leaves {status : Status} (same : spec.id = id) (found : view.AsFound)
    (known : view.spec = some spec) (purpose : view.purpose = .standby)
    (reported : status.state.isActive = true → view.raw.state.isActive = true) :
    Leaves thread id facts (standbyActive spec status address retries) view := by
  have inOrder : view.InOrder := found.inOrder (by simp [purpose]) (by simp [purpose])
  unfold standbyActive
  split
  · exact throw_ensures inOrder
  rename_i isActive
  have active := reported (by simpa using isActive)
  split
  · exact throw_ensures inOrder
  refine calm_then (fun _ => inOrder) fun _ => ?_
  refine calm_then (fun _ => inOrder) fun pid => ?_
  refine calm_then (fun _ => inOrder) fun _ => ?_
  refine calm_then (fun _ => inOrder) fun _ => ?_
  have thawed : view.thawed.InOrder := by
    refine { inOrder with tells := fun _ told _ => ?_ }
    refine View.told_thawed known (fun down => ?_) (found.tells told)
    simp [State.up_of_active active] at down
  apply Ensures.bindExcept
  refine discardStandby_under known rfl (.inr (.inr ⟨active, purpose⟩)) ?_ ?_
  rotate_left
  · rintro error gone (rfl | rfl)
    · exact inOrder.failed
    · exact thawed.failed
  refine calm_then (fun _ => thawed) fun _ => ?_
  apply attempt_then
  refine (freezeGuest_leaves same thawed known purpose active).mono fun result later inOrder => ?_
  apply always_then
  refine calm_under fun _ => ?_
  cases result with
  | ok => exact return_ensures inOrder
  | error => exact throw_ensures inOrder

theorem standby_fine {idleFor : Nat} (serving : facts.serving = true) :
    Fine thread (standby nameOrID address idleFor retries) facts := by
  refine reported_fine serving (by simp) fun id spec view found purpose inOrder known sameID => ?_
  have active : view.reported.state.isActive = true → view.raw.state.isActive = true :=
    fun active => View.reported_active active ▸ active
  split
  · exact standbyActive_leaves sameID found known purpose active
  apply attempt_then
  refine calm_under ?_
  rintro (error | current)
  · exact return_ensures inOrder
  dsimp only
  split
  · exact standbyActive_leaves sameID found known purpose active
  · exact return_ensures inOrder

end

end Dicer.Instance
