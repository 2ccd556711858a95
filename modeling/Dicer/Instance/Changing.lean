import Dicer.Instance.Ending

namespace Dicer.Instance

open Concurrency
open Program (Ensures)

/-!
# Changes to an instance, step by step

Operations that change an instance's definition or its size, take snapshots of it, or make instances
of them.
-/

section

variable {capacity : Capacity} {thread : Nat} {id : String} {facts : Facts} {view later : View}
    {spec current : Spec}

theorem create_fine (serving : facts.serving = true) :
    Fine thread (create capacity spec) facts := by
  refine checked_then (fun _ => trivial) fun _ => ?_
  refine calm_then_free (fun _ => trivial) fun _ => ?_
  refine calm_then_free (fun _ => trivial) fun _ => ?_
  refine calm_then_free (fun _ => trivial) fun _ => ?_
  exact storeCreateInstance_free serving trivial fun _ => trivial

theorem update_fine {updated : Spec} (known : updated.id ∈ facts.known) :
    Fine thread (update capacity updated) facts := by
  refine locked_fine known (by simp) fun view found purpose inOrder => ?_
  refine storeInstance_then (fun current isKnown _ => ?_) fun _ _ => inOrder
  split
  · exact throw_ensures inOrder
  rename_i sameName
  apply always_then
  refine calm_under fun status => ?_
  refine calm_then (fun _ => inOrder) fun _ => ?_
  refine calm_then (fun _ => inOrder) fun _ => ?_
  refine calm_then (fun _ => inOrder) fun _ => ?_
  refine storeUpdateInstance_under isKnown rfl (not_not.mp sameName)
    (.inr (.inl purpose)) ?_ fun _ => inOrder
  refine View.AsFound.inOrder (found.redefined isKnown updated) ?_ ?_
  all_goals simp [purpose]

variable {nameOrID address : String} {want : Resources} {retries : Nat}

theorem rename_fine {newName : String} (serving : facts.serving = true) :
    Fine thread (rename nameOrID newName) facts := by
  refine reported_fine serving (by simp) fun id spec view found purpose inOrder known sameID => ?_
  split
  · exact throw_ensures inOrder
  rename_i isRenameable
  split
  · exact return_ensures inOrder
  have down : view.reported.state.isDown = true := by
    cases state : view.reported.state <;> simp_all [renameable, State.isDown]
  have awake : view.reported.state ≠ .standby := fun standby =>
    by simp [standby, State.isDown] at down
  rw [View.reported_awake awake] at down
  rw [congrArg storeRenameInstance sameID]
  refine storeRenameInstance_under known rfl purpose down (View.reported_bare awake down) ?_
    fun _ => inOrder
  refine View.AsFound.inOrder (found.redefined known _) ?_ ?_
  all_goals simp [purpose]

theorem View.InOrder.rewritten {status : Status} (inOrder : view.InOrder)
    (active : status.state.isActive = true) (was : view.raw.state.isActive = true) :
    (view.write (some status)).InOrder where
  registered := fun _ => active
  exited := inOrder.exited
  supervises := fun unfaulted found _ => inOrder.supervises unfaulted found was
  awaits := fun _ _ restarting => absurd restarting (State.up_of_active active).2.1
  tells := by
    intro _ _ rests
    have down : status.state.isDown = true := (Bool.and_eq_true_iff.mp rests).1
    simp [State.up_of_active active] at down

theorem setPaused_fine {source target : State} {ask : String → Nat → Call Unit}
    (serving : facts.serving = true) (was : source.isActive = true)
    (active : target.isActive = true) [∀ id pid, Calm (ask id pid).run] :
    Fine thread (setPaused nameOrID source target ask) facts := by
  refine reported_fine serving (by simp) fun id spec view found purpose inOrder known sameID => ?_
  split
  · exact throw_ensures inOrder
  rename_i isSource
  have was : view.raw.state.isActive = true := by
    have reported : view.reported.state.isActive = true := not_not.mp isSource ▸ was
    exact View.reported_active reported ▸ reported
  refine calm_then (fun _ => inOrder) fun pid => ?_
  refine calm_then (fun _ => inOrder) fun _ => ?_
  refine calm_then (fun _ => inOrder) fun _ => ?_
  refine transition_under sameID (View.recorded_of_up (State.up_of_active was).2.2) ?_ ?_
    (fun _ _ => inOrder) fun _ => inOrder.failed
  · exact fun hold _ _ => .stays _ was active
  · exact fun status isTarget => inOrder.rewritten (isTarget ▸ active) was

theorem pause_fine (serving : facts.serving = true) : Fine thread (pause nameOrID) facts :=
  setPaused_fine serving rfl rfl

theorem unpause_fine (serving : facts.serving = true) : Fine thread (unpause nameOrID) facts :=
  setPaused_fine serving rfl rfl

theorem reserve_resizing {need : Resources} (same : spec.id = id) (inOrder : view.InOrder)
    (active : view.raw.state.isActive = true) {post : Except Err Unit → View → Prop}
    (reserved : ∀ status : Status, status.state = .running → post (.ok ())
      (view.write (some status)))
    (failed : ∀ error, ∀ later : View, later.InOrder → post (.error error) later) :
    Under thread id facts (reserve capacity spec need).run post view :=
  reserve_under same active (View.recorded_of_up (State.up_of_active active).2.2) reserved
    (fun error => failed error _ (inOrder.admitted _))
    fun error => failed error _ (inOrder.failed.admitted _)

theorem storeResized_leaves (same : spec.id = id) (known : view.spec = some spec)
    (inOrder : view.InOrder) {post : Except Err Unit → View → Prop}
      (written : ∀ now : Spec, View.InOrder { view with spec := some now } → post (.ok ())
      { view with spec := some now }) (failed : ∀ error, post (.error error) view) :
    Under thread id facts (storeUpdateInstance { spec with
      vcpus := want.vcpus, memoryBytes := want.memoryBytes }).run post view := by
  refine storeUpdateInstance_under known ?_ ?_ (.inl ?_) (written _ ?_) failed
  · exact same
  · rfl
  · rfl
  refine { inOrder with awaits := ?_, tells := ?_ }
  · exact fun unfaulted found restarting _ => inOrder.awaits unfaulted found restarting
      (by simp [known])
  · intro unfaulted told rests
    exact inOrder.tells unfaulted told (view.rests_redefined known _ ▸ rests)

theorem resizeHeld_leaves {held : Resources} (same : spec.id = id) (inOrder : view.InOrder)
    (known : view.spec = some spec) (active : view.raw.state.isActive = true) :
    Leaves thread id facts (resizeHeld capacity spec held want) view := by
  apply Ensures.bindExcept
  refine reserve_resizing same inOrder active ?_ fun _ _ inOrder => inOrder
  intro status running
  have isActive : status.state.isActive = true := by rw [running]; rfl
  have inOrder := inOrder.rewritten isActive active
  have known : (view.write (some status)).spec = some spec := known
  apply always_then
  refine calm_under ?_
  rintro (error | _)
  · dsimp only
    split
    · apply Ensures.bindExcept
      refine reserve_resizing same inOrder isActive ?_ fun _ _ inOrder => inOrder
      exact fun status running => throw_ensures (inOrder.rewritten (by rw [running]; rfl) isActive)
    · apply Ensures.bindExcept
      refine storeResized_leaves same known inOrder ?_ fun _ => inOrder
      exact fun now inOrder => throw_ensures inOrder
  · apply Ensures.bindExcept
    refine storeResized_leaves same known inOrder ?_ fun _ => inOrder
    intro now inOrder
    refine reserve_resizing same inOrder isActive ?_ fun _ _ inOrder => inOrder
    exact fun status running => inOrder.rewritten (by rw [running]; rfl) isActive

theorem resize_fine (serving : facts.serving = true) :
    Fine thread (resize capacity nameOrID want) facts := by
  refine reported_fine serving (by simp) fun id spec view found purpose inOrder known sameID => ?_
  split
  · exact throw_ensures inOrder
  rename_i isRunning
  have active : view.raw.state.isActive = true := by
    have reported : view.reported.state.isActive = true := by rw [not_not.mp isRunning]; rfl
    exact View.reported_active reported ▸ reported
  split
  · exact throw_ensures inOrder
  split
  · exact return_ensures inOrder
  refine calm_then (fun _ => inOrder) fun pid => ?_
  refine calm_then (fun _ => inOrder) fun _ => ?_
  exact resizeHeld_leaves sameID inOrder known active

/-! ## Snapshots -/

theorem writeSnapshot_free {post : Except Err Snapshot → Facts → Prop} (known : id ∈ facts.known)
    (written : ∀ snapshot : Snapshot, snapshot.spec.id = id → post (.ok snapshot) facts)
    (failed : ∀ error, post (.error error) facts) :
    Free thread (writeSnapshot id address retries).run post facts := by
  refine locked_free known (by simp) fun view found purpose => ?_
  have inOrder : view.InOrder := found.inOrder (by simp [purpose]) (by simp [purpose])
  have fails : ∀ error, view.InOrder ∧ post (.error error) facts := fun error =>
    ⟨inOrder, failed error⟩
  refine storeInstance_then (fun spec _ sameID => ?_) fun error _ => fails error
  apply always_then
  refine calm_under fun status => ?_
  dsimp only
  split
  case h_1 | h_2 =>
    split
    · exact throw_ensures (fails _)
    split
    · exact throw_ensures (fails _)
    refine calm_then fails fun _ => ?_
    refine calm_then fails fun overlay => ?_
    exact return_ensures ⟨inOrder, written _ sameID⟩
  case h_3 | h_4 =>
    apply always_then
    refine calm_under ?_
    rintro (_ | disk)
    · exact throw_ensures (fails _)
    refine calm_then fails fun _ => ?_
    exact return_ensures ⟨inOrder, written _ sameID⟩
  case h_5 => exact throw_ensures (fails _)

theorem createSnapshot_fine {name snapshotID : String} (serving : facts.serving = true) :
    Fine thread (createSnapshot nameOrID name snapshotID address retries) facts := by
  refine storeInstance_then_free serving (fun _ => trivial) fun spec => ?_
  refine calm_then_free (fun _ => trivial) fun _ => ?_
  apply attempt_then
  refine storeSnapshot_free serving (fun _ => throw_ensures trivial) fun _ => ?_
  refine calm_then_free (fun _ => trivial) fun _ => ?_
  apply Ensures.bindExcept
  refine writeSnapshot_free List.mem_cons_self (fun snapshot same => ?_) fun _ => trivial
  exact storeCreateSnapshot_free (by simp [Facts.knowing, same]) fun _ => trivial

theorem deleteSnapshot_fine (serving : facts.serving = true) :
    Fine thread (deleteSnapshot nameOrID) facts := by
  apply Ensures.bindExcept
  refine storeSnapshot_free serving (fun snapshot => ?_) fun _ => trivial
  refine locked_left List.mem_cons_self (by simp) (fun _ => trivial) fun view found purpose => ?_
  exact storeDeleteSnapshot_under fun _ => found.inOrder (by simp [purpose]) (by simp [purpose])

theorem restoreSnapshot_fine (serving : facts.serving = true) :
    Fine thread (restoreSnapshot capacity nameOrID) facts := by
  apply Ensures.bindExcept
  refine storeSnapshot_free serving (fun snapshot => ?_) fun _ => trivial
  refine locked_fine List.mem_cons_self (by simp) fun view found purpose inOrder => ?_
  refine storeInstance_then (fun spec known sameID => ?_) fun _ _ => inOrder
  apply always_then
  refine calm_under fun status => ?_
  split
  · exact throw_ensures inOrder
  split
  · exact throw_ensures inOrder
  apply always_then
  rw [sameID]
  refine cancelRestart_under ?_
  have inOrder := inOrder.gaveUp (by simp [purpose, Purpose.givesUp])
  split
  · unfold restoreMemory
    split
    · exact throw_ensures inOrder
    refine calm_then (fun _ => inOrder) fun _ => ?_
    refine resume_leaves { found with } inOrder sameID ?_ ?_ (by rintro ⟨⟩)
    all_goals simp [purpose, Purpose.launches]
  · refine calm_then (fun _ => inOrder) fun _ => return_ensures inOrder

theorem wake_fine (known : id ∈ facts.known) : Fine thread (wake capacity id) facts := by
  refine locked_fine known (by simp) fun view found purpose inOrder => ?_
  refine storeInstance_then (fun spec isKnown sameID => ?_) fun _ _ => inOrder
  apply always_then
  refine calm_under fun status => ?_
  split
  · exact return_ensures inOrder
  apply always_then
  refine onStandby_under isKnown rfl ?_
  split
  · exact resumeStandby_leaves found.toPlain inOrder isKnown sameID (by simp [purpose, Purpose.boots])
      (by simp [purpose])
  · exact throw_ensures inOrder

theorem fork_fine {frozen : FrozenGuest} (serving : facts.serving = true)
    (copied : frozen.overlay ≠ none) : Fine thread (fork capacity spec frozen) facts := by
  apply Ensures.bindExcept
  refine storeCreateInstance_free serving ?_ fun _ => trivial
  have ends : ∀ error, Fine thread (do
      always (bestEffort (deleteFor .forkDelete spec.id true))
      always (endFork spec none)
      throw error : Call Unit) (facts.knowing [spec.id]) := by
    intro error
    apply always_then
    apply bestEffort_ensures
    refine deleteFor_free (by simp) List.mem_cons_self fun _ => ?_
    exact always_then (calm_free fun _ => throw_ensures trivial)
  have made : ∀ made, Fine thread (always (endFork spec made)) (facts.knowing [spec.id]) :=
    fun made => always_ensures (calm_free fun _ => trivial)
  apply attempt_then
  unfold runFork
  split
  · exact calm_then_free ends fun _ => return_ensures (made _)
  refine locked_left List.mem_cons_self (by simp) ?_ fun view found purpose => ?_
  · rintro (error | disk)
    · exact ends error
    · exact made disk
  have inOrder : view.InOrder := found.inOrder (by simp [purpose]) (by simp [purpose])
  apply Ensures.bindExcept
  refine (resume_leaves found.toPlain inOrder rfl ?_ ?_ fun own => absurd own copied).mono
    fun result later inOrder => ?_
  · simp [purpose, Purpose.launches]
  · simp [purpose]
  cases result with
  | error => exact inOrder
  | ok => exact calm_then (fun _ => inOrder) fun _ => return_ensures inOrder

theorem forkSnapshot_fine (serving : facts.serving = true) :
    Fine thread (forkSnapshot capacity nameOrID spec) facts := by
  apply Ensures.bindExcept
  refine storeSnapshot_free serving (fun snapshot => ?_) fun _ => trivial
  refine calm_then_free (fun _ => trivial) fun _ => ?_
  refine calm_then_free (fun _ => trivial) fun _ => ?_
  exact fork_fine serving nofun

theorem forkInstance_fine {source : String} (serving : facts.serving = true) :
    Fine thread (forkInstance capacity source spec address retries) facts := by
  refine storeInstance_then_free serving (fun _ => trivial) fun asked => ?_
  refine calm_then_free (fun _ => trivial) fun _ => ?_
  refine calm_then_free (fun _ => trivial) fun _ => ?_
  refine calm_then_free (fun _ => trivial) fun _ => ?_
  refine calm_then_free (fun _ => trivial) fun _ => ?_
  apply Ensures.bindExcept
  refine writeSnapshot_free List.mem_cons_self (fun snapshot _ => ?_) fun _ => trivial
  exact fork_fine serving nofun

end

end Dicer.Instance
