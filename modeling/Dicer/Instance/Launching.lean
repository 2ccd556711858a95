import Dicer.Instance.Locking

namespace Dicer.Instance

open Concurrency
open Program (Ensures)

/-!
# Launching a guest, step by step

What an operation does from the moment it has made the instance Starting.  However it ends, by
success or by any of its errors, it leaves the instance in order.
-/

section

variable {capacity : Capacity} {thread : Nat} {id : String} {facts : Facts}
  {view later origin : View} {spec current : Spec}

/-- However the call ends, it leaves the instance in order. -/
abbrev Leaves {Value : Type} (thread : Nat) (id : String) (facts : Facts) (call : Call Value)
    (view : View) : Prop :=
  Under thread id facts call.run (fun _ later => later.InOrder) view

/-- The instance is being launched: it is Starting, or the launch was undone. -/
structure View.Launch (view origin : View) : Prop where
  purpose : view.purpose = origin.purpose
  found : view.found = origin.found
  launches : view.purpose.launches = true
  exited : view.exited = none
  unsupervised : view.supervised = none
  defined : view.spec ≠ none
  state : view.raw.state = .starting ∨ view.raw.state.isDown = true

namespace View.Launch

variable (launch : view.Launch origin)
include launch

theorem failed : view.failed.Launch origin := { launch with }

theorem thawed : view.thawed.Launch origin := { launch with }

theorem removed : (view.write none).Launch origin := { launch with state := .inr rfl }

theorem fail_under {cause : Err} {post : Unit → View → Prop}
    (failed : ∀ later : View, later.InOrder → post () later) :
    Under thread id facts (fail id cause) post view := by
  refine Instance.fail_under (.inl launch.defined) ?_ fun later isOver =>
    failed later (.ofOver isOver launch.unsupervised)
  exact fun hold isPurpose _ => .ends _ rfl (.inl ⟨isPurpose ▸ launch.launches, launch.state⟩)

end View.Launch

variable {pid restarts : Nat} {post : Except Err Unit → View → Prop} {guest : FrozenGuest}

/-- The guest runs, and nobody came about its exit. -/
def View.Runs (view : View) : Prop := view.raw.state.isActive = true ∧ view.exited = none

theorem onError_undone {Value : Type} {call : Call Value} {post : Except Err Value → View → Prop}
    (launched : Under thread id facts call.run (fun result later => match result with
      | .ok value => post (.ok value) later
      | .error _ => later.Launch origin ∧ later.raw.state = .starting) view)
    (failed : ∀ error later, later.Launch origin → post (.error error) later) :
    Under thread id facts (onError (bestEffort (removeRuntimeDir id)) call).run post view := by
  apply onError_ensures
  refine launched.mono ?_
  rintro (error | value) later holds
  · rcases holds with ⟨launch, starting⟩
    apply bestEffort_ensures
    refine removeRuntimeDir_under (.inl ⟨launch.launches, starting⟩) (failed _ _ launch.removed) ?_
    rintro _ gone (rfl | rfl)
    · exact failed _ _ launch.failed
    · exact failed _ _ launch.removed.failed
  · exact holds

section

variable (launch : view.Launch origin) (starting : view.raw.state = .starting)
include launch starting

theorem recordRunning_under {held : Resources}
    (recorded : ∀ later, View.Runs later → post (.ok ()) later)
    (failed : ∀ error, post (.error error) view.failed) :
    Under thread id facts (recordRunning id pid held restarts).run post view := by
  refine writeStatus_under (.inl launch.defined) ?_ (recorded _ ⟨rfl, launch.exited⟩) failed
  exact fun hold _ _ => .runs starting

variable {started : Except Err Nat → View → Prop}
    (launched : ∀ pid later, View.Runs later → started (.ok pid) later)

include launched in
theorem launchBooting_under (same : spec.id = id)
    (failed : ∀ error later, View.Launch later origin → later.raw.state = .starting →
      started (.error error) later) :
    Under thread id facts (launchBooting spec restarts).run started view := by
  subst same
  have fails := fun error => failed error view launch starting
  refine calm_then fails fun _ => ?_
  refine calm_then fails fun _ => ?_
  refine calm_then fails fun _ => ?_
  refine calm_then fails fun _ => ?_
  refine calm_then fails fun pid => ?_
  apply Ensures.bindExcept
  apply onError_ensures
  refine recordRunning_under launch starting ?_ fun error => ?_
  · exact fun later runs => return_ensures (launched pid later runs)
  · exact calm_under fun _ => failed _ _ launch.failed starting

theorem boot_under (same : spec.id = id) (known : view.spec = some current)
    (sameName : spec.name = current.name)
    (discards : view.purpose.boots = true)
    (booted : ∀ later : View, later.InOrder → post (.ok ()) later)
    (failed : ∀ error later, later.Launch origin → post (.error error) later) :
    Under thread id facts (boot spec restarts).run post view := by
  subst same
  refine calm_then (fun error => failed _ _ launch) fun _ => ?_
  refine calm_then (fun error => failed _ _ launch) fun _ => ?_
  refine calm_then (fun error => failed _ _ launch) fun _ => ?_
  apply Ensures.bindExcept
  refine discardStandby_under known sameName (.inl ⟨starting, discards⟩) ?_ ?_
  · refine calm_then (fun error => failed _ _ launch.thawed) fun _ => ?_
    apply Ensures.bindExcept
    refine onError_undone (launchBooting_under launch.thawed starting ?_ rfl ?_) failed
    · exact fun pid later runs => always_ensures
        (supervise_under (booted _ (.active runs.1 (by simp) runs.2)))
    · exact fun error later launch starting => ⟨launch, starting⟩
  · rintro error gone (rfl | rfl)
    · exact failed _ _ launch.failed
    · exact failed _ _ launch.thawed.failed

/-! ## Resuming -/

/-- Who resumes the guest on standby may discard it once it runs. -/
def View.OnStandby (view : View) (spec : Spec) : Prop :=
  (∃ current, view.spec = some current ∧ spec.name = current.name) ∧
    view.purpose.boots = true

variable (own : guest.overlay = none → view.OnStandby spec)
include own

theorem letRun_under
    (returned : ∀ result, ∀ later : View, later.Launch origin → later.raw.state = .starting →
      post result later) :
    Under thread id facts (letRun spec guest pid).run post view := by
  unfold letRun
  split
  · exact calm_under fun result => returned result _ launch starting
  rename_i isOwn
  rcases own isOwn with ⟨⟨current, known, sameName⟩, discards⟩
  refine calm_then (fun error => returned _ _ launch starting) fun _ => ?_
  apply always_ensures
  apply bestEffort_ensures
  refine discardStandby_under known sameName (.inl ⟨starting, discards⟩) ?_ ?_
  · exact returned _ _ launch.thawed starting
  rintro error gone (rfl | rfl)
  · exact returned _ _ launch.failed starting
  · exact returned _ _ launch.thawed.failed starting

include launched

theorem launchRestored_under (same : spec.id = id)
    (failed : ∀ error later, View.Launch later origin → later.raw.state = .starting →
      started (.error error) later) :
    Under thread id facts (launchRestored spec guest).run started view := by
  subst same
  have fails := fun error => failed error view launch starting
  refine calm_then fails fun _ => ?_
  refine calm_then fails fun _ => ?_
  refine calm_then fails fun _ => ?_
  refine calm_then fails fun _ => ?_
  refine calm_then fails fun pid => ?_
  have undone : ∀ error later, View.Launch later origin → later.raw.state = .starting →
      Under thread spec.id facts (terminate spec.id pid) (fun _ => started (.error error)) later :=
    fun error later launch starting => calm_under fun _ => failed _ _ launch starting
  apply Ensures.bindExcept
  apply onError_ensures
  apply Ensures.bindExcept
  refine letRun_under launch starting own ?_
  rintro (error | _) ran launch starting
  · exact undone error _ launch starting
  refine calm_then (fun error => undone error _ launch starting) fun _ => ?_
  refine recordRunning_under launch starting ?_ fun error => undone error _ launch.failed starting
  exact fun later runs => return_ensures (launched pid later runs)

theorem restore_under (same : spec.id = id)
    (failed : ∀ error later, View.Launch later origin → started (.error error) later) :
    Under thread id facts (restore spec guest).run started view := by
  subst same
  refine calm_then (fun error => failed _ _ launch) fun _ => ?_
  refine onError_undone ?_ failed
  split
  · rename_i source _
    apply always_then
    refine calm_under fun _ => ?_
    refine calm_then (fun error => ⟨launch, starting⟩) fun kept => ?_
    apply onError_ensures
    refine calm_then (fun error => calm_under fun _ => ⟨launch, starting⟩) fun _ => ?_
    refine launchRestored_under launch starting launched own rfl ?_
    exact fun error later launch starting => calm_under fun _ => ⟨launch, starting⟩
  · exact launchRestored_under launch starting launched own rfl fun _ _ launch starting =>
      ⟨launch, starting⟩

end

theorem admitInstance_plain {need : Resources} (plain : view.Plain) (same : spec.id = id)
    (launches : view.purpose.launches = true)
    (policy : view.purpose = .policyRestart → view.raw.state = .restarting)
    (admitted : ∀ later : View, later.Launch view → later.raw.state = .starting →
      later.spec = view.spec → post (.ok ()) later)
    (refused : ∀ error, post (.error error) (view.admitted (.error error)))
    (failed : ∀ error, post (.error error) (view.failed.admitted (.error error))) :
    Under thread id facts (admitInstance capacity spec need).run post view := by
  refine admitInstance_under same launches policy ?_ refused failed
  intro defined startable status starting
  have inactive : view.raw.state.isActive = false := by
    cases state : view.raw.state <;> simp_all [State.startable, State.isActive]
  exact admitted _ ⟨rfl, rfl, launches, plain.exited, plain.unsupervised inactive, defined,
    .inl starting⟩ starting rfl

theorem resume_leaves (plain : view.Plain) (inOrder : view.InOrder) (same : spec.id = id)
    (launches : view.purpose.launches = true) (policy : view.purpose ≠ .policyRestart)
    (own : guest.overlay = none → view.OnStandby spec) :
    Leaves thread id facts (resume capacity spec guest) view := by
  subst same
  refine calm_then (fun _ => inOrder) fun _ => ?_
  apply Ensures.bindExcept
  refine admitInstance_plain plain rfl launches (fun isPolicy => absurd isPolicy policy) ?_
    (fun _ => inOrder.admitted _) fun _ => inOrder.failed.admitted _
  intro admitted launch starting sameSpec
  rcases Option.ne_none_iff_exists'.mp launch.defined with ⟨current, known⟩
  apply always_then
  refine setStoppedByUser_under known (.inr ⟨launch.launches, launch.purpose ▸ policy⟩)
    fun now sameName _ => ?_
  have launch : View.Launch { admitted with spec := some now } view :=
    { launch with defined := nofun }
  have own : guest.overlay = none → View.OnStandby { admitted with spec := some now } spec := by
    intro isOwn
    rcases own isOwn with ⟨⟨old, isOld, same⟩, discards⟩
    cases known.symm.trans (sameSpec.trans isOld)
    exact ⟨⟨now, rfl, same.trans sameName.symm⟩, launch.purpose ▸ discards⟩
  have fails : ∀ error, ∀ later : View, later.Launch view →
      Leaves thread spec.id facts (do always (fail spec.id error); throw error : Call Unit) later :=
    fun error later launch => always_then
      (launch.fail_under fun final inOrder => throw_ensures inOrder)
  apply attempt_then
  refine calm_then (fun error => fails error _ launch) fun _ => ?_
  refine restore_under launch starting (fun pid later runs => ?_) own rfl fails
  apply always_then
  exact calm_under fun _ => always_ensures (supervise_under (.active runs.1 (by simp) runs.2))

theorem resumeStandby_leaves (plain : view.Plain) (inOrder : view.InOrder)
    (known : view.spec = some spec) (same : spec.id = id)
    (boots : view.purpose.boots = true) (policy : view.purpose ≠ .policyRestart) :
    Leaves thread id facts (resumeStandby capacity spec) view := by
  refine calm_then (fun _ => inOrder) fun snapshot => ?_
  refine resume_leaves plain inOrder same ?_ policy fun _ => ⟨⟨spec, known, rfl⟩, boots⟩
  cases is : view.purpose <;> simp [is, Purpose.boots, Purpose.launches] at boots ⊢

theorem startLocked_leaves (found : view.AsFound) (same : spec.id = id)
    (purpose : view.purpose = .start ∨ ∃ listed, view.purpose = .bootStart listed) :
    Leaves thread id facts (startLocked capacity spec) view := by
  subst same
  obtain ⟨recovers, policy, replaces, launches, boots⟩ : view.purpose ≠ .recover ∧
      view.purpose ≠ .policyRestart ∧ view.purpose.replacesRestart = true ∧
      view.purpose.launches = true ∧ view.purpose.boots = true := by
    rcases purpose with is | ⟨listed, is⟩ <;>
      simp [is, Purpose.replacesRestart, Purpose.launches, Purpose.boots]
  have inOrder := found.inOrder recovers fun isPolicy => absurd isPolicy policy
  refine storeInstance_then (fun spec known same => ?_) fun _ _ => inOrder
  apply always_then
  refine statusOf_under known same rfl ?_
  split
  · exact throw_ensures inOrder
  apply always_then
  rw [same]
  refine cancelRestart_under ?_
  have plain : View.Plain { view with awaited := false } := { found with }
  have known : View.spec { view with awaited := false } = some spec := known
  apply always_then
  refine onStandby_under known rfl ?_
  split
  · rename_i frozen
    refine resumeStandby_leaves plain (inOrder.gaveUp ?_) known same boots policy
    simp [Purpose.givesUp, replaces, found.frozen frozen]
  apply Ensures.bindExcept
  refine admitInstance_plain plain same launches (fun isPolicy => absurd isPolicy policy) ?_
    (inOrder.refused replaces) (inOrder.failed.refused replaces)
  intro admitted launch starting sameSpec
  apply always_then
  refine setStoppedByUser_under (sameSpec.trans known)
    (.inr ⟨launch.launches, launch.purpose ▸ policy⟩) fun now sameName _ => ?_
  have launch : View.Launch { admitted with spec := some now } { view with awaited := false } :=
    { launch with defined := nofun }
  apply attempt_then
  refine boot_under launch starting same rfl sameName.symm ?_ ?_ ?_
  · rw [show admitted.purpose = view.purpose from launch.purpose]
    exact boots
  · exact fun later inOrder => return_ensures inOrder
  · exact fun error later launch => always_then
      (launch.fail_under fun final inOrder => throw_ensures inOrder)

end

end Dicer.Instance
