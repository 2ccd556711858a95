import Dicer.Concurrency.Machine
import Dicer.Instance.Spec

namespace Dicer.Monitoring

open Concurrency.Machine
open Instance (State RestartPolicy)

/-!
# The health of a guest that is paused

The monitor of a running instance probes its guest in turn, and `Health.after` counts the probes
that fail in a row.  It looks at the recorded state before a probe, without the instance's lock, and
a guest may be paused while the probe runs: by `Pause`, which records it only afterwards, and by a
snapshot, a fork or a standby that fails, which record nothing.  A probe that fails for that counts
like any other.

Monitor and operations are followed as one machine.  An operation holds the instance's lock from its
first action to its last; of what `Instance.Operations` has of it, the steps that pause, resume or
record are kept.  The guest is one that answers every probe during which its vCPUs run.
Times are numbers, and what a probe prints is left out.
-/

inductive Status
  | starting
  | healthy
  | unhealthy
  deriving DecidableEq, Repr

structure Check where
  startPeriod : Nat
  retries : Nat
  deriving DecidableEq, Repr

def defaultRetries : Nat := 3

def Check.withDefaults (check : Check) : Check :=
  if check.retries = 0 then { check with retries := defaultRetries } else check

structure Result where
  healthy : Bool
  finishedAt : Nat
  deriving DecidableEq, Repr

structure Health where
  status : Status
  failingStreak : Nat
  lastCheck : Nat
  deriving DecidableEq, Repr

def Health.new : Health := ⟨.starting, 0, 0⟩

/-- The health after a probe.  Failures during the start period do not count. -/
def Health.after (health : Health) (check : Check) (result : Result) (sinceStart : Nat) : Health :=
  let seen : Health := { health with lastCheck := result.finishedAt }
  if result.healthy then { seen with status := .healthy, failingStreak := 0 }
  else if sinceStart < check.startPeriod then seen
  else
    let failing : Health := { seen with failingStreak := seen.failingStreak + 1 }
    if check.retries ≤ failing.failingStreak then { failing with status := .unhealthy } else failing

/-- A probe that fails leaves the verdict alone while another failure is allowed. -/
theorem Health.after_status {health : Health} {check : Check} {result : Result}
    (verdict : health.status ≠ .unhealthy)
    (allowed : result.healthy = false → health.failingStreak + 1 < check.retries)
    (sinceStart : Nat) :
    (health.after check result sinceStart).status ≠ .unhealthy := by
  unfold Health.after
  split
  · simp
  rename_i failed
  have more := allowed (by simpa using failed)
  split
  · exact verdict
  · simpa [Nat.not_le.mpr more] using verdict

/-! ## The machine -/

/-- Where the operation is that holds the instance's lock. -/
inductive Operation
  | pausing
  | resuming
  | snapshotting
  | retrying
  deriving DecidableEq, Repr

/-- Where the monitor is.  Of a probe under way it is told whether the guest was paused during
it. -/
inductive Probe
  | idle
  | running (paused : Bool)
  | finished (result : Result)
  | handling
  deriving DecidableEq, Repr

/-- What a monitored instance is run with. -/
structure Setting where
  check : Check
  startedAt : Nat
  policy : RestartPolicy

structure Watched where
  recorded : State
  paused : Bool
  operation : Option Operation
  probe : Probe
  health : Health
  stopped : Bool
  deriving DecidableEq

inductive Action
  | look
  | finish (result : Result)
  | skip
  | observe
  | handleUnhealthy (restarts ranFor : Nat)
  | pauseVM
  | recordPaused
  | resumeVM
  | recordRunning
  | snapshotPause
  | snapshotResume (again : Bool)
  | hypervisorFails

namespace Watched

def started : Watched := ⟨.running, false, none, .idle, .new, false⟩

/-- The vCPUs are paused, and so is the guest during a probe under way. -/
def pause (watched : Watched) : Watched :=
  { watched with
    paused := true
    probe := match watched.probe with
      | .running _ => .running true
      | probe => probe }

/-- A verdict of unhealthy ends the instance if its policy restarts failures, or has given up. -/
def handleUnhealthy (setting : Setting) (watched : Watched) (restarts ranFor : Nat) : Watched :=
  let decision := Instance.decideRestart setting.policy ⟨none, some "health check failed"⟩ restarts
    ranFor
  let idle : Watched := { watched with probe := .idle }
  if watched.recorded ≠ .running || (!decision.restart && !decision.gaveUp) then idle
  else { idle with stopped := true, recorded := if decision.restart then .restarting else .failed }

/-- What an action does, if it can happen. -/
def step (setting : Setting) (watched : Watched) : Action → Option Watched
  | .look =>
    if watched.probe = .idle ∧ watched.recorded = .running then
      some { watched with probe := .running watched.paused }
    else none
  | .finish result =>
    match watched.probe with
    | .running paused => if result.healthy || paused
    then some { watched with probe := .finished result } else none
    | _ => none
  -- The monitor is stopped, or the agent is too old to probe.
  | .skip =>
    match watched.probe with
    | .running _ => some { watched with probe := .idle }
    | _ => none
  | .observe =>
    match watched.probe with
    | .finished result =>
      let health := watched.health.after setting.check result
        (result.finishedAt - setting.startedAt)
      some { watched with health := health, probe := if health.status = .unhealthy then .handling else .idle }
    | _ => none
  | .handleUnhealthy restarts ranFor =>
    if watched.probe = .handling ∧ watched.operation = none then
      some (watched.handleUnhealthy setting restarts ranFor)
    else none
  | .pauseVM =>
    if watched.operation = none ∧ watched.recorded = .running then
      some { watched.pause with operation := some .pausing }
    else none
  | .recordPaused =>
    if watched.operation = some .pausing
      then some { watched with recorded := .paused, operation := none } else none
  | .resumeVM =>
    if watched.operation = none ∧ watched.recorded = .paused then
      some { watched with paused := false, operation := some .resuming }
    else none
  | .recordRunning =>
    if watched.operation = some .resuming
      then some { watched with recorded := .running, operation := none } else none
  -- A snapshot is tried again, the guest running in between, while its memory is still being
  -- restored.
  | .snapshotPause =>
    if (watched.operation = none ∨ watched.operation = some .retrying) ∧
        watched.recorded = .running then
      some { watched.pause with operation := some .snapshotting }
    else none
  | .snapshotResume again =>
    if watched.operation = some .snapshotting then
      some { watched with paused := false, operation := if again then some .retrying else none }
    else none
  -- A failure to resume the guest is logged, and leaves it paused.
  | .hypervisorFails => if watched.operation.isSome then some { watched with operation := none }
    else none

/-- A probe that finds the guest paused may fail without making it unhealthy. -/
def tolerates (setting : Setting) (_ : Watched) (_ : Action) (watched : Watched) : Bool :=
  watched.probe ≠ .running true || watched.health.failingStreak + 1 < setting.check.retries

structure Sound (setting : Setting) (watched : Watched) : Prop where
  verdict : watched.health.status ≠ .unhealthy
  stopped : watched.stopped = false
  disturbed : watched.probe = .running true → watched.health.failingStreak + 1 <
    setting.check.retries
  unhandled : watched.probe ≠ .handling
  finished : ∀ result, watched.probe = .finished result → result.healthy = false →
    watched.health.failingStreak + 1 < setting.check.retries

variable {setting : Setting} {watched after : Watched}

/-- The guest may be paused during a probe, as far as that is tolerated. -/
theorem Sound.paused (sound : watched.Sound setting) {operation : Option Operation}
    (tolerated : after.probe = .running true → after.health.failingStreak + 1 <
      setting.check.retries)
    (paused : { watched.pause with operation := operation } = after) : after.Sound setting := by
  subst paused
  have unhandled := sound.unhandled
  refine ⟨sound.verdict, sound.stopped, tolerated, ?_, fun result => ?_⟩
  · unfold pause
    cases named : watched.probe <;> simp_all
  unfold pause
  cases named : watched.probe with
  | finished => simpa [named] using sound.finished result
  | _ => simp

theorem Sound.step (sound : watched.Sound setting) {action : Action}
    (stepped : watched.step setting action = some after)
    (met : tolerates setting watched action after = true) : after.Sound setting := by
  have tolerated : after.probe = .running true → after.health.failingStreak + 1 <
      setting.check.retries := by
    intro running
    simpa [tolerates, running] using met
  cases action with
  | finish =>
    simp only [Watched.step] at stepped
    split at stepped
    · rename_i paused named
      simp only [Option.ite_none_right_eq_some, Option.some.injEq] at stepped
      obtain ⟨allowed, rfl⟩ := stepped
      refine ⟨sound.verdict, sound.stopped, tolerated, by simp, fun other same failed => ?_⟩
      obtain rfl := Probe.finished.inj same
      exact sound.disturbed (by simpa [failed, named] using allowed)
    · simp at stepped
  | skip =>
    simp only [Watched.step] at stepped
    split at stepped
    · cases stepped
      exact ⟨sound.verdict, sound.stopped, tolerated, by simp, by simp⟩
    · simp at stepped
  | observe =>
    simp only [Watched.step] at stepped
    split at stepped
    · rename_i result named
      cases stepped
      have verdict := Health.after_status sound.verdict (sound.finished result named)
        (result.finishedAt - setting.startedAt)
      exact ⟨verdict, sound.stopped, tolerated, by simp [verdict], by simp [verdict]⟩
    · simp at stepped
  | handleUnhealthy => simp [Watched.step, sound.unhandled] at stepped
  | pauseVM | snapshotPause =>
    simp only [Watched.step, Option.ite_none_right_eq_some, Option.some.injEq] at stepped
    exact sound.paused tolerated stepped.2
  | look =>
    simp only [Watched.step, Option.ite_none_right_eq_some, Option.some.injEq] at stepped
    obtain ⟨_, rfl⟩ := stepped
    exact ⟨sound.verdict, sound.stopped, tolerated, by simp, by simp⟩
  | recordPaused | resumeVM | recordRunning | snapshotResume again | hypervisorFails =>
    simp only [Watched.step, Option.ite_none_right_eq_some, Option.some.injEq] at stepped
    obtain ⟨_, rfl⟩ := stepped
    exact { sound with disturbed := tolerated }

/-- In every run in which the guest is paused during a probe only while another failure is allowed,
its health never becomes Unhealthy, and it is never stopped for it. -/
theorem never_unhealthy (reached : Reached (step setting) (tolerates setting) started watched) :
    watched.health.status ≠ .unhealthy ∧ watched.stopped = false := by
  have sound : watched.Sound setting := by
    induction reached with
    | start => exact ⟨by simp [started, Health.new], rfl, by simp [started], by simp [started], by simp [started]⟩
    | step _ stepped met ih => exact ih.step stepped met
  exact ⟨sound.verdict, sound.stopped⟩

/-- A check that was given nothing, and a policy that restarts failures. -/
def ordinary : Setting := ⟨Check.withDefaults ⟨0, 0⟩, 0, ⟨.onFailure, 0⟩⟩

/-- A snapshot is taken while a probe runs, which fails. -/
def disturbed : List Action := [.look, .snapshotPause, .finish ⟨false, 1⟩, .snapshotResume false,
      .observe]

/-- Two probes in a row may be disturbed. -/
theorem never_unhealthy_disturbed : ∃ watched : Watched, watched.health.failingStreak = 2 ∧
    watched.health.status ≠ .unhealthy := by
  have followed : follow (step ordinary) (tolerates ordinary) (disturbed ++ disturbed) started =
    some ⟨.running, false, none, .idle, ⟨.starting, 2, 1⟩, false⟩ := by decide +kernel
  exact ⟨_, rfl, (never_unhealthy (Reached.start.follow followed)).1⟩

/-- Three are too many: a guest that answers whenever its vCPUs run is restarted for its health. -/
theorem unhealthy_for_being_paused : ∃ watched : Watched, Reached (step ordinary)
      (fun _ _ _ => true) started watched ∧ watched.health.status = .unhealthy ∧
      watched.stopped = true := by
  have followed : follow (step ordinary) (fun _ _ _ => true)
      (disturbed ++ disturbed ++ disturbed ++ [.handleUnhealthy 0 0]) started =
    some ⟨.restarting, false, none, .idle, ⟨.unhealthy, 3, 1⟩, true⟩ := by decide +kernel
  exact ⟨_, Reached.start.follow followed, rfl, rfl⟩

end Watched

end Dicer.Monitoring
