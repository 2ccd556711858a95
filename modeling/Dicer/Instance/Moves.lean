import Dicer.Concurrency.Safety
import Dicer.Instance.Daemon

namespace Dicer.Instance

open FileStore Function

/-!
# What a step of the daemon may do

Every change a thread makes to the world is one of the moves below, with what the code has made sure
of before it.  The programs are shown to make no other move in `Dicer.Instance.Discipline`; what
holds of all runs is then derived from the moves alone.

Disks, processes and the admission lock are left out of it: a step that changes nothing else is a
quiet one.

A lookup of an ID finds the instance with that ID only as long as no instance is named by it, and a
lock is taken by ID.  So the moves are those of runs in which no instance is named by an ID that was
ever given out.
-/

/-- No instance is named by an ID that was given out, to it or to another instance. -/
abbrev NamesApart (_ after : World) : Prop :=
  ∀ spec ∈ after.instances.items, spec.name ∉ after.issued

namespace State

/-- The states a start is allowed from, as the status file has them. -/
def startable : State → Bool
  | stopped | starting | restarting | failed => true
  | _ => false

end State

namespace World

/-- The thread holds the instance's lock. -/
def Mine (world : World) (thread : Nat) (id : String) (hold : Hold) : Prop :=
  world.holds id = some hold ∧ hold.thread = thread

/-- The instance is defined, under this name. -/
def Names (world : World) (id name : String) : Prop :=
  ∃ spec ∈ world.instances.items, spec.id = id ∧ spec.name = name

/-- What the holder of a lock sees to before it gives the lock back.  Recovery sees to it however it
found the instance; a start that is refused may leave a Restarting instance behind. -/
structure Fit (world : World) (id : String) (hold : Hold) : Prop where
  supervises : hold.found.supervised = true ∨ hold.purpose = .recover →
    (world.standing id).supervised = true
  awaits : hold.found.awaited = true ∨ hold.purpose = .recover →
    (world.standing id).awaited = true ∨ 0 < world.refusals ∨
      hold.purpose.givesUp hold.found = true
  tells : hold.found.told = true → (world.standing id).told = true

end World

/-- A hold without its holder's notes about the guest. -/
def Hold.bare (hold : Hold) : Hold :=
  { hold with launched := none, copied := false, frozen := none, forgot := false }

/-- The part of the world the moves are about. -/
structure Core where
  instances : Definitions Spec
  snapshots : Definitions Snapshot
  issued : List String
  status : String → Option Status
  frozen : String → Bool
  holds : String → Option Hold
  supervised : String → Option Nat
  watchers : List (String × Nat)
  restarts : String → Option Nat
  claims : List (Nat × String)
  waiters : List Waiter
  removals : List String
  stage : Stage
  recovered : List String
  halted : List String
  refusals : Nat

def World.core (world : World) : Core where
  instances := world.instances
  snapshots := world.snapshots
  issued := world.issued
  status := world.status
  frozen := fun name => (world.dirs name).standby.isSome
  holds := fun id => (world.holds id).map Hold.bare
  supervised := world.supervised
  watchers := world.watchers
  restarts := world.restarts
  claims := world.claims
  waiters := world.waiters
  removals := world.removals
  stage := world.stage
  recovered := world.recovered
  halted := world.halted
  refusals := world.refusals

/-- Two worlds differ in disks, processes, admission and history alone. -/
structure World.Alike (world after : World) : Prop where
  core : after.core = world.core
  faults : world.faults ≤ after.faults

namespace World.Alike

variable {world after : World} (alike : world.Alike after)

include alike

theorem instances : after.instances = world.instances := congrArg Core.instances alike.core

theorem snapshots : after.snapshots = world.snapshots := congrArg Core.snapshots alike.core

theorem issued : after.issued = world.issued := congrArg Core.issued alike.core

theorem status : after.status = world.status := congrArg Core.status alike.core

theorem frozen (name : String) : (after.dirs name).standby.isSome =
    (world.dirs name).standby.isSome :=
  congrFun (congrArg Core.frozen alike.core) name

theorem holds (id : String) : (after.holds id).map Hold.bare = (world.holds id).map Hold.bare :=
  congrFun (congrArg Core.holds alike.core) id

theorem supervised : after.supervised = world.supervised := congrArg Core.supervised alike.core

theorem watchers : after.watchers = world.watchers := congrArg Core.watchers alike.core

theorem restarts : after.restarts = world.restarts := congrArg Core.restarts alike.core

theorem claims : after.claims = world.claims := congrArg Core.claims alike.core

theorem waiters : after.waiters = world.waiters := congrArg Core.waiters alike.core

theorem removals : after.removals = world.removals := congrArg Core.removals alike.core

theorem stage : after.stage = world.stage := congrArg Core.stage alike.core

theorem recovered : after.recovered = world.recovered := congrArg Core.recovered alike.core

theorem halted : after.halted = world.halted := congrArg Core.halted alike.core

theorem refusals : after.refusals = world.refusals := congrArg Core.refusals alike.core

end World.Alike

/-! ## Moves -/

/-- What the holder of a lock may discard a frozen guest for. -/
def Purpose.mayDiscard (purpose : Purpose) (state : State) : Prop :=
  (state = .starting ∧ purpose.boots = true) ∨ purpose = .stop ∨
    (state.isActive = true ∧ purpose = .standby)

/-- What the holder of a lock may make of the instance's state. -/
inductive Hold.Turns (hold : Hold) (old : State) : State → Prop
  | starts (launches : hold.purpose.launches = true) (startable : old.startable = true)
      (policy : hold.purpose = .policyRestart → old = .restarting) : hold.Turns old .starting
  | runs (starting : old = .starting) : hold.Turns old .running
  | stays (new : State) (was : old.isActive = true) (active : new.isActive = true) :
    hold.Turns old new
  | stops (up : old ≠ .stopped) (purpose : hold.purpose = .stop) : hold.Turns old .stopping
  | ends (new : State) (down : new.isDown = true)
      (may : (hold.purpose.launches = true ∧ (old = .starting ∨ old.isDown = true)) ∨
        hold.purpose ∈ [.standby, .exit, .unhealthy, .policyRestart, .recover]) : hold.Turns old new
  | restarts (found : hold.found.state.isActive = true ∨ hold.found.state = .restarting)
      (purpose : hold.purpose ∈ [.exit, .unhealthy, .policyRestart, .recover]) :
      hold.Turns old .restarting
  | removes (may : (hold.purpose.launches = true ∧ old = .starting) ∨ hold.purpose.ends = true) :
      hold.Turns old .stopped

/-- One change of the world by a thread. -/
inductive Move (thread : Nat) (world : World) : World → Prop
  | quiet {after : World} (alike : world.Alike after) : Move thread world after
  | took (id : String) (purpose : Purpose) (free : world.holds id = none)
      (known : id ∈ world.issued) (settled : purpose ≠ .recover → world.settled id = true)
      (recovering : purpose = .recover → world.stage = .recovering thread) :
      Move thread world (world.took thread id purpose)
  | released (id : String) (hold : Hold) (mine : world.Mine thread id hold)
      (registered : world.supervised id ≠ none → (world.stateIn id).isActive = true)
      (exited : ∀ pid, hold.exited = some pid → world.supervised id ≠ some pid)
      (fit : world.faults = 0 → world.Fit id hold) :
      Move thread world (world.setHold id none)
  | wrote (id : String) (hold : Hold) (status : Status) (mine : world.Mine thread id hold)
      (known : (∃ old, world.status id = some old) ∨ ∃ name, world.Names id name)
      (turns : hold.Turns (world.stateIn id) status.state) :
      Move thread world (world.setStatus id (some status))
  | statusRemoved (id : String) (hold : Hold) (faults : Nat) (mine : world.Mine thread id hold)
      (may : (hold.purpose.launches = true ∧ world.stateIn id = .starting) ∨
      hold.purpose.ends = true)
      (more : world.faults ≤ faults) :
      Move thread world { world.setStatus id none with faults := faults }
  | supervised (id : String) (hold : Hold) (pid : Nat) (mine : world.Mine thread id hold) :
      Move thread world
        { world.noteHold id (fun hold => { hold with launched := none }) with
          supervised := Function.update world.supervised id (some pid)
          watchers := (id, pid) :: world.watchers }
  | checkedExit (id : String) (hold : Hold) (pid : Nat) (mine : world.Mine thread id hold)
      (first : hold.exited = none) :
      Move thread world
        { world.noteHold id (fun hold => { hold with exited := some pid }) with
          watchers := world.watchers.filter (· ≠ (id, pid)) }
  | forgot (id : String) (hold : Hold) (mine : world.Mine thread id hold) :
      Move thread world
        { world.noteHold id (fun hold => { hold with forgot := true }) with
          supervised := Function.update world.supervised id none }
  | discarded (id name : String) (hold : Hold) (faults : Nat) (mine : world.Mine thread id hold)
      (names : world.Names id name) (may : hold.purpose.mayDiscard (world.stateIn id))
      (more : world.faults ≤ faults) :
      Move thread world { world.setDir name { world.dirs name with standby := none } with faults := faults }
  | put (id name : String) (hold : Hold) (frozen : Frozen) (mine : world.Mine thread id hold)
      (names : world.Names id name) (purpose : hold.purpose = .standby)
      (active : (world.stateIn id).isActive = true) (bare : (world.dirs name).standby = none) :
      Move thread world
        { world.setDir name { world.dirs name with standby := some frozen, staged := none } with
          owed := Function.update world.owed id (some frozen.serial) }
  | created (spec : Spec) (forking : List (Nat × Spec)) (serving : world.stage = .serving)
      (free : world.instances.lookup spec.name = none) (fresh : world.isFresh spec.id = true) :
      Move thread world { world with
        instances := world.instances.put spec, issued := spec.id :: world.issued, forking :=
          forking }
  | updated (old spec : Spec) (hold : Hold) (mine : world.Mine thread spec.id hold)
      (member : old ∈ world.instances.items) (sameID : spec.id = old.id)
      (sameName : spec.name = old.name)
      (flag : spec.stoppedByUser = old.stoppedByUser ∨ hold.purpose = .update ∨
        (spec.stoppedByUser = true ∧ hold.purpose = .stop) ∨
        (hold.purpose.launches = true ∧ hold.purpose ≠ .policyRestart)) :
      Move thread world { world with
          instances := world.instances.put spec
          halted := world.haltedUnder spec
          written := (thread, spec) :: world.written }
  | renamed (old spec : Spec) (hold : Hold) (mine : world.Mine thread old.id hold)
      (member : old ∈ world.instances.items) (same : spec = { old with name := spec.name })
      (free : world.instances.lookup spec.name = none) (down : (world.stateIn old.id).isDown = true)
      (bare : (world.dirs old.name).standby = none) (purpose : hold.purpose = .rename) :
      Move thread world { (world.setDir spec.name (world.dirs old.name)).setDir old.name .empty with
          instances := world.instances.rename old spec }
  | deleted (spec : Spec) (hold : Hold) (mine : world.Mine thread spec.id hold)
      (member : spec ∈ world.instances.items)
      (purpose : hold.purpose ∈ [.delete, .removal, .forkDelete])
      (cleared : world.status spec.id = none ∨ 0 < world.faults) :
      Move thread world { world.setDir spec.name .empty with instances := world.instances.delete spec }
  | emptied (spec : Spec) (hold : Hold) (faults : Nat) (mine : world.Mine thread spec.id hold)
      (member : spec ∈ world.instances.items)
      (purpose : hold.purpose ∈ [.delete, .removal, .forkDelete])
      (more : world.faults ≤ faults) :
      Move thread world { world.setDir spec.name .empty with faults := faults }
  | changedSnapshots (snapshots : Definitions Snapshot)
      (taken : ∀ snapshot ∈ snapshots.items, snapshot.spec.id ∈ world.issued)
      (indexed : snapshots.Indexed) :
      Move thread world { world with snapshots := snapshots }
  | restartScheduled (id : String) (hold : Hold) (mine : world.Mine thread id hold) :
      Move thread world { world with
        restarts := Function.update world.restarts id (some world.next), next := world.next + 1 }
  | restartCancelled (id : String) (hold : Hold) (mine : world.Mine thread id hold) :
      Move thread world { world with restarts := Function.update world.restarts id none }
  | restartClaimed (id : String) (pending : Nat) (due : world.restarts id = some pending) :
      Move thread world { world with
        restarts := Function.update world.restarts id none, claims := (thread, id) :: world.claims }
  | removalScheduled (id : String) (hold : Hold) (mine : world.Mine thread id hold) :
      Move thread world { world with removals := id :: world.removals }
  | haltNoted (id : String) (hold : Hold) (mine : world.Mine thread id hold)
      (purpose : hold.purpose = .stop) (down : (world.stateIn id).isDown = true)
      (policy : ∃ spec ∈ world.instances.items, spec.id = id ∧ spec.restart.mode = .unlessStopped) :
      Move thread world { world with halted := id :: world.halted }
  | notified (id : String) (hold : Hold) (mine : world.Mine thread id hold)
      (rests : hold.purpose.ends = true ∨ world.atRest id = true ∨
        ((world.stateIn id).isDown = true ∧ hold.found.state.isDown = false ∧
          hold.purpose ∈ [.exit, .unhealthy, .policyRestart, .recover]) ∨ 0 < world.faults) :
      Move thread world { world with waiters := world.waiters.map (.hear id) }
  | madeWaiter (spec : Spec) (nextStop : Bool) (known : spec.id ∈ world.issued)
      (serving : world.stage = .serving) :
      Move thread world { world with waiters := world.newWaiter thread spec nextStop :: world.waiters }
  | readWaiting (id : String)
      (own : ∀ waiter ∈ world.waiters, waiter.thread = thread →
        waiter.spec.id = id ∧ waiter.phase = .made ∧ waiter.nextStop = false) :
      Move thread world (world.waits thread (if (world.stateIn id).isDown then .sawDown
        else .sawUp))
  | lookedWaiting (spec : Spec)
      (own : ∀ waiter ∈ world.waiters, waiter.thread = thread → waiter.spec = spec ∧
      waiter.phase = .sawDown) :
      Move thread world (world.waits thread
        (if (world.dirs spec.name).standby.isSome then .sawFrozen else .sawStopped))
  | beganWaiting
      (own : ∀ waiter ∈ world.waiters, waiter.thread = thread →
        waiter.phase = .made ∧ waiter.nextStop = true ∨ waiter.phase ∈ [.sawUp, .sawFrozen]) :
      Move thread world (world.waits thread .waiting)
  | returnedWaiting
      (own : ∀ waiter ∈ world.waiters, waiter.thread = thread → waiter.heard = true ∨
      waiter.phase = .sawStopped) :
      Move thread world (world.waits thread .returned)
  | leftAdmission (refusals : Nat) (more : world.refusals ≤ refusals) :
      Move thread world { world with admission := none, refusals := refusals }
  | beganRecovery (loading : world.stage = .loading) :
      Move thread world { world with stage := .recovering thread }
  | served (recovering : world.stage = .recovering thread)
      (all : ∀ spec ∈ world.instances.items, spec.id ∈ world.recovered)
      (previous : ∀ id hold, world.holds id = some hold → hold.purpose ≠ .recover) :
      Move thread world { world with stage := .serving }

/-- A lock is held on, by who took it and for what it was taken. -/
structure Hold.Continues (later hold : Hold) : Prop where
  thread : later.thread = hold.thread
  purpose : later.purpose = hold.purpose
  found : later.found = hold.found

namespace Hold.Continues

theorem refl (hold : Hold) : hold.Continues hold := ⟨rfl, rfl, rfl⟩

theorem ofBare {later hold : Hold} (same : later.bare = hold.bare) : later.Continues hold := by
  simp only [bare, Hold.mk.injEq] at same
  exact ⟨same.1, same.2.1, same.2.2.1⟩

end Hold.Continues

/-- A lock is free and stays free, is taken, is given back, or is held on. -/
inductive World.LockMoves (world : World) (thread : Nat) (id : String) (after : World) : Prop
  | free (before : world.holds id = none) (now : after.holds id = none)
  | takes (purpose : Purpose) (before : world.holds id = none) (issued : id ∈ world.issued)
      (settled : purpose ≠ .recover → world.settled id = true)
      (recovering : purpose = .recover → world.stage = .recovering thread)
      (now : after = world.took thread id purpose)
  | gives (hold : Hold) (mine : world.Mine thread id hold) (now : after = world.setHold id none)
      (registered : world.supervised id ≠ none → (world.stateIn id).isActive = true)
      (fit : world.faults = 0 → world.Fit id hold)
  | holds (hold later : Hold) (before : world.holds id = some hold)
      (now : after.holds id = some later) (continues : later.Continues hold)
      (exits : later.exited = hold.exited ∨ world.Mine thread id hold)

namespace World

theorem holds_noteHold (world : World) (id other : String) (note : Hold → Hold) :
    (world.noteHold id note).holds other =
      if other = id then (world.holds id).map note else world.holds other := by
  simp [noteHold, setHold, update_apply]

theorem holds_took (world : World) (thread : Nat) (id : String) (purpose : Purpose) :
    (world.took thread id purpose).holds id = some (.taken thread purpose (world.standing id)) :=
  update_self ..

end World

theorem Move.lockMoves {thread : Nat} {world after : World} (move : Move thread world after)
    (id : String) : world.LockMoves thread id after := by
  have kept : after.holds id = world.holds id → world.LockMoves thread id after := by
    intro same
    cases held : world.holds id with
    | none => exact .free held (same.trans held)
    | some hold => exact .holds hold hold held (same.trans held) (.refl hold) (.inl rfl)
  have noted : ∀ {other : String} {hold : Hold} (note : Hold → Hold), world.Mine thread other hold →
      after.holds = (world.noteHold other note).holds → (note hold).Continues hold →
      world.LockMoves thread id after := by
    intro other hold note mine same continues
    have now : after.holds id = (world.noteHold other note).holds id := congrFun same id
    rw [World.holds_noteHold] at now
    split at now
    · rename_i isOther
      subst isOther
      rw [mine.1, Option.map_some] at now
      exact .holds hold (note hold) mine.1 now continues (.inr mine)
    · exact kept now
  cases move with
  | quiet alike =>
    have same := alike.holds id
    cases before : world.holds id <;> cases now : after.holds id <;> simp [before, now] at same
    · exact .free before now
    rename_i hold later
    refine .holds hold later before now (.ofBare same) (.inl ?_)
    simpa [Hold.bare] using congrArg Hold.exited same
  | took other purpose free issued settled recovering =>
    by_cases same : id = other
    · subst same
      exact .takes purpose free issued settled recovering rfl
    · exact kept (update_of_ne same ..)
  | released other hold mine registered _ fit =>
    by_cases same : id = other
    · subst same
      exact .gives hold mine rfl registered fit
    · exact kept (update_of_ne same ..)
  | supervised _ _ _ mine | checkedExit _ _ _ mine | forgot _ _ mine =>
    exact noted _ mine rfl ⟨rfl, rfl, rfl⟩
  | _ => exact kept rfl

theorem Move.held_before {thread : Nat} {world after : World} (move : Move thread world after)
    {id : String} {hold : Hold} (held : after.holds id = some hold) :
    (∃ purpose, hold = .taken thread purpose (world.standing id) ∧
      after = world.took thread id purpose ∧ world.holds id = none ∧ id ∈ world.issued ∧
      (purpose ≠ .recover → world.settled id = true) ∧
      (purpose = .recover → world.stage = .recovering thread)) ∨
    ∃ old, world.holds id = some old ∧ hold.Continues old := by
  cases move.lockMoves id with
  | free _ now => exact nomatch now.symm.trans held
  | takes purpose before issued settled recovering now =>
    subst now
    cases (world.holds_took thread id purpose).symm.trans held
    exact .inl ⟨purpose, rfl, rfl, before, issued, settled, recovering⟩
  | gives _ _ now => simp [now, World.setHold] at held
  | holds old later before now continues =>
    cases now.symm.trans held
    exact .inr ⟨old, before, continues⟩

end Dicer.Instance
