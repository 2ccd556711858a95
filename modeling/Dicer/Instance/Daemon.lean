import Dicer.Instance.Operations

namespace Dicer.Instance

open Concurrency

/-!
# The daemon

A daemon that starts loads the store, goes through the instances once, and then serves requests, any
number at a time.  What it schedules itself (restarts, removals, watching VMMs, waking instances on
standby) is served like a request.  A timer may fire at any time and a connection come at any time,
so there are more runs here than of the source.

A crash ends the daemon between any two actions.  VMMs outlive it, and so do the files; a host that
boots again has lost its VMMs and its status files.  A daemon that is closed is one that crashes
once its threads are done.
-/

section

variable (capacity : Capacity)

/-- Resume a guest recorded as running that the last daemon left paused. -/
def resumeLeftPaused (id : String) (status : Status) (pid : Nat) : Op Unit :=
  bestEffort (whenever (status.state = .running) do
    hostCall "ask hypervisor its state"
    let paused ← always (observe fun world => (world.vmm pid).any fun vmm => !vmm.running)
    whenever paused (resumeVM id pid))

/-- The recorded VMM, if there is one and it still runs. -/
def attached (status : Status) : Op (Option Nat) := do
  match status.vmmPID with
  | none => return none
  | some pid => if ← attach pid then return some pid else return none

def operationOf : State → String
  | .starting => "start"
  | .stopping => "stop"
  | state => state.lowercase

/-- What to do about an instance that was active, starting or stopping when the last daemon
ended. -/
def recoverLive (spec : Spec) (status : Status) : Op Unit := do
  match ← attached status, status.state.isActive with
  | some pid, true =>
    resumeLeftPaused spec.id status pid
    supervise spec.id pid
  | none, true =>
    let exit ← readExit
    ended spec status
      { exit with failure := exit.failure.map (· ++ ", while dicerd was not running") }
  | some pid, false =>
    terminate spec.id pid
    fail spec.id (.host (operationOf status.state ++ " interrupted by a daemon restart"))
  | none, false =>
    fail spec.id (.host (operationOf status.state ++ " interrupted by a daemon restart"))

def recoverInstance (spec : Spec) : Call Unit :=
  locked spec.id .recover do
    let status ← always (statusOf spec)
    match status.state with
    | .stopped | .failed | .standby => return ()
    | .restarting => always (scheduleRestart spec.id)
    | _ => always (recoverLive spec status)

def recoverInstances : List Spec → Call Unit
  | [] => return ()
  | spec :: rest => do
    recoverInstance spec
    recoverInstances rest

/-- Go through the instances once, before the API is served. -/
def recover : Call Unit := do
  let instances ← always (Program.perform fun thread world =>
    if world.stage = .loading then [(world.sorted, { world with stage := .recovering thread })]
      else [])
  recoverInstances instances
  always (change fun _ world => { world with stage := .serving })

/-- Start every stopped or failed instance whose restart policy starts it on boot. -/
def startInstancesOnBoot : List Spec → Call Unit
  | [] => return ()
  | spec :: rest => do
    if starts : spec.restart.startsOnBoot spec.stoppedByUser = true then
      let status ← always (statusOf spec)
      if status.state = .stopped ∨ status.state = .failed then
        let _ ← attempt (locked spec.id (.bootStart ⟨spec, starts⟩) (startLocked capacity spec))
        startInstancesOnBoot rest
      else startInstancesOnBoot rest
    else startInstancesOnBoot rest

def startOnBoot : Call Unit := do
  let instances ← always storeInstances
  startInstancesOnBoot capacity instances

/-- What the daemon is asked for, by the API or by itself.  IDs of what is made, addresses and how
often a snapshot is tried again are drawn by the caller of the model. -/
inductive Request
  | create (spec : Spec)
  | update (spec : Spec)
  | rename (nameOrID newName : String)
  | delete (nameOrID : String) (force : Bool)
  | start (nameOrID : String)
  | stop (nameOrID : String)
  | pause (nameOrID : String)
  | unpause (nameOrID : String)
  | resize (nameOrID : String) (want : Resources)
  | standby (nameOrID address : String) (idleFor retries : Nat)
  | createSnapshot (nameOrID name id address : String) (retries : Nat)
  | deleteSnapshot (nameOrID : String)
  | restoreSnapshot (nameOrID : String)
  | forkSnapshot (nameOrID : String) (spec : Spec)
  | forkInstance (source : String) (spec : Spec) (address : String) (retries : Nat)
  | createVolume (volume : Volume)
  | deleteVolume (nameOrID : String)
  | wait (nameOrID : String) (id : Option String) (nextStop : Bool)
  | startOnBoot
  | wake (id : String)
  | exit (spec : Spec) (pid : Nat)
  | unhealthy (spec : Spec) (pid : Nat) (verdict : String)
  | restart (id : String) (pending : Nat)
  | removal (id : String)
  | recover

def Request.call : Request → Call Unit
  | create spec => Instance.create capacity spec
  | update spec => Instance.update capacity spec
  | rename nameOrID newName => Instance.rename nameOrID newName
  | delete nameOrID force => Instance.delete nameOrID force
  | start nameOrID => Instance.start capacity nameOrID
  | stop nameOrID => Instance.stop nameOrID
  | pause nameOrID => Instance.pause nameOrID
  | unpause nameOrID => Instance.unpause nameOrID
  | resize nameOrID want => Instance.resize capacity nameOrID want
  | standby nameOrID address idleFor retries => Instance.standby nameOrID address idleFor retries
  | createSnapshot nameOrID name id address retries =>
    Instance.createSnapshot nameOrID name id address retries
  | deleteSnapshot nameOrID => Instance.deleteSnapshot nameOrID
  | restoreSnapshot nameOrID => Instance.restoreSnapshot capacity nameOrID
  | forkSnapshot nameOrID spec => Instance.forkSnapshot capacity nameOrID spec
  | forkInstance source spec address retries => Instance.forkInstance capacity source spec address
    retries
  | createVolume volume => storeCreateVolume volume
  | deleteVolume nameOrID => storeDeleteVolume nameOrID
  | wait nameOrID id nextStop => waitForStop nameOrID id nextStop
  | startOnBoot => Instance.startOnBoot capacity
  | wake id => Instance.wake capacity id
  | exit spec pid => handleExit spec pid
  | unhealthy spec pid verdict => handleUnhealthy spec pid verdict
  | restart id pending => Instance.restart capacity id pending
  | removal id => deleteFor .removal id false
  | recover => Instance.recover

variable (world : World)

/-- The instance may be acted on: recovery has come to it. -/
def World.settled (id : String) : Bool :=
  world.stage = .serving || world.recovered.contains id

/-- When a request can come.  An update is of a definition the handler read from the store; a
watcher and a monitor are of a VMM that was supervised; a restart and a removal were scheduled. -/
def Request.admits : Request → Bool
  | update spec => world.stage = .serving && world.issued.contains spec.id
  | wake id => world.settled id && world.issued.contains id
  | exit spec pid => world.watchers.contains (spec.id, pid)
  | unhealthy spec pid _ => world.supervised spec.id = some pid
  | restart id pending => world.restarts id = some pending
  | removal id => world.removals.contains id
  | recover => world.stage = .loading
  | _ => world.stage = .serving

inductive Event
  | vmmExits (pid : Nat)
  | guestRuns (pid : Nat)
  | hostBoots
  deriving DecidableEq, Repr

def World.happen : Event → Option World
  | .vmmExits pid => some (world.endVmm pid)
  | .guestRuns pid =>
    match world.vmm pid with
    | some vmm =>
      if vmm.running then
        some { world with runs := Function.update world.runs vmm.disk (world.runs vmm.disk + 1) }
      else none
    | none => none
  | .hostBoots =>
    if world.stage = .loading then some { world with vmms := [], status := fun _ => none } else none

def World.crash : World :=
  { world with
    holds := fun _ => none
    admission := none
    supervised := fun _ => none
    watchers := []
    restarts := fun _ => none
    claims := []
    waiters := []
    removals := []
    stage := .loading
    recovered := []
    epoch := world.epoch + 1
    forking := [] }

def system : System Nat World Request Event where
  program := fun request => do
    let _ ← (request.call capacity).run
    return ()
  admits := fun request world => request.admits world
  event := fun event world => world.happen event
  crash := fun world => some world.crash

end

end Dicer.Instance
