import Dicer.Concurrency.Locked
import Dicer.Hypervisor.Memory
import Dicer.Instance.Operations

namespace Dicer.Sizing

open Concurrency Concurrency.Calls
open Concurrency.Locked (locked look put mayPut onItem putShared)
open Instance (Spec Status State Resources Capacity)

/-!
# The sizes of guests

What an instance holds of the host is what its status file says, and what its guest has is up to its
VMM: what it was started with, what it was restored with, and what it was asked for since.  Here the
operations on instances are followed only as far as they write the one or change the other.
`Instance.Operations` has them whole, over a world that does not tell what a guest has.
Everything else on the host that may fail along the way is a step that may fail; writes of the
status file succeed.

An instance is given by its ID.  Its lock is held by each operation as in the source; the lock of
admission is left out, since nothing here depends on two admissions keeping apart.
-/

/-- What can be resized. -/
inductive Resource
  | vcpus
  | memory
  deriving DecidableEq, Repr

/-- Why an operation fails. -/
inductive Failure
  | notFound
  | invalidState
  | invalidArgument
  | noMaximum (resource : Resource)
  | aboveMaximum (resource : Resource)
  | unsupported (resource : Resource)
  | noRoom (committed need : Resources)
  /-- The hypervisor refuses a size before anything changed. -/
  | refused
  | host (step : String)
  deriving DecidableEq, Repr

/-- A size a VMM is asked for. -/
inductive Ask
  | vcpus (count : Nat)
  | memory (bytes : Nat)
  deriving DecidableEq, Repr

def Ask.resource : Ask → Resource
  | vcpus _ => .vcpus
  | memory _ => .memory

/-- The guest of a VMM: the sizes it last accepted without an error, those it was last asked for
without refusing them, and those it has.  Until it is asked for others, they are the sizes it was
started or restored with. -/
structure Guest where
  accepted : Resources
  asked : Resources
  has : Resources
  asks : List Ask
  deriving DecidableEq, Repr

def Guest.launched (resources : Resources) : Guest := ⟨resources, resources, resources, []⟩

/-- A guest frozen to disk, with the sizes recorded for it and those it has. -/
structure Frozen where
  need : Resources
  has : Resources
  deriving DecidableEq, Repr

structure Machine where
  spec : Spec
  status : Status
  guest : Option Guest
  standby : Option Frozen

/-- A memory snapshot of an instance. -/
structure Snapshot where
  name : String
  instanceID : String
  frozen : Frozen
  deriving DecidableEq, Repr

/-- The IDs of the stored definitions, and the stored snapshots. -/
structure Shared where
  instances : List String
  snapshots : List Snapshot

abbrev World := Locked.World Nat String Machine Shared

abbrev Op := Program Nat World

abbrev Call := Calls.Call Nat World Failure

namespace Machine

/-- An instance that is down is on standby if there is a frozen guest. -/
def reported (machine : Machine) : Status :=
  if machine.status.state.isDown && machine.standby.isSome
    then { machine.status with state := .standby }
  else machine.status

def held (machine : Machine) : Resources := machine.status.heldResources

def record (status : Status) (machine : Machine) : Machine := { machine with status := status }

def running (held : Resources) : Status :=
  { Status.stopped with state := .running, vcpus := held.vcpus, memoryBytes := held.memoryBytes }

end Machine

variable (id : String)

def definition : Call Spec :=
  observe fun world => if id ∈ world.shared.instances then .ok (world.items id).spec
    else .error .notFound

def storeUpdateInstance (spec : Spec) : Call Unit :=
  mayPut id (.host "update instance") fun machine => { machine with spec := spec }

def statusOf : Op Status := look id Machine.reported

def transitionWith (target : State) (update : Status → Status) : Call Unit := do
  let status ← always (statusOf id)
  if status.state ≠ target ∧ !status.state.canTransitionTo target then throw .invalidState
  else always (put id (Machine.record (update { status with state := target, stateError := "" })))

/-- What instances hold between them.  Whether one that is down is on standby makes no
difference. -/
def allocated : List String → Resources → Op Resources
  | [], total => return total
  | other :: rest, total => do
    let held ← observe fun world => (world.items other).held
    allocated rest (total.add held)

def checkRoom (capacity : Capacity) (id : String) (need : Resources) : Call Unit :=
  whenever capacity.limited do
    let others ← always (observe fun world => world.shared.instances.filter fun other => other ≠ id)
    let total ← always (allocated others .zero)
    if (total.add need).fits capacity.allocatable then return () else throw (.noRoom total need)

def admitInstance (capacity : Capacity) (id : String) (need : Resources) : Call Unit := do
  let _ ← definition id
  checkRoom capacity id need
  mayFail (.host "check ports and volumes")
  transitionWith id .starting (Instance.holding need)

def reserve (capacity : Capacity) (id : String) (need : Resources) : Call Unit := do
  checkRoom capacity id need
  transitionWith id .running (Instance.holding need)

def removeRuntimeDir : Call Unit := mayPut id (.host "remove runtime directory")
    (Machine.record .stopped)

def discardStandby : Call Unit :=
  mayPut id (.host "discard standby") fun machine => { machine with standby := none }

def launch (resources : Resources) : Call Unit :=
  mayPut id (.host "start vm") fun machine => { machine with guest := some (.launched resources) }

def terminate : Op Unit := put id fun machine => { machine with guest := none }

def recordRunning (held : Resources) : Op Unit := put id (Machine.record (Machine.running held))

def fail : Op Unit :=
  put id fun machine => machine.record { machine.status.forgetProcess with state := .failed }

/-- A guest that ended by itself is restarted or not, as its policy decides. -/
def ended : Op Unit :=
  onItem id fun machine => [State.stopped, .failed, .restarting].map fun state =>
    ((), machine.record { machine.status.forgetProcess with state := state })

/-- A VMM is started with the memory that its hypervisor makes of the definition's; what the
instance is recorded to hold is the definition's own. -/
def boot (id : String) (spec : Spec) : Call Unit := do
  mayFail (.host "resolve what to boot")
  discardStandby id
  onError (bestEffort (removeRuntimeDir id)) do
    mayFail (.host "set up network, shares and disks")
    match Hypervisor.configure spec with
    | .error error => throw (.host error.message)
    | .ok vm =>
      launch id ⟨spec.vcpus, vm.bootBytes⟩
      always (recordRunning id spec.resources)

/-- A VMM is restored with the sizes the guest was frozen with. -/
def restore (frozen : Frozen) (onStandby : Bool) : Call Unit :=
  onError (bestEffort (removeRuntimeDir id)) do
    mayFail (.host "set up network and disks")
    launch id frozen.has
    onError (terminate id) do
      mayFail (.host "resume vm")
      whenever onStandby (always (bestEffort (discardStandby id)))
      mayFail (.host "call the guest's agent")
      always (recordRunning id frozen.need)

section

variable (capacity : Capacity) (id : String)

/-- Start a guest that was admitted; if that fails, so has the instance. -/
def orFail (call : Call Unit) : Call Unit :=
  onError (fail id) call

def resume (frozen : Frozen) (onStandby : Bool) : Call Unit := do
  mayFail (.host "find the hypervisor of the snapshot")
  admitInstance capacity id frozen.need
  orFail id (restore id frozen onStandby)

def startLocked : Call Unit := do
  let spec ← definition id
  let status ← always (statusOf id)
  if status.state.isActive then throw .invalidState
  else
    match ← always (look id Machine.standby) with
    | some frozen => resume capacity id frozen true
    | none => do
      admitInstance capacity id spec.resources
      orFail id (boot id spec)

/-! ## Operations -/

variable (spec : Spec)

def create : Op Unit :=
  Program.perform fun _ world =>
    if id ∉ world.shared.instances ∧ world.holder id = none then
      [((), { world with
        items := Function.update world.items id ⟨spec, .stopped, none, none⟩
        shared := { world.shared with instances := id :: world.shared.instances } })]
    else []

def update (updated : Spec) : Call Unit :=
  locked id do
    let current ← definition id
    let status ← always (statusOf id)
    if status.state ≠ .stopped ∧ !current.onlyPoliciesDiffer updated then throw .invalidState
    else if updated.validate.toBool then storeUpdateInstance id updated
    else throw .invalidArgument

def stop : Call Unit :=
  locked id do
    let status ← always (statusOf id)
    discardStandby id
    match status.state with
    | .stopped | .standby => return ()
    | _ =>
      transitionWith id .stopping fun status => status
      always (terminate id)
      removeRuntimeDir id

def delete (force : Bool) : Call Unit :=
  locked id do
    let status ← always (statusOf id)
    if status.state.isActive && !force then throw .invalidState
    else
      always (terminate id)
      always (bestEffort (removeRuntimeDir id))
      always (putShared fun shared => { shared with instances := shared.instances.erase id })

/-- Pause or resume the guest, and record it. -/
def setPaused (source target : State) : Call Unit :=
  locked id do
    let status ← always (statusOf id)
    if status.state ≠ source then throw .invalidState
    else
      mayFail (.host "ask the hypervisor")
      transitionWith id target fun status => status

/-- Freeze an active guest, recording what its instance holds. -/
def freeze : Call Frozen := do
  let status ← always (statusOf id)
  if !status.state.isActive then throw .invalidState
  else
    mayFail (.host "snapshot vm")
    match ← always (look id Machine.guest) with
    | none => throw (.host "connect")
    | some guest => return ⟨⟨status.vcpus, status.memoryBytes⟩, guest.has⟩

def standby (id : String) : Call Unit :=
  locked id do
    discardStandby id
    let frozen ← freeze id
    always (terminate id)
    onError (fail id) (mayPut id (.host "put standby in place") fun machine =>
      { machine with standby := some frozen })
    removeRuntimeDir id

def createSnapshot (id name : String) : Call Unit := do
  let frozen ← locked id (freeze id)
  always (putShared fun shared => { shared with snapshots := ⟨name, id, frozen⟩ :: shared.snapshots })

def storeSnapshot (name : String) : Call Snapshot :=
  observe fun world => match world.shared.snapshots.find? fun snapshot => snapshot.name = name with
    | some snapshot => .ok snapshot
    | none => .error .notFound

def restoreSnapshot (name : String) : Call Unit := do
  let snapshot ← storeSnapshot name
  locked snapshot.instanceID do
    let status ← always (statusOf snapshot.instanceID)
    if status.state.isActive ∨ status.state = .standby then throw .invalidState
    else resume capacity snapshot.instanceID snapshot.frozen false

def fork (frozen : Frozen) : Call Unit := do
  always (create id spec)
  locked id (resume capacity id frozen false)

def forkSnapshot (name id : String) (spec : Spec) : Call Unit := do
  let snapshot ← storeSnapshot name
  fork capacity id spec snapshot.frozen

def forkInstance (source id : String) (spec : Spec) : Call Unit := do
  let frozen ← locked source (freeze source)
  fork capacity id spec frozen

/-- A VMM has exited, or is ended for its health. -/
def handleEnd : Call Unit :=
  locked id (always do
    terminate id
    ended id)

def restart : Call Unit :=
  locked id do
    let spec ← definition id
    let status ← always (statusOf id)
    if status.state ≠ .restarting then return ()
    else onError (ended id) do
      admitInstance capacity id spec.resources
      boot id spec

/-- Whether the VMM of an active instance still runs is seen only then. -/
def recoverInstance : Call Unit :=
  locked id do
    let status ← always (statusOf id)
    match status.state with
    | .stopped | .failed | .standby | .restarting => return ()
    | .running | .paused =>
      match ← attempt (mayFail (.host "attach")) with
      | .ok _ => return ()
      | .error _ => always (ended id)
    | _ =>
      always (terminate id)
      always (fail id)

/-! ## Resizing -/

/-- Whether an instance that holds some sizes can be given others. -/
def checkResize (held want : Resources) : Except Failure Unit :=
  if want.vcpus ≠ held.vcpus ∧ spec.maxVCPUs = 0 then throw (.noMaximum .vcpus)
  else if spec.maxVCPUs < want.vcpus ∧ 0 < spec.maxVCPUs then throw (.aboveMaximum .vcpus)
  else if want.memoryBytes ≠ held.memoryBytes ∧ spec.maxMemoryBytes = 0 then throw
    (.noMaximum .memory)
  else if spec.maxMemoryBytes < want.memoryBytes ∧ 0 < spec.maxMemoryBytes then throw
    (.aboveMaximum .memory)
  else pure ()

namespace Guest

def acceptMemory (bytes : Nat) (guest : Guest) : Guest :=
  { guest with
    accepted := { guest.accepted with memoryBytes := bytes }
    asked := { guest.asked with memoryBytes := bytes }
    has := { guest.has with memoryBytes := bytes } }

def acceptVCPUs (count : Nat) (guest : Guest) : Guest :=
  { guest with
    accepted := { guest.accepted with vcpus := count }
    asked := { guest.asked with vcpus := count }
    has := { guest.has with vcpus := count } }

/-- The guest after a call on its VMM failed, without or with effect. -/
def failed (accept : Guest → Guest) (guest : Guest) : List Guest :=
  [{ guest with asked := (accept guest).asked },
    { guest with asked := (accept guest).asked, has := (accept guest).has }]

end Guest

variable (id : String)

/-- A call on the VMM to resize its guest.  One that may refuse the size does so before anything
changed. -/
def askVMM (ask : Ask) (refuses : Bool) (accept : Guest → Guest) : Call Unit :=
  onItem id fun machine =>
    match machine.guest with
    | none => [(.error (.host "connect"), machine)]
    | some guest =>
      let noted : Guest := { guest with asks := ask :: guest.asks }
      let left (result : Except Failure Unit) (guest : Guest) :=
        (result, { machine with guest := some guest })
      left (.ok ()) (accept noted) :: (if refuses then [left (.error .refused) noted] else []) ++
        (Guest.failed accept noted).map (left (.error (.host "resize vm")))

def resizeVMMemory (bytes : Nat) : Call Unit :=
    askVMM id (.memory bytes) true (Guest.acceptMemory bytes)

def resizeVMCPU (count : Nat) : Call Unit :=
    askVMM id (.vcpus count) false (Guest.acceptVCPUs count)

/-- Memory goes first, and what is the same as held is left alone. -/
def resizeVM (held want : Resources) : Call Unit := do
  whenever (want.memoryBytes ≠ held.memoryBytes) (resizeVMMemory id want.memoryBytes)
  whenever (want.vcpus ≠ held.vcpus) (resizeVMCPU id want.vcpus)

/-- Give the guest what it is to have, once what it may need meanwhile is reserved. -/
def resizeHeld (spec : Spec) (held want : Resources) : Call Unit := do
  reserve capacity id (Instance.larger held want)
  match ← attempt (resizeVM id held want) with
  | .error .refused =>
    reserve capacity id held
    throw .refused
  | .error failure =>
    storeUpdateInstance id { spec with vcpus := want.vcpus, memoryBytes := want.memoryBytes }
    throw failure
  | .ok _ =>
    storeUpdateInstance id { spec with vcpus := want.vcpus, memoryBytes := want.memoryBytes }
    reserve capacity id want

def resizeFrom (spec : Spec) (held want : Resources) : Call Unit := do
  returning (checkResize spec held want)
  if want = held then return ()
  else
    mayFail (.host "connect")
    whenever (want.vcpus ≠ held.vcpus) (mayFail (.unsupported .vcpus))
    whenever (want.memoryBytes ≠ held.memoryBytes) (mayFail (.unsupported .memory))
    resizeHeld capacity id spec held want

def resizeLocked (want : Resources) : Call Unit := do
  let spec ← definition id
  let status ← always (statusOf id)
  if status.state ≠ .running then throw .invalidState
  else resizeFrom capacity id spec status.heldResources want

def resize (want : Resources) : Call Unit := locked id (resizeLocked capacity id want)

/-- What a request leaves out is taken from the definition. -/
def wanted (spec : Spec) (vcpus memoryBytes : Option Nat) : Resources :=
  ⟨vcpus.getD spec.vcpus, memoryBytes.getD spec.memoryBytes⟩

def resizeInstance (vcpus memoryBytes : Option Nat) : Call Unit := do
  if vcpus = none ∧ memoryBytes = none then throw .invalidArgument
  else
    let spec ← definition id
    let want := wanted spec vcpus memoryBytes
    if want.vcpus = 0 ∨ want.memoryBytes = 0 then throw .invalidArgument
    else resize capacity id want

inductive Request
  | create (id : String) (spec : Spec)
  | update (id : String) (updated : Spec)
  | start (id : String)
  | stop (id : String)
  | delete (id : String) (force : Bool)
  | pause (id : String)
  | unpause (id : String)
  | standby (id : String)
  | createSnapshot (id name : String)
  | restoreSnapshot (name : String)
  | forkSnapshot (name id : String) (spec : Spec)
  | forkInstance (source id : String) (spec : Spec)
  | resize (id : String) (vcpus memoryBytes : Option Nat)
  | ended (id : String)
  | restart (id : String)
  | recover (id : String)

def Request.call : Request → Call Unit
  | create id spec => always (Sizing.create id spec)
  | update id updated => Sizing.update id updated
  | start id => locked id (startLocked capacity id)
  | stop id => Sizing.stop id
  | delete id force => Sizing.delete id force
  | pause id => setPaused id .running .paused
  | unpause id => setPaused id .paused .running
  | standby id => Sizing.standby id
  | createSnapshot id name => Sizing.createSnapshot id name
  | restoreSnapshot name => Sizing.restoreSnapshot capacity name
  | forkSnapshot name id spec => Sizing.forkSnapshot capacity name id spec
  | forkInstance source id spec => Sizing.forkInstance capacity source id spec
  | resize id vcpus memoryBytes => resizeInstance capacity id vcpus memoryBytes
  | ended id => handleEnd id
  | restart id => Sizing.restart capacity id
  | recover id => recoverInstance id

def system : System Nat World Request Empty where
  program := fun request => bestEffort (request.call capacity)
  admits := fun _ _ => true
  event := fun _ _ => none
  crash := fun world => some { world with holder := fun _ => none }

end

/-- No instance has been created. -/
def World.fresh : World where
  items := fun _ => ⟨default, .stopped, none, none⟩
  holder := fun _ => none
  shared := ⟨[], []⟩

end Dicer.Sizing
