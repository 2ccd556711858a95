import Dicer.Concurrency.Pool
import Dicer.Instance.Spec

namespace Dicer.Instance

open FileStore

/-!
# The host and the daemon

The world is what operations on instances share: the definitions in memory, the instance directories
and the status files, the VMM processes, and what the daemon keeps in memory (locks, supervision,
pending restarts).  A crash takes the last of these away and leaves the rest.

Each file operation, each use of a map and each call on a hypervisor is one atomic action here,
unless the source holds a mutex around several.  A call on the host that can fail may fail at any
time.  Where a failed call may or may not have taken effect, both are possible.

Some fields only record history, for stating what holds of whole runs; no answer of any action
depends on them.
-/

/-- A disk, and how often a guest had run on it. -/
structure Mark where
  disk : Nat
  runs : Nat
  deriving DecidableEq, Repr

/-- A guest frozen to disk, with the disk it left as it was then.  `resumed` records that it has run
again since; `serial` tells it from every other. -/
structure Frozen where
  snapshot : Snapshot
  mark : Mark
  serial : Nat
  resumed : Bool
  deriving DecidableEq, Repr

/-- An instance's persistent directory: its overlay disk, the one kept while a restore may fail, the
guest it has frozen on standby, and one on its way there. -/
structure Dir where
  overlay : Option Disk
  kept : Option Disk
  standby : Option Frozen
  staged : Option Frozen
  deriving DecidableEq, Repr

def Dir.empty : Dir := ⟨none, none, none, none⟩

/-- A live VMM, with the instance it was launched for, the disk it has open as its overlay disk and
whether its vCPUs run.  `epoch` is the daemon that launched it. -/
structure Vmm where
  pid : Nat
  owner : String
  disk : Nat
  running : Bool
  epoch : Nat
  deriving DecidableEq, Repr

/-! ## The daemon's memory -/

/-- What an instance's lock was taken for.  A start on boot goes by a definition that was listed
before. -/
inductive Purpose
  | start
  | bootStart (listed : { spec : Spec // spec.restart.startsOnBoot spec.stoppedByUser = true })
  | stop
  | delete
  | removal
  | forkDelete
  | pause
  | standby
  | snapshot
  | deleteSnapshot
  | restore
  | fork
  | resize
  | rename
  | update
  | wake
  | exit
  | unhealthy
  | policyRestart
  | recover
  deriving DecidableEq, Repr

/-- A user starts, stops or deletes the instance, or a connection to a published port wakes it. -/
def Purpose.endsStandby : Purpose → Bool
  | start | stop | delete | wake => true
  | _ => false

/-- A user asks for the instance to run. -/
def Purpose.userStarts : Purpose → Bool
  | start | restore | wake => true
  | _ => false

/-- The holder may make the instance Starting. -/
def Purpose.launches : Purpose → Bool
  | start | bootStart _ | policyRestart | wake | restore | fork => true
  | _ => false

/-- The holder may resume a guest on standby, or discard it and boot. -/
def Purpose.boots : Purpose → Bool
  | start | bootStart _ | policyRestart | wake => true
  | _ => false

/-- The holder ends the instance's guest because a user, or the instance itself, asked for it. -/
def Purpose.ends : Purpose → Bool
  | stop | delete | removal | forkDelete | standby => true
  | _ => false

/-- The holder calls off a restart of the instance and starts it itself. -/
def Purpose.replacesRestart : Purpose → Bool
  | start | bootStart _ | restore => true
  | _ => false

/-- How an instance stands, with a frozen guest or not, and is to be left by who had its lock:
supervised if it is active, with a restart to come if it is Restarting, and with no waiter who has
yet to hear that it stopped if it did. -/
structure Standing where
  state : State
  frozen : Bool
  supervised : Bool
  awaited : Bool
  told : Bool
  deriving DecidableEq, Repr

/-- The holder may call off a restart and give up before it asks for admission. -/
def Purpose.givesUp (purpose : Purpose) (found : Standing) : Bool :=
  purpose = .restore || purpose.replacesRestart && found.frozen

/-- The holder of an instance's lock.  The other fields record how it found the instance, and what
it has done since: the VMM it launched and has neither handed to supervision nor ended, whether it
put a copy in place of the overlay disk, the guest it froze and has not let run since, whether it
ended the instance's supervision, and the VMM whose exit it came about. -/
structure Hold where
  thread : Nat
  purpose : Purpose
  found : Standing
  launched : Option Nat
  copied : Bool
  frozen : Option Mark
  forgot : Bool
  exited : Option Nat
  deriving DecidableEq, Repr

def Hold.taken (thread : Nat) (purpose : Purpose) (found : Standing) : Hold :=
  ⟨thread, purpose, found, none, false, none, false, none⟩

/-- What instances do not share. -/
inductive Exclusive
  | ports
  | volumes
  deriving DecidableEq, Repr

/-- How far an admission is in comparing: the instances it has still to compare with, and the one of
these it found down and has not yet looked for a frozen guest of. -/
structure Comparison where
  comparing : Option (List Spec)
  looking : Option Spec
  deriving DecidableEq, Repr

/-- The holder of the admission lock, the instance it is admitting, and a record of how far it is:
whose resources it has still to count and what it has counted, and which instances it has still to
compare ports and volumes with. -/
structure Admission where
  thread : Nat
  spec : Spec
  counting : Option (List String)
  total : Resources
  ports : Comparison
  volumes : Comparison
  deriving DecidableEq, Repr

namespace Admission

/-- The holder has entered, and counted and compared nothing. -/
def entering (thread : Nat) (spec : Spec) : Admission :=
  ⟨thread, spec, none, .zero, ⟨none, none⟩, ⟨none, none⟩⟩

def comparison (admission : Admission) : Exclusive → Comparison
  | .ports => admission.ports
  | .volumes => admission.volumes

def compare (admission : Admission) (kind : Exclusive) (comparison : Comparison) : Admission :=
  match kind with
  | .ports => { admission with ports := comparison }
  | .volumes => { admission with volumes := comparison }

end Admission

/-- How far a wait for a stop is: it was made, it found the instance's status file up or down, and
if down a frozen guest beside it or none; then it waits to hear of a stop, or has returned. -/
inductive WaitPhase
  | made
  | sawUp
  | sawDown
  | sawFrozen
  | sawStopped
  | waiting
  | returned
  deriving DecidableEq, Repr

/-- A waiter for an instance to stop, with the definition it was made with.  `heard` is that it was
told of a stop.  The other fields are history: whether the instance was up or on standby when it was
made, whether it was gone by then, and whether it was up or on standby at any time since. -/
structure Waiter where
  thread : Nat
  spec : Spec
  nextStop : Bool
  up : Bool
  late : Bool
  stirred : Bool
  heard : Bool
  phase : WaitPhase
  deriving DecidableEq, Repr

namespace Waiter

/-- An instance's status file came to have this state. -/
def stir (id : String) (state : State) (waiter : Waiter) : Waiter :=
  if waiter.spec.id = id ∧ !state.isDown then { waiter with stirred := true } else waiter

def hear (id : String) (waiter : Waiter) : Waiter :=
  if waiter.spec.id = id then { waiter with heard := true } else waiter

/-- The waiter of a thread goes on. -/
def enter (thread : Nat) (phase : WaitPhase) (waiter : Waiter) : Waiter :=
  if waiter.thread = thread then { waiter with phase := phase } else waiter

end Waiter

/-- The daemon has loaded the store, a thread of it is going through the instances, or it serves the
API. -/
inductive Stage
  | loading
  | recovering (thread : Nat)
  | serving
  deriving DecidableEq, Repr

/-- The daemon made, grew or replaced the overlay disk in a directory. -/
structure DiskWrite where
  name : String
  locked : Bool
  live : Bool
  deriving DecidableEq, Repr

/-- A guest frozen by standby ran again: the disk it was frozen on, and the disk it was resumed
on. -/
structure Thaw where
  owner : String
  frozen : Mark
  found : Mark
  deriving DecidableEq, Repr

structure Boot where
  owner : String
  ancestry : List Nat
  deriving DecidableEq, Repr

/-! ## The world -/

structure World where
  instances : Definitions Spec
  volumes : Definitions Volume
  snapshots : Definitions Snapshot
  issued : List String
  dirs : String → Dir
  status : String → Option Status
  vmms : List Vmm
  runs : Nat → Nat
  /-- The next process ID, inode, serial and restart: a number not used before. -/
  next : Nat
  holds : String → Option Hold
  admission : Option Admission
  supervised : String → Option Nat
  /-- The VMMs that are watched for their exit, by instance. -/
  watchers : List (String × Nat)
  restarts : String → Option Nat
  /-- The restarts that came due and have not taken the instance's lock yet, by thread. -/
  claims : List (Nat × String)
  waiters : List Waiter
  removals : List String
  stage : Stage
  recovered : List String
  epoch : Nat
  /-- The forks under way, by thread: the instance as it was defined. -/
  forking : List (Nat × Spec)
  /-- The frozen guests put in place and not yet to be given up, by instance. -/
  owed : String → Option Nat
  /-- The instances whose status file stayed behind when its removal failed. -/
  stuck : List String
  writes : List DiskWrite
  thaws : List Thaw
  boots : List Boot
  /-- The disk forks that succeeded: the instance made and its disk. -/
  forks : List (String × Nat)
  /-- The instances a user stopped, with a policy to restart them unless stopped, and has not asked
  to run since. -/
  halted : List String
  /-- The definitions written in place of others, the last first, by the thread that wrote them. -/
  written : List (Nat × Spec)
  /-- How many writes of a status file and removals of a directory have failed. -/
  faults : Nat
  /-- How often who was to start a Restarting instance in place of its restart was refused. -/
  refusals : Nat

namespace World

/-- A host the daemon has never run on. -/
def fresh : World where
  instances := .empty
  volumes := .empty
  snapshots := .empty
  issued := []
  dirs := fun _ => .empty
  status := fun _ => none
  vmms := []
  runs := fun _ => 0
  next := 0
  holds := fun _ => none
  admission := none
  supervised := fun _ => none
  watchers := []
  restarts := fun _ => none
  claims := []
  waiters := []
  removals := []
  stage := .loading
  recovered := []
  epoch := 0
  forking := []
  owed := fun _ => none
  stuck := []
  writes := []
  thaws := []
  boots := []
  forks := []
  halted := []
  written := []
  faults := 0
  refusals := 0

variable (world : World) (id : String)

/-- An ID not given out before, and not the name of an instance: IDs are random. -/
def isFresh : Bool :=
  id != "" && !world.issued.contains id && (world.instances.lookup id).isNone

variable (name : String)

def setDir (dir : Dir) : World :=
  { world with dirs := Function.update world.dirs name dir }

/-- The state in the instance's status file. -/
def stateIn : State :=
  ((world.status id).getD .stopped).state

def setStatus (status : Option Status) : World :=
  { world with
    status := Function.update world.status id status
    waiters := world.waiters.map (.stir id (status.getD .stopped).state) }

def fault : World := { world with faults := world.faults + 1 }

/-- Who holds the lock is to start a Restarting instance in place of its restart. -/
def isReplaced : Bool :=
  world.stateIn id = .restarting && (world.holds id).any fun hold => hold.purpose.replacesRestart

def setHold (hold : Option Hold) : World :=
  { world with holds := Function.update world.holds id hold }

/-- A note of the lock's holder about itself. -/
def noteHold (note : Hold → Hold) : World :=
  world.setHold id ((world.holds id).map note)

def noteAdmission (note : Admission → Admission) : World :=
  { world with admission := world.admission.map note }

def vmm (world : World) (pid : Nat) : Option Vmm :=
  world.vmms.find? fun vmm => vmm.pid = pid

def isLive (pid : Nat) : Bool :=
  world.vmms.any fun vmm => vmm.pid = pid

/-- The VMM's vCPUs run, or are halted. -/
def setRunning (pid : Nat) (running : Bool) : World :=
  { world with vmms := world.vmms.map fun vmm =>
      if vmm.pid = pid then { vmm with running := running } else vmm }

def endVmm (pid : Nat) : World :=
  { world with vmms := world.vmms.filter fun vmm => vmm.pid ≠ pid }

/-- The definition with an ID. -/
def definition : Option Spec :=
  world.instances.items.find? fun spec => spec.id = id

/-- The instance is stopped or has failed, and has no frozen guest. -/
def atRest : Bool :=
  (world.stateIn id).isDown && (world.definition id).all fun spec =>
    (world.dirs spec.name).standby.isNone

/-- A restart of the instance is pending, or has come due and is about to take its lock. -/
def awaited : Bool :=
  (world.restarts id).isSome || world.claims.any fun claim => claim.2 = id

/-- Who waits for the instance to stop has heard of it: everyone if it is gone, and otherwise
whoever was there while it was up.  A waiter that came when it was gone has not. -/
def told : Bool :=
  world.waiters.all fun waiter => waiter.spec.id ≠ id || waiter.late ||
    (!waiter.stirred && (world.definition id).isSome) || waiter.heard

def standing : Standing where
  state := world.stateIn id
  frozen := (world.definition id).any fun spec => (world.dirs spec.name).standby.isSome
  supervised := !(world.stateIn id).isActive || (world.supervised id).isSome
  awaited := world.stateIn id ≠ .restarting || (world.definition id).isNone || world.awaited id
  told := !world.atRest id || world.told id

/-- The ID of the instance of a name. -/
def idOf : Option String :=
  (world.instances.named name).map Spec.id

/-- The thread holds the lock of the instance of this name. -/
def locksName (thread : Nat) (name : String) : Bool :=
  (world.idOf name).any fun id => (world.holds id).any fun hold => hold.thread = thread

def hasLiveVmm : Bool :=
  (world.idOf name).any fun id => world.vmms.any fun vmm => vmm.owner = id

/-- The overlay disk in a directory becomes another, as a thread wrote it. -/
def writeOverlay (thread : Nat) (name : String) (disk : Disk) : World :=
  { world.setDir name { world.dirs name with overlay := some disk } with
    next := world.next + 1
    writes := ⟨name, world.locksName thread name, world.hasLiveVmm name⟩ :: world.writes }

/-- A disk not seen before: an empty one, or a copy of another. -/
def newDisk (bytes : Nat) (ancestry : List Nat) : Disk :=
  ⟨world.next, bytes, world.next :: ancestry⟩

/-- What a directory's disk is now. -/
def markOf (disk : Nat) : Mark := ⟨disk, world.runs disk⟩

end World

end Dicer.Instance
