import Dicer.Concurrency.Calls
import Dicer.Instance.World
import Mathlib.Data.List.Sort

namespace Dicer.Instance

open Concurrency
open Program (perform)

/-!
# What operations do to the world, step by step

A call on the store holds the store's write lock from its checks to the map it changes, so it is one
action. Its reads take another lock, which a write takes only for the map, so a read may come
between the file and the map of a write; the definitions are the same either way.
-/

abbrev Op := Program Nat World

abbrev Call := ExceptT Err Op

variable {Value : Type}

export Concurrency.Calls (attempt always observe onError whenever bestEffort attempt_ensures
  always_ensures bestEffort_ensures)

def change (effect : Nat → World → World) : Op Unit :=
  perform fun thread world => [((), effect thread world)]

variable (message : String)

/-- A call on the host that leaves the world as it is and may fail. -/
def hostCall : Call Unit :=
  perform fun _ world => [(.ok (), world), (.error (.host message), world)]

/-- An effect on the host, or a failure that leaves the world as it is. -/
def mayFail (effect : Nat → World → World) : Call Unit :=
  perform fun thread world =>
    [(.ok (), effect thread world), (.error (.host message), world)]

/-- A removal: done, failed with nothing removed, or failed with as good as everything removed. -/
def mayFailHalfway (effect : Nat → World → World) : Call Unit :=
  perform fun thread world =>
    [(.ok (), effect thread world), (.error (.host message), world),
      (.error (.host message), effect thread world)]

variable (world : World) (thread : Nat)

def World.took (id : String) (purpose : Purpose) : World :=
  { world.setHold id (some (.taken thread purpose (world.standing id))) with
    owed := if purpose.endsStandby then Function.update world.owed id none else world.owed
    recovered := if purpose = .recover then id :: world.recovered else world.recovered
    claims := if purpose = .policyRestart then world.claims.filter (· ≠ (thread, id))
      else world.claims
    halted := if purpose.userStarts then world.halted.filter (· ≠ id) else world.halted }

variable (id : String)

def lock (purpose : Purpose) : Op Unit :=
  perform fun thread world =>
    match world.holds id with
    | some _ => []
    | none => [((), world.took thread id purpose)]

def unlock : Op Unit :=
  change fun _ world => world.setHold id none

/-- Hold the instance's lock during a call. -/
def locked (id : String) (purpose : Purpose) (call : Call Value) : Call Value := do
  always (lock id purpose)
  let result ← attempt call
  always (unlock id)
  liftExcept result
where
  liftExcept : Except Err Value → Call Value
    | .ok value => return value
    | .error error => throw error

/-! ## The store -/

variable (nameOrID : String)

def storeInstance : Call Spec :=
  perform fun _ world =>
    match world.instances.lookup nameOrID with
    | some spec => [(.ok spec, world)]
    | none => [(.error (.notFound ("no instance " ++ quoted nameOrID)), world)]

/-- Every instance, sorted by name. -/
def World.sorted : List Spec :=
  world.instances.items.insertionSort fun first second => first.name ≤ second.name

def storeInstances : Op (List Spec) :=
  observe World.sorted

/-- The first volume a definition mounts that does not exist. -/
def World.missingVolume (spec : Spec) : Option Mount :=
  spec.mounts.find? fun mount => mount.isVolume && (world.volumes.lookup mount.source).isNone

/-- A definition's write after its references were checked: the volumes as they are, the kernel and
the network by the host. -/
def writeDefinition (spec : Spec) (after : World) : List (Except Err Unit × World) :=
  match world.missingVolume spec with
  | some mount => [(.error (.invalidArgument ("no volume " ++ quoted mount.source)), world)]
  | none => [(.ok (), after), (.error (.host "write definition"), world)]

theorem writeDefinition_answers {holds : Except Err Unit → World → Prop} {world after : World}
    {spec : Spec} (written : holds (.ok ()) after) (failed : ∀ error, holds (.error error) world) :
    Answers holds (writeDefinition world spec after) := by
  unfold writeDefinition
  split
  · exact .one (failed _)
  · exact .two written (failed _)

variable (spec : Spec)

/-- Record a new instance, of a fork or not.  Its ID is random. -/
def storeCreateInstance (forks : Bool) : Call Unit :=
  perform fun thread world =>
    match Naming.validate spec.name with
    | .error error => [(.error error, world)]
    | .ok _ =>
      if (world.instances.lookup spec.name).isSome then
        [(.error (.alreadyExists ("instance " ++ quoted spec.name ++ " already exists")), world)]
      else if !world.isFresh spec.id then []
      else writeDefinition world spec { world with
          instances := world.instances.put spec
          issued := spec.id :: world.issued
          forking := if forks then (thread, spec) :: world.forking else world.forking }

/-- The instances a user stopped, when one has another definition. -/
def World.haltedUnder (spec : Spec) : List String :=
  if spec.restart.mode = .unlessStopped then world.halted else world.halted.filter (· ≠ spec.id)

def storeUpdateInstance : Call Unit :=
  perform fun thread world =>
    match world.instances.lookup spec.name with
    | none => [(.error (.notFound ("no instance " ++ quoted spec.name)), world)]
    | some _ =>
      writeDefinition world spec { world with
          instances := world.instances.put spec
          halted := world.haltedUnder spec
          written := (thread, spec) :: world.written }

/-- The instance's directory moves with it.  A directory that is not empty cannot be replaced. -/
def storeRenameInstance (spec : Spec) : Call Unit :=
  perform fun _ world =>
    match world.instances.lookup nameOrID with
    | none => [(.error (.notFound ("no instance " ++ quoted nameOrID)), world)]
    | some current =>
      match world.missingVolume spec, Naming.validate spec.name with
      | some mount, _ => [(.error (.invalidArgument ("no volume " ++ quoted mount.source)), world)]
      | none, .error error => [(.error error, world)]
      | none, .ok _ =>
        if spec.name = current.name then [(.ok (), world)]
        else if (world.instances.lookup spec.name).isSome then
          [(.error (.alreadyExists ("instance " ++ quoted spec.name ++ " already exists")), world)]
        else if world.dirs spec.name ≠ .empty then [(.error (.host "rename directory"), world)]
        else
          [(.ok (), { (world.setDir spec.name (world.dirs current.name)).setDir current.name .empty
              with
              instances := world.instances.rename current spec }),
            (.error (.host "rename directory"), world)]

def storeDeleteInstance : Call Unit :=
  perform fun _ world =>
    match world.instances.lookup nameOrID with
    | none => [(.error (.notFound ("no instance " ++ quoted nameOrID)), world)]
    | some spec =>
      let removed := world.setDir spec.name .empty
      [(.ok (), { removed with instances := world.instances.delete spec }),
        (.error (.host "remove directory"), world.fault),
        (.error (.host "remove directory"), removed.fault)]

def storeVolume : Call Volume :=
  perform fun _ world =>
    match world.volumes.lookup nameOrID with
    | some volume => [(.ok volume, world)]
    | none => [(.error (.notFound ("no volume " ++ quoted nameOrID)), world)]

def storeCreateVolume (volume : Volume) : Call Unit :=
  perform fun _ world =>
    match Naming.validate volume.name with
    | .error error => [(.error error, world)]
    | .ok _ =>
      if (world.volumes.lookup volume.name).isSome then
        [(.error (.alreadyExists ("volume " ++ quoted volume.name ++ " already exists")), world)]
      else if volume.id = "" ∨ (world.volumes.lookup volume.id).isSome then []
      else
        [(.ok (), { world with volumes := world.volumes.put volume }),
          (.error (.host "write definition"), world)]

/-- Refused while an instance or a snapshot mounts the volume by its name. -/
def storeDeleteVolume : Call Unit :=
  perform fun _ world =>
    match world.volumes.lookup nameOrID with
    | none => [(.error (.notFound ("no volume " ++ quoted nameOrID)), world)]
    | some volume =>
      match world.sorted.find? fun spec => (spec.volumeMount volume.name).isSome with
      | some spec =>
        [(.error (.invalidState ("volume " ++ quoted volume.name ++ " is in use by instance " ++
          quoted spec.name)), world)]
      | none =>
        match world.snapshots.items.find? fun s => (s.spec.volumeMount volume.name).isSome with
        | some snapshot =>
          [(.error (.invalidState ("volume " ++ quoted volume.name ++ " is in use by snapshot " ++
            quoted snapshot.name ++ ": delete the snapshot first")), world)]
        | none =>
          [(.ok (), { world with volumes := world.volumes.delete volume }),
            (.error (.host "remove definition"), world)]

def storeSnapshot : Call Snapshot :=
  perform fun _ world =>
    match world.snapshots.lookup nameOrID with
    | some snapshot => [(.ok snapshot, world)]
    | none => [(.error (.notFound ("no snapshot " ++ quoted nameOrID)), world)]

def storeCreateSnapshot (snapshot : Snapshot) : Call Unit :=
  perform fun _ world =>
    match Naming.validate snapshot.name with
    | .error error => [(.error error, world)]
    | .ok _ =>
      if (world.snapshots.lookup snapshot.name).isSome then
        [(.error (.alreadyExists ("snapshot " ++ quoted snapshot.name ++ " already exists")),
          world)]
      else writeDefinition world snapshot.spec
        { world with snapshots := world.snapshots.put snapshot }

def storeDeleteSnapshot : Call Unit :=
  perform fun _ world =>
    match world.snapshots.lookup nameOrID with
    | none => [(.error (.notFound ("no snapshot " ++ quoted nameOrID)), world)]
    | some snapshot =>
      [(.ok (), { world with snapshots := world.snapshots.delete snapshot }),
        (.error (.host "remove directory"), world)]

def readStatus : Op Status :=
  observe fun world => (world.status id).getD .stopped

def onStandby : Op Bool :=
  observe fun world => (world.dirs spec.name).standby.isSome

def writeStatus (status : Status) : Call Unit :=
  perform fun _ world =>
    [(.ok (), world.setStatus id (some status)), (.error (.host "write status"), world.fault)]

def removeRuntimeDir : Call Unit :=
  perform fun _ world =>
    [(.ok (), world.setStatus id none),
      (.error (.host "remove runtime directory"), { world.fault with stuck := id :: world.stuck }),
      (.error (.host "remove runtime directory"), (world.setStatus id none).fault)]

def overlayDisk : Op (Option Disk) :=
  observe fun world => (world.dirs spec.name).overlay

def createOverlayDisk : Call Unit :=
  mayFail "create overlay disk" fun thread world =>
    world.writeOverlay thread spec.name (world.newDisk spec.diskBytes [])

/-- A disk that is already large enough is left as it is. -/
def growOverlayDisk : Call Unit :=
  perform fun thread world =>
    match (world.dirs spec.name).overlay with
    | none => [(.error (.host "grow overlay disk"), world)]
    | some disk =>
      if spec.diskBytes ≤ disk.bytes then [(.ok (), world)]
      else
        [(.ok (), world.writeOverlay thread spec.name { disk with bytes := spec.diskBytes }),
          (.error (.host "grow overlay disk"), world)]

/-- Copy a disk over an instance's overlay disk.  The copy is made beside it and renamed into
place. -/
def copyOverlayDisk (source : Option Disk) (spec : Spec) : Call Disk :=
  perform fun thread world =>
    match source with
    | none => [(.error (.host "copy overlay disk"), world)]
    | some disk =>
      let copy := world.newDisk disk.bytes disk.ancestry
      [(.ok copy, world.writeOverlay thread spec.name copy),
        (.error (.host "copy overlay disk"), world)]

/-- The copy a restore or a fork resumes its guest on. -/
def copyToResume (source : Option Disk) (spec : Spec) : Call Unit :=
  perform fun thread world =>
    match source with
    | none => [(.error (.host "copy overlay disk"), world)]
    | some disk =>
      [(.ok (), (world.writeOverlay thread spec.name
          (world.newDisk disk.bytes disk.ancestry)).noteHold spec.id fun hold =>
          { hold with copied := true }),
        (.error (.host "copy overlay disk"), world)]

def removeKeptDisk : Op Unit :=
  bestEffort (mayFail "remove kept disk" fun _ world =>
    world.setDir spec.name { world.dirs spec.name with kept := none })

/-- Keep the overlay disk under a second name; whether there was one. -/
def keepOverlayDisk : Call Bool :=
  perform fun _ world =>
    let dir := world.dirs spec.name
    match dir.overlay, dir.kept with
    | none, _ => [(.ok false, world)]
    | some _, some _ => [(.error (.host "keep overlay disk"), world)]
    | some disk, none =>
      [(.ok true, world.setDir spec.name { dir with kept := some disk }),
        (.error (.host "keep overlay disk"), world)]

def restoreKeptDisk : Op Unit :=
  perform fun _ world =>
    let dir := world.dirs spec.name
    match dir.kept with
    | none => [((), world)]
    | some disk =>
      [((), world.setDir spec.name { dir with overlay := some disk, kept := none }), ((), world)]

def readStandby : Call Snapshot :=
  perform fun _ world =>
    match (world.dirs spec.name).standby with
    | none => [(.error (.host "read standby"), world)]
    | some frozen => [(.ok frozen.snapshot, world), (.error (.host "read standby"), world)]

def discardStandby : Call Unit :=
  perform fun _ world =>
    let discarded := world.setDir spec.name { world.dirs spec.name with standby := none }
    [(.ok (), discarded), (.error (.host "discard standby"), world.fault),
      (.error (.host "discard standby"), discarded.fault)]

def removeStaged : Call Unit :=
  mayFailHalfway "remove staged standby" fun _ world =>
    world.setDir spec.name { world.dirs spec.name with staged := none }

/-- Write what the guest that was just frozen ran with, which makes its directory whole. -/
def writeStandby (snapshot : Snapshot) : Call Unit :=
  mayFail "write standby" fun _ world =>
    match (world.holds spec.id).bind Hold.frozen with
    | none => world
    | some mark =>
      { world.setDir spec.name { world.dirs spec.name with staged := some ⟨snapshot, mark, world.next, false⟩ }
        with next := world.next + 1 }

/-- Move the staged guest into place, where the instance is on standby. -/
def putStandby : Call Unit :=
  perform fun _ world =>
    let dir := world.dirs spec.name
    match dir.staged, dir.standby with
    | some frozen, none =>
      [(.ok (), { world.setDir spec.name { dir with standby := some frozen, staged := none } with
          owed := Function.update world.owed spec.id (some frozen.serial) }),
        (.error (.host "move standby into place"), world)]
    | _, _ => [(.error (.host "move standby into place"), world)]

/-- A VMM launched on the overlay disk of an instance, whose lock's holder is to hand it to
supervision. -/
def World.launch (spec : Spec) (disk : Nat) (running : Bool) : World :=
  { world.noteHold spec.id fun hold => { hold with launched := some world.next } with
    vmms := ⟨world.next, spec.id, disk, running, world.epoch⟩ :: world.vmms
    next := world.next + 1 }

def startVM : Call Nat :=
  perform fun _ world =>
    match (world.dirs spec.name).overlay with
    | none => [(.error (.host "start vm"), world)]
    | some disk =>
      [(.ok world.next, { world.launch spec disk.inode true with
          boots := ⟨spec.id, disk.ancestry⟩ :: world.boots }),
        (.error (.host "start vm"), world)]

/-- A guest is restored paused. -/
def restoreVM : Call Nat :=
  perform fun _ world =>
    match (world.dirs spec.name).overlay with
    | none => [(.error (.host "restore vm"), world)]
    | some disk =>
      [(.ok world.next, world.launch spec disk.inode false), (.error (.host "restore vm"), world)]

/-- The guest of an instance runs on: what its lock's holder froze of it no longer matches its
disk. -/
def World.resume (id : String) (pid : Nat) : World :=
  (world.setRunning pid true).noteHold id fun hold => { hold with frozen := none }

/-- A request to a VMM: refused if it is gone, and otherwise it may fail before or after it took
effect. -/
def askVMM (pid : Nat) (effect : World → World) : Call Unit :=
  perform fun _ world =>
    if world.isLive pid then
      [(.ok (), effect world), (.error (.host message), world),
        (.error (.host message), effect world)]
    else [(.error (.host message), world)]

variable (pid : Nat)

def pauseVM : Call Unit :=
  askVMM "pause vm" pid fun world => world.setRunning pid false

def resumeVM : Call Unit :=
  askVMM "resume vm" pid fun world => world.resume id pid

/-- The guest on standby in the instance's directory runs again, in the VMM that restored it. -/
def World.thaw (spec : Spec) (pid : Nat) : World :=
  let resumed := world.resume spec.id pid
  match (world.dirs spec.name).standby, world.vmm pid with
  | some frozen, some vmm =>
    { resumed.setDir spec.name { world.dirs spec.name with standby := some { frozen with resumed := true } }
      with thaws := ⟨spec.id, frozen.mark, world.markOf vmm.disk⟩ :: world.thaws }
  | _, _ => resumed

def thawVM : Call Unit :=
  askVMM "resume vm" pid fun world => world.thaw spec pid

/-- Why a snapshot was not taken. -/
inductive SnapshotFailure
  | restoringMemory
  | other
  deriving DecidableEq, Repr

/-- Write a paused guest's state; the VMM refuses one that runs. -/
def writeVMState : Op (Except SnapshotFailure Unit) :=
  perform fun _ world =>
    (match world.vmm pid with
      | some vmm =>
        if vmm.running then []
        else [(.ok (), world.noteHold id fun hold =>
          { hold with frozen := some (world.markOf vmm.disk) })]
      | none => []) ++
    [(.error .restoringMemory, world), (.error .other, world)]

/-- Kill a VMM, or have it shut down, and wait until it is gone. -/
def terminate : Op Unit :=
  change fun _ world =>
    (world.endVmm pid).noteHold id fun hold =>
      if hold.launched = some pid then { hold with launched := none } else hold

def awaitExit : Op Unit :=
  perform fun _ world => if world.isLive pid then [] else [((), world)]

/-- The recorded process, if it still runs. -/
def attach : Op Bool :=
  observe fun world => world.isLive pid

/-! ## The daemon's memory -/

def vmmOf : Op (Option Nat) :=
  observe fun world => world.supervised id

/-- Register a VMM and watch it for its exit. -/
def supervise : Op Unit :=
  change fun _ world =>
    { world.noteHold id (fun hold => { hold with launched := none }) with
      supervised := Function.update world.supervised id (some pid)
      watchers := (id, pid) :: world.watchers }

/-- The registered VMM, as the watcher of one finds it. -/
def vmmAtExit : Op (Option Nat) :=
  perform fun _ world =>
    [(world.supervised id,
      { world.noteHold id (fun hold => { hold with exited := some pid }) with
        watchers := world.watchers.filter (· ≠ (id, pid)) })]

def forget : Op Unit :=
  change fun _ world =>
    { world.noteHold id (fun hold => { hold with forgot := true }) with
      supervised := Function.update world.supervised id none }

def scheduleRestart : Op Unit :=
  change fun _ world =>
    { world with restarts := Function.update world.restarts id (some world.next), next := world.next + 1 }

def cancelRestart : Op Unit :=
  change fun _ world => { world with restarts := Function.update world.restarts id none }

/-- Take a pending restart, unless it was cancelled or replaced. -/
def claimRestart (pending : Nat) : Op Bool :=
  perform fun thread world =>
    if world.restarts id = some pending then
      [(true, { world with
        restarts := Function.update world.restarts id none, claims :=
          (thread, id) :: world.claims })]
    else [(false, world)]

def scheduleRemoval : Op Unit :=
  change fun _ world =>
    if spec.removeOnExit then { world with removals := spec.id :: world.removals } else world

/-- Record, of a stop that is about to return, that a user stopped an instance that is to be
restarted unless stopped. -/
def noteStopped : Op Unit :=
  change fun _ world =>
    if spec.restart.mode = .unlessStopped then { world with halted := spec.id :: world.halted }
      else world

/-- Tell the waiters of an instance that it has stopped.  One that was told before keeps what it was
told. -/
def notifyWaiters : Op Unit :=
  change fun _ world => { world with waiters := world.waiters.map (.hear id) }

def World.newWaiter (spec : Spec) (nextStop : Bool) : Waiter where
  thread := thread
  spec := spec
  nextStop := nextStop
  up := !world.atRest spec.id
  late := (world.definition spec.id).isNone
  stirred := !world.atRest spec.id
  heard := false
  phase := .made

def makeWaiter (nextStop : Bool) : Op Unit :=
  change fun thread world => { world with waiters := world.newWaiter thread spec nextStop :: world.waiters }

def World.waits (phase : WaitPhase) : World :=
  { world with waiters := world.waiters.map (.enter thread phase) }

/-- The status file as a waiter reads it. -/
def readStatusWaiting : Op Status :=
  perform fun thread world =>
    let status := (world.status id).getD .stopped
    [(status, world.waits thread (if status.state.isDown then .sawDown else .sawUp))]

def onStandbyWaiting : Op Bool :=
  perform fun thread world =>
    let frozen := (world.dirs spec.name).standby.isSome
    [(frozen, world.waits thread (if frozen then .sawFrozen else .sawStopped))]

/-- Return the status a waiter has found or was told. -/
def returnStatus : Op Unit :=
  change fun thread world => world.waits thread .returned

def beginWaiting : Op Unit :=
  change fun thread world => world.waits thread .waiting

/-- Wait to be told of a stop. -/
def receiveStop : Op Unit :=
  perform fun thread world =>
    if world.waiters.any fun waiter => waiter.thread = thread ∧ waiter.heard then
      [((), world.waits thread .returned)]
    else []

/-- How long an instance has run: what matters is whether it is long enough to reset its
restarts. -/
def elapsed : Op Nat :=
  perform fun _ world => [(0, world), (restartBackoffReset, world)]

/-- How the guest ended, as its status disk and the VMM's exit say. -/
def readExit : Op Exit :=
  perform fun _ world =>
    [(⟨some 0, none⟩, world), (⟨none, some "guest ended, no exit code reported"⟩, world)]

end Dicer.Instance
