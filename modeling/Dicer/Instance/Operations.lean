import Dicer.Instance.Guests

namespace Dicer.Instance

open Concurrency

/-!
# Operations on instances

Each takes the instance's lock and then reads its definition again, since it may have changed or
gone while the operation waited.  The exceptions are the source's: a fork goes on with the
definition it was given, and recovery with the one it listed.
-/

section

variable (capacity : Capacity)

/-- A check on data alone, in a call. -/
def checked (result : Except Err Unit) : Call Unit :=
  match result with
  | .ok _ => return ()
  | .error error => throw error

/-- The volumes and host directories of a definition exist. -/
def checkMounts : List Mount → Call Unit
  | [] => return ()
  | mount :: rest => do
    whenever mount.isVolume do
      match ← attempt (storeVolume mount.source) with
      | .ok _ => return ()
      | .error error => throw (.invalidArgument error.message)
    whenever (mount.type = .directory) (hostCall "resolve directory")
    checkMounts rest

variable (spec : Spec)

/-- Refuse a definition that could never start on this host. -/
def checkCanStart : Call Unit := do
  hostCall "find kernel and network"
  checkMounts spec.mounts
  checked (checkResources capacity spec.maxResources)

/-- Refuse a name that is taken. -/
def checkNameFree (name : String) : Call Unit := do
  match ← attempt (storeInstance name) with
  | .ok _ => throw (.alreadyExists ("instance " ++ quoted name ++ " already exists"))
  | .error _ => return ()

def create : Call Unit := do
  checked spec.validate
  checkNameFree spec.name
  checkCanStart capacity spec
  hostCall "get image"
  storeCreateInstance spec false

/-- Only the policies can change while the instance is not stopped, and its disk cannot shrink. -/
def checkCanUpdate (current updated : Spec) (state : State) : Call Unit := do
  if state ≠ .stopped ∧ !current.onlyPoliciesDiffer updated then
    throw (.invalidState ("instance " ++ quoted current.name ++ " is " ++ state.lowercase ++
      "; stop it before changing it"))
  else if updated.diskBytes = current.diskBytes then return ()
  else
    match ← always (overlayDisk current) with
    | none => return ()
    | some disk =>
      hostCall "read overlay disk size"
      if updated.diskBytes < disk.bytes then
        throw (.invalidArgument ("instance " ++ quoted current.name ++ " has a " ++
          humanBytes disk.bytes ++ " overlay disk, which cannot shrink: give it at least " ++
          humanBytes disk.bytes ++
          ", or recreate the instance for a smaller disk"))

def update (updated : Spec) : Call Unit :=
  locked updated.id .update do
    let current ← storeInstance updated.id
    if updated.name ≠ current.name then
      throw (.invalidState ("instance " ++ quoted updated.name ++ " was renamed to " ++
        quoted current.name ++ " while it was being updated: update it again"))
    else
      let status ← always (statusOf current)
      checked updated.validate
      checkCanUpdate current updated status.state
      checkCanStart capacity updated
      storeUpdateInstance updated

def renameable (state : State) : Bool := state = .stopped || state = .failed

def rename (nameOrID newName : String) : Call Unit := do
  let spec ← storeInstance nameOrID
  locked spec.id .rename do
    let current ← storeInstance spec.id
    let status ← always (statusOf current)
    if !renameable status.state then
      throw (.invalidState ("instance " ++ quoted current.name ++ " is " ++
        status.state.lowercase ++ "; rename it once it has stopped"))
    else if newName = current.name then return ()
    else storeRenameInstance current.id { current with name := newName }

/-! ## Starting and stopping -/

def startLocked : Call Unit := do
  let spec ← storeInstance spec.id
  let status ← always (statusOf spec)
  if status.state.isActive then
    throw (.invalidState ("instance " ++ quoted spec.name ++ " is already " ++
      status.state.lowercase))
  else
    always (cancelRestart spec.id)
    if ← always (onStandby spec) then resumeStandby capacity spec
    else
      admitInstance capacity spec spec.resources
      always (setStoppedByUser spec.id false)
      match ← attempt (boot spec 0) with
      | .ok _ => return ()
      | .error error =>
        always (fail spec.id error)
        throw error

def start (nameOrID : String) : Call Unit := do
  let spec ← storeInstance nameOrID
  locked spec.id .start (startLocked capacity spec)

def stop (nameOrID : String) : Call Unit := do
  let spec ← storeInstance nameOrID
  locked spec.id .stop do
    let spec ← storeInstance spec.id
    always (cancelRestart spec.id)
    always (setStoppedByUser spec.id true)
    let status ← always (statusOf spec)
    discardStandby spec
    match status.state with
    | .stopped => always (noteStopped spec)
    | .standby =>
      always (notifyWaiters spec.id)
      always (scheduleRemoval spec)
      always (noteStopped spec)
    | _ =>
      transition spec .stopping
      always (stopVMM spec.id)
      removeRuntimeDir spec.id
      always (notifyWaiters spec.id)
      always (scheduleRemoval spec)
      always (noteStopped spec)

def deleteFor (purpose : Purpose) (id : String) (force : Bool) : Call Unit :=
  locked id purpose do
    let spec ← storeInstance id
    let status ← always (statusOf spec)
    if status.state.isActive && !force then
      throw (.invalidState ("instance " ++ quoted spec.name ++ " is " ++ status.state.lowercase))
    else
      always (cancelRestart spec.id)
      always (stopVMM spec.id)
      always (bestEffort (removeRuntimeDir spec.id))
      storeDeleteInstance spec.name
      always (notifyWaiters spec.id)

def delete (nameOrID : String) (force : Bool) : Call Unit := do
  let spec ← storeInstance nameOrID
  deleteFor .delete spec.id force

/-- The VMM a status records, to be asked something. -/
def connect (status : Status) : Call Nat :=
  match status.vmmPID with
  | none => throw (.host "connect to hypervisor")
  | some pid => do
    hostCall "connect to hypervisor"
    return pid

variable (nameOrID : String)

/-- Move a live instance between running and paused. -/
def setPaused (source target : State) (ask : String → Nat → Call Unit) : Call Unit := do
  let spec ← storeInstance nameOrID
  locked spec.id .pause do
    let spec ← storeInstance spec.id
    let status ← always (statusOf spec)
    if status.state ≠ source then
      throw (.invalidState ("instance " ++ quoted spec.name ++ " is " ++ status.state.lowercase ++
        ", not " ++ source.lowercase))
    else
      let pid ← connect status
      hostCall "hypervisor capabilities"
      ask spec.id pid
      transition spec target

def pause : Call Unit :=
  setPaused nameOrID .running .paused fun _ pid => pauseVM pid

def unpause : Call Unit :=
  setPaused nameOrID .paused .running resumeVM

variable (held want : Resources)

def checkResize : Except Err Unit :=
  if want.vcpus ≠ held.vcpus ∧ spec.maxVCPUs = 0 then
    throw (.invalidArgument ("instance " ++ quoted spec.name ++
      " has no max_vcpus, so its vCPUs cannot change while it runs: set one while it is stopped"))
  else if spec.maxVCPUs < want.vcpus ∧ 0 < spec.maxVCPUs then
    throw (.invalidArgument ("instance " ++ quoted spec.name ++ " can have at most " ++
      humanCount spec.maxVCPUs "vCPU" ++ " while it runs, its max_vcpus, not " ++
      toString want.vcpus))
  else if want.memoryBytes ≠ held.memoryBytes ∧ spec.maxMemoryBytes = 0 then
    throw (.invalidArgument ("instance " ++ quoted spec.name ++
      " has no max_memory_bytes, so its memory cannot change while it runs: set one while it is stopped"))
  else if spec.maxMemoryBytes < want.memoryBytes ∧ 0 < spec.maxMemoryBytes then
    throw (.invalidArgument ("instance " ++ quoted spec.name ++ " can have at most " ++
      humanBytes spec.maxMemoryBytes ++ " memory while it runs, its max_memory_bytes, not " ++
      humanBytes want.memoryBytes))
  else pure ()

/-- The hypervisor resizes the guest, refuses the size before anything changed, or fails. -/
def resizeVM : Op (Except Err Unit) :=
  Program.perform fun _ world =>
    [(.ok (), world), (.error (.invalidArgument "resize vm"), world),
      (.error (.host "resize vm"), world)]

def larger : Resources :=
  ⟨max held.vcpus want.vcpus, max held.memoryBytes want.memoryBytes⟩

/-- Give a running guest what it is to have, once what it may need meanwhile is reserved. -/
def resizeHeld : Call Unit := do
  reserve capacity spec (larger held want)
  match ← always resizeVM with
  | .error error =>
    if error.is .invalidArgument then
      reserve capacity spec held
      throw error
    else
      storeUpdateInstance { spec with vcpus := want.vcpus, memoryBytes := want.memoryBytes }
      throw error
  | .ok _ =>
    storeUpdateInstance { spec with vcpus := want.vcpus, memoryBytes := want.memoryBytes }
    reserve capacity spec want

def resize (nameOrID : String) (want : Resources) : Call Unit := do
  let spec ← storeInstance nameOrID
  locked spec.id .resize do
    let spec ← storeInstance spec.id
    let status ← always (statusOf spec)
    if status.state ≠ .running then
      throw (.invalidState ("instance " ++ quoted spec.name ++ " is " ++ status.state.lowercase ++
        "; only a running instance can be resized"))
    else
      match checkResize spec status.heldResources want with
      | .error error => throw error
      | .ok _ =>
        if want = status.heldResources then return ()
        else
          let _ ← connect status
          hostCall "hypervisor capabilities"
          resizeHeld capacity spec status.heldResources want

/-- Write a guest's state, pausing it first if it is running.  On failure a guest it paused is
resumed. -/
def trySnapshotVM (id : String) (pid : Nat) (running : Bool) : Call (Except SnapshotFailure Unit) :=
    do
  whenever running (pauseVM pid)
  match ← always (writeVMState id pid) with
  | .ok _ => return .ok ()
  | .error failure =>
    whenever running (resumeVM id pid)
    return .error failure

/-- Try again while the hypervisor is still restoring the guest's memory, until the time for it is
up. -/
def snapshotVM (id : String) (pid : Nat) (running : Bool) : Nat → Call Unit
  | 0 => do
    match ← trySnapshotVM id pid running with
    | .ok _ => return ()
    | .error _ => throw (.host "snapshot vm")
  | retries + 1 => do
    match ← trySnapshotVM id pid running with
    | .ok _ => return ()
    | .error .restoringMemory => snapshotVM id pid running retries
    | .error .other => throw (.host "snapshot vm")

variable (status : Status)

def writeMemorySnapshot (retries : Nat) : Call (Option Disk) := do
  let pid ← connect status
  hostCall "hypervisor capabilities"
  let running : Bool := status.state = .running
  snapshotVM spec.id pid running retries
  let copied ← attempt do
    hostCall "copy status disk"
    let overlay ← always (overlayDisk spec)
    hostCall "copy overlay disk"
    return overlay
  whenever running (always (bestEffort (resumeVM spec.id pid)))
  match copied with
  | .ok overlay => return overlay
  | .error error => throw error

/-- Freeze an instance: its memory and disk while it is running or paused, its disk alone while it
is not. -/
def writeSnapshot (id : String) (address : String) (retries : Nat) : Call Snapshot :=
  locked id .snapshot do
    let spec ← storeInstance id
    let status ← always (statusOf spec)
    let taken := { (default : Snapshot) with spec := spec }
    match status.state with
    | .running | .paused =>
      if spec.hasDirectoryMount then
        throw (.invalidState ("instance " ++ quoted spec.name ++
          " mounts a host directory, which a memory snapshot cannot hold; stop it first"))
      else if spec.mounts.any fun mount => mount.isVolume && !mount.readOnly then
        throw (.invalidState ("instance " ++ quoted spec.name ++
          " can write to a volume, which a snapshot does not hold; " ++
          "stop it first, or mount its volumes read-only"))
      else
        hostCall "find address"
        let overlay ← writeMemorySnapshot spec status retries
        return { taken with
          kind := .memory, address := address, vcpus := status.vcpus, memoryBytes :=
            status.memoryBytes
          overlay := overlay }
    | .stopped | .failed =>
      match ← always (overlayDisk spec) with
      | none =>
        throw (.invalidState ("instance " ++ quoted spec.name ++
          " has never started, so it has no disk to copy"))
      | some disk =>
        hostCall "copy overlay disk"
        return { taken with kind := .disk, overlay := some disk }
    | state =>
      throw (.invalidState ("instance " ++ quoted spec.name ++ " is " ++ state.lowercase ++
        "; snapshot or fork it once it is running, paused or stopped"))

/-- What the snapshot is called, its ID and its address are the caller's. -/
def createSnapshot (nameOrID name id address : String) (retries : Nat) : Call Unit := do
  let spec ← storeInstance nameOrID
  checked (Naming.validate name)
  match ← attempt (storeSnapshot name) with
  | .ok _ => throw (.alreadyExists ("snapshot " ++ quoted name ++ " already exists"))
  | .error _ =>
    hostCall "stage snapshot"
    let snapshot ← writeSnapshot spec.id address retries
    storeCreateSnapshot { snapshot with id := id, name := name }

def deleteSnapshot (nameOrID : String) : Call Unit := do
  let snapshot ← storeSnapshot nameOrID
  locked snapshot.spec.id .deleteSnapshot (storeDeleteSnapshot snapshot.id)

def restoreMemory (snapshot : Snapshot) : Call Unit := do
  if spec.mounts ≠ snapshot.spec.mounts then
    throw (.invalidState ("instance " ++ quoted spec.name ++
      "'s mounts have changed since snapshot " ++ quoted snapshot.name ++
      " was taken, and its guest expects them as they were; " ++
      "change them back to restore it"))
  else
    hostCall "compare address"
    resume capacity spec (.ofSnapshot snapshot)

def restoreDisk (snapshot : Snapshot) : Call Unit := do
  let _ ← copyOverlayDisk snapshot.overlay spec
  return ()

def restoreSnapshot : Call Unit := do
  let snapshot ← storeSnapshot nameOrID
  locked snapshot.spec.id .restore do
    let spec ← storeInstance snapshot.spec.id
    let status ← always (statusOf spec)
    if status.state.isActive then
      throw (.invalidState ("instance " ++ quoted spec.name ++ " is " ++ status.state.lowercase ++
        "; stop it before restoring a snapshot"))
    else if status.state = .standby then
      throw (.invalidState ("instance " ++ quoted spec.name ++
        " is on standby; stop it, which discards its frozen guest, before restoring a snapshot"))
    else
      always (cancelRestart spec.id)
      match snapshot.kind with
      | .memory => restoreMemory capacity spec snapshot
      | .disk => restoreDisk spec snapshot

/-! ## Standby -/

/-- Freeze the guest beside the standby directory, end its VMM and only then move it into place. -/
def freezeGuest (pid : Nat) (address : String) (retries : Nat) :
    Call Unit := do
  let running : Bool := status.state = .running
  snapshotVM spec.id pid running retries
  onError (bestEffort (whenever running (resumeVM spec.id pid))) do
    hostCall "copy status disk"
    writeStandby spec { (default : Snapshot) with
      name := "standby", kind := .memory, spec := spec, address := address, vcpus := status.vcpus
      memoryBytes := status.memoryBytes }
  always (stopVMM spec.id)
  match ← attempt (putStandby spec) with
  | .error error =>
    always (fail spec.id error)
    throw error
  | .ok _ => removeRuntimeDir spec.id

def standbyActive (address : String) (retries : Nat) : Call Unit := do
  if !status.state.isActive then
    throw (.invalidState ("instance " ++ quoted spec.name ++ " is " ++ status.state.lowercase ++
      "; only a running or paused instance can be put on standby"))
  else if spec.hasDirectoryMount then
    throw (.invalidState ("instance " ++ quoted spec.name ++
      " mounts a host directory, whose device cannot be frozen"))
  else
    hostCall "find address"
    let pid ← connect status
    hostCall "hypervisor capabilities"
    removeStaged spec
    -- A standby already in place is stale, since the instance is running.
    discardStandby spec
    hostCall "create standby directory"
    let frozen ← attempt (freezeGuest spec status pid address retries)
    always (bestEffort (removeStaged spec))
    match frozen with
    | .ok _ => return ()
    | .error error => throw error

/-- Whether an instance found idle that long is still to be put on standby. -/
def stillIdle (idleFor : Nat) : Bool :=
  status.state = .running && spec.standbyAfter ≠ 0 && spec.standbyAfter ≤ idleFor

/-- Put an instance on standby; if it was found idle for some time, only if it still is. -/
def standby (nameOrID address : String) (idleFor retries : Nat) : Call Unit := do
  let spec ← storeInstance nameOrID
  locked spec.id .standby do
    let spec ← storeInstance spec.id
    let status ← always (statusOf spec)
    if idleFor = 0 then standbyActive spec status address retries
    else
      match ← attempt (storeInstance spec.id) with
      | .error _ => return ()
      | .ok current =>
        if stillIdle current status idleFor then standbyActive spec status address retries
          else return ()

/-- Resume an instance on standby for a connection to one of its ports. -/
def wake (id : String) : Call Unit :=
  locked id .wake do
    let spec ← storeInstance id
    let status ← always (statusOf spec)
    if status.state.isActive then return ()
    else if ← always (onStandby spec) then resumeStandby capacity spec
    else
      throw (.invalidState ("instance " ++ quoted spec.name ++ " is " ++ status.state.lowercase ++
        ", not on standby"))

/-- The fork is over; a disk fork that succeeded made this disk. -/
def endFork (made : Option Disk) : Op Unit :=
  change fun thread world =>
    { world with
      forking := world.forking.filter fun fork => fork.1 ≠ thread
      forks := match made with
        | some disk => (spec.id, disk.inode) :: world.forks
        | none => world.forks }

/-- The guest of a memory snapshot is resumed under the fork's lock; a disk snapshot's disk is
copied without it. -/
def runFork (frozen : FrozenGuest) : Call (Option Disk) :=
  match frozen.snapshot.kind with
  | .disk => do
    let disk ← copyOverlayDisk frozen.snapshot.overlay spec
    return some disk
  | .memory =>
    locked spec.id .fork do
      resume capacity spec frozen
      hostCall "find address"
      return none

def fork (frozen : FrozenGuest) : Call Unit := do
  storeCreateInstance spec true
  match ← attempt (runFork capacity spec frozen) with
  | .ok made => always (endFork spec made)
  | .error error =>
    always (bestEffort (deleteFor .forkDelete spec.id true))
    always (endFork spec none)
    throw error

def forkSnapshot (spec : Spec) : Call Unit := do
  let snapshot ← storeSnapshot nameOrID
  checked spec.validate
  checkCanStart capacity spec
  fork capacity spec (.ofSnapshot snapshot)

def forkInstance (sourceNameOrID : String) (spec : Spec) (address : String) (retries : Nat) :
    Call Unit := do
  let source ← storeInstance sourceNameOrID
  checked spec.validate
  checkCanStart capacity spec
  checkNameFree spec.name
  hostCall "stage snapshot"
  let snapshot ← writeSnapshot source.id address retries
  fork capacity spec (.ofSnapshot snapshot)

/-- Return the status of an instance once it has stopped; `nextStop` waits for a stop to come even
of one that has. -/
def wait (nextStop : Bool) (spec : Spec) : Call Unit := do
  if nextStop then always receive
  else
    let status ← always (reported (readStatusWaiting spec.id) (onStandbyWaiting spec))
    if status.state.isDown then always returnStatus else always receive
where
  receive : Op Unit := do
    beginWaiting
    receiveStop

/-- Make a waiter for an instance to stop, and wait.  A caller that gave the instance's ID waits for
that one only, not for a new one of its name. -/
def waitForStop (id : Option String) (nextStop : Bool) : Call Unit := do
  let spec ← storeInstance nameOrID
  if id.any fun id => id ≠ spec.id then
    throw (.notFound ("instance " ++ quoted nameOrID ++ " is no longer the one with ID " ++
      id.getD ""))
  else
    always (makeWaiter spec nextStop)
    wait nextStop spec

/-- The definition as it is now, or as it was if it is gone. -/
def currentOr : Op Spec := do
  match ← (storeInstance spec.id).run with
  | .ok current => return current
  | .error _ => return spec

/-- The VMM a watcher waited for has exited. -/
def handleExit (pid : Nat) : Call Unit := do
  always (awaitExit pid)
  locked spec.id .exit do
    if (← always (vmmAtExit spec.id pid)) ≠ some pid then return ()
    else
      always (forget spec.id)
      let spec ← always (currentOr spec)
      let status ← always (statusOf spec)
      let exit ← always readExit
      always (ended spec status exit)

/-- An unhealthy instance is stopped as failed if its restart policy restarts failures. -/
def handleUnhealthy (pid : Nat) (verdict : String) : Call Unit :=
  locked spec.id .unhealthy do
    if (← always (vmmOf spec.id)) ≠ some pid then return ()
    else
      let spec ← always (currentOr spec)
      let status ← always (statusOf spec)
      if status.state ≠ .running then return ()
      else
        let exit : Exit := ⟨none, some verdict⟩
        let ranFor ← always elapsed
        let decision := decideRestart spec.restart exit status.restartCount ranFor
        if !decision.restart && !decision.gaveUp then return ()
        else
          always (stopVMM spec.id)
          always (ended spec status exit)

/-- A restart the policy scheduled.  One that fails is handled as another end. -/
def restart (id : String) (pending : Nat) : Call Unit := do
  if ← always (claimRestart id pending) then
    locked id .policyRestart do
      let spec ← storeInstance id
      let status ← always (statusOf spec)
      if status.state ≠ .restarting then return ()
      else
        let restarted ← attempt do
          admitInstance capacity spec spec.resources
          boot spec status.restartCount
        match restarted with
        | .ok _ => return ()
        | .error error =>
          always (ended spec status ⟨none, some ("restart: " ++ error.message)⟩)
  else return ()

end

end Dicer.Instance
