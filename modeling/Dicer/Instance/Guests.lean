import Dicer.Instance.Admission

namespace Dicer.Instance

/-!
# Starting, resuming and ending guests

The parts the operations are made of, all for a caller that holds the instance's lock.  A part that
fails undoes what it did, last things first, and the order of these steps is the source's: recovery
finds a VMM only through the status file, and a frozen guest only through its directory, so what a
crash leaves depends on it.

The network, the shared directories, the guest's own configuration and the agent in the guest are
calls on the host that may fail.
-/

section

variable (capacity : Capacity)

/-- Find the volumes and host directories an instance mounts. -/
def resolveMounts : List Mount → Call Unit
  | [] => return ()
  | mount :: rest => do
    whenever mount.isVolume do
      let _ ← storeVolume mount.source
      hostCall "volume disk"
    whenever (mount.type = .directory) (hostCall "resolve directory")
    resolveMounts rest

variable (spec : Spec)

def ensureOverlayDisk : Call Unit := do
  match ← always (overlayDisk spec) with
  | some _ => growOverlayDisk spec
  | none => createOverlayDisk spec

def recordRunning (id : String) (pid : Nat) (held : Resources) (restarts : Nat) : Call Unit :=
  writeStatus id
    { state := .running, stateError := "", vmmPID := some pid, vcpus := held.vcpus
      memoryBytes := held.memoryBytes, restartCount := restarts, exitCode := none }

/-- Whether a user last stopped the instance, as far as it can be recorded. -/
def setStoppedByUser (id : String) (stopped : Bool) : Op Unit :=
  bestEffort do
    let current ← storeInstance id
    whenever (current.stoppedByUser ≠ stopped)
      (storeUpdateInstance { current with stoppedByUser := stopped })

/-- Launch the VMM of an instance that boots, and record it. -/
def launchBooting (restarts : Nat) : Call Nat := do
  ensureOverlayDisk spec
  hostCall "set up network"
  hostCall "start shares"
  hostCall "write guest disks"
  let pid ← startVM spec
  onError (terminate spec.id pid) (recordRunning spec.id pid spec.resources restarts)
  return pid

/-- Start the VMM of an instance admission moved to Starting. -/
def boot (restarts : Nat) : Call Unit := do
  hostCall "resolve hypervisor"
  hostCall "resolve image and kernel"
  resolveMounts spec.mounts
  -- Booted afresh, the disk moves on from anything frozen on standby.
  discardStandby spec
  hostCall "prepare runtime directory"
  let pid ← onError (bestEffort (removeRuntimeDir spec.id)) (launchBooting spec restarts)
  always (supervise spec.id pid)

/-- A guest frozen to disk, with the copy of its disk to resume it on; without one it is resumed on
the instance's own disk, as standby left it. -/
structure FrozenGuest where
  snapshot : Snapshot
  overlay : Option (Option Disk)

def FrozenGuest.onStandby (snapshot : Snapshot) : FrozenGuest := ⟨snapshot, none⟩

def FrozenGuest.ofSnapshot (snapshot : Snapshot) : FrozenGuest := ⟨snapshot, some snapshot.overlay⟩

variable (frozen : FrozenGuest)

def FrozenGuest.need : Resources :=
  ⟨frozen.snapshot.vcpus, frozen.snapshot.memoryBytes⟩

/-- Let the guest of a restored VMM run.  What standby froze no longer matches its disk then, and
must not be resumed again, even if the rest fails. -/
def letRun (pid : Nat) : Call Unit :=
  match frozen.overlay with
  | some _ => resumeVM spec.id pid
  | none => do
    thawVM spec pid
    always (bestEffort (discardStandby spec))

/-- Restore the VMM of a frozen guest, let it run, tell it the time and who it is, and record it. -/
def launchRestored : Call Nat := do
  resolveMounts spec.mounts
  hostCall "set up network"
  hostCall "read status disk"
  hostCall "write guest disks"
  let pid ← restoreVM spec
  onError (terminate spec.id pid) do
    letRun spec frozen pid
    hostCall "call the guest's agent"
    recordRunning spec.id pid frozen.need 0
  return pid

/-- Put a copy of the guest's disk in place of the instance's, which is kept until the restore
succeeds. -/
def withOverlayDisk (source : Option Disk) (call : Call Nat) : Call Nat := do
  always (removeKeptDisk spec)
  let kept ← keepOverlayDisk spec
  onError (if kept then restoreKeptDisk spec else pure ()) do
    copyToResume source spec
    call

def restore : Call Nat := do
  hostCall "prepare runtime directory"
  onError (bestEffort (removeRuntimeDir spec.id)) do
    match frozen.overlay with
    | some source => withOverlayDisk spec source (launchRestored spec frozen)
    | none => launchRestored spec frozen

/-- Run the instance from a frozen guest: its own, or, as a fork, another's. -/
def resume : Call Unit := do
  hostCall "find the hypervisor of the snapshot"
  admitInstance capacity spec frozen.need
  always (setStoppedByUser spec.id false)
  let started ← attempt do
    hostCall "get image"
    restore spec frozen
  match started with
  | .error error =>
    always (fail spec.id error)
    throw error
  | .ok pid =>
    always (removeKeptDisk spec)
    always (supervise spec.id pid)

def resumeStandby : Call Unit := do
  let snapshot ← readStandby spec
  resume capacity spec (.onStandby snapshot)

def stopVMM (id : String) : Op Unit := do
  match ← vmmOf id with
  | none => return ()
  | some pid =>
    terminate id pid
    forget id

/-- What an end leaves in the status file. -/
def endedStatus (prev : Status) (exit : Exit) (decision : RestartDecision) : Status :=
  let status := { prev.forgetProcess with
    exitCode := exit.code, restartCount := decision.restarts, stateError := exit.failure.getD "" }
  if decision.restart then { status with state := .restarting }
  else if exit.clean then { status with state := .stopped }
  else if decision.gaveUp then
    { status with
      state := .failed
      stateError := "gave up after " ++ humanCount decision.restarts "restart" ++ ": " ++
        exit.failure.getD "" }
  else { status with state := .failed }

/-- Record an unexpected end and apply the restart policy. -/
def ended (prev : Status) (exit : Exit) : Op Unit := do
  let ranFor ← elapsed
  let decision := decideRestart spec.restart exit prev.restartCount ranFor
  bestEffort (writeStatus spec.id (endedStatus prev exit decision))
  if decision.restart then scheduleRestart spec.id
  else do
    notifyWaiters spec.id
    scheduleRemoval spec

end

end Dicer.Instance
