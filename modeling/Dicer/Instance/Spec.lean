import Dicer.Archive.Unpack
import Dicer.FileStore.Definitions
import Dicer.Networks.Address

namespace Dicer.Instance

open FileStore

/-!
# Instances: what is asked for and what is observed

An instance's spec is its definition, which the store keeps.  Its status is what a start, a stop or
an exit left behind, in a file of its own.  The lifecycle state in the status says which moves are
allowed, whether the instance holds CPU and memory, and whether it keeps its ports and volumes to
itself.

Sizes are natural numbers, since the source refuses a negative one like a zero one or one below
another.  Maps are lists of their entries in the order of the keys.  How a health check is judged is
not modelled, and times are left out.
-/

inductive State
  | stopped
  | starting
  | running
  | paused
  | standby
  | stopping
  | restarting
  | failed
  deriving DecidableEq, Repr

namespace State

def allowedTransitions : State → List State
  | stopped => [starting]
  | starting => [running, restarting, failed]
  | running => [paused, stopping, stopped, restarting, failed]
  | paused => [running, stopping, stopped, restarting, failed]
  | standby => [starting]
  | stopping => [stopped, failed]
  | restarting => [starting, stopping, failed]
  | failed => [starting, stopping, stopped]

def canTransitionTo (state target : State) : Bool :=
  state.allowedTransitions.contains target

/-- The state implies a live VMM. -/
def isActive : State → Bool
  | running | paused => true
  | _ => false

def holdsResources (state : State) : Bool :=
  state = starting || state.isActive

def holdsPortsAndVolumes (state : State) : Bool :=
  state.holdsResources || state = stopping || state = standby

def lowercase : State → String
  | stopped => "stopped"
  | starting => "starting"
  | running => "running"
  | paused => "paused"
  | standby => "on standby"
  | stopping => "stopping"
  | restarting => "restarting"
  | failed => "failed"

/-- The states a frozen guest on disk turns into standby. -/
def isDown : State → Bool
  | stopped | failed => true
  | _ => false

end State

/-- A size as messages give it, to a tenth of the largest unit it fills. -/
def humanBytes (bytes : Nat) : String :=
  go bytes 1 ["B", "KiB", "MiB", "GiB", "TiB"]
where
  go (reference unit : Nat) : List String → String
    | [] => tenths unit ++ " PiB"
    | name :: larger =>
      if reference < 1024 then tenths unit ++ " " ++ name
        else go (reference / 1024) (unit * 1024) larger
  tenths (unit : Nat) : String :=
    let rounded := (bytes * 20 + unit) / (2 * unit)
    if rounded % 10 = 0 then toString (rounded / 10)
    else toString (rounded / 10) ++ "." ++ toString (rounded % 10)

def humanCount (count : Nat) (thing : String) : String :=
  if count = 1 then "1 " ++ thing else toString count ++ " " ++ thing ++ "s"

structure Resources where
  vcpus : Nat
  memoryBytes : Nat
  deriving DecidableEq, Repr

namespace Resources

def zero : Resources := ⟨0, 0⟩

def add (first second : Resources) : Resources :=
  ⟨first.vcpus + second.vcpus, first.memoryBytes + second.memoryBytes⟩

def fits (resources limit : Resources) : Bool :=
  resources.vcpus ≤ limit.vcpus && resources.memoryBytes ≤ limit.memoryBytes

def text (resources : Resources) : String :=
  toString resources.vcpus ++ " vCPU, " ++ humanBytes resources.memoryBytes

end Resources

/-- How much of the host instances may be given in total, unless it is left unlimited.  How that
follows from the host's CPUs and memory is not modelled. -/
structure Capacity where
  limited : Bool
  hostVCPUs : Nat
  allocatable : Resources
  deriving DecidableEq, Repr

inductive MountType
  | volume
  | file
  | tmpfs
  | directory
  deriving DecidableEq, Repr

namespace MountType

def text : MountType → String
  | volume => "volume"
  | file => "file"
  | tmpfs => "tmpfs"
  | directory => "directory"

end MountType

/-- What a guest sees at `target`.  The source of a volume mount is the volume's name, or its ID. -/
structure Mount where
  type : MountType
  source : String
  target : String
  readOnly : Bool
  content : String
  mode : Nat
  deriving DecidableEq, Repr

namespace Mount

variable (mount : Mount)

def isVolume : Bool := mount.type = .volume

def text (mount : Mount) : String :=
  ",".intercalate (["type=" ++ mount.type.text] ++
    (if mount.source = "" then [] else ["source=" ++ mount.source]) ++
    ["target=" ++ mount.target] ++ (if mount.readOnly then ["readonly"] else []))

def refuse (reason : String) : Except Err Unit :=
  throw (.invalidArgument ("mount " ++ mount.text ++ ": " ++ reason))

/-- What each type of mount needs of its source. -/
def validateSource : Except Err Unit :=
  match mount.type with
  | .volume =>
    if mount.source = "" then
      mount.refuse "a volume mount needs the volume's name as its source"
    else pure ()
  | .file =>
    if mount.source ≠ "" then
      mount.refuse "a file mount has no source: the client sends the file's contents"
    else if 0o777 < mount.mode then
      mount.refuse ("mode 0" ++ String.ofList (Nat.toDigits 8 mount.mode) ++
        " is not permission bits")
    else pure ()
  | .directory =>
    if !FileTree.isAbsolute mount.source then
      mount.refuse "a directory mount needs an absolute host path as its source"
    else pure ()
  | .tmpfs =>
    if mount.source ≠ "" then mount.refuse "a tmpfs has no source"
    else if mount.readOnly then mount.refuse "a read-only tmpfs would always be empty"
    else pure ()

def validate : Except Err Unit :=
  if mount.target = "" then mount.refuse "it needs a target"
  else if !FileTree.isAbsolute mount.target then
    mount.refuse ("the target " ++ quoted mount.target ++ " must be absolute, e.g. /data")
  else if (Archive.clean mount.target).names = [] then
    mount.refuse "nothing can be mounted over the root filesystem"
  else if mount.type ≠ .file ∧ (mount.content ≠ "" ∨ mount.mode ≠ 0) then
    mount.refuse "only a file mount has contents and a mode"
  else mount.validateSource

end Mount

/-- How much an instance's file mounts hold between them at most. -/
def maxFileMountBytes : Nat := 2 ^ 20

/-- The devices `/dev/vde` to `/dev/vdz`. -/
def maxVolumeMounts : Nat := 22

/-- The mounts after those already gone through, which have these targets and volumes and this much
in files. -/
def validateMountsFrom (targets volumes : List String) (fileBytes : Nat) :
    List Mount → Except Err Unit
  | [] =>
    if maxVolumeMounts < volumes.length then
      throw (.invalidArgument (toString volumes.length ++
        " volumes given: an instance can mount at most " ++ toString maxVolumeMounts))
    else pure ()
  | mount :: rest => do
    mount.validate
    let fileBytes := fileBytes + mount.content.utf8ByteSize
    let target := (Archive.clean mount.target).text
    if maxFileMountBytes < fileBytes then
      throw (.invalidArgument ("the file mounts hold more than " ++ toString maxFileMountBytes ++
        " bytes between them: put larger files in a volume or the image"))
    else if targets.contains target then
      throw (.invalidArgument ("two mounts have the target " ++ quoted target))
    else if mount.isVolume && volumes.contains mount.source then
      throw (.invalidArgument ("volume " ++ quoted mount.source ++ " is mounted twice"))
    else
      validateMountsFrom (target :: targets)
        (if mount.isVolume then mount.source :: volumes else volumes) fileBytes rest

def validateMounts (mounts : List Mount) : Except Err Unit :=
  validateMountsFrom [] [] 0 mounts

inductive Protocol
  | tcp
  | udp
  deriving DecidableEq, Repr

/-- A guest port published on the host, on one of its addresses or on all of them. -/
structure PortMapping where
  hostIP : Option Networks.Address
  hostPort : Nat
  guestPort : Nat
  protocol : Protocol
  deriving DecidableEq, Repr

namespace PortMapping

def text (port : PortMapping) : String :=
  (match port.hostIP with
    | none => ""
    | some ip => ip.text ++ ":") ++
  toString port.hostPort ++ ":" ++ toString port.guestPort ++ "/" ++
  (match port.protocol with
    | .tcp => "tcp"
    | .udp => "udp")

def overlaps (port other : PortMapping) : Bool :=
  port.protocol = other.protocol && port.hostPort = other.hostPort &&
    (port.hostIP.isNone || other.hostIP.isNone || port.hostIP = other.hostIP)

def validate (port : PortMapping) : Except Err Unit :=
  if port.hostPort = 0 then
    throw (.invalidArgument ("invalid port mapping " ++ port.text ++ ": no host port"))
  else if port.guestPort = 0 then
    throw (.invalidArgument ("invalid port mapping " ++ port.text ++ ": no guest port"))
  else if port.hostIP.any Networks.Address.isLoopback then
    throw (.invalidArgument ("cannot publish port " ++ port.text ++ " on loopback: " ++
      "publish it on one of the host's own addresses instead"))
  else pure ()

end PortMapping

/-- Each port can be published and overlaps none before it. -/
def validatePorts : List PortMapping → List PortMapping → Except Err Unit
  | _, [] => pure ()
  | earlier, port :: rest => do
    port.validate
    match earlier.find? port.overlaps with
    | some clash => throw (.invalidArgument
      ("port " ++ port.text ++ " overlaps port " ++ clash.text))
    | none => validatePorts (earlier ++ [port]) rest

inductive RestartMode
  | no
  | onFailure
  | unlessStopped
  | always
  deriving DecidableEq, Repr

structure RestartPolicy where
  mode : RestartMode
  maxRetries : Nat
  deriving DecidableEq, Repr

namespace RestartPolicy

variable (policy : RestartPolicy)

def restarts : Bool := policy.mode ≠ .no

def startsOnBoot (stoppedByUser : Bool) : Bool :=
  match policy.mode with
  | .always => true
  | .unlessStopped => !stoppedByUser
  | _ => false

def text : String :=
  (match policy.mode with
    | .no => "no"
    | .onFailure => "on-failure"
    | .unlessStopped => "unless-stopped"
    | .always => "always") ++
  (if policy.maxRetries = 0 then "" else ":" ++ toString policy.maxRetries)

end RestartPolicy

/-- How a guest ended: cleanly only if it reported exit code 0. -/
structure Exit where
  code : Option Int
  failure : Option String
  deriving DecidableEq, Repr

def Exit.clean (exit : Exit) : Bool := exit.failure.isNone

structure RestartDecision where
  restart : Bool
  restarts : Nat
  gaveUp : Bool
  deriving DecidableEq, Repr

/-- A run this long, in seconds, resets the count of restarts. -/
def restartBackoffReset : Nat := 600

def decideRestart (policy : RestartPolicy) (exit : Exit) (restarts ranFor : Nat) :
    RestartDecision :=
  let restarts := if restartBackoffReset ≤ ranFor then 0 else restarts
  let wanted :=
    match policy.mode with
    | .always | .unlessStopped => true
    | .onFailure => !exit.clean
    | .no => false
  if !wanted then ⟨false, restarts, false⟩
  else if 0 < policy.maxRetries ∧ policy.maxRetries ≤ restarts then ⟨false, restarts, true⟩
  else ⟨true, restarts + 1, false⟩

/-! ## Definitions -/

inductive HypervisorType
  | cloudHypervisor
  | firecracker
  deriving DecidableEq, Repr

def HypervisorType.text : HypervisorType → String
  | cloudHypervisor => "cloud-hypervisor"
  | firecracker => "firecracker"

inductive InitMode
  | auto
  | exec
  | systemd
  deriving DecidableEq, Repr

/-- How an instance's health is checked: one probe, and when to run it, in seconds. -/
structure HealthCheck where
  exec : List String
  http : Option (Nat × String)
  tcp : Option Nat
  interval : Nat
  timeout : Nat
  startPeriod : Nat
  retries : Nat
  disabled : Bool
  deriving DecidableEq, Repr

/-- The init mode is the one in effect, with the default filled in; `standbyAfter` is in seconds,
and zero is never.  The kernel, the network and the volumes are given by name or by ID. -/
structure Spec where
  id : String
  name : String
  hostname : String
  imageRef : String
  imageDigest : String
  hypervisorType : Option HypervisorType
  hypervisorVersion : String
  kernelName : String
  kernelArgs : String
  vcpus : Nat
  memoryBytes : Nat
  diskBytes : Nat
  networkName : String
  staticIP : String
  maxVCPUs : Nat
  maxMemoryBytes : Nat
  diskBytesPerSecond : Int
  diskIOPS : Int
  uploadBytesPerSecond : Int
  downloadBytesPerSecond : Int
  standbyAfter : Nat
  ports : List PortMapping
  mounts : List Mount
  env : List (String × String)
  cmd : List String
  initMode : InitMode
  user : String
  labels : List (String × String)
  restart : RestartPolicy
  healthCheck : Option HealthCheck
  removeOnExit : Bool
  stoppedByUser : Bool
  deriving DecidableEq, Repr

instance : Named Spec where
  name := Spec.name
  id := Spec.id

/-- The zero definition of the source, which a map of it gives for a name it does not hold. -/
instance : Inhabited Spec where
  default :=
    { id := "", name := "", hostname := "", imageRef := "", imageDigest := ""
      hypervisorType := none, hypervisorVersion := "", kernelName := "", kernelArgs := ""
      vcpus := 0, memoryBytes := 0, diskBytes := 0, networkName := "", staticIP := ""
      maxVCPUs := 0, maxMemoryBytes := 0, diskBytesPerSecond := 0, diskIOPS := 0
      uploadBytesPerSecond := 0, downloadBytesPerSecond := 0, standbyAfter := 0, ports := []
      mounts := [], env := [], cmd := [], initMode := .auto, user := "", labels := []
      restart := ⟨.no, 0⟩, healthCheck := none, removeOnExit := false, stoppedByUser := false }

namespace Spec

variable (spec : Spec)

def resources : Resources := ⟨spec.vcpus, spec.memoryBytes⟩

def maxResources : Resources :=
  ⟨max spec.vcpus spec.maxVCPUs, max spec.memoryBytes spec.maxMemoryBytes⟩

/-- The hypervisor the instance runs on, which is the default one if the definition names none. -/
def effectiveHypervisorType : HypervisorType := spec.hypervisorType.getD .cloudHypervisor

def hasDirectoryMount : Bool :=
  spec.mounts.any fun mount => mount.type = .directory

def volumeMount (name : String) : Option Mount :=
  spec.mounts.find? fun mount => mount.type = .volume && mount.source = name

/-- Of the form user, uid, user:group or uid:gid. -/
def validUser (user : String) : Bool :=
  let name := user.toList.takeWhile (· ≠ ':')
  let rest := user.toList.drop name.length
  name ≠ [] && (rest = [] || (rest.tail ≠ [] && !rest.tail.contains ':'))

def minStandbyAfter : Nat := 60

/-- The checks of a definition's fields, up to its ports and mounts, in the order of the source. -/
def validateFields : Except Err Unit :=
  if spec.imageRef = "" then throw (.invalidArgument "an instance needs an image")
  else if spec.vcpus = 0 then throw (.invalidArgument "an instance needs at least 1 vCPU")
  else if spec.memoryBytes = 0 then
    throw (.invalidArgument "an instance needs more than 0 bytes of memory")
  else if spec.diskBytes = 0 then
    throw (.invalidArgument "an instance needs a disk of more than 0 bytes")
  else if 0 < spec.maxVCPUs ∧ spec.maxVCPUs < spec.vcpus then
    throw (.invalidArgument ("max_vcpus " ++ toString spec.maxVCPUs ++
      " is below the instance's " ++ humanCount spec.vcpus "vCPU"))
  else if 0 < spec.maxMemoryBytes ∧ spec.maxMemoryBytes < spec.memoryBytes then
    throw (.invalidArgument ("max_memory_bytes " ++ humanBytes spec.maxMemoryBytes ++
      " is below the instance's " ++ humanBytes spec.memoryBytes ++ " memory"))
  else if 0 < spec.maxVCPUs ∧ spec.effectiveHypervisorType = .firecracker then
    throw (.invalidArgument ("firecracker cannot add vCPUs to a running guest: leave max_vcpus unset, " ++
      "or use cloud-hypervisor"))
  else if spec.diskBytesPerSecond < 0 ∨ spec.diskIOPS < 0 ∨ spec.uploadBytesPerSecond < 0 ∨
      spec.downloadBytesPerSecond < 0 then
    throw (.invalidArgument "a rate limit cannot be negative: give 0 for no limit")
  else if spec.standbyAfter ≠ 0 ∧ spec.standbyAfter < minStandbyAfter then
    throw (.invalidArgument ("standby_after " ++ toString spec.standbyAfter ++
      "s is too short: idleness is judged a minute at a time, so give 1m0s or more, or 0 for never"))
  else if spec.hasDirectoryMount ∧ spec.effectiveHypervisorType ≠ .cloudHypervisor then
    throw (.invalidArgument ("directory mounts need cloud-hypervisor: " ++
      spec.effectiveHypervisorType.text ++ " cannot share a directory with its guest"))
  else if spec.hasDirectoryMount ∧ spec.standbyAfter ≠ 0 then
    throw (.invalidArgument ("an instance that mounts a host directory cannot be put on standby: " ++
      "leave standby_after unset"))
  else if spec.user ≠ "" ∧ !validUser spec.user then
    throw (.invalidArgument ("invalid user " ++ quoted spec.user ++
      ": give user, uid, user:group or uid:gid"))
  else if spec.user ≠ "" ∧ spec.initMode = .systemd then
    throw (.invalidArgument ("systemd runs as root, so the systemd init mode cannot run as user " ++
      quoted spec.user ++ ": leave the user unset, or use the exec init mode"))
  else if spec.removeOnExit ∧ spec.restart.restarts then
    throw (.invalidArgument ("an instance cannot be deleted when it stops and restarted when it stops: " ++
      "the restart policy is " ++ spec.restart.text ++
      ", so drop it or drop the request to delete it"))
  else pure ()

def validate (spec : Spec) : Except Err Unit := do
  Naming.validate spec.name
  Naming.validateHostname spec.hostname
  spec.validateFields
  validatePorts [] spec.ports
  validateMounts spec.mounts

/-- What may change in any state: the restart policy and when the instance goes on standby. -/
def onlyPoliciesDiffer (spec other : Spec) : Bool :=
  { spec with restart := other.restart, standbyAfter := other.standbyAfter } = other

end Spec

structure Status where
  state : State
  stateError : String
  vmmPID : Option Nat
  vcpus : Nat
  memoryBytes : Nat
  restartCount : Nat
  exitCode : Option Int
  deriving DecidableEq, Repr

namespace Status

/-- The status of an instance with no status file. -/
def stopped : Status where
  state := .stopped
  stateError := ""
  vmmPID := none
  vcpus := 0
  memoryBytes := 0
  restartCount := 0
  exitCode := none

def heldResources (status : Status) : Resources :=
  if status.state.holdsResources then ⟨status.vcpus, status.memoryBytes⟩ else .zero

def forgetProcess (status : Status) : Status :=
  { status with vmmPID := none, vcpus := 0, memoryBytes := 0 }

end Status

inductive SnapshotKind
  | memory
  | disk
  deriving DecidableEq, Repr

/-- A disk's contents as far as they matter: its size, and the disks it is a copy of, itself
first. -/
structure Disk where
  inode : Nat
  bytes : Nat
  ancestry : List Nat
  deriving DecidableEq, Repr

/-- A snapshot and the overlay disk its directory holds. -/
structure Snapshot where
  id : String
  name : String
  kind : SnapshotKind
  spec : Spec
  address : String
  vcpus : Nat
  memoryBytes : Nat
  overlay : Option Disk
  deriving DecidableEq, Repr

instance : Named Snapshot where
  name := Snapshot.name
  id := Snapshot.id

instance : Inhabited Snapshot where
  default :=
    { id := "", name := "", kind := .disk, spec := default, address := "", vcpus := 0, memoryBytes := 0
      overlay := none }

structure Volume where
  id : String
  name : String
  sizeBytes : Nat
  deriving DecidableEq, Repr

instance : Named Volume where
  name := Volume.name
  id := Volume.id

instance : Inhabited Volume where
  default := ⟨"", "", 0⟩

end Dicer.Instance
