import Dicer.Instance.Spec

namespace Dicer.GrpcServer

open Instance

/-!
# Instances as the API shows them

A request makes or changes a definition, and a definition is shown as a message.  What a request
sets is read back from the message, but for what the conversions fill in, put in canonical form or
leave out.

As in definitions, numbers that are refused below zero are natural numbers.  What a definition
cannot hold at all, a mount of no type or a host address that is none, is refused by the conversion
rather than by the check behind it.
-/

/-- The codes of an enumeration in the API, where zero is unspecified. -/
structure Enum (Value : Type) [DecidableEq Value] where
  what : String
  values : List (Value × Nat)
  once : ∀ pair ∈ values, values.lookup pair.1 = some pair.2

namespace Enum

variable {Value : Type} [DecidableEq Value] (enum : Enum Value)

def toProto (value : Value) : Nat := (enum.values.lookup value).getD 0

def fromProto (code : Nat) : Except Err (Option Value) :=
  if code = 0 then pure none
  else
    match enum.values.find? (·.2 = code) with
    | some found => pure (some found.1)
    | none => throw (.invalidArgument ("unknown " ++ enum.what ++ " " ++ toString code))

theorem toProto_getD {code : Nat} {read : Option Value} (converted : enum.fromProto code = .ok read)
    (default_ : Value) : enum.toProto (read.getD default_) = if code = 0 then enum.toProto default_
    else code := by
  unfold fromProto at converted
  split at converted
  next unspecified => cases converted; exact (if_pos unspecified).symm
  next specified =>
    rw [if_neg specified]
    cases found : enum.values.find? (·.2 = code) with
    | none => rw [found] at converted; nomatch converted
    | some pair =>
      rw [found] at converted
      cases converted
      have listed := enum.once pair (List.mem_of_find?_eq_some found)
      have coded := List.find?_some found
      simpa [toProto, listed] using coded

end Enum

def hypervisorTypes : Enum HypervisorType :=
    ⟨"hypervisor", [(.cloudHypervisor, 1), (.firecracker, 2)], by decide⟩

def initModes : Enum InitMode := ⟨"init mode", [(.auto, 1), (.exec, 2), (.systemd, 3)], by decide⟩

def restartModes : Enum RestartMode :=
  ⟨"restart policy", [(.no, 1), (.onFailure, 2), (.unlessStopped, 3), (.always, 4)], by decide⟩

def mountTypes : Enum MountType :=
  ⟨"mount type", [(.volume, 1), (.file, 2), (.tmpfs, 3), (.directory, 4)], by decide⟩

def protocols : Enum Protocol := ⟨"protocol", [(.tcp, 1), (.udp, 2)], by decide⟩

structure MountMessage where
  type : Nat
  source : String
  target : String
  readOnly : Bool
  content : String
  mode : Nat

structure PortMessage where
  hostIp : String
  hostPort : Nat
  guestPort : Nat
  protocol : Nat

structure RestartMessage where
  mode : Nat
  maxRetries : Nat

inductive ProbeMessage
  | exec (command : List String)
  | http (port : Nat) (path : String)
  | tcp (port : Nat)

structure HealthMessage where
  probe : Option ProbeMessage
  interval : Option Nat
  timeout : Option Nat
  startPeriod : Option Nat
  retries : Nat
  disabled : Bool

/-- The fields that pass as they are.  In an update each is given or not. -/
structure Settings (Given : Type → Type) where
  hostname : Given String
  hypervisorVersion : Given String
  kernelName : Given String
  kernelArgs : Given String
  vcpus : Given Nat
  memoryBytes : Given Nat
  maxVcpus : Given Nat
  maxMemoryBytes : Given Nat
  diskBytes : Given Nat
  diskBytesPerSecond : Given Int
  diskIops : Given Int
  uploadBytesPerSecond : Given Int
  downloadBytesPerSecond : Given Int
  networkName : Given String
  staticIp : Given String
  user : Given String
  removeOnExit : Given Bool

/-- The fields that are converted, or taken as given unless they are empty. -/
structure Parts where
  hypervisorType : Nat
  standbyAfter : Option Nat
  mounts : List MountMessage
  ports : List PortMessage
  env : List (String × String)
  cmd : List String
  labels : List (String × String)
  restartPolicy : Option RestartMessage
  healthCheck : Option HealthMessage
  initMode : Nat

structure CreateInstanceRequest extends Settings Id, Parts where
  name : String
  imageRef : String

structure UpdateInstanceRequest extends Settings Option, Parts

/-- The fields of an instance that requests set. -/
structure InstanceMessage extends Settings Id, Parts where
  name : String
  imageRef : String

/-! ## From a request to a definition -/

/-- What is given, or else the default. -/
def cmpOr (given default_ : String) : String := if given = "" then default_ else given

/-- What replaces a list, unless it is empty. -/
def replacing {Value : Type} (given old : List Value) : List Value := if given.isEmpty then old
    else given

namespace Settings

/-- Set each field that is given. -/
def onto (given : Settings Option) (old : Settings Id) : Settings Id where
  hostname := given.hostname.getD old.hostname
  hypervisorVersion := given.hypervisorVersion.getD old.hypervisorVersion
  kernelName := given.kernelName.getD old.kernelName
  kernelArgs := given.kernelArgs.getD old.kernelArgs
  vcpus := given.vcpus.getD old.vcpus
  memoryBytes := given.memoryBytes.getD old.memoryBytes
  maxVcpus := given.maxVcpus.getD old.maxVcpus
  maxMemoryBytes := given.maxMemoryBytes.getD old.maxMemoryBytes
  diskBytes := given.diskBytes.getD old.diskBytes
  diskBytesPerSecond := given.diskBytesPerSecond.getD old.diskBytesPerSecond
  diskIops := given.diskIops.getD old.diskIops
  uploadBytesPerSecond := given.uploadBytesPerSecond.getD old.uploadBytesPerSecond
  downloadBytesPerSecond := given.downloadBytesPerSecond.getD old.downloadBytesPerSecond
  networkName := given.networkName.getD old.networkName
  staticIp := given.staticIp.getD old.staticIp
  user := given.user.getD old.user
  removeOnExit := given.removeOnExit.getD old.removeOnExit

def of (spec : Spec) : Settings Id :=
  ⟨spec.hostname, spec.hypervisorVersion, spec.kernelName, spec.kernelArgs, spec.vcpus,
    spec.memoryBytes, spec.maxVCPUs, spec.maxMemoryBytes, spec.diskBytes, spec.diskBytesPerSecond,
    spec.diskIOPS, spec.uploadBytesPerSecond,
    spec.downloadBytesPerSecond, spec.networkName, spec.staticIP, spec.user, spec.removeOnExit⟩

def apply (spec : Spec) : Settings Id → Spec
  | ⟨hostname, hypervisorVersion, kernelName, kernelArgs, vcpus, memoryBytes, maxVCPUs, maxMemoryBytes, diskBytes,
      diskBytesPerSecond, diskIOPS, uploadBytesPerSecond, downloadBytesPerSecond, networkName,
      staticIP, user,
      removeOnExit⟩ =>
    { spec with
      hostname, hypervisorVersion, kernelName, kernelArgs, vcpus, memoryBytes, maxVCPUs,
      maxMemoryBytes, diskBytes
      diskBytesPerSecond, diskIOPS, uploadBytesPerSecond, downloadBytesPerSecond, networkName,
      staticIP, user
      removeOnExit }

end Settings

def restartPolicyFromProto (message : RestartMessage) : Except Err RestartPolicy := do
  let mode ← restartModes.fromProto message.mode
  if mode ≠ some .onFailure ∧ message.maxRetries ≠ 0 then
    throw (.invalidArgument "a retry limit applies only to the on-failure restart policy")
  else return ⟨mode.getD .no, message.maxRetries⟩

def mountFromProto (message : MountMessage) : Except Err Mount := do
  match ← mountTypes.fromProto message.type with
  | none => throw (.invalidArgument ("mount on " ++ message.target ++ ": unknown mount type"))
  | some type =>
    return ⟨type, message.source, if message.target = "" then ""
      else (Archive.clean message.target).text, message.readOnly, message.content, message.mode⟩

def healthCheckFromProto (message : HealthMessage) : Except Err HealthCheck :=
  let check (exec : List String) (http : Option (Nat × String)) (tcp : Option Nat) : HealthCheck :=
    ⟨exec, http, tcp, message.interval.getD 0, message.timeout.getD 0, message.startPeriod.getD 0,
      message.retries, false⟩
  if message.disabled then
    if message.probe.isSome ∨ message.interval ≠ none ∨ message.timeout ≠ none ∨
        message.startPeriod ≠ none ∨ message.retries ≠ 0 then
      throw (.invalidArgument "a disabled health check takes nothing else")
    else pure ⟨[], none, none, 0, 0, 0, 0, true⟩
  else
    match message.probe with
    | some (.exec (first :: rest)) => pure (check (first :: rest) none none)
    | some (.http port path) =>
      if port < 1 ∨ 65535 < port then refusePort port
      else if path ≠ "" ∧ !FileTree.isAbsolute path then
        throw (.invalidArgument ("health check path " ++ quoted path ++ " must begin with /"))
      else pure (check [] (some (port, path)) none)
    | some (.tcp port) =>
      if port < 1 ∨ 65535 < port then refusePort port else pure (check [] none (some port))
    | _ =>
      throw (.invalidArgument "a health check needs exactly one probe: a command, an HTTP port or a TCP port")
where
  refusePort (port : Nat) : Except Err HealthCheck :=
    throw (.invalidArgument ("health check port " ++ toString port ++
      " is not between 1 and 65535"))

section

/- How texts parse that are no dotted quads, and image references. -/
variable (other : String → Option (Option Networks.Address)) (parse : String → Except Err String)

/-- An IPv4 address as it is written, and nothing for every address. -/
def canonicalHostIP (text : String) : String :=
  match Networks.parseIP other text with
  | some (some ip) => if ip = 0 then "" else ip.text
  | _ => text

def portFromProto (message : PortMessage) : Except Err PortMapping := do
  if 65535 < message.hostPort ∨ 65535 < message.guestPort then
    throw (.invalidArgument ("port " ++ toString message.hostPort ++ ":" ++
      toString message.guestPort ++ ": ports must be between 1 and 65535"))
  else
    let protocol ← protocols.fromProto message.protocol
    let hostIP := canonicalHostIP other message.hostIp
    match Networks.parseIPv4 hostIP.toList with
    | none =>
      if hostIP = "" then return ⟨none, message.hostPort, message.guestPort, protocol.getD .tcp⟩
      else throw (.invalidArgument ("invalid host IP " ++ quoted hostIP))
    | some ip => return ⟨some ip, message.hostPort, message.guestPort, protocol.getD .tcp⟩

/-- Convert the parts that are given, and take the others from the definition. -/
def Parts.apply (given : Parts) (spec : Spec) : Except Err Spec := do
  let ports ← given.ports.mapM (portFromProto other)
  let mounts ← given.mounts.mapM mountFromProto
  let restart ← given.restartPolicy.mapM restartPolicyFromProto
  let healthCheck ← given.healthCheck.mapM healthCheckFromProto
  let initMode ← initModes.fromProto given.initMode
  let hypervisorType ← hypervisorTypes.fromProto given.hypervisorType
  return { spec with
    ports := replacing ports spec.ports, mounts := replacing mounts spec.mounts, env :=
      replacing given.env spec.env
    cmd := replacing given.cmd spec.cmd, labels := replacing given.labels spec.labels
    standbyAfter := given.standbyAfter.getD spec.standbyAfter, restart := restart.getD spec.restart
    healthCheck := healthCheck.or spec.healthCheck, initMode := initMode.getD spec.initMode
    hypervisorType := hypervisorType.or spec.hypervisorType }

/-- The definition a create request comes to, from one with nothing in it.  A kernel or network left
out is the default one. -/
def newInstance (id generated : String) (req : CreateInstanceRequest) : Except Err Spec := do
  let settings := { req.toSettings with
    kernelName := cmpOr req.kernelName "default", networkName := cmpOr req.networkName "default" }
  let spec ← req.toParts.apply other (settings.apply { (default : Spec) with id := id })
  let imageRef ← parse req.imageRef
  return { spec with imageRef := imageRef, name := cmpOr req.name generated }

def updateInstance (spec : Spec) (req : UpdateInstanceRequest) : Except Err Spec := do
  -- An update refuses a mount before it refuses a port.
  let _ ← req.mounts.mapM mountFromProto
  req.toParts.apply other ((req.toSettings.onto (.of spec)).apply spec)

end

def optionalDuration (duration : Nat) : Option Nat := if duration = 0 then none else some duration

def healthCheckToProto (check : HealthCheck) : HealthMessage :=
  if check.disabled then ⟨none, none, none, none, 0, true⟩
  else
    { interval := optionalDuration check.interval, timeout := optionalDuration check.timeout
      startPeriod := optionalDuration check.startPeriod, retries := check.retries, disabled := false
      probe :=
        if check.exec ≠ [] then some (.exec check.exec)
        else (check.http.map fun http => .http http.1 http.2).or (check.tcp.map .tcp) }

def mountToProto (mount : Mount) : MountMessage :=
  ⟨mountTypes.toProto mount.type, mount.source, mount.target, mount.readOnly, mount.content,
    mount.mode⟩

def portToProto (port : PortMapping) : PortMessage :=
  ⟨port.hostIP.elim "" Networks.Address.text, port.hostPort, port.guestPort,
    protocols.toProto port.protocol⟩

def restartPolicyToProto (policy : RestartPolicy) : RestartMessage :=
  ⟨restartModes.toProto policy.mode, policy.maxRetries⟩

/-- An instance, with the hypervisor version that its status tells of, if it does.  Whether the
instance is removed on exit is left out. -/
def instanceToProto (spec : Spec) (version : String) : InstanceMessage where
  name := spec.name
  imageRef := spec.imageRef
  toSettings := { Settings.of spec with
    hypervisorVersion := cmpOr version spec.hypervisorVersion, removeOnExit := false }
  hypervisorType := hypervisorTypes.toProto spec.effectiveHypervisorType
  standbyAfter := optionalDuration spec.standbyAfter
  mounts := spec.mounts.map mountToProto
  ports := spec.ports.map portToProto
  env := spec.env
  cmd := spec.cmd
  labels := spec.labels
  restartPolicy := some (restartPolicyToProto spec.restart)
  healthCheck := spec.healthCheck.map healthCheckToProto
  initMode := initModes.toProto spec.initMode

/-! ## What is read back -/

namespace Parts

/-- What is given, in canonical form and with its defaults, or else what there was. -/
def onto (other : String → Option (Option Networks.Address)) (given old : Parts) : Parts where
  hypervisorType := if given.hypervisorType = 0 then old.hypervisorType else given.hypervisorType
  standbyAfter := given.standbyAfter.or old.standbyAfter
  mounts := replacing given.mounts old.mounts
  ports := replacing (given.ports.map fun port =>
    { port with
      hostIp := canonicalHostIP other port.hostIp, protocol := if port.protocol = 0 then 1
        else port.protocol }) old.ports
  env := replacing given.env old.env
  cmd := replacing given.cmd old.cmd
  labels := replacing given.labels old.labels
  restartPolicy := (given.restartPolicy.map fun policy =>
    { policy with mode := if policy.mode = 0 then 1 else policy.mode }).or old.restartPolicy
  healthCheck := given.healthCheck.or old.healthCheck
  initMode := if given.initMode = 0 then old.initMode else given.initMode

/-- Nothing is given that is shown otherwise: a mount target that is not clean, or a duration of
zero. -/
@[mk_iff]
structure Plain (given : Parts) : Prop where
  targets : ∀ mount ∈ given.mounts, mount.target = "" ∨ (Archive.clean mount.target).text =
    mount.target
  standby : given.standbyAfter ≠ some 0
  durations : ∀ check ∈ given.healthCheck, check.interval ≠ some 0 ∧ check.timeout ≠ some 0 ∧
    check.startPeriod ≠ some 0

end Parts

theorem cmpOr_comm_iff {given recorded : String} : cmpOr recorded given = cmpOr given recorded ↔
    given = "" ∨ recorded = "" ∨ recorded = given := by
  grind [cmpOr]

theorem cmpOr_eq_right {given recorded : String} : cmpOr recorded given = given ↔
    recorded = "" ∨ recorded = given := by
  grind [cmpOr]

theorem optionalDuration_getD (given : Option Nat) (old : Nat) :
    optionalDuration (given.getD old) = given.or (optionalDuration old) ↔ given ≠ some 0 := by
  cases given with
  | none => simp
  | some duration => by_cases zero : duration = 0 <;> simp [optionalDuration, zero]

theorem mountToProto_eq {message : MountMessage} {mount : Mount}
    (converted : mountFromProto message = .ok mount) : mountToProto mount = message ↔
      message.target = "" ∨ (Archive.clean message.target).text = message.target := by
  obtain ⟨type, read, converted⟩ := bind_eq_ok.mp converted
  cases type with
  | none => nomatch converted
  | some =>
    cases converted
    have specified : message.type ≠ 0 := by
      intro unspecified
      rw [Enum.fromProto, if_pos unspecified] at read
      nomatch read
    have code := mountTypes.toProto_getD read .volume
    rw [if_neg specified] at code
    rw [Option.getD_some] at code
    obtain ⟨_, _, target, _, _, _⟩ := message
    simp only [mountToProto, code, MountMessage.mk.injEq, true_and, and_true]
    by_cases empty : target = "" <;> simp [empty]

theorem portToProto_eq {other : String → Option (Option Networks.Address)} {message : PortMessage}
    {port : PortMapping} (converted : portFromProto other message = .ok port) :
    portToProto port = { message with
        hostIp := canonicalHostIP other message.hostIp
        protocol := if message.protocol = 0 then 1 else message.protocol } := by
  obtain ⟨-, converted⟩ := ite_throw_eq_ok.mp converted
  obtain ⟨protocol, read, converted⟩ := bind_eq_ok.mp converted
  have code := protocols.toProto_getD read .tcp
  cases parsed : Networks.parseIPv4 (canonicalHostIP other message.hostIp).toList with
  | none =>
    simp only [parsed] at converted
    split at converted
    next every => cases converted; rw [portToProto, code, every]; rfl
    next => nomatch converted
  | some ip =>
    simp only [parsed] at converted
    cases converted
    have text : ip.text = canonicalHostIP other message.hostIp := by
      unfold canonicalHostIP at parsed ⊢
      split at parsed
      next address _ =>
        split at parsed
        next => nomatch parsed
        next specified =>
          rw [Networks.parseIPv4_text] at parsed
          cases parsed
          exact (if_neg specified).symm
      next unparsed => exact absurd (by rw [Networks.parseIP, parsed]) (unparsed ip)
    rw [portToProto, code, ← text]; rfl

theorem healthCheckToProto_eq {message : HealthMessage} {check : HealthCheck}
    (converted : healthCheckFromProto message = .ok check) : healthCheckToProto check = message ↔
      message.interval ≠ some 0 ∧ message.timeout ≠ some 0 ∧ message.startPeriod ≠ some 0 := by
  obtain ⟨probe, interval, timeout, startPeriod, retries, disabled⟩ := message
  cases disabled with
  | true =>
    obtain ⟨nothing, shown⟩ := ite_throw_eq_ok.mp converted
    cases shown
    simp only [not_or, not_not, Option.not_isSome_iff_eq_none] at nothing
    obtain ⟨rfl, rfl, rfl, rfl, rfl⟩ := nothing
    simp [healthCheckToProto]
  | false =>
    have shown (exec http tcp) : healthCheckToProto
        ⟨exec, http, tcp, interval.getD 0, timeout.getD 0, startPeriod.getD 0, retries, false⟩ =
        ⟨if exec ≠ [] then some (.exec exec)
          else (http.map fun http => .http http.1 http.2).or (tcp.map .tcp), interval, timeout,
              startPeriod, retries, false⟩ ↔
        interval ≠ some 0 ∧ timeout ≠ some 0 ∧ startPeriod ≠ some 0 := by
      have given (duration : Option Nat) : optionalDuration (duration.getD 0) = duration ↔
          duration ≠ some 0 := by
        simpa [show optionalDuration 0 = none from rfl] using optionalDuration_getD duration 0
      simp [healthCheckToProto, given]
    match probe with
    | none | some (.exec []) => nomatch converted
    | some (.exec (_ :: _)) => cases converted; exact shown ..
    | some (.http ..) =>
      obtain ⟨-, converted⟩ := ite_throw_eq_ok.mp converted
      obtain ⟨-, converted⟩ := ite_throw_eq_ok.mp converted
      cases converted
      exact shown ..
    | some (.tcp _) =>
      obtain ⟨-, converted⟩ := ite_throw_eq_ok.mp converted
      cases converted
      exact shown ..

theorem restartPolicyToProto_eq {message : RestartMessage} {policy : RestartPolicy}
    (converted : restartPolicyFromProto message = .ok policy) :
    restartPolicyToProto policy = { message with mode := if message.mode = 0 then 1 else message.mode } := by
  obtain ⟨mode, read, converted⟩ := bind_eq_ok.mp converted
  obtain ⟨-, converted⟩ := ite_throw_eq_ok.mp converted
  cases converted
  exact congrArg (RestartMessage.mk · message.maxRetries) (restartModes.toProto_getD read .no)

section

variable {Given Value Shown : Type} {convert : Given → Except Err Value} {show_ : Value → Shown}
  {expected : Given → Shown} {Plain : Given → Prop}
  (exact : ∀ {one value}, convert one = .ok value → (show_ value = expected one ↔ Plain one))

include exact

theorem map_of_mapM {given : List Given} : ∀ {values : List Value},
    given.mapM convert = .ok values →
    (values.map show_ = given.map expected ↔ ∀ one ∈ given, Plain one) := by
  induction given with
  | nil => rintro _ ⟨⟩; simp
  | cons first rest ih =>
    intro values converted
    rw [List.mapM_cons] at converted
    obtain ⟨value, first_converted, converted⟩ := bind_eq_ok.mp converted
    obtain ⟨others, rest_converted, converted⟩ := bind_eq_ok.mp converted
    cases converted
    simp [ih rest_converted, exact first_converted]

theorem map_replacing {given : List Given} {values : List Value}
    (converted : given.mapM convert = .ok values) (old : List Value) :
    (replacing values old).map show_ = replacing (given.map expected) (old.map show_) ↔
      ∀ one ∈ given, Plain one := by
  rw [← map_of_mapM exact converted]
  cases given with
  | nil => cases converted; simp [replacing]
  | cons =>
    rw [List.mapM_cons] at converted
    obtain ⟨_, _, converted⟩ := bind_eq_ok.mp converted
    obtain ⟨_, _, converted⟩ := bind_eq_ok.mp converted
    cases converted
    simp [replacing]

theorem map_or {given : Option Given} {value : Option Value}
    (converted : given.mapM convert = .ok value) (old : Option Value) :
    (value.or old).map show_ = (given.map expected).or (old.map show_) ↔
      ∀ one ∈ given, Plain one := by
  cases given with
  | none => cases converted; simp
  | some one =>
    obtain ⟨value, is_converted, read⟩ := bind_eq_ok.mp converted
    cases read
    simp [exact is_converted]

end

/-- The parts of a definition that a request sets are shown as given, and the others as before, if
nothing is given that is shown otherwise. -/
theorem Parts.apply_shown {other : String → Option (Option Networks.Address)} {given : Parts}
    {spec made : Spec} (applied : given.apply other spec = .ok made) (version : String) :
    ((instanceToProto made version).toParts = given.onto other
      (instanceToProto spec version).toParts ↔ given.Plain) ∧
    (instanceToProto made version).toSettings = (instanceToProto spec version).toSettings := by
  obtain ⟨ports, ports_read, applied⟩ := bind_eq_ok.mp applied
  obtain ⟨mounts, mounts_read, applied⟩ := bind_eq_ok.mp applied
  obtain ⟨restart, restart_read, applied⟩ := bind_eq_ok.mp applied
  obtain ⟨check, check_read, applied⟩ := bind_eq_ok.mp applied
  obtain ⟨initMode, init_read, applied⟩ := bind_eq_ok.mp applied
  obtain ⟨hypervisorType, type_read, applied⟩ := bind_eq_ok.mp applied
  cases applied
  refine ⟨?_, rfl⟩
  have ports_shown := (map_replacing (fun converted => iff_true_intro (portToProto_eq converted))
    ports_read spec.ports).mpr fun _ _ => trivial
  have mounts_shown := map_replacing mountToProto_eq mounts_read spec.mounts
  have restart_shown := (map_or (fun converted => iff_true_intro
    (restartPolicyToProto_eq converted)) restart_read (some spec.restart)).mpr fun _ _ => trivial
  have check_shown := map_or healthCheckToProto_eq check_read spec.healthCheck
  rw [List.map_id'] at mounts_shown
  rw [Option.map_id'] at check_shown
  rw [Option.or_some, Option.map_some, Option.map_some] at restart_shown
  simp only [instanceToProto, onto, Spec.effectiveHypervisorType, Option.getD_or, ports_shown,
    mounts_shown, restart_shown, check_shown, optionalDuration_getD, Enum.toProto_getD _ init_read,
    Enum.toProto_getD _ type_read, Parts.mk.injEq, true_and, and_true, plain_iff]
  exact and_left_comm

/-- A web server on Firecracker, with a volume and a published port. -/
def web (removeOnExit : Bool) : CreateInstanceRequest where
  name := "web"
  imageRef := "nginx"
  toSettings := { Settings.of default with
    vcpus := 1, memoryBytes := 1024, diskBytes := 1, removeOnExit := removeOnExit }
  toParts := ⟨2, some 60, [⟨1, "data", "/data", false, "", 0⟩], [⟨"0.0.0.0", 8080, 80, 0⟩], [], [],
    [], none, none, 0⟩

end Dicer.GrpcServer
