import Dicer.GrpcServer.Instances

namespace Dicer.Instance

open GrpcServer

/-!
# What an update is said to have changed

The event of an update lists the fields that differ by how they are described.  Sizes are rounded,
and of a health check only its probe is described, so a change may go unsaid; whether the instance
is removed on exit is not looked at.
-/

def InitMode.text : InitMode → String
  | auto => "auto"
  | exec => "exec"
  | systemd => "systemd"

def HealthCheck.text (check : HealthCheck) : String :=
  if check.disabled then "disabled"
  else if check.exec ≠ [] then "exec " ++ " ".intercalate check.exec
  else
    match check.http, check.tcp with
    | some (port, path), _ => "http :" ++ toString port ++ cmpOr path "/"
    | none, some port => "tcp :" ++ toString port
    | none, none => "none"

def healthCheckString (check : Option HealthCheck) :
    String := check.elim "the image's" HealthCheck.text

def from_ (name x y : String) : List String :=
  if x = y then [] else [name ++ " " ++ cmpOr x "none" ++ " → " ++ cmpOr y "none"]

def changed (name : String) (same : Bool) : List String := if same then [] else [name ++ " changed"]

/-- A maximum as written, of which zero is none. -/
def maximum (write : Nat → String) (n : Nat) : String := if n = 0 then "" else write n

/-- A rate limit as written, of which zero is unlimited. -/
def limit (write : Int → String) (n : Int) : String := if n = 0 then "unlimited" else write n

def byteRate : Int → String := limit fun n =>
    (if n < 0 then n.repr ++ " B" else humanBytes n.toNat) ++ "/s"

def iops : Int → String := limit Int.repr

section

/- How a text is trimmed and a duration written. -/
variable (trimSpace : String → String) (duration : Nat → String)

def describeStandby (after : Nat) : String := if after = 0 then "never" else duration after

def describeHypervisor (type : Option HypervisorType) (version : String) : String :=
  trimSpace (type.elim "" HypervisorType.text ++ " " ++ version)

/-- The fields that are described, in the order of the source. -/
def described : List (String × (Spec → String)) :=
  [("vCPUs", fun spec => spec.vcpus.repr), ("memory", fun spec => humanBytes spec.memoryBytes),
    ("max vCPUs", fun spec => maximum Nat.repr spec.maxVCPUs),
    ("max memory", fun spec => maximum humanBytes spec.maxMemoryBytes),
    ("disk", fun spec => humanBytes spec.diskBytes),
      ("disk rate", fun spec => byteRate spec.diskBytesPerSecond),
    ("disk IOPS", fun spec => iops spec.diskIOPS),
    ("standby after", fun spec => describeStandby duration spec.standbyAfter),
    ("upload rate", fun spec => byteRate spec.uploadBytesPerSecond),
    ("download rate", fun spec => byteRate spec.downloadBytesPerSecond),
    ("restart policy", fun spec => spec.restart.text), ("network", Spec.networkName),
      ("static IP", Spec.staticIP),
    ("hostname", Spec.hostname),
    ("hypervisor", fun spec => describeHypervisor trimSpace spec.hypervisorType
      spec.hypervisorVersion),
    ("kernel", Spec.kernelName), ("kernel args", Spec.kernelArgs),
      ("init mode", fun spec => spec.initMode.text),
    ("user", fun spec => cmpOr spec.user "the image's"),
    ("health check", fun spec => healthCheckString spec.healthCheck)]

def definitionChanges (a b : Spec) : List String :=
  (described trimSpace duration).flatMap
    (fun (name, describe) => from_ name (describe a) (describe b)) ++
    changed "command" (a.cmd = b.cmd) ++ changed "environment" (a.env = b.env) ++
      changed "ports" (a.ports = b.ports) ++
    changed "mounts" (a.mounts = b.mounts) ++ changed "labels" (a.labels = b.labels)

/-- The definitions differ at most in whether the instance is removed on exit, and in what is
described only roughly and is described as before. -/
structure DescribedAlike (a b : Spec) : Prop where
  memory : humanBytes a.memoryBytes = humanBytes b.memoryBytes
  maxMemory : maximum humanBytes a.maxMemoryBytes = maximum humanBytes b.maxMemoryBytes
  disk : humanBytes a.diskBytes = humanBytes b.diskBytes
  diskRate : byteRate a.diskBytesPerSecond = byteRate b.diskBytesPerSecond
  uploadRate : byteRate a.uploadBytesPerSecond = byteRate b.uploadBytesPerSecond
  downloadRate : byteRate a.downloadBytesPerSecond = byteRate b.downloadBytesPerSecond
  standby : describeStandby duration a.standbyAfter = describeStandby duration b.standbyAfter
  hypervisor : describeHypervisor trimSpace a.hypervisorType a.hypervisorVersion =
    describeHypervisor trimSpace b.hypervisorType b.hypervisorVersion
  user : cmpOr a.user "the image's" = cmpOr b.user "the image's"
  healthCheck : healthCheckString a.healthCheck = healthCheckString b.healthCheck
  others : a = { b with
    memoryBytes := a.memoryBytes, maxMemoryBytes := a.maxMemoryBytes, diskBytes := a.diskBytes
    diskBytesPerSecond := a.diskBytesPerSecond, uploadBytesPerSecond := a.uploadBytesPerSecond
    downloadBytesPerSecond := a.downloadBytesPerSecond, standbyAfter := a.standbyAfter
    hypervisorType := a.hypervisorType, hypervisorVersion := a.hypervisorVersion, user := a.user
    healthCheck := a.healthCheck, removeOnExit := a.removeOnExit }

end

@[simp] theorem from_eq_nil {name x y : String} : from_ name x y = [] ↔ x = y := by
  simp [from_]

@[simp] theorem changed_eq_nil {name : String} {same : Bool} :
    changed name same = [] ↔ same = true := by
  simp [changed]

theorem toDigits_inj {m n : Nat} : Nat.toDigits 10 m = Nat.toDigits 10 n ↔ m = n :=
  Function.LeftInverse.injective (g := (Nat.ofDigitChars 10 · 0))
    (fun _ => Nat.ofDigitChars_ten_toDigits) |>.eq_iff

theorem repr_inj {m n : Nat} : m.repr = n.repr ↔ m = n := by
  rw [Nat.repr_eq_ofList_toDigits, Nat.repr_eq_ofList_toDigits, String.ofList_inj, toDigits_inj]

theorem isDigit_of_repr {n : Nat} {c : Char} (member : c ∈ n.repr.toList) : c.isDigit = true := by
  rw [Nat.toList_repr] at member
  exact Nat.isDigit_of_mem_toDigits (by decide) (by decide) member

theorem repr_ne_minus {m n : Nat} : m.repr ≠ "-" ++ n.repr := by
  intro same
  exact absurd (isDigit_of_repr (n := m) (c := '-') (by simp [same])) (by decide)

theorem int_repr_inj {m n : Int} : m.repr = n.repr ↔ m = n := by
  refine ⟨fun same => ?_, congrArg _⟩
  rw [Int.repr_eq_if, Int.repr_eq_if] at same
  split at same <;> split at same
  · have := repr_inj.mp same
    omega
  · exact absurd same repr_ne_minus
  · exact absurd same.symm repr_ne_minus
  · have := repr_inj.mp ((String.append_right_inj _).mp same)
    omega

theorem repr_ne_unlimited (n : Int) : n.repr ≠ "unlimited" := by
  intro same
  rw [Int.repr_eq_if] at same
  split at same
  · exact absurd (isDigit_of_repr (n := n.toNat) (c := 'u') (by rw [same]; decide)) (by decide)
  · simpa using congrArg String.toList same

theorem maximum_injective : Function.Injective (maximum Nat.repr) := by
  intro m n same
  unfold maximum at same
  split at same <;> split at same
  next zero otherZero => rw [zero, otherZero]
  next => exact absurd same.symm Nat.repr_ne_empty
  next => exact absurd same Nat.repr_ne_empty
  next => exact repr_inj.mp same

theorem iops_injective : Function.Injective iops := by
  intro m n same
  unfold iops limit at same
  split at same <;> split at same
  next zero otherZero => rw [zero, otherZero]
  next => exact absurd same.symm (repr_ne_unlimited n)
  next => exact absurd same (repr_ne_unlimited m)
  next => exact int_repr_inj.mp same

theorem restart_text_injective : Function.Injective RestartPolicy.text := by
  rintro ⟨mode, retries⟩ ⟨other, others⟩ same
  have chars := congrArg String.toList same
  unfold RestartPolicy.text at chars
  clear same
  cases mode <;> cases other <;> by_cases none : retries = 0 <;> by_cases noneOther : others = 0 <;>
    simp_all [toDigits_inj]

theorem initMode_text_injective : Function.Injective InitMode.text := by
  intro mode other same
  cases mode <;> cases other <;> first | rfl | exact absurd same (by decide)

theorem updateInstance_keeps {other : String → Option (Option Networks.Address)}
    {req : UpdateInstanceRequest} {a b : Spec} (updated : updateInstance other a req = .ok b) :
    a.id = b.id ∧ a.name = b.name ∧ a.imageRef = b.imageRef ∧ a.imageDigest = b.imageDigest ∧
      a.stoppedByUser = b.stoppedByUser := by
  iterate 7 rcases bind_eq_ok.mp updated with ⟨_, _, updated⟩
  cases updated
  exact ⟨rfl, rfl, rfl, rfl, rfl⟩

/-- An update of nothing but one of these. -/
def updating (vcpus : Option Nat) (removeOnExit : Option Bool) : UpdateInstanceRequest :=
  ⟨⟨none, none, none, none, vcpus, none, none, none, none, none, none, none, none, none, none, none,
    removeOnExit⟩, ⟨0, none, [], [], [], [], [], none, none, 0⟩⟩

def small : Spec :=
  { (default : Spec) with name := "web", imageRef := "nginx", vcpus := 1, memoryBytes := 1024, diskBytes := 1 }

end Dicer.Instance
