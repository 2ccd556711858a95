import Dicer.Instance.Spec

namespace Dicer.Hypervisor

open Instance (Spec HypervisorType humanBytes)

/-!
# The memory a guest boots with and can be resized to

A definition gives a guest's memory in bytes, and the most it may have.  Each hypervisor is told
this in its own terms: Firecracker in whole MiB and in slots of 128 MiB to plug memory into, Cloud
Hypervisor in bytes and in a region aligned to 128 MiB.  A resize of the running guest reads these
back and is checked against them, so it depends on what the rounding did whether a size the
definition allows is one the guest can have.

Sizes are natural numbers here, as in the definition, and none overflows.
-/

def mib : Nat := 2 ^ 20

/-- The unit a guest's memory is resized in. -/
def memoryResizeStep : Nat := 2 * mib

/-- The default slot of Firecracker, and the alignment Cloud Hypervisor asks for. -/
def hotplugSlotMiB : Nat := 128

/-- The most vCPUs Firecracker gives a guest. -/
def maxVCPUs : Nat := 32

structure CPUConfig where
  count : Nat
  maxCount : Nat
  deriving DecidableEq, Repr

structure MemoryConfig where
  sizeBytes : Nat
  hotplugBytes : Nat
  deriving DecidableEq, Repr

/-- What a guest is booted with, as far as its sizes go; `filesystems` is how many host directories
it shares. -/
structure VMSpec where
  cpu : CPUConfig
  memory : MemoryConfig
  filesystems : Nat
  deriving DecidableEq, Repr

def vmSpec (spec : Spec) : VMSpec where
  cpu := ⟨spec.vcpus, spec.maxVCPUs⟩
  memory := ⟨spec.memoryBytes, spec.maxMemoryBytes - spec.memoryBytes⟩
  filesystems := (spec.mounts.filter fun mount => mount.type = .directory).length

/-- A guest that booted with this much memory, and that much set aside, can be resized to
`bytes`. -/
def checkMemoryResize (bytes bootBytes hotplugBytes : Nat) : Except Err Unit :=
  if hotplugBytes = 0 then
    throw (.host "the guest booted with no memory set aside to resize into: unsupported operation")
  else if bytes < bootBytes ∨ bootBytes + hotplugBytes < bytes then
    throw (.invalidArgument ("memory can be resized from the " ++ humanBytes bootBytes ++
      " the guest booted with up to " ++ humanBytes (bootBytes + hotplugBytes) ++ ", not to " ++
      humanBytes bytes))
  else if (bytes - bootBytes) % memoryResizeStep ≠ 0 then
    throw (.invalidArgument ("memory can be resized only in steps of " ++
      humanBytes memoryResizeStep ++ " from the " ++ humanBytes bootBytes ++
      " the guest booted with, not to " ++ humanBytes bytes))
  else pure ()

theorem checkMemoryResize_eq_ok {bytes bootBytes hotplugBytes : Nat} :
    checkMemoryResize bytes bootBytes hotplugBytes = .ok () ↔ 0 < hotplugBytes ∧
      (bootBytes ≤ bytes ∧ bytes ≤ bootBytes + hotplugBytes) ∧
      memoryResizeStep ∣ bytes - bootBytes := by
  unfold checkMemoryResize
  rw [ite_throw_eq_ok, ite_throw_eq_ok, ite_throw_eq_ok, not_or, not_lt, not_lt, not_not,
    Nat.pos_iff_ne_zero, Nat.dvd_iff_mod_eq_zero]
  simp only [and_true, pure_eq_ok]

def divideRoundingUp (number divisor : Nat) : Nat := (number + divisor - 1) / divisor

theorem divideRoundingUp_of_dvd {number divisor : Nat} (positive : 0 < divisor)
    (divides : divisor ∣ number) : divideRoundingUp number divisor * divisor = number := by
  obtain ⟨quotient, rfl⟩ := divides
  have regroup : divisor * quotient + divisor - 1 = divisor - 1 + divisor * quotient := by omega
  rw [divideRoundingUp, regroup, Nat.add_mul_div_left _ _ positive, Nat.div_eq_of_lt (by omega),
    Nat.zero_add, Nat.mul_comm]

theorem le_divideRoundingUp_mul {number divisor : Nat} (positive : 0 < divisor) :
    number ≤ divideRoundingUp number divisor * divisor := by
  have below := Nat.lt_div_mul_add (a := number + divisor - 1) positive
  have written : divideRoundingUp number divisor = (number + divisor - 1) / divisor := rfl
  rw [written]
  omega

/-- What Firecracker is told of a guest's sizes before it boots. -/
structure Setup where
  vcpuCount : Nat
  memSizeMiB : Nat
  hotplugMiB : Option Nat
  deriving DecidableEq, Repr

def checkSupported (spec : VMSpec) : Except Err Unit :=
  if spec.cpu.count < 1 ∨ maxVCPUs < spec.cpu.count then
    throw (.host ("firecracker supports 1 to " ++ toString maxVCPUs ++ " vCPUs, not " ++
      toString spec.cpu.count))
  else if spec.cpu.count < spec.cpu.maxCount then
    throw (.host "firecracker: vCPU hotplug: unsupported operation")
  else if 0 < spec.filesystems then
    throw (.host "firecracker: shared directories: unsupported operation")
  else if spec.memory.sizeBytes = 0 then
    throw (.host "firecracker: memory size must be positive")
  else pure ()

def newSetup (spec : VMSpec) : Except Err Setup := do
  checkSupported spec
  return {
    vcpuCount := spec.cpu.count
    memSizeMiB := divideRoundingUp spec.memory.sizeBytes mib
    hotplugMiB :=
      if 0 < spec.memory.hotplugBytes then
        some (divideRoundingUp spec.memory.hotplugBytes (hotplugSlotMiB * mib) * hotplugSlotMiB)
      else none }

/-- What Cloud Hypervisor is told of a guest's memory. -/
structure CloudMemory where
  size : Nat
  hotplugSize : Option Nat
  deriving DecidableEq, Repr

def virtioMemAlignment : Nat := 128 * mib

def memoryConfig (memory : MemoryConfig) : CloudMemory where
  size := memory.sizeBytes
  hotplugSize :=
    if 0 < memory.hotplugBytes then
      some ((memory.hotplugBytes + virtioMemAlignment - 1) / virtioMemAlignment *
        virtioMemAlignment)
    else none

/-! ## Resizing -/

/-- A guest as its hypervisor was told to run it. -/
inductive VM
  | firecracker (setup : Setup)
  | cloudHypervisor (memory : CloudMemory)
  deriving DecidableEq, Repr

/-- The guest a definition boots. -/
def configure (spec : Spec) : Except Err VM :=
  match spec.effectiveHypervisorType with
  | .firecracker => VM.firecracker <$> newSetup (vmSpec spec)
  | .cloudHypervisor => .ok (.cloudHypervisor (memoryConfig (vmSpec spec).memory))

namespace VM

/-- The memory the guest booted with, as its hypervisor reports it. -/
def bootBytes : VM → Nat
  | firecracker setup => setup.memSizeMiB * mib
  | cloudHypervisor memory => memory.size

def hotplugBytes : VM → Nat
  | firecracker setup => setup.hotplugMiB.getD 0 * mib
  | cloudHypervisor memory => memory.hotplugSize.getD 0

/-- The total memory a resize asks the hypervisor to give the guest, unless it refuses.  Firecracker
is asked for what to plug beside the memory the guest booted with, in MiB. -/
def resizeVMMemory (vm : VM) (bytes : Nat) : Except Err Nat := do
  checkMemoryResize bytes vm.bootBytes vm.hotplugBytes
  match vm with
  | firecracker _ => return vm.bootBytes + (bytes - vm.bootBytes) / mib * mib
  | cloudHypervisor _ => return bytes

end VM

theorem mib_pos : 0 < mib := by decide

theorem mib_dvd_memoryResizeStep : mib ∣ memoryResizeStep := ⟨2, Nat.mul_comm ..⟩

/-- The guest of a definition booted with the memory the definition gives, and with room for all it
may have. -/
structure VM.Fits (vm : VM) (spec : Spec) : Prop where
  boots : vm.bootBytes = spec.memoryBytes
  sets : spec.maxMemoryBytes - spec.memoryBytes ≤ vm.hotplugBytes

theorem newSetup_eq_ok {spec : VMSpec} {setup : Setup} (made : newSetup spec = .ok setup) :
    setup.memSizeMiB = divideRoundingUp spec.memory.sizeBytes mib ∧
      setup.hotplugMiB = if 0 < spec.memory.hotplugBytes then
        some (divideRoundingUp spec.memory.hotplugBytes (hotplugSlotMiB * mib) * hotplugSlotMiB)
        else none := by
  obtain ⟨_, _, returned⟩ := bind_eq_ok.mp made
  have same := pure_eq_ok.mp returned
  exact ⟨congrArg Setup.memSizeMiB same.symm, congrArg Setup.hotplugMiB same.symm⟩

variable {spec : Spec}

theorem configure_firecracker {vm : VM} (configured : configure spec = .ok vm)
    (type : spec.effectiveHypervisorType = .firecracker) :
    ∃ setup, newSetup (vmSpec spec) = .ok setup ∧ vm = .firecracker setup := by
  simp only [configure, type] at configured
  cases made : newSetup (vmSpec spec) with
  | error => simp [made, Functor.map, Except.map] at configured
  | ok setup =>
    simp only [made, Functor.map, Except.map, Except.ok.injEq] at configured
    exact ⟨setup, rfl, configured.symm⟩

section

variable (larger : spec.memoryBytes < spec.maxMemoryBytes)
include larger

/-- Firecracker boots a guest with the memory of its definition only if that is a whole number of
MiB. -/
theorem fits_of_firecracker {setup : Setup} (whole : mib ∣ spec.memoryBytes)
    (made : newSetup (vmSpec spec) = .ok setup) : (VM.firecracker setup).Fits spec := by
  rcases newSetup_eq_ok made with ⟨boots, sets⟩
  have room : 0 < (vmSpec spec).memory.hotplugBytes := Nat.sub_pos_of_lt larger
  rw [if_pos room] at sets
  refine ⟨?_, ?_⟩
  · show setup.memSizeMiB * mib = _
    rw [boots]
    exact divideRoundingUp_of_dvd mib_pos whole
  · show _ ≤ setup.hotplugMiB.getD 0 * mib
    rw [sets, Option.getD_some, Nat.mul_assoc]
    exact le_divideRoundingUp_mul (by decide)

theorem fits_of_cloudHypervisor : (VM.cloudHypervisor (memoryConfig (vmSpec spec).memory)).Fits
    spec := by
  have room : 0 < (vmSpec spec).memory.hotplugBytes := Nat.sub_pos_of_lt larger
  refine ⟨rfl, ?_⟩
  show _ ≤ (memoryConfig (vmSpec spec).memory).hotplugSize.getD 0
  rw [memoryConfig, if_pos room, Option.getD_some]
  have aligned : 0 < virtioMemAlignment := by decide
  exact le_divideRoundingUp_mul aligned

theorem configure_fits {vm : VM} (whole : spec.effectiveHypervisorType = .firecracker →
    mib ∣ spec.memoryBytes) (configured : configure spec = .ok vm) : vm.Fits spec := by
  cases type : spec.effectiveHypervisorType with
  | firecracker =>
    obtain ⟨setup, made, rfl⟩ := configure_firecracker configured type
    exact fits_of_firecracker larger (whole type) made
  | cloudHypervisor =>
    simp only [configure, type, Except.ok.injEq] at configured
    exact configured ▸ fits_of_cloudHypervisor larger

end

/-- A guest that fits its definition is given exactly each size that is whole steps above what it
booted with and at most what the definition allows. -/
theorem VM.Fits.resizes {vm : VM} (fits : vm.Fits spec)
    (larger : spec.memoryBytes < spec.maxMemoryBytes) {steps : Nat}
    (allowed : spec.memoryBytes + steps * memoryResizeStep ≤ spec.maxMemoryBytes) :
    checkMemoryResize (spec.memoryBytes + steps * memoryResizeStep) vm.bootBytes vm.hotplugBytes =
      .ok () ∧ vm.resizeVMMemory (spec.memoryBytes + steps * memoryResizeStep) =
        .ok (spec.memoryBytes + steps * memoryResizeStep) := by
  have sets := fits.sets
  have beyond : spec.memoryBytes + steps * memoryResizeStep - vm.bootBytes =
      steps * memoryResizeStep := by
    rw [fits.boots, Nat.add_sub_cancel_left]
  have passes : checkMemoryResize (spec.memoryBytes + steps * memoryResizeStep) vm.bootBytes
      vm.hotplugBytes = .ok () := by
    rw [checkMemoryResize_eq_ok, beyond, fits.boots]
    exact ⟨by omega, by omega, Nat.dvd_mul_left ..⟩
  refine ⟨passes, ?_⟩
  unfold resizeVMMemory
  rw [passes]
  cases vm with
  | cloudHypervisor => rfl
  | firecracker =>
    -- what is plugged is a whole number of MiB, so that nothing is lost in asking for it in MiB
    have plugged : steps * memoryResizeStep / mib * mib = steps * memoryResizeStep :=
      Nat.div_mul_cancel (mib_dvd_memoryResizeStep.mul_left steps)
    show Except.ok _ = Except.ok _
    rw [beyond, plugged, fits.boots]

theorem bootBytes_of_firecracker {vm : VM} (configured : configure spec = .ok vm)
    (type : spec.effectiveHypervisorType = .firecracker) : mib ∣ vm.bootBytes := by
  obtain ⟨setup, _, rfl⟩ := configure_firecracker configured type
  exact Nat.dvd_mul_left ..

/-- A guest boots with no more than the memory of its definition, if that is whole MiB on
Firecracker. -/
theorem bootBytes_le {vm : VM} (configured : configure spec = .ok vm) :
    vm.bootBytes ≤ spec.memoryBytes ↔
      (spec.effectiveHypervisorType = .firecracker → mib ∣ spec.memoryBytes) := by
  cases type : spec.effectiveHypervisorType with
  | firecracker =>
    have whole := bootBytes_of_firecracker configured type
    obtain ⟨setup, made, rfl⟩ := configure_firecracker configured type
    have boots : (VM.firecracker setup).bootBytes = divideRoundingUp spec.memoryBytes mib * mib :=
      congrArg (· * mib) (newSetup_eq_ok made).1
    constructor
    · intro below _
      exact below.antisymm (boots ▸ le_divideRoundingUp_mul mib_pos) ▸ whole
    · intro divides
      exact (boots.trans (divideRoundingUp_of_dvd mib_pos (divides rfl))).le
  | cloudHypervisor =>
    simp only [configure, type, Except.ok.injEq] at configured
    exact iff_of_true (configured ▸ le_rfl) nofun

/-- A guest of Firecracker is resized only to whole MiB, since it booted with whole MiB and steps
are. -/
theorem whole_of_checkMemoryResize {vm : VM} {steps : Nat} (configured : configure spec = .ok vm)
    (passes : checkMemoryResize (spec.memoryBytes + steps * memoryResizeStep) vm.bootBytes
      vm.hotplugBytes = .ok ()) (type : spec.effectiveHypervisorType = .firecracker) :
    mib ∣ spec.memoryBytes := by
  obtain ⟨_, ⟨atLeast, _⟩, whole⟩ := checkMemoryResize_eq_ok.mp passes
  have total : mib ∣ spec.memoryBytes + steps * memoryResizeStep :=
    (Nat.dvd_sub_iff_left atLeast (bootBytes_of_firecracker configured type)).mp
      (mib_dvd_memoryResizeStep.trans whole)
  exact (Nat.dvd_add_iff_left (mib_dvd_memoryResizeStep.mul_left steps)).mpr total

/-- A size a definition allows, in whole steps above what it boots with, is one its guest can have
and is then asked for exactly, if and only if the memory it boots with is a whole number of MiB on
Firecracker. -/
theorem allowed_memory_is_given (spec : Spec) (vm : VM) (steps : Nat)
    (larger : spec.memoryBytes < spec.maxMemoryBytes) (configured : configure spec = .ok vm)
    (allowed : spec.memoryBytes + steps * memoryResizeStep ≤ spec.maxMemoryBytes) :
    (checkMemoryResize (spec.memoryBytes + steps * memoryResizeStep) vm.bootBytes
        vm.hotplugBytes = .ok () ∧
      vm.resizeVMMemory (spec.memoryBytes + steps * memoryResizeStep) =
        .ok (spec.memoryBytes + steps * memoryResizeStep)) ↔
      (spec.effectiveHypervisorType = .firecracker → mib ∣ spec.memoryBytes) :=
  ⟨fun given => whole_of_checkMemoryResize configured given.1,
    fun whole => (configure_fits larger whole configured).resizes larger allowed⟩

/-- A definition on Firecracker with this much memory, and up to 1 GiB. -/
def growing (memoryBytes : Nat) : Spec :=
  { (default : Spec) with
    id := "i1", name := "web", imageRef := "nginx", hypervisorType := some .firecracker, vcpus := 1
    memoryBytes := memoryBytes, diskBytes := 1, maxMemoryBytes := 1024 * mib }

theorem allowed_memory_is_given_from_96MiB : ∃ vm, configure (growing (96 * mib)) = .ok vm ∧
      vm.resizeVMMemory (96 * mib + 3 * memoryResizeStep) = .ok (96 * mib + 3 * memoryResizeStep) :=
  ⟨.firecracker ⟨1, 96, some 1024⟩, by decide,
    ((allowed_memory_is_given (growing (96 * mib)) _ 3 (by decide) (by decide) (by decide)).mpr
      fun _ => ⟨96, by decide⟩).2⟩

/-- 100,000,000 bytes boot as 96 MiB, and no size in whole steps above 100,000,000 is in whole steps
above that. -/
theorem uneven_memory_is_refused :
    ∃ vm, (growing 100000000).validate = .ok () ∧ configure (growing 100000000) = .ok vm ∧
      100000000 + 1 * memoryResizeStep ≤ (growing 100000000).maxMemoryBytes ∧
      checkMemoryResize (100000000 + 1 * memoryResizeStep) vm.bootBytes vm.hotplugBytes ≠ .ok () :=
  ⟨.firecracker ⟨1, 96, some 1024⟩, by decide, by decide, by decide, by decide⟩

end Dicer.Hypervisor
