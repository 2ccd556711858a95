import Dicer.Networks.Address

namespace Dicer.Compose

open Networks

/-!
# Subnets for a project's networks

A network without a subnet of its own gets the first of a pool that overlaps none in use.  Which
texts are prefixes, and of which family of addresses, is left to the parser.
-/

/-- An address with how many of its leading bits count. -/
@[ext] structure Prefix (width : Nat) where
  addr : BitVec width
  bits : Nat
  bounded : bits ≤ width

namespace Prefix

variable {width : Nat}

/-- The address with its last bits cleared. -/
def mask (addr : BitVec width) (bits : Nat) : BitVec width :=
    addr >>> (width - bits) <<< (width - bits)

variable (subnet other : Prefix width)

def masked : Prefix width := { subnet with addr := mask subnet.addr subnet.bits }

def overlaps : Bool :=
  let minBits := min subnet.bits other.bits
  minBits == 0 || mask subnet.addr minBits == mask other.addr minBits

def Holds (address : BitVec width) : Prop := mask address subnet.bits = mask subnet.addr subnet.bits

variable {subnet other} {first second : BitVec width} {bits fewer : Nat}

theorem toNat_mask (addr : BitVec width) (bits : Nat) :
    (mask addr bits).toNat = addr.toNat / 2 ^ (width - bits) * 2 ^ (width - bits) := by
  rw [mask, BitVec.toNat_shiftLeft, BitVec.toNat_ushiftRight, Nat.shiftLeft_eq,
    Nat.shiftRight_eq_div_pow]
  exact Nat.mod_eq_of_lt ((Nat.div_mul_le_self ..).trans_lt addr.isLt)

theorem mask_eq_iff : mask first bits = mask second bits ↔
    first.toNat / 2 ^ (width - bits) = second.toNat / 2 ^ (width - bits) := by
  rw [BitVec.toNat_eq, toNat_mask, toNat_mask]
  exact Nat.mul_left_inj (Nat.two_pow_pos _).ne'

theorem masked_holds {address : BitVec width} : subnet.masked.Holds address ↔
    subnet.Holds address := by
  simp only [Holds, masked, mask_eq_iff, toNat_mask, Nat.mul_div_cancel _ (Nat.two_pow_pos _)]

theorem mask_mono (fewerBits : fewer ≤ bits) (bounded : bits ≤ width)
    (same : mask first bits = mask second bits) : mask first fewer = mask second fewer := by
  rw [mask_eq_iff] at same ⊢
  have split : 2 ^ (width - fewer) = 2 ^ (width - bits) * 2 ^ (bits - fewer) := by
    rw [← Nat.pow_add]
    congr 1
    omega
  rw [split, ← Nat.div_div_eq_div_mul, ← Nat.div_div_eq_div_mul, same]

theorem overlaps_iff : subnet.overlaps other = true ↔ ∃ address, subnet.Holds address ∧
    other.Holds address := by
  have agree : subnet.overlaps other = true ↔
      mask subnet.addr (min subnet.bits other.bits) = mask other.addr
          (min subnet.bits other.bits) := by
    simp only [overlaps, Bool.or_eq_true, beq_iff_eq, or_iff_right_iff_imp]
    intro none
    rw [none, mask_eq_iff, Nat.sub_zero, Nat.div_eq_of_lt subnet.addr.isLt,
      Nat.div_eq_of_lt other.addr.isLt]
  rw [agree]
  constructor
  · intro same
    rcases Nat.le_total subnet.bits other.bits with fewer | fewer
    · rw [min_eq_left fewer] at same
      exact ⟨other.addr, same.symm, rfl⟩
    · rw [min_eq_right fewer] at same
      exact ⟨subnet.addr, rfl, same⟩
  · rintro ⟨address, inFirst, inSecond⟩
    exact (mask_mono (min_le_left ..) subnet.bounded inFirst).symm.trans
      (mask_mono (min_le_right ..) other.bounded inSecond)

end Prefix

inductive IPPrefix
  | v4 (subnet : Prefix 32)
  | v6 (subnet : Prefix 128)

inductive IP
  | v4 (address : BitVec 32)
  | v6 (address : BitVec 128)

namespace IPPrefix

def masked : IPPrefix → IPPrefix
  | v4 subnet => v4 subnet.masked
  | v6 subnet => v6 subnet.masked

/-- Prefixes of different families do not overlap. -/
def overlaps : IPPrefix → IPPrefix → Bool
  | v4 subnet, v4 other => subnet.overlaps other
  | v6 subnet, v6 other => subnet.overlaps other
  | _, _ => false

def Holds : IPPrefix → IP → Prop
  | v4 subnet, .v4 address => subnet.Holds address
  | v6 subnet, .v6 address => subnet.Holds address
  | _, _ => False

theorem masked_overlaps_iff {used : IPPrefix} {subnet : Prefix 32} :
    used.masked.overlaps (v4 subnet) = true ↔ ∃ address, used.Holds address ∧
    (v4 subnet).Holds address := by
  cases used with
  | v4 used =>
    simp only [masked, overlaps, Prefix.overlaps_iff, Prefix.masked_holds]
    constructor
    · rintro ⟨address, common⟩
      exact ⟨.v4 address, common⟩
    rintro ⟨⟨address⟩ | _, common⟩
    · exact ⟨address, common⟩
    · exact absurd common.1 id
  | v6 used =>
    refine iff_of_false Bool.false_ne_true ?_
    rintro ⟨_ | _, common⟩
    · exact common.1
    · exact common.2

end IPPrefix

/-! ## Picking one -/

/-- 10.213.0.0/16 -/
def subnetPool : Prefix 32 := ⟨BitVec.ofNat 32 (10 * 2 ^ 24 + 213 * 2 ^ 16), 16, by decide⟩

def subnetBits : Nat := 24

def candidate (i : Nat) : Prefix 32 :=
  ⟨subnetPool.addr + BitVec.ofNat 32 (i * 2 ^ (32 - subnetBits)), subnetBits, by decide⟩

def Prefix.text (subnet : Prefix 32) : String := Address.text subnet.addr ++ "/" ++
    toString subnet.bits

variable (parsePrefix : String → Option IPPrefix) (taken : List String)

def freeSubnet : Except Err String :=
  let used := (taken.filterMap parsePrefix).map IPPrefix.masked
  let count := 2 ^ (subnetBits - subnetPool.bits)
  match (List.range count).find? fun i => !used.any fun subnet =>
      subnet.overlaps (.v4 (candidate i)) with
  | some i => pure (candidate i).text
  | none => throw (.host ("no free subnet left in " ++ subnetPool.text ++
    ": give the network a subnet"))

/-- A subnet of the pool, of the size that is picked. -/
structure InPool (subnet : Prefix 32) : Prop where
  bits : subnet.bits = subnetBits
  aligned : subnet.masked = subnet
  inside : subnetPool.Holds subnet.addr

/-- No address of the subnet is in a prefix that is taken. -/
def Free (subnet : Prefix 32) : Prop :=
  ∀ text ∈ taken, ∀ used, parsePrefix text = some used → ∀ address, used.Holds address →
    ¬ (IPPrefix.v4 subnet).Holds address

variable {i : Nat}

theorem toNat_candidate (small : i < 256) :
    (candidate i).addr.toNat = 10 * 2 ^ 24 + 213 * 2 ^ 16 + i * 256 := by
  simp [candidate, subnetPool, subnetBits]
  omega

theorem inPool_iff {subnet : Prefix 32} : InPool subnet ↔ ∃ i < 256, subnet = candidate i := by
  constructor
  · rintro ⟨bits, aligned, inside⟩
    have ends := congrArg (fun subnet => (Prefix.addr subnet).toNat) aligned
    simp only [Prefix.masked, Prefix.toNat_mask, bits] at ends
    simp only [Prefix.Holds, Prefix.mask_eq_iff] at inside
    simp [subnetPool, subnetBits] at ends inside
    refine ⟨subnet.addr.toNat / 256 % 256, by omega, Prefix.ext ?_ bits⟩
    rw [BitVec.toNat_eq, toNat_candidate (by omega)]
    omega
  · rintro ⟨i, small, rfl⟩
    have value := toNat_candidate small
    refine ⟨rfl, Prefix.ext ?_ rfl, ?_⟩
    · rw [BitVec.toNat_eq, Prefix.masked, Prefix.toNat_mask, value]
      simp [candidate, subnetBits]
      omega
    · rw [Prefix.Holds, Prefix.mask_eq_iff, value]
      simp [subnetPool]
      omega

/-- The first subnet of the pool with no address of a prefix that is taken, and none if there is no
such subnet. -/
theorem freeSubnet_first : match freeSubnet parsePrefix taken with
    | .ok text => ∃ subnet, text = subnet.text ∧ InPool subnet ∧ Free parsePrefix taken subnet ∧
        ∀ other, InPool other → Free parsePrefix taken other → subnet.addr.toNat ≤ other.addr.toNat
    | .error _ => ∀ subnet, InPool subnet → ¬ Free parsePrefix taken subnet := by
  have free : ∀ i, (!((taken.filterMap parsePrefix).map IPPrefix.masked).any
      fun subnet => subnet.overlaps (.v4 (candidate i))) = true ↔
          Free parsePrefix taken (candidate i) := by
    intro i
    simp only [Bool.not_eq_true', List.any_eq_false, List.forall_mem_map, List.mem_filterMap,
      IPPrefix.masked_overlaps_iff, Free]
    grind
  cases picked : freeSubnet parsePrefix taken with
  | ok =>
    unfold freeSubnet at picked
    dsimp only at picked
    split at picked
    · rename_i i found
      rcases List.find?_range_eq_some.mp found with ⟨isFree, small, earlier⟩
      refine ⟨candidate i, (pure_eq_ok.mp picked).symm,
        inPool_iff.mpr ⟨i, List.mem_range.mp small, rfl⟩, (free i).mp isFree, ?_⟩
      intro other isIn otherFree
      rcases inPool_iff.mp isIn with ⟨j, otherSmall, rfl⟩
      rw [toNat_candidate (List.mem_range.mp small), toNat_candidate otherSmall]
      by_contra before
      have overlapped := earlier j (by omega)
      rw [(free j).mpr otherFree] at overlapped
      exact nomatch overlapped
    · exact absurd picked throw_ne_ok
  | error =>
    unfold freeSubnet at picked
    dsimp only at picked
    split at picked
    · exact nomatch picked
    rename_i found
    intro subnet isIn isFree
    rcases inPool_iff.mp isIn with ⟨i, small, rfl⟩
    have overlapped := List.find?_range_eq_none.mp found i small
    rw [(free i).mpr isFree] at overlapped
    exact nomatch overlapped

end Dicer.Compose
