import Dicer.Errors
import Mathlib.Data.BitVec

namespace Dicer.Networks

/-!
# Addresses and subnets

Addresses are IPv4, and definitions keep them as text.  What a text that is not a dotted quad parses
to is left open: nothing, an IPv6 address, or one that stands for an IPv4 address.  Everything that
parses an address takes that part of the parser as `other`.
-/

abbrev Address := BitVec 32

namespace Address

def text (address : Address) : String :=
  ".".intercalate ([3, 2, 1, 0].map fun place => toString (address.toNat / 256 ^ place % 256))

def isLoopback (address : Address) : Bool := address.toNat / 256 ^ 3 = 127

end Address

def number (digits : List Char) : Nat :=
  digits.foldl (fun value digit => value * 10 + (digit.toNat - '0'.toNat)) 0

/-- One number of a dotted quad, which has no leading zero. -/
def parseOctet (digits : List Char) : Option Nat :=
  if digits = [] ∨ 3 < digits.length ∨ !digits.all Char.isDigit ∨
    (digits.head? = some '0' ∧ digits ≠ ['0']) then none
  else if 255 < number digits then none
  else some (number digits)

def parseIPv4 (text : List Char) : Option Address :=
  match (text.splitOn '.').mapM parseOctet with
  | some [first, second, third, fourth] =>
    some (BitVec.ofNat 32 (((first * 256 + second) * 256 + third) * 256 + fourth))
  | _ => none

theorem parseOctet_toString : ∀ value < 256, parseOctet (toString value).toList = some value := by
  decide +kernel

variable {value : Nat}

theorem digits_of_parseOctet {digits : List Char} (parsed : parseOctet digits = some value) :
    digits ≠ [] ∧ digits.all Char.isDigit = true ∧ number digits = value := by
  unfold parseOctet at parsed
  split at parsed
  · simp at parsed
  rename_i wellFormed
  split at parsed
  · simp at parsed
  · simp only [not_or, Bool.not_eq_true, Bool.not_eq_false'] at wellFormed
    exact ⟨wellFormed.1, wellFormed.2.2.1, Option.some.inj parsed⟩

theorem isDigit_toString (small : value < 256) : (toString value).toList.all Char.isDigit = true :=
  (digits_of_parseOctet (parseOctet_toString value small)).2.1

theorem not_mem_toString {c : Char} (other : c.isDigit = false) (small : value < 256) :
    c ∉ (toString value).toList := by
  intro member
  have digit := List.all_eq_true.mp (isDigit_toString small) c member
  simp [other] at digit

theorem parseIPv4_text (address : Address) : parseIPv4 address.text.toList = some address := by
  let octet := fun place : Nat => address.toNat / 256 ^ place % 256
  have small : ∀ place, octet place < 256 := fun place => Nat.mod_lt _ (by decide)
  have chars : address.text.toList =
      ['.'].intercalate ([3, 2, 1, 0].map fun place => (toString (octet place)).toList) := by
    rw [Address.text, String.toList_intercalate, List.map_map]
    rfl
  have parts : address.text.toList.splitOn '.' = [3, 2, 1, 0].map fun place =>
      (toString (octet place)).toList := by
    rw [chars]
    refine List.splitOn_intercalate _ ?_ (by simp)
    intro part member
    rcases List.mem_map.mp member with ⟨place, _, rfl⟩
    exact not_mem_toString (by decide) (small place)
  have octets : ([3, 2, 1, 0].map fun place => (toString (octet place)).toList).mapM parseOctet =
      some [octet 3, octet 2, octet 1, octet 0] := by
    simp only [List.map_cons, List.map_nil, List.mapM_cons, List.mapM_nil,
      parseOctet_toString _ (small _)]
    rfl
  have whole : ((octet 3 * 256 + octet 2) * 256 + octet 1) * 256 + octet 0 = address.toNat := by
    have bound := address.isLt
    simp only [octet]
    omega
  unfold parseIPv4
  rw [parts, octets]
  simp only [whole, BitVec.ofNat_toNat, BitVec.setWidth_eq]

/-- What a text parses to: no address, one that is not IPv4, or an IPv4 address. -/
def parseIP (other : String → Option (Option Address)) (text : String) : Option (Option Address) :=
  match parseIPv4 text.toList with
  | some address => some (some address)
  | none => other text

/-! ## Subnets -/

/-- A subnet, by its first address and how many bits its addresses share. -/
structure Subnet where
  address : Address
  length : Nat
  bounded : length ≤ 32
  aligned : address.toNat % 2 ^ (32 - length) = 0
  deriving DecidableEq

namespace Subnet

variable (subnet : Subnet)

def size : Nat := 2 ^ (32 - subnet.length)

/-- The subnet an address is in, by the length of the part it shares. -/
def around (address : Address) (length : Nat) (bounded : length ≤ 32) : Subnet where
  address := BitVec.ofNat 32 (address.toNat - address.toNat % 2 ^ (32 - length))
  length := length
  bounded := bounded
  aligned := by
    have below : address.toNat - address.toNat % 2 ^ (32 - length) < 2 ^ 32 :=
      lt_of_le_of_lt (Nat.sub_le ..) address.isLt
    rw [BitVec.toNat_ofNat, Nat.mod_eq_of_lt below]
    exact Nat.sub_mod_eq_zero_of_mod_eq (Nat.mod_mod ..).symm

def text (subnet : Subnet) : String :=
  subnet.address.text ++ "/" ++ toString subnet.length

def contains (address : Address) : Bool :=
  address.toNat / subnet.size = subnet.address.toNat / subnet.size

def broadcast : Address :=
  BitVec.ofNat 32 (subnet.address.toNat + (subnet.size - 1))

def overlaps (subnet other : Subnet) : Bool :=
  subnet.contains other.address || other.contains subnet.address

end Subnet

/-- Whether an address can be given out: one of the subnet, other than its first and its last. -/
def assignable (subnet : Subnet) (address : Address) : Bool :=
  subnet.contains address && address ≠ subnet.address && address ≠ subnet.broadcast

/-- A subnet as text, of IPv4 addresses. -/
def parseCIDR (text : String) : Option Subnet :=
  match text.toList.dropWhile (· ≠ '/') with
  | [] => none
  | _ :: mask =>
    match parseIPv4 (text.toList.takeWhile (· ≠ '/')) with
    | none => none
    | some address =>
      if mask = [] ∨ !mask.all Char.isDigit then none
      else if bounded : number mask ≤ 32 then some (.around address (number mask) bounded)
      else none

theorem slash_not_mem_text (address : Address) : '/' ∉ address.text.toList := by
  have octets : ∀ place : Nat, '/' ∉ (toString (address.toNat / 256 ^ place % 256)).toList :=
    fun place => not_mem_toString (by decide) (Nat.mod_lt _ (by decide))
  rw [Address.text, String.toList_intercalate, List.map_map]
  simp only [List.map_cons, List.map_nil, List.intercalate, List.intersperse, List.flatten_cons,
    List.flatten_nil, List.mem_append, Function.comp_apply, octets, List.not_mem_nil, or_false,
    false_or]
  decide

namespace Subnet

variable (subnet : Subnet)

theorem size_pos : 0 < subnet.size := Nat.pow_pos (by decide)

theorem end_le : subnet.address.toNat + subnet.size ≤ 2 ^ 32 := by
  have below := subnet.address.isLt
  have whole : 2 ^ 32 = 2 ^ subnet.length * subnet.size := by
    rw [size, ← Nat.pow_add, Nat.add_sub_cancel' subnet.bounded]
  rcases Nat.dvd_of_mod_eq_zero subnet.aligned with ⟨count, isCount⟩
  change subnet.address.toNat = subnet.size * count at isCount
  rw [whole, isCount, Nat.mul_comm] at below
  have fewer : count + 1 ≤ 2 ^ subnet.length := Nat.lt_of_mul_lt_mul_right below
  calc
    subnet.address.toNat + subnet.size = (count + 1) * subnet.size := by
      rw [isCount, Nat.add_mul, Nat.mul_comm, Nat.one_mul]
    _ ≤ 2 ^ subnet.length * subnet.size := Nat.mul_le_mul_right _ fewer
    _ = 2 ^ 32 := whole.symm

theorem toNat_add {offset : Nat} (inside : offset < subnet.size) :
    (subnet.address + BitVec.ofNat 32 offset).toNat = subnet.address.toNat + offset := by
  have bound := subnet.end_le
  rw [BitVec.toNat_add, BitVec.toNat_ofNat]
  omega

theorem parseCIDR_text : parseCIDR subnet.text = some subnet := by
  have short : subnet.length < 256 := Nat.lt_of_le_of_lt subnet.bounded (by decide)
  have chars : subnet.text.toList = subnet.address.text.toList ++
      '/' :: (toString subnet.length).toList := by
    simp [text]
  have apart : ∀ c ∈ subnet.address.text.toList, (decide (c ≠ '/')) = true := by
    intro c member
    have different : c ≠ '/' := fun same => slash_not_mem_text subnet.address (same ▸ member)
    simpa using different
  have address : subnet.text.toList.takeWhile (· ≠ '/') = subnet.address.text.toList := by
    rw [chars, List.takeWhile_append_of_pos apart]
    simp
  have mask : subnet.text.toList.dropWhile (· ≠ '/') = '/' :: (toString subnet.length).toList := by
    rw [chars, List.dropWhile_append_of_pos apart]
    simp
  have around : Subnet.around subnet.address subnet.length subnet.bounded = subnet := by
    cases subnet with
    | mk address length bounded aligned =>
      simp only [Subnet.around, Subnet.mk.injEq, and_true]
      rw [aligned, Nat.sub_zero, BitVec.ofNat_toNat, BitVec.setWidth_eq]
  unfold parseCIDR
  rw [mask, address, parseIPv4_text]
  rcases digits_of_parseOctet (parseOctet_toString subnet.length short)
    with ⟨written, digits, value⟩
  simp only [written, digits, Bool.not_true, Bool.false_eq_true, or_self, if_false, value,
    subnet.bounded, dif_pos, around]

/-- The addresses after the first and before the last can be given out. -/
theorem assignable_offset {offset : Nat} (after : 0 < offset) (before : offset + 1 < subnet.size) :
    assignable subnet (subnet.address + BitVec.ofNat 32 offset) = true := by
  have place := subnet.toNat_add (Nat.lt_of_succ_lt before)
  have bound := subnet.end_le
  have positive := subnet.size_pos
  have contained : subnet.contains (subnet.address + BitVec.ofNat 32 offset) = true := by
    rcases Nat.dvd_of_mod_eq_zero subnet.aligned with ⟨count, isCount⟩
    change subnet.address.toNat = subnet.size * count at isCount
    rw [contains, decide_eq_true_eq, place, isCount, Nat.mul_add_div positive,
      Nat.mul_div_cancel_left _ positive, Nat.div_eq_of_lt (Nat.lt_of_succ_lt before), Nat.add_zero]
  have notFirst : subnet.address + BitVec.ofNat 32 offset ≠ subnet.address := by
    intro same
    rw [same] at place
    omega
  have notLast : subnet.address + BitVec.ofNat 32 offset ≠ subnet.broadcast := by
    intro same
    rw [same, broadcast, BitVec.toNat_ofNat] at place
    omega
  simp [assignable, contained, notFirst, notLast]

theorem contains_self : subnet.contains subnet.address = true := by
  simp [contains]

theorem contains_of_common {small large : Subnet} (order : large.length ≤ small.length)
    {address : Address} (inSmall : small.contains address = true)
    (inLarge : large.contains address = true) :
    large.contains small.address = true := by
  have sizes : large.size = small.size * 2 ^ (small.length - large.length) := by
    rw [size, size, ← Nat.pow_add]
    congr 1
    have bounded := small.bounded
    omega
  simp only [contains, decide_eq_true_eq] at inSmall inLarge ⊢
  calc
    small.address.toNat / large.size
        = small.address.toNat / small.size / 2 ^ (small.length - large.length) := by
      rw [sizes, Nat.div_div_eq_div_mul]
    _ = address.toNat / small.size / 2 ^ (small.length - large.length) := by rw [inSmall]
    _ = address.toNat / large.size := by rw [sizes, Nat.div_div_eq_div_mul]
    _ = large.address.toNat / large.size := inLarge

theorem overlaps_iff {first second : Subnet} : first.overlaps second = true ↔
    ∃ address, first.contains address = true ∧ second.contains address = true := by
  rw [overlaps, Bool.or_eq_true]
  constructor
  · rintro (inFirst | inSecond)
    · exact ⟨second.address, inFirst, second.contains_self⟩
    · exact ⟨first.address, first.contains_self, inSecond⟩
  · rintro ⟨address, inFirst, inSecond⟩
    rcases Nat.le_total first.length second.length with order | order
    · exact .inl (contains_of_common order inSecond inFirst)
    · exact .inr (contains_of_common order inFirst inSecond)

end Subnet

/-- A /30 is the smallest subnet with an address left for an instance. -/
def maxPrefixLen : Nat := 30

/-- The subnet of a network.  A subnet of IPv6 addresses is refused too, in other words. -/
def parseSubnet (text : String) : Except Err Subnet :=
  match parseCIDR text with
  | none =>
    throw (.invalidArgument ("invalid subnet " ++ quoted text ++
      ": want an IPv4 CIDR such as 172.20.0.0/16"))
  | some subnet =>
    if maxPrefixLen < subnet.length then
      throw (.invalidArgument ("subnet " ++ subnet.text ++
        " is too small: the longest prefix a network may have is /" ++ toString maxPrefixLen))
    else pure subnet

example : ((parseCIDR "10.0.0.5/24").map Subnet.text) = some "10.0.0.0/24" := by decide +kernel

end Dicer.Networks
