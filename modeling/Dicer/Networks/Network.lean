import Dicer.FileStore.Definitions
import Dicer.HostNet.Rules
import Dicer.Networks.Address

namespace Dicer.Networks

open FileStore

/-!
# Networks and the names of their interfaces

A network's bridge is named after it, as far as an interface name can hold that; of a longer name it
has a hash of 32 bits.  So different names have different bridges unless two long ones have the same
hash (`bridgeName_eq_iff`).

Times are left out.  An ID is random, and drawn by the caller of the model.
-/

/-- The longest name of an interface. -/
def maxInterfaceName : Nat := 15

/-- The 32-bit FNV-1a hash. -/
def fnv32a (bytes : List UInt8) : BitVec 32 :=
  bytes.foldl (fun hash byte => (hash ^^^ BitVec.ofNat 32 byte.toNat) * 16777619#32) 2166136261#32

def hexDigit (value : Nat) : Char :=
  if value < 10 then Char.ofNat ('0'.toNat + value) else Char.ofNat ('a'.toNat + (value - 10))

/-- Eight hexadecimal digits. -/
def hex (value : BitVec 32) : String :=
  String.ofList ([7, 6, 5, 4, 3, 2, 1, 0].map fun place => hexDigit (value.toNat / 16 ^ place % 16))

def hashOf (text : String) : BitVec 32 := fnv32a text.toByteArray.data.toList

def shortHash (text : String) : String := hex (hashOf text)

def tapName (instanceID : String) : String := "tap-" ++ shortHash instanceID

def bridgeName (networkName : String) : String :=
  if ("dicer-" ++ networkName).utf8ByteSize ≤ maxInterfaceName then "dicer-" ++ networkName
  else "dbr-" ++ shortHash networkName

/-- The network's name is too long for its bridge's. -/
def isLong (networkName : String) : Bool := 9 < networkName.utf8ByteSize

theorem hexDigit_inj : ∀ first < 16, ∀ second < 16, hexDigit first = hexDigit second →
    first = second := by
  decide

theorem hex_inj {first second : BitVec 32} (same : hex first = hex second) : first = second := by
  have lists := String.ofList_injective same
  have digits : ∀ place ∈ [7, 6, 5, 4, 3, 2, 1, 0],
      first.toNat / 16 ^ place % 16 = second.toNat / 16 ^ place % 16 := by
    intro place member
    exact hexDigit_inj _ (Nat.mod_lt _ (by decide)) _ (Nat.mod_lt _ (by decide))
      (List.map_inj_left.mp lists place member)
  simp only [List.forall_mem_cons] at digits
  apply BitVec.eq_of_toNat_eq
  have firstBound := first.isLt
  have secondBound := second.isLt
  omega

theorem bridgeName_short {name : String} (short : isLong name = false) :
    bridgeName name = "dicer-" ++ name := by
  have fits : ("dicer-" ++ name).utf8ByteSize ≤ maxInterfaceName := by
    have size : "dicer-".utf8ByteSize = 6 := by decide
    have bound : name.utf8ByteSize ≤ 9 := by simpa [isLong] using short
    rw [String.utf8ByteSize_append, size, maxInterfaceName]
    omega
  rw [bridgeName, if_pos fits]

theorem bridgeName_long {name : String} (long : isLong name = true) :
    bridgeName name = "dbr-" ++ shortHash name := by
  have tooLong : ¬ ("dicer-" ++ name).utf8ByteSize ≤ maxInterfaceName := by
    have size : "dicer-".utf8ByteSize = 6 := by decide
    have bound : 9 < name.utf8ByteSize := by simpa [isLong] using long
    rw [String.utf8ByteSize_append, size, maxInterfaceName]
    omega
  rw [bridgeName, if_neg tooLong]

theorem short_ne_long (name hash : String) : "dicer-" ++ name ≠ "dbr-" ++ hash := by
  intro same
  have lists := congrArg String.toList same
  simp at lists

/-- Two networks have one bridge only if they have one name, or long names with one hash. -/
theorem bridgeName_eq_iff {first second : String} : bridgeName first = bridgeName second ↔
      first = second ∨ (isLong first = true ∧ isLong second = true ∧
      hashOf first = hashOf second) := by
  constructor
  · intro same
    cases firstLong : isLong first with
    | false =>
      cases secondLong : isLong second with
      | false =>
        rw [bridgeName_short firstLong, bridgeName_short secondLong] at same
        exact .inl (String.append_right_inj _ |>.mp same)
      | true =>
        rw [bridgeName_short firstLong, bridgeName_long secondLong] at same
        exact absurd same (short_ne_long _ _)
    | true =>
      cases secondLong : isLong second with
      | false =>
        rw [bridgeName_long firstLong, bridgeName_short secondLong] at same
        exact absurd same.symm (short_ne_long _ _)
      | true =>
        rw [bridgeName_long firstLong, bridgeName_long secondLong] at same
        exact .inr ⟨rfl, rfl, hex_inj (String.append_right_inj _ |>.mp same)⟩
  · rintro (rfl | ⟨firstLong, secondLong, sameHash⟩)
    · rfl
    · rw [bridgeName_long firstLong, bridgeName_long secondLong, shortHash, shortHash, sameHash]

/-! ## Networks -/

def defaultName : String := "default"

def defaultNameserver : String := "8.8.8.8"

def defaultMTU : Int := 1500

def minMTU : Int := 576

def maxMTU : Int := 9000

structure Network where
  id : String
  name : String
  gateway : String
  subnet : String
  bridge : String
  nameservers : List String
  mtu : Int
  isolated : Bool
  internal : Bool
  deriving DecidableEq, Repr

instance : Named Network where
  name := Network.name
  id := Network.id

instance : Inhabited Network where
  default := ⟨"", "", "", "", "", [], 0, false, false⟩

/-- What the host is told of a network. -/
def Network.onHost (network : Network) : HostNet.Network :=
  ⟨network.bridge, network.subnet, network.gateway, network.internal⟩

/-- What a new network is asked to be. -/
structure Spec where
  name : String
  subnet : String
  gateway : String
  mtu : Int
  nameservers : List String
  isolated : Bool
  internal : Bool
  deriving DecidableEq, Repr

section

variable (other : String → Option (Option Address))

def Network.validate (network : Network) : Except Err Unit := do
  Naming.validate network.name
  if network.mtu < minMTU ∨ maxMTU < network.mtu then
    throw (.invalidArgument ("MTU " ++ toString network.mtu ++ " is out of range: want " ++
      toString minMTU ++ " to " ++ toString maxMTU))
  else
    match network.nameservers.find? fun nameserver => (parseIP other nameserver).isNone with
    | some nameserver =>
      throw (.invalidArgument ("nameserver " ++ quoted nameserver ++ " is not an IP address"))
    | none =>
      if network.internal ∧ network.nameservers ≠ [] then
        throw (.invalidArgument ("an internal network cannot use nameservers, " ++
          "since its instances cannot reach them: leave the nameservers out"))
      else pure ()

/-- The requested gateway, or the subnet's first address. -/
def gatewayOf (subnet : Subnet) (want : String) : Except Err String :=
  if want = "" then pure (subnet.address + 1#32).text
  else
    match parseIP other want with
    | some (some gateway) =>
      if assignable subnet gateway then pure gateway.text else throw (refusal subnet want)
    | _ => throw (refusal subnet want)
where
  refusal (subnet : Subnet) (want : String) : Err :=
    .invalidArgument ("gateway " ++ quoted want ++ " is not an assignable address in subnet " ++
      subnet.text)

/-- The network that is asked for, with its defaults. -/
def new (id : String) (spec : Spec) : Except Err Network :=
  if spec.subnet = "" then throw (.invalidArgument "subnet is required")
  else do
    let subnet ← parseSubnet spec.subnet
    let gateway ← gatewayOf other subnet spec.gateway
    let network : Network :=
      { id := id
        name := spec.name
        gateway := gateway
        subnet := subnet.text
        bridge := bridgeName spec.name
        nameservers :=
          if spec.nameservers = [] ∧ !spec.internal then [defaultNameserver] else spec.nameservers
        mtu := if spec.mtu = 0 then defaultMTU else spec.mtu
        isolated := spec.isolated
        internal := spec.internal }
    network.validate other
    return network

/-- A new network's subnet is its own. -/
def checkSubnetOverlap (network : Network) (networks : List Network) (hostSubnets : List Subnet) :
    Except Err Unit :=
  match parseCIDR network.subnet with
  | none => throw (.invalidArgument ("invalid subnet " ++ quoted network.subnet))
  | some want =>
    match networks.find? fun existing => (parseCIDR existing.subnet).any want.overlaps with
    | some existing =>
      throw (.alreadyExists ("subnet " ++ want.text ++ " overlaps network " ++
        quoted existing.name ++ " (" ++ existing.subnet ++ ")"))
    | none =>
      match hostSubnets.find? want.overlaps with
      | some subnet =>
        throw (.alreadyExists ("subnet " ++ want.text ++ " overlaps " ++ subnet.text ++
          ", which the host is on"))
      | none => pure ()

theorem new_names {id : String} {spec : Spec} {network : Network}
    (made : new other id spec = .ok network) :
    network.name = spec.name ∧ network.bridge = bridgeName network.name := by
  unfold new at made
  split at made
  · simp at made
  simp only [bind_eq_ok, pure_eq_ok] at made
  rcases made with ⟨_, _, _, _, _, _, rfl⟩
  exact ⟨rfl, rfl⟩

theorem new_subnet {id : String} {spec : Spec} {network : Network}
    (made : new other id spec = .ok network) :
    ∃ subnet, parseCIDR network.subnet = some subnet := by
  unfold new at made
  split at made
  · simp at made
  simp only [bind_eq_ok, pure_eq_ok] at made
  rcases made with ⟨subnet, _, _, _, _, _, rfl⟩
  exact ⟨subnet, subnet.parseCIDR_text⟩

end

end Dicer.Networks
