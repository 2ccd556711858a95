import Dicer.FileStore.Store

namespace Dicer.Networks

open FileStore

/-!
# The network manager

It creates and deletes networks, whose definitions the store keeps, and gives out their addresses.
It holds no lock across its calls on the store, so each of them finds the store as it is by then:
what `create` looks up, what it lists and what it writes to are three stores here, which may all
differ.

A network's allocations are found by the network's name.  A table that could not be read fails every
call about its network.  A call whose file cannot be written returns that error and changes nothing,
so the calls below are those whose file operations succeed.
-/

section

variable (other : String → Option (Option Address))

def checkSubnetIsFree (network : Network) (listed : Store)
    (hostSubnets : Except Err (List Subnet)) : Except Err Unit := do
  let hostSubnets ← hostSubnets
  checkSubnetOverlap network listed.networks.sorted hostSubnets

def create (hostSubnets : Except Err (List Subnet)) (id : String) (spec : Spec)
    (lookedUp listed store : Store) : Except Err Store := do
  let network ← new other id spec
  match lookedUp.network network.name with
  | .ok _ => throw (.alreadyExists ("network " ++ quoted network.name ++ " already exists"))
  | .error _ =>
    checkSubnetIsFree network listed hostSubnets
    store.createNetwork network

/-- The daemon's own network, unless it is there. -/
def ensureDefault (hostSubnets : Except Err (List Subnet)) (id subnet : String)
    (lookedUp listed store : Store) : Except Err Store :=
  match lookedUp.network defaultName with
  | .ok _ => pure store
  | .error _ => do
    let network ← new other id ⟨defaultName, subnet, "", 0, [], false, false⟩
    checkSubnetIsFree network listed hostSubnets
    store.createNetwork network

def delete (nameOrID : String) (lookedUp store : Store) : Except Err Store := do
  let network ← lookedUp.network nameOrID
  if network.name = defaultName then
    throw (.invalidArgument "the default network cannot be deleted")
  else store.deleteNetwork network.id

end

structure Allocation where
  networkID : String
  instanceID : String
  ip : String
  mac : String
  deriving DecidableEq, Repr

/-- A network's allocations.  The indexes by instance and by address hold the last of several. -/
abbrev AllocationTable := List Allocation

namespace AllocationTable

variable (table : AllocationTable)

def byInstance (instanceID : String) : Option Allocation :=
  table.reverse.find? fun allocation => allocation.instanceID = instanceID

def byIP (ip : String) : Option Allocation :=
  table.reverse.find? fun allocation => allocation.ip = ip

/-- The table without the allocation that the instance is found by. -/
def without (instanceID : String) : AllocationTable :=
  (eraseFirst table.reverse).reverse
where
  eraseFirst (allocations : List Allocation) : List Allocation :=
    allocations.eraseP fun allocation => allocation.instanceID = instanceID

end AllocationTable

/-- Each network's allocations, or the error its table could not be read with. -/
abbrev Tables := String → Except Err AllocationTable

namespace Tables

def empty : Tables := fun _ => pure []

variable (tables : Tables)

def save (network : String) (table : AllocationTable) : Tables :=
  Function.update tables network (.ok table)

def allocation (tables : Tables) (network instanceID : String) : Except Err Allocation := do
  let table ← tables network
  match table.byInstance instanceID with
  | some allocation => pure allocation
  | none =>
    throw (.notFound ("instance " ++ quoted instanceID ++ " has no address on network " ++
      quoted network))

def instanceAt (network ip : String) : Option String :=
  match tables network with
  | .ok table => (table.byIP ip).map Allocation.instanceID
  | .error _ => none

def release (network instanceID : String) : Except Err Tables := do
  let table ← tables network
  match table.byInstance instanceID with
  | some _ => pure (tables.save network (table.without instanceID))
  | none => pure tables

def forget (network : String) : Tables :=
  Function.update tables network (.ok [])

/-- Drop the allocations of instances that are gone, network by network. -/
def reconcile (tables : Tables) (live : List String) : List String → Except Err Tables
  | [] => pure tables
  | network :: rest => do
    let table ← tables network
    let kept := table.filter fun allocation => live.contains allocation.instanceID
    reconcile (if kept.length = table.length then tables else tables.save network kept) live rest

end Tables

/-- What is drawn for an allocation: offsets to try before the scan, and the MAC address. -/
structure Draw where
  offsets : List Nat
  mac : String

/-- The first of so many addresses, from an offset on, that is not in use. -/
def scan (subnet : Subnet) (used : List String) : Nat → Nat → Option String
  | 0, _ => none
  | left + 1, offset =>
    let ip := (subnet.address + BitVec.ofNat 32 offset).text
    if used.contains ip then scan subnet used left (offset + 1) else some ip

def freeIP (subnet : Subnet) (used : List String) (offsets : List Nat) : Except Err String :=
  let unavailable : Err := .resourceExhausted "the network has no free addresses left"
  if 32 - subnet.length < 2 then throw unavailable
  else
    let lastHost := 2 ^ (32 - subnet.length) - 2
    let tried := offsets.map fun offset =>
      (subnet.address + BitVec.ofNat 32 (offset % lastHost + 1)).text
    match tried.find? fun ip => !used.contains ip with
    | some ip => pure ip
    | none =>
      match scan subnet used lastHost 1 with
      | some ip => pure ip
      | none => throw unavailable

section

variable (other : String → Option (Option Address))

/-- The address an instance asks for, or one that is free. -/
def chooseIP (network : Network) (subnet : Subnet) (used : List String) (staticIP : String)
    (offsets : List Nat) : Except Err String :=
  if staticIP = "" then
    match freeIP subnet used offsets with
    | .ok ip => pure ip
    | .error error =>
      throw ⟨error.classes, "allocate address on network " ++ quoted network.name ++ ": " ++
        error.message⟩
  else
    match parseIP other staticIP with
    | some (some address) =>
      if !assignable subnet address then throw (refusal network staticIP)
      else if used.contains address.text then
        throw (.invalidState ("static IP " ++ address.text ++ " is already in use on network " ++
          quoted network.name))
      else pure address.text
    | _ => throw (refusal network staticIP)
where
  refusal (network : Network) (staticIP : String) : Err :=
    .invalidArgument ("static IP " ++ quoted staticIP ++
      " is not an assignable address in subnet " ++ network.subnet)

/-- Give an instance an address on a network, or the one it holds. -/
def Tables.allocate (tables : Tables) (network : Network) (instanceID staticIP : String)
    (draw : Draw) : Except Err (Allocation × Tables) := do
  let table ← tables network.name
  match table.byInstance instanceID with
  | some allocation => pure (allocation, tables)
  | none =>
    match parseCIDR network.subnet with
    | none => throw (.host ("invalid subnet " ++ quoted network.subnet))
    | some subnet => do
      let ip ← chooseIP other network subnet (network.gateway :: table.map Allocation.ip) staticIP
        draw.offsets
      let allocation : Allocation := ⟨network.id, instanceID, ip, draw.mac⟩
      pure (allocation, tables.save network.name (table ++ [allocation]))

end

end Dicer.Networks
