import Dicer.Concurrency.Calls
import Dicer.Networks.Allocations

namespace Dicer.Networks.Calls

open FileStore Concurrency

/-!
# The network manager's calls, at once

Each call on the store is one atomic action, and so is each call on the allocation tables, which
holds the tables' write lock.  Nothing is held from one of them to the next: a network's subnet is
compared with those that were listed earlier, and a deleted network's allocations are discarded, by
the network's name, after its definition is gone.

A write may fail, which leaves what it would have changed.  A network's ID is random and in nobody's
hands before the network is stored, so it is nobody's ID or name then.  Instances and snapshots come
and go by themselves.
-/

/-- The definitions and the allocation tables.  The rest is history: every network there has been,
each network created with those listed when its subnet was checked, the allocations that were given
out and neither released nor reconciled away, and the tables that were forgotten. -/
structure World where
  store : Store
  tables : Tables
  defined : List Network
  created : List (Network × List Network)
  granted : List (Network × Allocation)
  forgotten : List String

namespace World

/-- The world of a daemon that has loaded its definitions and tables. -/
def load (store : Store) (tables : Tables) : World where
  store := store
  tables := tables
  defined := store.networks.items
  created := []
  granted := []
  forgotten := []

def isFresh (world : World) (id : String) : Bool :=
  id != "" && !(world.defined.map Network.id).contains id && (world.store.networks.lookup id).isNone

end World

abbrev Op := Program Nat World

abbrev Call := ExceptT Err Op

export Concurrency.Calls (attempt bestEffort)

/-- A write is done, or fails and changes nothing. -/
def orFails {Value : Type} (world : World) (done : Value × World) :
    List (Except Err Value × World) :=
  [(.ok done.1, done.2), (.error (.host "write file"), world)]

def storeNetwork (nameOrID : String) : Call Network :=
  Program.perform fun _ world => [(world.store.network nameOrID, world)]

def storeNetworks : Call (List Network) :=
  Program.perform fun _ world => [(.ok world.store.networks.sorted, world)]

/-- Record a network whose subnet was compared with those listed. -/
def storeCreateNetwork (network : Network) (listed : List Network) : Call Unit :=
  Program.perform fun _ world =>
    match world.store.createNetwork network with
    | .error error => [(.error error, world)]
    | .ok store =>
      if !world.isFresh network.id || network.id == network.name then []
      else
        orFails world ((), { world with
          store := store
          defined := network :: world.defined
          created := (network, listed) :: world.created })

def storeDeleteNetwork (nameOrID : String) : Call Unit :=
  Program.perform fun _ world =>
    match world.store.deleteNetwork nameOrID with
    | .error error => [(.error error, world)]
    | .ok store => orFails world ((), { world with store := store })

def forget (network : String) : Call Unit :=
  Program.perform fun _ world =>
    orFails world ((), { world with
      tables := world.tables.forget network
      forgotten := network :: world.forgotten })

def release (network instanceID : String) : Call Unit :=
  Program.perform fun _ world =>
    match world.tables.release network instanceID with
    | .error error => [(.error error, world)]
    | .ok tables =>
      orFails world ((), { world with
        tables := tables
        granted := world.granted.filter fun entry =>
          !(entry.1.name == network && entry.2.instanceID == instanceID) })

/-- The world once some networks' tables have been reconciled. -/
def reconciled (world : World) (networks live : List String) : Option World :=
  match world.tables.reconcile live networks with
  | .error _ => none
  | .ok tables =>
    some { world with
      tables := tables
      granted := world.granted.filter fun entry =>
        !(networks.contains entry.1.name && !live.contains entry.2.instanceID) }

/-- A reconciliation goes through all of the networks, or fails at one and has done with those
before it. -/
def reconcile (networks live : List String) : Call Unit :=
  Program.perform fun _ world =>
    (List.range networks.length).flatMap (fun count =>
      ((reconciled world (networks.take count) live).map fun after =>
        (.error (.host "save allocation table"), after)).toList) ++
      ((reconciled world networks live).map fun after => (.ok (), after)).toList

section

variable (other : String → Option (Option Address))

/-- Give an instance an address on a network that was looked up earlier. -/
def allocateOn (network : Network) (instanceID staticIP : String) (draw : Draw) : Call Allocation :=
  Program.perform fun _ world =>
    match world.tables.allocate other network instanceID staticIP draw with
    | .error error => [(.error error, world)]
    | .ok (allocation, tables) =>
      orFails world (allocation, { world with
        tables := tables
        granted := (network, allocation) :: world.granted })

/-! ## The manager's calls -/

/-- The subnets the network's was compared with, and overlaps none of. -/
def checkSubnetIsFree (network : Network) (hostSubnets : Except Err (List Subnet)) :
    Call (List Network) := do
  match hostSubnets with
  | .error error => throw ⟨error.classes, "list the host's subnets: " ++ error.message⟩
  | .ok hostSubnets => do
    let listed ← storeNetworks
    match checkSubnetOverlap network listed hostSubnets with
    | .error error => throw error
    | .ok _ => return listed

def create (hostSubnets : Except Err (List Subnet)) (id : String) (spec : Spec) : Call Network :=
  match new other id spec with
  | .error error => throw error
  | .ok network => do
    match ← attempt (storeNetwork network.name) with
    | .ok _ => throw (.alreadyExists ("network " ++ quoted network.name ++ " already exists"))
    | .error _ => do
      let listed ← checkSubnetIsFree network hostSubnets
      storeCreateNetwork network listed
      return network

def defaultError (error : Err) : Err :=
    ⟨error.classes, "create the default network: " ++ error.message⟩

/-- The daemon's own network, unless it is there. -/
def ensureDefault (hostSubnets : Except Err (List Subnet)) (id subnet : String) : Call Unit := do
  match ← attempt (storeNetwork defaultName) with
  | .ok _ => return ()
  | .error _ =>
    match new other id ⟨defaultName, subnet, "", 0, [], false, false⟩ with
    | .error error => throw (defaultError error)
    | .ok network => do
      match ← attempt (checkSubnetIsFree network hostSubnets) with
      | .error error => throw (defaultError error)
      | .ok listed => do
        match ← attempt (storeCreateNetwork network listed) with
        | .error error => throw (defaultError error)
        | .ok _ => return ()

def delete (nameOrID : String) : Call Unit := do
  let network ← storeNetwork nameOrID
  if network.name = defaultName then
    throw (.invalidArgument "the default network cannot be deleted")
  else do
    storeDeleteNetwork network.id
    match ← attempt (forget network.name) with
    | .error error => throw ⟨error.classes, "discard allocations: " ++ error.message⟩
    | .ok _ => return ()

/-- An instance's setup looks its network up, and then asks for an address on it. -/
def allocate (nameOrID instanceID staticIP : String) (draw : Draw) : Call Allocation := do
  let network ← storeNetwork nameOrID
  allocateOn other network instanceID staticIP draw

inductive Request
  | create (hostSubnets : Except Err (List Subnet)) (id : String) (spec : Spec)
  | ensureDefault (hostSubnets : Except Err (List Subnet)) (id subnet : String)
  | delete (nameOrID : String)
  | allocate (nameOrID instanceID staticIP : String) (draw : Draw)
  | release (network instanceID : String)
  | reconcile (networks live : List String)

/-- What happens elsewhere: other instances and snapshots are defined. -/
structure Elsewhere where
  instances : Definitions Instance.Spec
  snapshots : Definitions Instance.Snapshot

def system : System Nat World Request Elsewhere where
  program := fun
    | .create hostSubnets id spec => bestEffort (create other hostSubnets id spec)
    | .ensureDefault hostSubnets id subnet => bestEffort (ensureDefault other hostSubnets id subnet)
    | .delete nameOrID => bestEffort (delete nameOrID)
    | .allocate nameOrID instanceID staticIP draw =>
      bestEffort (allocate other nameOrID instanceID staticIP draw)
    | .release network instanceID => bestEffort (release network instanceID)
    | .reconcile networks live => bestEffort (reconcile networks live)
  admits := fun _ _ => true
  event := fun event world =>
    some { world with
      store := { world.store with instances := event.instances, snapshots := event.snapshots } }
  crash := fun _ => none

end

end Dicer.Networks.Calls
