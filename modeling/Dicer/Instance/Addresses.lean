import Dicer.Networks.Allocations

namespace Dicer.Instance

open FileStore
open Networks (Network Address Allocation Tables Draw AllocationTable)

/-!
# Instances on their networks

An instance's definition gives its network by name or by ID.  Attaching the instance resolves that
and allocates an address in the table of the network it finds, under the network's name.  Everything
else (the lookup of the address, the count of the instances on a network, the network's DNS server,
the release on deletion) takes what the definition says for the network's name.
`network_agrees_iff` says when they agree.

The host's part in attaching an instance may fail and is an argument here, and so is reading a
status, which need not give the same answer twice.
-/

/-- The result of attaching an instance to its network. -/
structure NetworkSetup where
  network : Network
  tapDevice : String
  ip : String
  mac : String
  prefixLen : Nat
  mtu : Int
  nameservers : List String

def upstreamNameservers (network : Network) : List String :=
  if network.internal then []
  else if network.nameservers ≠ [] then network.nameservers
  else [Networks.defaultNameserver]

/-- What the rest of an attachment gives, once the address is allocated. -/
def networkSetup (spec : Spec) (network : Network) (allocation : Allocation)
    (attached : Except Err Bool) (published : Except Err Unit) : Except Err NetworkSetup := do
  let servesDNS ← attached
  if spec.ports ≠ [] then published
  match Networks.parseCIDR network.subnet with
  | none => throw (.host ("invalid subnet CIDR in network " ++ quoted network.id))
  | some subnet =>
    return {
      network := network
      tapDevice := Networks.tapName spec.id
      ip := allocation.ip
      mac := allocation.mac
      prefixLen := subnet.length
      mtu := if network.mtu = 0 then Networks.defaultMTU else network.mtu
      nameservers := if servesDNS then [network.gateway] else upstreamNameservers network }

/-- Allocate an address for an instance and attach it.  The address is kept if the rest fails. -/
def setupNetwork (other : String → Option (Option Address)) (store : Store) (tables : Tables)
    (spec : Spec) (draw : Draw) (attached : Except Err Bool) (published : Except Err Unit) :
    Except Err (Allocation × Tables × Except Err NetworkSetup) :=
  match store.network spec.networkName with
  | .error error => throw ⟨error.classes, "get network " ++ quoted spec.networkName ++ ": " ++
    error.message⟩
  | .ok network =>
    match tables.allocate other network spec.id spec.staticIP draw with
    | .error error =>
      throw ⟨error.classes, "allocate address on network " ++ quoted spec.networkName ++ ": " ++
        error.message⟩
    | .ok (allocation, after) => pure (allocation, after, networkSetup spec network allocation
      attached published)

/-- The address an instance holds. -/
def allocationOf (tables : Tables) (spec : Spec) : Except Err Allocation :=
  tables.allocation spec.networkName spec.id

/-- What deleting an instance does to the tables. -/
def releaseOf (tables : Tables) (spec : Spec) : Except Err Tables :=
  tables.release spec.networkName spec.id

section

variable (statusOf : Spec → Except Err Status)

def runsOrStarts (status : Status) : Bool :=
  status.state.isActive || status.state = .starting

/-- Whether an instance other than one is active on the network; a status that cannot be read
counts. -/
def networkInUse (store : Store) (network : Network) (excludeID : String) : Bool :=
  store.instances.sorted.any fun spec =>
    spec.id ≠ excludeID && spec.networkName = network.name && match statusOf spec with
      | .ok status => runsOrStarts status
      | .error _ => true

def addressOf (tables : Tables) (network : String) (spec : Spec) : Option Address :=
  match tables.allocation network spec.id with
  | .ok allocation => Networks.parseIPv4 allocation.ip.toList
  | .error _ => none

/-- The instances on a network that match and run, with their addresses. -/
def answerableInstances (store : Store) (tables : Tables) (network : String)
    (isMatch : Spec → Bool) : List (Spec × Address) :=
  (store.instances.items.filter fun spec => spec.networkName = network && isMatch spec).filterMap
      fun spec =>
    match statusOf spec with
    | .ok status => if runsOrStarts status then (addressOf tables network spec).map (spec, ·)
      else none
    | .error _ => none

variable (fold : Char → Char)

/-- Equal up to case; how a character is folded is left open. -/
def equalFold (first second : String) : Bool := first.toList.map fold = second.toList.map fold

def lookupHost (store : Store) (tables : Tables) (network name : String) : List Address :=
  (answerableInstances statusOf store tables network fun spec =>
    equalFold fold spec.name name || equalFold fold spec.hostname name).map Prod.snd

def lookupAddr (store : Store) (tables : Tables) (network : String) (address : Address) :
    List String :=
  match tables.instanceAt network address.text with
  | none => []
  | some instanceID =>
    match answerableInstances statusOf store tables network fun spec => spec.id = instanceID with
    | [] => []
    | (spec, _) :: _ =>
      spec.name :: if spec.hostname ≠ "" && !equalFold fold spec.hostname spec.name
        then [spec.hostname] else []

end

/-! ## Agreement -/

/-- The instance is found under this allocation, and under no other, wherever its network is asked
about: by the lookup of its address, by the count of instances on the network, by the network's DNS
server and by the release of its address. -/
structure Agrees (network : Network) (spec : Spec) (allocation : Allocation) (tables : Tables) :
    Prop where
  found : allocationOf tables spec = .ok allocation
  counted : ∀ (statusOf : Spec → Except Err Status) (store : Store) (excludeID : String)
    (status : Status), spec ∈ store.instances.items → excludeID ≠ spec.id →
      statusOf spec = .ok status → status.state.isActive = true →
      networkInUse statusOf store network excludeID = true
  answers : ∀ (statusOf : Spec → Except Err Status) (fold : Char → Char) (store : Store)
    (status : Status), spec ∈ store.instances.items →
      (∀ same ∈ store.instances.items, same.id = spec.id → same = spec) →
          statusOf spec = .ok status → status.state.isActive = true → ∃ address : Address,
          allocation.ip = address.text ∧ (∀ name ∈ [spec.name, spec.hostname],
            address ∈ lookupHost statusOf fold store tables network.name name) ∧
          (lookupAddr statusOf fold store tables network.name address).head? = some spec.name
  released : ∃ table, tables network.name = .ok table ∧ allocation ∈ table ∧
    releaseOf tables spec = .ok (tables.save network.name
    (table.filter fun held => held ≠ allocation))

section

variable {statusOf : Spec → Except Err Status} {store : Store} {tables : Tables}
  {table : AllocationTable} {network : Network} {spec : Spec} {allocation : Allocation}

theorem allocation_of_mem (orderly : table.Orderly) (there : tables network.name = .ok table)
    (held : allocation ∈ table) (own : allocation.instanceID = spec.id) :
    tables.allocation network.name spec.id = .ok allocation := by
  simp only [Tables.allocation, bind_eq_ok]
  refine ⟨table, there, ?_⟩
  rw [orderly.byInstance_iff.mpr ⟨held, own⟩]
  rfl

/-- A running instance that holds an address on its network, by the network's name, is answered
for. -/
theorem mem_answerableInstances {isMatch : Spec → Bool} {status : Status} {address : Address}
    (defined : spec ∈ store.instances.items) (named : spec.networkName = network.name)
    (matched : isMatch spec = true) (read : statusOf spec = .ok status)
    (active : status.state.isActive = true)
    (holds : tables.allocation network.name spec.id = .ok allocation)
    (text : allocation.ip = address.text) :
    (spec, address) ∈ answerableInstances statusOf store tables network.name isMatch := by
  have runs : runsOrStarts status = true := by simp [runsOrStarts, active]
  have isAddress : addressOf tables network.name spec = some address := by
    simp only [addressOf, holds, text, Networks.parseIPv4_text]
  refine List.mem_filterMap.mpr ⟨spec, List.mem_filter.mpr ⟨defined, by simp [named, matched]⟩, ?_⟩
  simp [read, runs, isAddress]

theorem mem_of_mem_answerableInstances {isMatch : Spec → Bool} {found : Spec × Address}
    (member : found ∈ answerableInstances statusOf store tables network.name isMatch) :
    found.1 ∈ store.instances.items ∧ isMatch found.1 = true := by
  rcases List.mem_filterMap.mp member with ⟨spec, specMember, answered⟩
  rcases List.mem_filter.mp specMember with ⟨defined, matched⟩
  split at answered
  · split at answered
    · rcases Option.map_eq_some_iff.mp answered with ⟨address, _, rfl⟩
      exact ⟨defined, by simpa using (Bool.and_eq_true_iff.mp matched).2⟩
    · simp at answered
  · simp at answered

theorem networkInUse_of_mem {excludeID : String} {status : Status}
    (defined : spec ∈ store.instances.items) (other : excludeID ≠ spec.id)
    (named : spec.networkName = network.name) (read : statusOf spec = .ok status)
    (active : status.state.isActive = true) :
    networkInUse statusOf store network excludeID = true := by
  refine List.any_eq_true.mpr ⟨spec, Definitions.mem_sorted.mpr defined, ?_⟩
  simp [other.symm, named, read, runsOrStarts, active]

/-- By its name, the network is one and the same to all that ask. -/
theorem agrees_of_name (orderly : table.Orderly) (there : tables network.name = .ok table)
    (held : allocation ∈ table) (own : allocation.instanceID = spec.id)
    (named : spec.networkName = network.name) : Agrees network spec allocation tables where
  found := by
    rw [allocationOf, named]
    exact allocation_of_mem orderly there held own
  counted := fun statusOf store excludeID status defined other read active =>
    networkInUse_of_mem defined other named read active
  answers := by
    intro statusOf fold store status defined unique read active
    rcases orderly.texts allocation held with ⟨address, text⟩
    have holds := allocation_of_mem orderly there held own
    refine ⟨address, text, fun name isName => ?_, ?_⟩
    · refine List.mem_map.mpr ⟨(spec, address), ?_, rfl⟩
      refine mem_answerableInstances defined named ?_ read active holds text
      rcases List.mem_pair.mp isName with rfl | rfl <;> simp [equalFold]
    have at_ : tables.instanceAt network.name address.text = some spec.id := by
      simp only [Tables.instanceAt, there, ← text, orderly.byIP_self held, Option.map_some, own]
    unfold lookupAddr
    rw [at_]
    dsimp only
    have answered : (spec, address) ∈
        answerableInstances statusOf store tables network.name fun found => found.id = spec.id :=
      mem_answerableInstances defined named (by simp) read active holds text
    split
    · rename_i none
      simp [none] at answered
    rename_i first firstAddress rest isFirst
    rcases mem_of_mem_answerableInstances (isFirst ▸ List.mem_cons_self) with ⟨firstDefined, sameID⟩
    have same : first = spec := unique first firstDefined (by simpa using sameID)
    simp [same]
  released := by
    refine ⟨table, there, held, ?_⟩
    have kept : (table.filter fun other => other.instanceID ≠ spec.id) =
        table.filter fun other => other ≠ allocation := by
      refine List.filter_congr fun other member => ?_
      have same : other.instanceID = spec.id ↔ other = allocation :=
        ⟨fun sameID => List.inj_on_of_nodup_map orderly.instances member held
          (sameID.trans own.symm), fun equal => equal ▸ own⟩
      simp [same]
    simp only [releaseOf, named, Tables.release, bind_eq_ok]
    refine ⟨table, there, ?_⟩
    rw [orderly.byInstance_iff.mpr ⟨held, own⟩]
    dsimp only
    rw [orderly.without_eq, kept]
    rfl

end

section

variable {other : String → Option (Option Address)} {store : Store} {tables after : Tables}
  {spec : Spec} {network : Network} {draw : Draw} {attached : Except Err Bool}
    {published : Except Err Unit}
  {allocation : Allocation} {setup : Except Err NetworkSetup}

/-- The address is allocated on the network that what the definition says resolves to. -/
theorem allocate_of_setupNetwork (resolved : store.network spec.networkName = .ok network)
    (allocated : setupNetwork other store tables spec draw attached published = .ok
      (allocation, after, setup)) :
    tables.allocate other network spec.id spec.staticIP draw = .ok (allocation, after) := by
  unfold setupNetwork at allocated
  rw [resolved] at allocated
  dsimp only at allocated
  split at allocated
  · simp at allocated
  rename_i given
  obtain ⟨rfl, rest⟩ := Prod.mk.inj (pure_eq_ok.mp allocated)
  rw [given, (Prod.mk.inj rest).1]

/-- After an instance was given an address, and as long as it has it, the instance is found under it
wherever its network is asked about exactly if its definition gives the network by name. -/
theorem network_agrees_iff (reached : Tables.Reached other tables)
    (resolved : store.network spec.networkName = .ok network)
    (allocated : setupNetwork other store tables spec draw attached published = .ok
      (allocation, after, setup)) :
    (∃ table, after network.name = .ok table ∧ allocation ∈ table) ∧
      ∀ later table, Tables.Reached other later → later network.name = .ok table →
        allocation ∈ table → (Agrees network spec allocation later ↔
        spec.networkName = network.name) := by
  have given := allocate_of_setupNetwork resolved allocated
  rcases (reached.orderly.allocate given).2 with ⟨table, there, held, own⟩
  refine ⟨⟨table, there, held⟩, fun later table reachedLater there held => ⟨?_, ?_⟩⟩
  · intro agrees
    -- The count compares the definition's text with the network's name, whatever the definition
    -- means by it.
    have counted := agrees.counted (fun _ => .ok { Status.stopped with state := .running })
      { Store.empty with instances := ⟨[spec], fun _ => none⟩ } (spec.id ++ "other")
      { Status.stopped with state := .running } List.mem_cons_self (by simp) rfl rfl
    simp [networkInUse, Definitions.sorted] at counted
    exact counted.1.2
  · exact agrees_of_name (reachedLater.orderly _ table there) there held own

end

/-- The one network of a store, by name and by ID. -/
def onlyNetwork : Network :=
  { (default : Network) with id := "n1", name := "default", gateway := "10.1.0.1", subnet := "10.1.0.0/16" }

def withOnlyNetwork : Store := { Store.empty with networks := Store.empty.networks.put onlyNetwork }

def onNetwork (networkName : String) : Spec :=
  { (default : Spec) with id := "i1", name := "web", networkName := networkName }

/-- Attach an instance that gives its network like this, as the first on the network. -/
def attachFirst (networkName : String) :
    Except Err (Allocation × Tables × Except Err NetworkSetup) :=
  setupNetwork (fun _ => none) withOnlyNetwork .empty (onNetwork networkName)
    ⟨[6], "02:00:00:00:00:01"⟩ (pure true) (pure ())

theorem network_agrees_iff_by_name : ∃ (allocation : Allocation) (after : Tables),
    allocation.ip = "10.1.0.7" ∧ Agrees onlyNetwork (onNetwork "default") allocation after := by
  rcases exists_ok_of_any (fun given => given.1.ip = "10.1.0.7") (attachFirst "default")
      (by decide +kernel) with
    ⟨⟨allocation, after, setup⟩, allocated, address⟩
  have agrees := network_agrees_iff .empty rfl allocated
  rcases agrees.1 with ⟨table, there, held⟩
  have reached := Tables.Reached.allocated _ _ _ _ _ .empty (allocate_of_setupNetwork rfl allocated)
  exact ⟨allocation, after, address, (agrees.2 after table reached there held).mpr rfl⟩

/-- By the network's ID, the address an instance was given is not found again. -/
theorem network_disagrees_by_id : ∃ (allocation : Allocation) (after : Tables)
    (setup : Except Err NetworkSetup), withOnlyNetwork.network (onNetwork "n1").networkName =
      .ok onlyNetwork ∧ attachFirst "n1" = .ok (allocation, after, setup) ∧
      allocationOf after (onNetwork "n1") ≠ .ok allocation ∧
      ¬ Agrees onlyNetwork (onNetwork "n1") allocation after := by
  rcases exists_ok_of_any (fun given => (allocationOf given.2.1 (onNetwork "n1")).toOption = none)
    (attachFirst "n1") (by decide +kernel) with ⟨⟨allocation, after, setup⟩, allocated, missing⟩
  have lost : allocationOf after (onNetwork "n1") ≠ .ok allocation := by
    intro found
    simp [found, Except.toOption] at missing
  exact ⟨allocation, after, setup, rfl, allocated, lost, fun agrees => lost agrees.found⟩

end Dicer.Instance
