import Dicer.Networks.Allocations
import Dicer.SliceIndex
import Mathlib.Logic.Relation

namespace Dicer.Networks

/-!
# Allocation tables in memory and on disk

The manager keeps a network's allocations in a file, and in memory as a slice with two indexes into
it.  A change is written to the file first, and only then put in place of the table in memory.  Any
of the writes and removals may fail here, for a reason its caller chooses: a write replaces the file
or leaves it, since it renames a file it has written in full.

The calls hold the manager's write lock from beginning to end, so they come one after another.  What
YAML makes of a list of allocations is left open, except that it reads back what it wrote.
-/

/-- How allocations are written to a file and read from one. -/
structure Yaml (Data : Type) where
  marshal : List Allocation → Except Err Data
  unmarshal : Data → Except Err (List Allocation)
  reads_back : ∀ allocations data, marshal allocations = .ok data → unmarshal data = .ok allocations

/-- A network's allocations, with the place of each instance's and of each address's. -/
structure IndexedTable where
  allocations : List Allocation
  byInstance : String → Option Nat
  byIP : String → Option Nat

def newAllocationTable (allocations : List Allocation) : IndexedTable where
  allocations := allocations
  byInstance := index Allocation.instanceID allocations
  byIP := index Allocation.ip allocations

instance : Inhabited Allocation where
  default := ⟨"", "", "", ""⟩

/-- The manager's directory and what it holds in memory, by network. -/
structure Manager (Data : Type) where
  files : String → Option Data
  allocationTables : String → Option IndexedTable
  allocationTableErrors : String → Option Err

/-- How the parts of an allocation that may fail do. -/
structure Failures where
  mac : Option Err
  write : Option Err

section

variable {Data : Type} (yaml : Yaml Data)

def readAllocationTable (unread : Option Err) (data : Data) : Except Err IndexedTable :=
  match unread with
  | some error => throw ⟨error.classes, "read: " ++ error.message⟩
  | none =>
    match yaml.unmarshal data with
    | .error error => throw ⟨error.classes, "parse: " ++ error.message⟩
    | .ok allocations => pure (newAllocationTable allocations)

/-- A manager that has read the tables in its directory, some of which it may fail to read. -/
def newManager (unread : String → Option Err) (files : String → Option Data) : Manager Data where
  files := files
  allocationTables := fun network =>
    (files network).bind fun data => (readAllocationTable yaml (unread network) data).toOption
  allocationTableErrors := fun network =>
    match files network with
    | none => none
    | some data =>
      match readAllocationTable yaml (unread network) data with
      | .ok _ => none
      | .error error =>
        some ⟨error.classes, "allocations for " ++ quoted network ++ ": " ++ error.message⟩

namespace Manager

def allocationTableOf (manager : Manager Data) (network : String) : Except Err IndexedTable :=
  match manager.allocationTableErrors network with
  | some error => throw error
  | none => pure ((manager.allocationTables network).getD (newAllocationTable []))

/-- The file of a network, replaced as a whole. -/
def writeFile (manager : Manager Data) (network : String) (data : Data) (fault : Option Err) :
    Except Err Unit × Manager Data :=
  match fault with
  | some error => (.error error, manager)
  | none => (.ok (), { manager with files := Function.update manager.files network (some data) })

def saveAllocationTable (manager : Manager Data) (network : String) (allocations : List Allocation)
    (fault : Option Err) : Except Err Unit × Manager Data :=
  match yaml.marshal allocations with
  | .error error =>
    (.error ⟨error.classes, "marshal allocations for " ++ quoted network ++ ": " ++ error.message⟩,
      manager)
  | .ok data =>
    match manager.writeFile network data fault with
    | (.error error, written) => (.error error, written)
    | (.ok _, written) =>
      let table := newAllocationTable allocations
      (.ok (), { written with
        allocationTables := Function.update written.allocationTables network (some table) })

def allocate (other : String → Option (Option Address)) (manager : Manager Data) (network : Network)
    (instanceID staticIP : String) (draw : Draw) (failures : Failures) :
    Except Err Allocation × Manager Data :=
  match manager.allocationTableOf network.name with
  | .error error => (.error error, manager)
  | .ok table =>
    match table.byInstance instanceID with
    | some place => (.ok (table.allocations[place]?.getD default), manager)
    | none =>
      match parseCIDR network.subnet with
      | none => (.error (.host ("invalid subnet " ++ quoted network.subnet)), manager)
      | some subnet =>
        let used := network.gateway :: table.allocations.map Allocation.ip
        match chooseIP other network subnet used staticIP draw.offsets with
        | .error error => (.error error, manager)
        | .ok ip =>
          match failures.mac with
          | some error => (.error ⟨error.classes, "generate MAC: " ++ error.message⟩, manager)
          | none =>
            let allocation : Allocation := ⟨network.id, instanceID, ip, draw.mac⟩
            match manager.saveAllocationTable yaml network.name (table.allocations ++ [allocation])
                failures.write with
            | (.error error, saved) => (.error error, saved)
            | (.ok _, saved) => (.ok allocation, saved)

def release (manager : Manager Data) (network instanceID : String) (fault : Option Err) :
    Except Err Unit × Manager Data :=
  match manager.allocationTableOf network with
  | .error error => (.error error, manager)
  | .ok table =>
    match table.byInstance instanceID with
    | none => (.ok (), manager)
    | some place => manager.saveAllocationTable yaml network (table.allocations.eraseIdx place)
      fault

/-- Remove a network's file, if it is there. -/
def removeFile (manager : Manager Data) (network : String) (fault : Option Err) :
    Except Err Unit × Manager Data :=
  match fault with
  | some error =>
    (.error ⟨error.classes, "remove allocations for " ++ quoted network ++ ": " ++ error.message⟩,
      manager)
  | none => (.ok (), { manager with files := Function.update manager.files network none })

def forget (manager : Manager Data) (network : String) (fault : Option Err) :
    Except Err Unit × Manager Data :=
  match manager.removeFile network fault with
  | (.error error, removed) => (.error error, removed)
  | (.ok _, removed) =>
    (.ok (), { removed with
      allocationTables := Function.update removed.allocationTables network none
      allocationTableErrors := Function.update removed.allocationTableErrors network none })

/-- How many allocations were dropped, and the error that ended it.  Each network comes with how
writing its table would fail. -/
def reconcile (live : List String) :
    List (String × Option Err) → Nat → Manager Data → (Nat × Option Err) × Manager Data
  | [], released, manager => ((released, none), manager)
  | (network, fault) :: rest, released, manager =>
    match manager.allocationTableOf network with
    | .error error => ((released, some error), manager)
    | .ok table =>
      let kept := table.allocations.filter fun allocation => live.contains allocation.instanceID
      let releasedNow := released + (table.allocations.length - kept.length)
      if kept.length = table.allocations.length then reconcile live rest releasedNow manager
      else
        match manager.saveAllocationTable yaml network kept fault with
        | (.error error, saved) => ((releasedNow, some error), saved)
        | (.ok _, saved) => reconcile live rest releasedNow saved

end Manager

/-- A call, with how the parts of it that may fail do. -/
inductive TableCall
  | allocate (network : Network) (instanceID staticIP : String) (draw : Draw) (failures : Failures)
  | release (network instanceID : String) (fault : Option Err)
  | forget (network : String) (fault : Option Err)
  | reconcile (networks : List (String × Option Err)) (live : List String)

/-- The call is about these networks. -/
def TableCall.On (networks : List Network) : TableCall → Prop
  | .allocate network .. => network ∈ networks
  | .release network .. => network ∈ networks.map Network.name
  | .forget network _ => network ∈ networks.map Network.name
  | .reconcile named _ => ∀ entry ∈ named, entry.1 ∈ networks.map Network.name

def errorOf {Value : Type} : Except Err Value → Option Err
  | .ok _ => none
  | .error error => some error

section

variable (other : String → Option (Option Address))

/-- The error a call returns, and the manager after it. -/
def Manager.perform (manager : Manager Data) : TableCall → Option Err × Manager Data
  | .allocate network instanceID staticIP draw failures =>
    (manager.allocate yaml other network instanceID staticIP draw failures).map errorOf id
  | .release network instanceID fault => (manager.release yaml network instanceID fault).map errorOf
    id
  | .forget network fault => (manager.forget network fault).map errorOf id
  | .reconcile networks live => (Manager.reconcile yaml live networks 0 manager).map Prod.snd id

/-- The manager after calls, whether or not they return an error. -/
def Manager.run (manager : Manager Data) : List TableCall → Manager Data
  | [] => manager
  | call :: rest => Manager.run (manager.perform yaml other call).2 rest

end

/-! ## What a call may do -/

namespace Manager

/-- The manager with a network's allocations in its file and in memory. -/
def saved (manager : Manager Data) (network : String) (data : Data)
    (allocations : List Allocation) : Manager Data where
  files := Function.update manager.files network (some data)
  allocationTables := Function.update manager.allocationTables network
    (some (newAllocationTable allocations))
  allocationTableErrors := manager.allocationTableErrors

def forgotten (manager : Manager Data) (network : String) : Manager Data where
  files := Function.update manager.files network none
  allocationTables := Function.update manager.allocationTables network none
  allocationTableErrors := Function.update manager.allocationTableErrors network none

/-- One change to a table and its file, with what is known of the table when it is made. -/
inductive Change (networks : List Network) (manager : Manager Data) : Manager Data → Prop
  | shrunk {network : String} {table : IndexedTable} {kept : List Allocation} {data : Data}
      (there : manager.allocationTableOf network = .ok table)
      (fewer : kept.Sublist table.allocations)
      (marshalled : yaml.marshal kept = .ok data) :
      Change networks manager (manager.saved network data kept)
  | grown {network : Network} {table : IndexedTable} {allocation : Allocation} {subnet : Subnet}
      {data : Data} (member : network ∈ networks)
      (there : manager.allocationTableOf network.name = .ok table)
      (missing : table.byInstance allocation.instanceID = none)
      (isSubnet : parseCIDR network.subnet = some subnet)
      (free : allocation.ip ∉ network.gateway :: table.allocations.map Allocation.ip)
      (fits : ∃ address : Address, allocation.ip = address.text ∧ assignable subnet address = true)
      (marshalled : yaml.marshal (table.allocations ++ [allocation]) = .ok data) :
      Change networks manager (manager.saved network.name data (table.allocations ++ [allocation]))
  | forgot (network : String) : Change networks manager (manager.forgotten network)

variable {yaml} {other : String → Option (Option Address)} {networks : List Network}
    {manager : Manager Data}

variable (yaml) in
theorem saveAllocationTable_eq (manager : Manager Data) (network : String)
    (allocations : List Allocation) (fault : Option Err) :
    (∃ error, manager.saveAllocationTable yaml network allocations fault =
      (.error error, manager)) ∨ ∃ data, yaml.marshal allocations = .ok data ∧
          manager.saveAllocationTable yaml network allocations fault =
          (.ok (), manager.saved network data allocations) := by
  unfold saveAllocationTable
  cases marshalled : yaml.marshal allocations with
  | error => exact .inl ⟨_, rfl⟩
  | ok data =>
    cases fault with
    | some error => exact .inl ⟨error, rfl⟩
    | none => exact .inr ⟨data, rfl, rfl⟩

variable (yaml networks manager) in
/-- What a call returned that changes nothing, or succeeds with one change. -/
def Once (outcome : Option Err × Manager Data) : Prop :=
  outcome.2 = manager ∨ (outcome.1 = none ∧ Change yaml networks manager outcome.2)

theorem allocate_once {network : Network} (member : network ∈ networks)
    (instanceID staticIP : String) (draw : Draw) (failures : Failures) :
    Once yaml networks manager
      ((manager.allocate yaml other network instanceID staticIP draw failures).map errorOf id) := by
  unfold allocate
  split
  · exact .inl rfl
  rename_i table there
  split
  · exact .inl rfl
  rename_i missing
  split
  · exact .inl rfl
  rename_i subnet isSubnet
  dsimp only
  split
  · exact .inl rfl
  rename_i ip chosen
  split
  · exact .inl rfl
  rcases saveAllocationTable_eq yaml manager network.name
    (table.allocations ++ [⟨network.id, instanceID, ip, draw.mac⟩]) failures.write with
    ⟨error, failed⟩ | ⟨data, marshalled, done⟩
  · exact .inl (by rw [failed]; rfl)
  rw [done]
  rcases chooseIP_gives chosen with ⟨free, fits⟩
  exact .inr ⟨rfl, .grown member there missing isSubnet free fits marshalled⟩

theorem release_once (network instanceID : String) (fault : Option Err) :
    Once yaml networks manager ((manager.release yaml network instanceID fault).map errorOf
      id) := by
  unfold release
  split
  · exact .inl rfl
  rename_i table there
  split
  · exact .inl rfl
  rename_i place _
  rcases saveAllocationTable_eq yaml manager network (table.allocations.eraseIdx place) fault with
    ⟨error, failed⟩ | ⟨data, marshalled, done⟩
  · exact .inl (by rw [failed]; rfl)
  · rw [done]
    exact .inr ⟨rfl, .shrunk there (List.eraseIdx_sublist ..) marshalled⟩

theorem forget_once (network : String) (fault : Option Err) :
    Once yaml networks manager ((manager.forget network fault).map errorOf id) := by
  cases fault with
  | some => exact .inl rfl
  | none => exact .inr ⟨rfl, .forgot network⟩

variable (yaml networks) in
/-- A reconciliation stops at its first network with nothing changed there, or goes on from that
network's change to the rest, whatever that is. -/
theorem reconcile_cons (live : List String) (entry : String × Option Err) (released : Nat)
    (manager : Manager Data) : (∃ count error, ∀ rest, reconcile yaml live (entry :: rest) released
      manager = ((count, some error), manager)) ∨ ∃ count between,
        Relation.ReflTransGen (Change yaml networks) manager between ∧ ∀ rest,
        reconcile yaml live (entry :: rest) released manager = reconcile yaml live rest count
        between := by
  rcases entry with ⟨network, fault⟩
  cases there : manager.allocationTableOf network with
  | error error => exact .inl ⟨released, error, fun rest => by rw [reconcile, there]⟩
  | ok table =>
    let kept := table.allocations.filter fun allocation => live.contains allocation.instanceID
    let count := released + (table.allocations.length - kept.length)
    by_cases same : kept.length = table.allocations.length
    · refine .inr ⟨count, manager, .refl, fun rest => ?_⟩
      simp only [reconcile, there]
      exact if_pos same
    · rcases saveAllocationTable_eq yaml manager network kept fault with
        ⟨error, failed⟩ | ⟨data, marshalled, done⟩
      · refine .inl ⟨count, error, fun rest => ?_⟩
        simp only [reconcile, there]
        rw [if_neg same, failed]
      · refine .inr ⟨count, _, .single (.shrunk there List.filter_sublist marshalled), fun rest =>
          ?_⟩
        simp only [reconcile, there]
        rw [if_neg same, done]

theorem reconcile_changes (live : List String) (named : List (String × Option Err)) (released : Nat)
    (manager : Manager Data) :
    Relation.ReflTransGen (Change yaml networks) manager
    (reconcile yaml live named released manager).2 := by
  induction named generalizing released manager with
  | nil => exact .refl
  | cons entry rest ih =>
    rcases reconcile_cons yaml networks live entry released manager with
      ⟨count, error, stops⟩ | ⟨count, between, changed, goesOn⟩
    · rw [stops rest]
    · rw [goesOn rest]
      exact changed.trans (ih count between)

/-- A reconciliation that fails at a network leaves everything as the networks before it left it. -/
theorem reconcile_fails {live : List String} {named : List (String × Option Err)}
    {released count : Nat} {manager after : Manager Data} {error : Err}
    (failed : reconcile yaml live named released manager = ((count, some error), after)) :
    ∃ before entry rest, named = before ++ entry :: rest ∧
      ∃ earlier, reconcile yaml live before released manager = ((earlier, none), after) := by
  induction named generalizing released manager with
  | nil => simp [reconcile] at failed
  | cons entry rest ih =>
    rcases reconcile_cons yaml [] live entry released manager with
      ⟨count, error, stops⟩ | ⟨count, between, _, goesOn⟩
    · rw [stops rest] at failed
      have same : manager = after := (Prod.mk.inj failed).2
      exact ⟨[], entry, rest, rfl, released, by rw [reconcile, same]⟩
    · rw [goesOn rest] at failed
      rcases ih failed with ⟨before, last, later, rfl, earlier, done⟩
      exact ⟨entry :: before, last, later, rfl, earlier, by rw [goesOn before, done]⟩

theorem perform_once {call : TableCall} (on : call.On networks)
    (once : ∀ named live, call ≠ .reconcile named live) :
    Once yaml networks manager (manager.perform yaml other call) := by
  cases call with
  | allocate network instanceID staticIP draw failures =>
    exact allocate_once on instanceID staticIP draw failures
  | release network instanceID fault => exact release_once network instanceID fault
  | forget network fault => exact forget_once network fault
  | reconcile named live => exact absurd rfl (once named live)

theorem perform_changes (call : TableCall) (on : call.On networks) (manager : Manager Data) :
    Relation.ReflTransGen (Change yaml networks) manager (manager.perform yaml other call).2 := by
  by_cases once : ∀ named live, call ≠ .reconcile named live
  · rcases perform_once on once with same | ⟨_, change⟩
    · rw [same]
    · exact .single change
  · simp only [ne_eq, not_forall, not_not] at once
    rcases once with ⟨named, live, rfl⟩
    exact reconcile_changes live named 0 manager

theorem run_changes (calls : List TableCall) (on : ∀ call ∈ calls, call.On networks)
    (manager : Manager Data) : Relation.ReflTransGen (Change yaml networks) manager
    (manager.run yaml other calls) := by
  induction calls generalizing manager with
  | nil => exact .refl
  | cons call rest ih =>
    rw [List.forall_mem_cons] at on
    exact (perform_changes call on.1 manager).trans (ih on.2 _)

/-- What no single change takes away holds after all of them. -/
theorem holds_of_changes {holds : Manager Data → Prop} {after : Manager Data}
    (changes : Relation.ReflTransGen (Change yaml networks) manager after)
    (kept : ∀ before next, Change yaml networks before next → holds before → holds next)
    (initially : holds manager) : holds after := by
  induction changes with
  | refl => exact initially
  | tail _ change ih => exact kept _ _ change ih

end Manager
end

end Dicer.Networks
