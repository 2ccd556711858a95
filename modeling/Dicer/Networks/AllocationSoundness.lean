import Dicer.Networks.AllocationFiles

namespace Dicer.Networks

/-!
# Allocation tables agree with their files

Whichever writes and removals fail, a network's table in memory is what its file parses to, each
instance and each address in it is there once, and its indexes find exactly what it holds.  Two
guests never get one address from a table out of step with its indexes.
-/

section

variable {Data : Type}

/-! ## Tables that agree with their files -/

/-- What a file parses to.  A missing one is the empty table. -/
def parsed (yaml : Yaml Data) : Option Data → Except Err (List Allocation)
  | none => pure []
  | some data => yaml.unmarshal data

/-- Allocations that are in order, of addresses that can be given out on the network and are not its
gateway. -/
structure Fits (network : Network) (allocations : List Allocation) : Prop where
  orderly : AllocationTable.Orderly allocations
  inSubnet : ∃ subnet, parseCIDR network.subnet = some subnet ∧ ∀ allocation ∈ allocations,
    ∃ address : Address, allocation.ip = address.text ∧ assignable subnet address = true
  notGateway : ∀ allocation ∈ allocations, allocation.ip ≠ network.gateway

/-- A table whose indexes have the place of every allocation it holds, and nothing else. -/
structure IndexedTable.Sound (network : Network) (table : IndexedTable) : Prop where
  fits : Fits network table.allocations
  byInstance : ∀ instanceID place, table.byInstance instanceID = some place ↔
    ∃ allocation, table.allocations[place]? = some allocation ∧ allocation.instanceID = instanceID
  byIP : ∀ ip place, table.byIP ip = some place ↔
    ∃ allocation, table.allocations[place]? = some allocation ∧ allocation.ip = ip

variable {subnet : Subnet}

namespace Fits

variable {network : Network} {allocations kept : List Allocation}

theorem nil (isSubnet : parseCIDR network.subnet = some subnet) : Fits network [] where
  orderly := ⟨List.nodup_nil, List.nodup_nil, by simp⟩
  inSubnet := ⟨subnet, isSubnet, by simp⟩
  notGateway := by simp

theorem sublist (fits : Fits network allocations) (fewer : kept.Sublist allocations) :
    Fits network kept where
  orderly := fits.orderly.sublist fewer
  inSubnet := by
    rcases fits.inSubnet with ⟨subnet, isSubnet, inside⟩
    exact ⟨subnet, isSubnet, fun allocation member => inside allocation (fewer.subset member)⟩
  notGateway := fun allocation member => fits.notGateway allocation (fewer.subset member)

theorem append (fits : Fits network allocations) {allocation : Allocation}
    (missing : (newAllocationTable allocations).byInstance allocation.instanceID = none)
    (isSubnet : parseCIDR network.subnet = some subnet)
    (free : allocation.ip ∉ network.gateway :: allocations.map Allocation.ip)
    (inside : ∃ address : Address, allocation.ip = address.text ∧ assignable subnet address =
      true) :
    Fits network (allocations ++ [allocation]) where
  orderly := by
    have notFound : AllocationTable.byInstance allocations allocation.instanceID = none := by
      change index Allocation.instanceID allocations allocation.instanceID = none at missing
      rw [AllocationTable.byInstance, ← getElem?_index, missing]
      rfl
    rcases inside with ⟨address, isAddress, _⟩
    exact fits.orderly.append notFound (fun taken => free (List.mem_cons_of_mem _ taken))
      ⟨address, isAddress⟩
  inSubnet := by
    rcases fits.inSubnet with ⟨same, sameSubnet, earlier⟩
    cases isSubnet.symm.trans sameSubnet
    exact ⟨subnet, isSubnet, List.forall_mem_append.mpr
      ⟨earlier, List.forall_mem_singleton.mpr inside⟩⟩
  notGateway := by
    refine List.forall_mem_append.mpr ⟨fits.notGateway, List.forall_mem_singleton.mpr ?_⟩
    exact fun same => free (same ▸ List.mem_cons_self)

theorem sound (fits : Fits network allocations) :
    (newAllocationTable allocations).Sound network where
  fits := fits
  byInstance := fun _ _ => index_eq_some_iff fits.orderly.instances
  byIP := fun _ _ => index_eq_some_iff fits.orderly.addresses

end Fits

variable {table : IndexedTable} {data : Data} {allocations : List Allocation}

namespace Manager

variable {yaml : Yaml Data} {networks : List Network} {network : Network}
    {manager after : Manager Data}

/-- A network's file has allocations that fit it, and its table, if it could be read, has the
same. -/
structure InStep (yaml : Yaml Data) (network : Network) (manager : Manager Data) : Prop where
  file : ∀ allocations, parsed yaml (manager.files network.name) = .ok allocations →
    Fits network allocations
  table : ∀ table, manager.allocationTableOf network.name = .ok table →
    ∃ allocations, parsed yaml (manager.files network.name) = .ok allocations ∧
    table = newAllocationTable allocations

variable {name : String}

/-- The table of a network that could be read is that of its file. -/
theorem newManager_table {unread : String → Option Err} {files : String → Option Data}
    (there : (newManager yaml unread files).allocationTableOf name = .ok table) :
    ∃ allocations, parsed yaml (files name) = .ok allocations ∧
    table = newAllocationTable allocations := by
  simp only [allocationTableOf, newManager] at there
  cases isFile : files name with
  | none =>
    simp only [isFile, Option.bind_none, Option.getD_none, pure_eq_ok] at there
    exact ⟨[], rfl, there.symm⟩
  | some data =>
    cases read : readAllocationTable yaml (unread name) data with
    | error => simp [isFile, read] at there
    | ok =>
      simp only [isFile, read, Option.bind_some, Except.toOption, Option.getD_some,
        pure_eq_ok] at there
      subst there
      unfold readAllocationTable at read
      split at read
      · simp at read
      split at read
      · simp at read
      · rename_i allocations isParsed
        exact ⟨allocations, isParsed, (pure_eq_ok.mp read).symm⟩

theorem inStep_newManager {files : String → Option Data} (unread : String → Option Err)
    (kept : ∀ allocations, parsed yaml (files network.name) = .ok allocations →
      Fits network allocations) :
    InStep yaml network (newManager yaml unread files) where
  file := kept
  table := fun _ there => newManager_table there

/-- A network's table and file are both put in place, and no other's change. -/
structure Puts (yaml : Yaml Data) (manager after : Manager Data) (name : String)
    (file : Option Data) (allocations : List Allocation) : Prop where
  files : after.files = Function.update manager.files name file
  table : after.allocationTableOf = Function.update manager.allocationTableOf name
    (.ok (newAllocationTable allocations))
  reads : parsed yaml file = .ok allocations

theorem saved_puts (there : manager.allocationTableOf name = .ok table)
    (marshalled : yaml.marshal allocations = .ok data) :
    Puts yaml manager (manager.saved name data allocations) name (some data) allocations := by
  refine ⟨rfl, funext fun network => ?_, yaml.reads_back _ _ marshalled⟩
  by_cases same : network = name
  · subst same
    unfold allocationTableOf at there
    split at there
    · simp at there
    rename_i readable
    simp only [allocationTableOf, saved, readable, Function.update_self, Option.getD_some]
    rfl
  · simp only [allocationTableOf, saved, Function.update_of_ne same]

theorem allocationTableOf_forgotten (manager : Manager Data) (name : String) :
    (manager.forgotten name).allocationTableOf =
      Function.update manager.allocationTableOf name (.ok (newAllocationTable [])) := by
  funext network
  by_cases same : network = name
  · subst same
    simp only [allocationTableOf, forgotten, Function.update_self, Option.getD_none]
    rfl
  · simp only [allocationTableOf, forgotten, Function.update_of_ne same]

theorem forgotten_puts (name : String) : Puts yaml manager (manager.forgotten name) name none [] :=
  ⟨rfl, allocationTableOf_forgotten manager name, rfl⟩

theorem InStep.puts {file : Option Data} (inStep : InStep yaml network manager)
    (puts : Puts yaml manager after name file allocations)
    (fits : name = network.name → Fits network allocations) :
    InStep yaml network after := by
  rcases eq_or_ne network.name name with rfl | different
  · refine ⟨fun held isHeld => ?_, fun found isFound => ?_⟩
    · rw [puts.files, Function.update_self, puts.reads, Except.ok.injEq] at isHeld
      exact isHeld ▸ fits rfl
    · rw [puts.table, Function.update_self, Except.ok.injEq] at isFound
      rw [puts.files, Function.update_self]
      exact ⟨allocations, puts.reads, isFound.symm⟩
  · refine ⟨?_, ?_⟩
    · rw [puts.files, Function.update_of_ne different]
      exact inStep.file
    · rw [puts.table, puts.files, Function.update_of_ne different, Function.update_of_ne different]
      exact inStep.table

/-- One change keeps a network's table and file in step. -/
theorem InStep.changed (names : (networks.map Network.name).Nodup) (member : network ∈ networks)
    (isSubnet : parseCIDR network.subnet = some subnet)
    (change : Change yaml networks manager after)
    (inStep : InStep yaml network manager) : InStep yaml network after := by
  cases change with
  | shrunk there fewer marshalled =>
    refine inStep.puts (saved_puts there marshalled) fun same => ?_
    subst same
    rcases inStep.table _ there with ⟨allocations, isFile, rfl⟩
    exact (inStep.file _ isFile).sublist fewer
  | @grown target table allocation targetSubnet data isTarget there missing isTargetSubnet free inside
      marshalled =>
    refine inStep.puts (saved_puts there marshalled) fun same => ?_
    obtain rfl := List.inj_on_of_nodup_map names isTarget member same
    rcases inStep.table _ there with ⟨allocations, isFile, rfl⟩
    exact (inStep.file _ isFile).append missing isTargetSubnet free inside
  | forgot name => exact inStep.puts (forgotten_puts name) fun _ => Fits.nil isSubnet

/-- No change makes a table that could be read unreadable. -/
theorem Change.readable (change : Change yaml networks manager after)
    (readable : manager.allocationTableErrors name = none) :
    after.allocationTableErrors name = none := by
  cases change with
  | shrunk | grown => exact readable
  | forgot forgotten =>
    by_cases same : name = forgotten
    · subst same
      exact Function.update_self ..
    · exact (Function.update_of_ne same ..).trans readable

variable {other : String → Option (Option Address)}

/-- A network's table, if it could be read, is sound and is what its file parses to. -/
def Agrees (yaml : Yaml Data) (network : Network) (manager : Manager Data) : Prop :=
  ∀ table, manager.allocationTableOf network.name = .ok table →
    table.Sound network ∧ parsed yaml (manager.files network.name) = .ok table.allocations

theorem InStep.agrees (inStep : InStep yaml network manager) : manager.Agrees yaml network := by
  intro table there
  rcases inStep.table table there with ⟨allocations, isFile, rfl⟩
  exact ⟨(inStep.file allocations isFile).sound, isFile⟩

variable (yaml other) in
/-- Nothing is changed by a call that fails, except that a reconciliation has done with the networks
before the one it failed at. -/
def FailedCleanly (manager after : Manager Data) : TableCall → Prop
  | .reconcile named live => ∃ before entry rest, named = before ++ entry :: rest ∧
      manager.perform yaml other (.reconcile before live) = (none, after)
  | _ => after = manager

theorem failed_cleanly {call : TableCall} {error : Err} (on : call.On networks)
    (failed : manager.perform yaml other call = (some error, after)) :
    manager.FailedCleanly yaml other after call := by
  by_cases once : ∀ named live, call ≠ .reconcile named live
  · have changed : Once yaml networks manager (manager.perform yaml other call) :=
      perform_once on once
    rw [failed] at changed
    unfold FailedCleanly
    split
    · exact absurd rfl (once _ _)
    · exact changed.resolve_right nofun
  · simp only [ne_eq, not_forall, not_not] at once
    rcases once with ⟨named, live, rfl⟩
    rcases ends : reconcile yaml live named 0 manager with ⟨⟨count, result⟩, last⟩
    simp only [perform, ends, Prod.map_apply, id_eq, Prod.mk.injEq] at failed
    rcases failed with ⟨rfl, rfl⟩
    rcases reconcile_fails ends with ⟨before, entry, rest, rfl, earlier, done⟩
    exact ⟨before, entry, rest, rfl, by simp [perform, done]⟩

end Manager

/-! ## The tables without their indexes -/

/-- The manager's tables are these, with their indexes. -/
def Manager.Shows (manager : Manager Data) (tables : Tables) : Prop :=
  ∀ name, manager.allocationTableOf name = (tables name).map newAllocationTable

/-- The allocation a call returns. -/
def Manager.given (yaml : Yaml Data) (other : String → Option (Option Address))
    (manager : Manager Data) : TableCall → Option Allocation
  | .allocate network instanceID staticIP draw failures =>
    (manager.allocate yaml other network instanceID staticIP draw failures).1.toOption
  | _ => none

/-- What a call makes of tables alone: what it is for if it returns no error, and nothing if it
does, except that a reconciliation has done with the first of its networks. -/
def Tables.Performs (other : String → Option (Option Address)) (tables after : Tables)
    (given : Option Allocation) : TableCall → Option Err → Prop
  | .allocate network instanceID staticIP draw _, none => ∃ allocation, given = some allocation ∧
      tables.allocate other network instanceID staticIP draw = .ok (allocation, after)
  | .release network instanceID _, none => tables.release network instanceID = .ok after
  | .forget network _, none => after = tables.forget network
  | .reconcile named live, error => ∃ done, done <+: named.map Prod.fst ∧
      (error = none → done = named.map Prod.fst) ∧ tables.reconcile live done = .ok after
  | _, some _ => after = tables

/-- Call by call, the manager does what the same calls do on tables alone. -/
def Manager.Follows (yaml : Yaml Data) (other : String → Option (Option Address))
    (manager : Manager Data) (tables : Tables) : List TableCall → Prop
  | [] => True
  | call :: rest => ∃ after, tables.Performs other after (manager.given yaml other call) call
      (manager.perform yaml other call).1 ∧ (manager.perform yaml other call).2.Shows after ∧
      (manager.perform yaml other call).2.Follows yaml other after rest

theorem Tables.Performs.reached {other : String → Option (Option Address)} {tables after : Tables}
    {given : Option Allocation} {call : TableCall} {error : Option Err}
    (performs : tables.Performs other after given call error)
    (reached : Tables.Reached other tables) : Tables.Reached other after := by
  unfold Performs at performs
  split at performs
  · rcases performs with ⟨allocation, _, done⟩
    exact .allocated _ _ _ _ _ reached done
  · exact .released _ _ reached performs
  · exact performs ▸ .forgot _ reached
  · rcases performs with ⟨networks, _, _, done⟩
    exact .reconciled _ _ reached done
  · exact performs ▸ reached

namespace Manager.Shows

variable (yaml : Yaml Data) {other : String → Option (Option Address)}
  {manager after : Manager Data} {tables : Tables} {name : String}

section

variable (shows : manager.Shows tables)
include shows

theorem put (table : after.allocationTableOf = Function.update manager.allocationTableOf name
      (.ok (newAllocationTable allocations))) : after.Shows (tables.save name allocations) := by
  intro network
  rw [table, Tables.save]
  by_cases same : network = name
  · subst same
    simp only [Function.update_self]
    rfl
  · simp only [Function.update_of_ne same, shows network]

theorem save {held : AllocationTable} (there : tables name = .ok held)
    (allocations : List Allocation) (fault : Option Err) :
    (∃ error, manager.saveAllocationTable yaml name allocations fault = (.error error, manager)) ∨
    ∃ saved : Manager Data, manager.saveAllocationTable yaml name allocations fault =
      (.ok (), saved) ∧ saved.Shows (tables.save name allocations) := by
  refine (saveAllocationTable_eq yaml manager name allocations fault).imp_right ?_
  rintro ⟨data, marshalled, done⟩
  have found : manager.allocationTableOf name = .ok (newAllocationTable held) := by
    rw [shows, there]
    rfl
  exact ⟨_, done, shows.put (saved_puts found marshalled).table⟩

theorem allocate (network : Network) (instanceID staticIP : String) (draw : Draw)
    (failures : Failures) :
    let done := manager.allocate yaml other network instanceID staticIP draw failures
    ∃ after, tables.Performs other after done.1.toOption
      (.allocate network instanceID staticIP draw failures) (errorOf done.1) ∧
      done.2.Shows after := by
  unfold Manager.allocate
  rw [shows]
  cases there : tables network.name with
  | error => exact ⟨tables, rfl, shows⟩
  | ok table =>
    simp only [Except.map, newAllocationTable]
    split
    · rename_i place found
      refine ⟨tables, ⟨_, rfl, ?_⟩, shows⟩
      simp [Tables.allocate, there, bind_eq_ok, AllocationTable.byInstance, ← getElem?_index, found,
        index_lt found]
    rename_i missing
    split
    · exact ⟨tables, rfl, shows⟩
    rename_i subnet isSubnet
    split
    · exact ⟨tables, rfl, shows⟩
    rename_i ip chosen
    split
    · exact ⟨tables, rfl, shows⟩
    rcases shows.save yaml there (table ++ [⟨network.id, instanceID, ip, draw.mac⟩])
      failures.write with ⟨error, failed⟩ | ⟨saved, done, showsSaved⟩
    · rw [failed]
      exact ⟨tables, rfl, shows⟩
    · rw [done]
      refine ⟨_, ⟨_, rfl, ?_⟩, showsSaved⟩
      simp [Tables.allocate, there, bind_eq_ok, AllocationTable.byInstance, ← getElem?_index,
        missing, isSubnet, chosen]

theorem release (network instanceID : String) (fault : Option Err) :
    let done := manager.release yaml network instanceID fault
    ∃ after, tables.Performs other after none (.release network instanceID fault)
      (errorOf done.1) ∧ done.2.Shows after := by
  unfold Manager.release
  rw [shows]
  cases there : tables network with
  | error => exact ⟨tables, rfl, shows⟩
  | ok table =>
    simp only [Except.map, newAllocationTable]
    split
    · rename_i missing
      refine ⟨tables, ?_, shows⟩
      simp [Tables.Performs, Tables.release, there, bind_eq_ok, AllocationTable.byInstance,
        ← getElem?_index, missing, errorOf]
    rename_i place found
    rw [show table.eraseIdx place = table.without instanceID from eraseIdx_index found]
    rcases shows.save yaml there (table.without instanceID) fault with
      ⟨error, failed⟩ | ⟨saved, done, showsSaved⟩
    · rw [failed]
      exact ⟨tables, rfl, shows⟩
    · rw [done]
      refine ⟨_, ?_, showsSaved⟩
      simp [Tables.Performs, Tables.release, there, bind_eq_ok, AllocationTable.byInstance,
        ← getElem?_index, found, index_lt found, errorOf]

theorem reconcile (live : List String) (named : List (String × Option Err)) (released : Nat) :
    ∃ after, tables.Performs other after none (.reconcile named live)
        (Manager.reconcile yaml live named released manager).1.2 ∧
      (Manager.reconcile yaml live named released manager).2.Shows after := by
  induction named generalizing released manager tables with
  | nil => exact ⟨tables, ⟨[], List.prefix_rfl, fun _ => rfl, rfl⟩, shows⟩
  | cons entry rest ih =>
    have stops (error : Err) : tables.Performs other tables none (.reconcile (entry :: rest) live)
        (some error) := ⟨[], List.nil_prefix, by simp, rfl⟩
    unfold Manager.reconcile
    rw [shows]
    cases there : tables entry.1 with
    | error error => exact ⟨tables, stops error, shows⟩
    | ok table =>
      let kept := table.filter fun held => live.contains held.instanceID
      have goesOn : ∀ ended : (Nat × Option Err) × Manager Data,
          (∃ after, (if kept.length = table.length then tables else
            tables.save entry.1 kept).Performs other after none (.reconcile rest live) ended.1.2 ∧
            ended.2.Shows after) →
          ∃ after, tables.Performs other after none (.reconcile (entry :: rest) live) ended.1.2 ∧
            ended.2.Shows after := by
        rintro ended ⟨after, ⟨done, first, whole, reconciled⟩, showsAfter⟩
        refine ⟨after, ⟨entry.1 :: done, (List.prefix_cons_inj _).mpr first,
          fun none => by rw [whole none, List.map_cons], ?_⟩, showsAfter⟩
        rw [Tables.reconcile, there]
        exact reconciled
      simp only [Except.map, newAllocationTable]
      split
      · rename_i same
        rw [if_pos same] at goesOn
        exact goesOn _ (ih shows _)
      rename_i fewer
      rw [if_neg fewer] at goesOn
      rcases shows.save yaml there _ entry.2 with ⟨error, failed⟩ | ⟨saved, saves, showsSaved⟩
      · rw [failed]
        exact ⟨tables, stops error, shows⟩
      · rw [saves]
        exact goesOn _ (ih showsSaved _)

/-- Each call does what it does on tables alone. -/
theorem perform (call : TableCall) :
    ∃ after, tables.Performs other after (manager.given yaml other call) call
        (manager.perform yaml other call).1 ∧
      (manager.perform yaml other call).2.Shows after := by
  cases call with
  | allocate => exact shows.allocate yaml ..
  | release => exact shows.release yaml ..
  | forget network fault =>
    cases fault with
    | some => exact ⟨tables, rfl, shows⟩
    | none => exact ⟨_, rfl, shows.put (allocationTableOf_forgotten manager network)⟩
  | reconcile named live => exact shows.reconcile yaml live named 0

end

end Manager.Shows

/-- Whatever calls are made on the tables of some networks and whichever of their writes and
removals fail, each table is sound and is what its file parses to, and what fails changes
nothing. -/
theorem tables_agree_with_files (yaml : Yaml Data) (other : String → Option (Option Address))
    {networks : List Network} (made : ∀ network ∈ networks, ∃ id spec,
      new other id spec = .ok network)
    (names : (networks.map Network.name).Nodup) {files : String → Option Data}
    (kept : ∀ network ∈ networks, ∀ allocations, parsed yaml (files network.name) =
      .ok allocations → Fits network allocations)
    (unread : String → Option Err) {calls : List TableCall}
    (on : ∀ call ∈ calls, call.On networks) :
    let start := newManager yaml unread files
    let manager := start.run yaml other calls
    (∀ network ∈ networks, manager.Agrees yaml network ∧
      (start.allocationTableErrors network.name = none →
      manager.allocationTableErrors network.name = none)) ∧
      ∀ call : TableCall, call.On networks → ∀ error after, manager.perform yaml other call =
          (some error, after) → manager.FailedCleanly yaml other after call := by
  intro start manager
  have changes : Relation.ReflTransGen (Manager.Change yaml networks) start manager :=
    Manager.run_changes calls on start
  refine ⟨fun network member => ⟨?_, fun readable => ?_⟩, fun call isOn error after failed => ?_⟩
  · rcases made network member with ⟨id, spec, isNew⟩
    rcases new_subnet other isNew with ⟨subnet, isSubnet⟩
    have inStep : manager.InStep yaml network :=
      Manager.holds_of_changes changes (fun _ _ change => Manager.InStep.changed names member
        isSubnet change) (Manager.inStep_newManager unread (kept network member))
    exact inStep.agrees
  · exact Manager.holds_of_changes changes (fun _ _ change => change.readable) readable
  · exact Manager.failed_cleanly isOn failed

/-- Allocations kept in a file as they are. -/
def Yaml.plain : Yaml (List Allocation) where
  marshal := pure
  unmarshal := pure
  reads_back := fun _ _ same => by rw [← pure_eq_ok.mp same]; rfl

theorem tables_agree_with_files_front : ∃ network,
    new (fun _ => none) "n1" ⟨"front", "10.1.0.0/16", "", 0, [], false, false⟩ = .ok network ∧
      ((newManager Yaml.plain (fun _ => none) fun _ => none).run Yaml.plain (fun _ => none)
        [.allocate network "i1" "" ⟨[7], "m1"⟩ ⟨none, none⟩,
          .allocate network "i2" "10.1.0.9" ⟨[], "m2"⟩
          ⟨none, some (.host "no space left on device")⟩]).Agrees
        Yaml.plain network := by
  rcases exists_ok_of_any (fun _ => True)
    (new (fun _ => none) "n1" ⟨"front", "10.1.0.0/16", "", 0, [], false, false⟩) (by decide +kernel)
        with
    ⟨network, isNew, _⟩
  rcases new_subnet _ isNew with ⟨subnet, isSubnet⟩
  have made : ∀ same ∈ [network], ∃ id spec, new (fun _ => none) id spec = .ok same :=
    List.forall_mem_singleton.mpr ⟨"n1", _, isNew⟩
  refine ⟨network, isNew, ?_⟩
  apply ((tables_agree_with_files Yaml.plain _ made (List.nodup_singleton network.name) ?_ _ ?_).1
    network (List.mem_singleton.mpr rfl)).1
  · refine List.forall_mem_singleton.mpr fun allocations isFile => ?_
    exact pure_eq_ok.mp isFile ▸ Fits.nil isSubnet
  · simp [TableCall.On]

/-- Whichever of their writes and removals fail, each call on the manager does to its tables and
returns what the same call does on tables alone, and their indexes stay right.  So tables that calls
on tables alone lead to are left as such. -/
theorem manager_refines_tables (yaml : Yaml Data) {other : String → Option (Option Address)}
    {manager : Manager Data} {tables : Tables} (shows : manager.Shows tables)
    (calls : List TableCall) :
    manager.Follows yaml other tables calls ∧ (Tables.Reached other tables →
      ∃ after, Tables.Reached other after ∧ (manager.run yaml other calls).Shows after) := by
  induction calls generalizing manager tables with
  | nil => exact ⟨trivial, fun reached => ⟨tables, reached, shows⟩⟩
  | cons call rest ih =>
    rcases shows.perform yaml call with ⟨after, performs, showsAfter⟩
    rcases ih showsAfter with ⟨follows, reaches⟩
    exact ⟨⟨after, performs, showsAfter, follows⟩, fun reached =>
      reaches (performs.reached reached)⟩

/-- A network. -/
def frontNetwork : Network := ⟨"n1", "front", "10.1.0.1", "10.1.0.0/16", "br-n1", [], 0, false,
      false⟩

/-- Two instances are given addresses, writing the table without the first fails, then succeeds, and
the second is gone. -/
theorem manager_refines_tables_front :
    let manager := newManager Yaml.plain (fun _ => none) fun _ => none
    let given : List TableCall := [.allocate frontNetwork "i1" "" ⟨[7], "m1"⟩ ⟨none, none⟩,
      .allocate frontNetwork "i2" "10.1.0.9" ⟨[], "m2"⟩ ⟨none, none⟩,
      .release "front" "i1" (some (.host "no space left on device"))]
    let taken : List TableCall := [.release "front" "i1" none, .reconcile [("front", none)] []]
    ((manager.run Yaml.plain (fun _ => none) given).files "front" =
        some [⟨"n1", "i1", "10.1.0.8", "m1"⟩, ⟨"n1", "i2", "10.1.0.9", "m2"⟩] ∧
      (manager.run Yaml.plain (fun _ => none) (given ++ taken)).files "front" = some []) ∧
      manager.Follows Yaml.plain (fun _ => none) .empty (given ++ taken) :=
  ⟨by decide +kernel, (manager_refines_tables _ (fun _ => rfl) _).1⟩

end

end Dicer.Networks
