import Dicer.Networks.Manager

namespace Dicer.Networks

open Function

variable {instanceID ip staticIP : String} {allocation : Allocation} {subnet : Subnet}
  {used : List String} {offsets : List Nat} {network : Network}

/-!
# Allocation tables

No instance has two addresses on a network, and no two instances have the same one, in every table
that giving out and releasing addresses leads to.  So the indexes by instance and by address find
what the table holds.
-/

namespace AllocationTable

/-- Each instance and each address is there once, and each address is one. -/
structure Orderly (table : AllocationTable) : Prop where
  instances : (table.map Allocation.instanceID).Nodup
  addresses : (table.map Allocation.ip).Nodup
  texts : ∀ allocation ∈ table, ∃ address : Address, allocation.ip = address.text

namespace Orderly

variable {table : AllocationTable}

theorem sublist {kept : AllocationTable} (orderly : table.Orderly) (fewer : kept.Sublist table) :
    kept.Orderly where
  instances := orderly.instances.sublist (fewer.map _)
  addresses := orderly.addresses.sublist (fewer.map _)
  texts := fun allocation member => orderly.texts allocation (fewer.subset member)

theorem byInstance_iff (orderly : table.Orderly) : table.byInstance instanceID = some allocation ↔
      allocation ∈ table ∧ allocation.instanceID = instanceID := by
  rw [byInstance, find?_key_iff (by simpa using orderly.instances), List.mem_reverse]

theorem byIP_self (orderly : table.Orderly) (member : allocation ∈ table) :
    table.byIP allocation.ip = some allocation := by
  rw [byIP, find?_key_iff (by simpa using orderly.addresses), List.mem_reverse]
  exact ⟨member, rfl⟩

end Orderly

theorem byInstance_eq_none {table : AllocationTable} :
    table.byInstance instanceID = none ↔ instanceID ∉ table.map Allocation.instanceID := by
  simp [byInstance, List.find?_eq_none]

theorem eraseP_eq_filter {Item Key : Type} [DecidableEq Key] (key : Item → Key) (gone : Key)
    (items : List Item) (nodup : (items.map key).Nodup) :
    items.eraseP (fun item => key item = gone) = items.filter fun item => key item ≠ gone := by
  induction items with
  | nil => rfl
  | cons item rest ih =>
    rcases List.nodup_cons.mp nodup with ⟨absent, restNodup⟩
    by_cases same : key item = gone
    · subst same
      have others : rest.filter (fun other => key other ≠ key item) = rest := by
        refine List.filter_eq_self.mpr fun other member => ?_
        have different : key other ≠ key item :=
          fun equal => absent (equal ▸ List.mem_map_of_mem member)
        simpa using different
      rw [List.eraseP_cons_of_pos (by simp), List.filter_cons_of_neg (by simp), others]
    · rw [List.eraseP_cons_of_neg (by simpa using same),
        List.filter_cons_of_pos (by simpa using same), ih restNodup]

theorem Orderly.without_eq {table : AllocationTable} (orderly : table.Orderly)
    (instanceID : String) : table.without instanceID = table.filter fun allocation =>
    allocation.instanceID ≠ instanceID := by
  have nodup : (table.reverse.map Allocation.instanceID).Nodup := by
    rw [List.map_reverse]
    exact List.nodup_reverse.mpr orderly.instances
  unfold without without.eraseFirst
  rw [eraseP_eq_filter _ _ _ nodup, List.filter_reverse, List.reverse_reverse]

theorem Orderly.append {table : AllocationTable} (orderly : table.Orderly)
    (missing : table.byInstance allocation.instanceID = none)
    (free : allocation.ip ∉ table.map Allocation.ip)
    (isAddress : ∃ address : Address, allocation.ip = address.text) :
    (table ++ [allocation]).Orderly where
  instances := by simpa using orderly.instances.concat (byInstance_eq_none.mp missing)
  addresses := by simpa using orderly.addresses.concat free
  texts := by
    intro held member
    rcases List.mem_append.mp member with old | new
    · exact orderly.texts held old
    · obtain rfl := List.mem_singleton.mp new
      exact isAddress

end AllocationTable

/-! What is drawn or scanned is between the subnet's first address and its last, and not in use. -/

theorem scan_gives (left : Nat) {offset : Nat} (positive : 0 < offset)
    (inside : offset + left < subnet.size) (chosen : scan subnet used left offset = some ip) :
    ip ∉ used ∧ ∃ address : Address, ip = address.text ∧ assignable subnet address = true := by
  induction left generalizing offset with
  | zero => simp [scan] at chosen
  | succ left ih =>
    simp only [scan] at chosen
    split at chosen
    · exact ih (by omega) (by omega) chosen
    rename_i free
    cases chosen
    exact ⟨by simpa using free, _, rfl, subnet.assignable_offset positive (by omega)⟩

theorem freeIP_gives (chosen : freeIP subnet used offsets = .ok ip) :
    ip ∉ used ∧ ∃ address : Address, ip = address.text ∧ assignable subnet address = true := by
  unfold freeIP at chosen
  dsimp only at chosen
  split at chosen
  · simp at chosen
  rename_i roomy
  have large : 2 ^ 2 ≤ subnet.size := Nat.pow_le_pow_right (by decide) (by omega)
  split at chosen
  · rename_i tried found
    obtain rfl := pure_eq_ok.mp chosen
    rcases List.mem_map.mp (List.mem_of_find?_eq_some found) with ⟨offset, _, rfl⟩
    have drawn : offset % (subnet.size - 2) < subnet.size - 2 := Nat.mod_lt _ (by omega)
    refine ⟨by simpa using List.find?_some found, _, rfl, subnet.assignable_offset (Nat.succ_pos _)
      ?_⟩
    change offset % (subnet.size - 2) + 1 + 1 < subnet.size
    omega
  · split at chosen
    · rename_i scanned
      obtain rfl := pure_eq_ok.mp chosen
      change scan subnet used (subnet.size - 2) 1 = some _ at scanned
      exact scan_gives _ Nat.one_pos (by omega) scanned
    · simp at chosen

theorem chooseIP_gives {other : String → Option (Option Address)}
    (chosen : chooseIP other network subnet used staticIP offsets = .ok ip) :
    ip ∉ used ∧ ∃ address : Address, ip = address.text ∧ assignable subnet address = true := by
  unfold chooseIP at chosen
  split at chosen
  · split at chosen
    · rename_i free
      obtain rfl := pure_eq_ok.mp chosen
      exact freeIP_gives free
    · simp at chosen
  · split at chosen
    · rename_i address _
      split at chosen
      · simp at chosen
      rename_i given
      split at chosen
      · simp at chosen
      rename_i free
      obtain rfl := pure_eq_ok.mp chosen
      exact ⟨by simpa using free, address, rfl, by simpa using given⟩
    · simp at chosen

/-! ## The tables there can be -/

namespace Tables

section

variable (other : String → Option (Option Address))

/-- The tables that the manager's calls lead to.  A daemon that starts again may find one it cannot
read. -/
inductive Reached : Tables → Prop
  | empty : Reached .empty
  | allocated {tables after : Tables} (network : Network) (instanceID staticIP : String)
      (draw : Draw) (allocation : Allocation) : Reached tables →
      tables.allocate other network instanceID staticIP draw = .ok (allocation, after) →
      Reached after
  | released {tables after : Tables} (network instanceID : String) : Reached tables →
      tables.release network instanceID = .ok after → Reached after
  | forgot {tables : Tables} (network : String) : Reached tables → Reached (tables.forget network)
  | reconciled {tables after : Tables} (live networks : List String) : Reached tables →
      tables.reconcile live networks = .ok after → Reached after
  | unreadable {tables : Tables} (network : String) (error : Err) : Reached tables →
      Reached (update tables network (.error error))

end

def Orderly (tables : Tables) : Prop := ∀ network table, tables network = .ok table → table.Orderly

variable {other : String → Option (Option Address)} {tables after : Tables}

theorem orderly_empty : Tables.empty.Orderly := by
  intro network table there
  obtain rfl := pure_eq_ok.mp there
  exact ⟨List.nodup_nil, List.nodup_nil, by simp⟩

variable {table : AllocationTable}

theorem Orderly.save {network : String} (orderly : tables.Orderly)
    (tableOrderly : table.Orderly) : (tables.save network table).Orderly := by
  intro name found there
  rcases update_eq_iff.mp there with ⟨_, same⟩ | ⟨_, there⟩
  · exact Except.ok.inj same ▸ tableOrderly
  · exact orderly name found there

variable {draw : Draw} {name : String} {held : Allocation}

theorem allocate_cases (done : tables.allocate other network instanceID staticIP draw = .ok
    (allocation, after)) : ∃ table, tables network.name = .ok table ∧
        ((table.byInstance instanceID = some allocation ∧ after = tables) ∨
          (table.byInstance instanceID = none ∧ allocation.instanceID = instanceID ∧
          allocation.ip ∉ table.map Allocation.ip ∧
          (∃ address : Address, allocation.ip = address.text) ∧
          after = tables.save network.name (table ++ [allocation]))) := by
  simp only [Tables.allocate, bind_eq_ok] at done
  rcases done with ⟨table, there, done⟩
  refine ⟨table, there, ?_⟩
  split at done
  · rename_i held found
    obtain ⟨rfl, rfl⟩ := Prod.mk.inj (pure_eq_ok.mp done)
    exact .inl ⟨found, rfl⟩
  · rename_i missing
    split at done
    · simp at done
    simp only [bind_eq_ok, pure_eq_ok, Prod.mk.injEq] at done
    rcases done with ⟨ip, chosen, rfl, rfl⟩
    rcases chooseIP_gives chosen with ⟨free, address, isAddress, _⟩
    exact .inr ⟨missing, rfl, fun taken => free (List.mem_cons_of_mem _ taken),
      ⟨address, isAddress⟩, rfl⟩

theorem release_cases {network : String} (done : tables.release network instanceID = .ok after) :
    ∃ table, tables network = .ok table ∧
    (after = tables ∨ after = tables.save network (table.without instanceID)) := by
  simp only [Tables.release, bind_eq_ok] at done
  rcases done with ⟨table, there, done⟩
  split at done
  · exact ⟨table, there, .inr (pure_eq_ok.mp done).symm⟩
  · exact ⟨table, there, .inl (pure_eq_ok.mp done).symm⟩

section

variable (orderly : tables.Orderly)
include orderly

theorem Orderly.allocate (done : tables.allocate other network instanceID staticIP draw = .ok
    (allocation, after)) : after.Orderly ∧ ∃ table, after network.name = .ok table ∧
      allocation ∈ table ∧ allocation.instanceID = instanceID := by
  rcases allocate_cases done with ⟨table, there,
    ⟨found, rfl⟩ | ⟨missing, isInstance, free, isAddress, rfl⟩⟩
  · exact ⟨orderly, table, there, (orderly _ table there).byInstance_iff.mp found⟩
  · refine ⟨orderly.save ?_, _, update_self ..,
      List.mem_append_right _ (List.mem_singleton.mpr rfl), isInstance⟩
    exact (orderly _ table there).append (isInstance ▸ missing) free isAddress

theorem Orderly.release {network : String} (done : tables.release network instanceID = .ok after) :
    after.Orderly := by
  rcases release_cases done with ⟨table, there, rfl | rfl⟩
  · exact orderly
  · rw [(orderly network table there).without_eq]
    exact orderly.save ((orderly network table there).sublist List.filter_sublist)

theorem Orderly.forget (network : String) : (tables.forget network).Orderly :=
  orderly.save ⟨List.nodup_nil, List.nodup_nil, by simp⟩

theorem Orderly.reconcile {live networks : List String}
    (done : tables.reconcile live networks = .ok after) : after.Orderly := by
  induction networks generalizing tables with
  | nil => exact pure_eq_ok.mp done ▸ orderly
  | cons network rest ih =>
    simp only [Tables.reconcile, bind_eq_ok] at done
    rcases done with ⟨table, there, done⟩
    refine ih ?_ done
    split
    · exact orderly
    · exact orderly.save ((orderly network table there).sublist List.filter_sublist)

/-- In tables that are in order, an instance's allocation is the one the network's table has. -/
theorem Orderly.allocation_iff {network : String} :
      tables.allocation network instanceID = .ok allocation ↔ ∃ table, tables network = .ok table ∧
      allocation ∈ table ∧ allocation.instanceID = instanceID := by
  simp only [Tables.allocation, bind_eq_ok]
  constructor
  · rintro ⟨table, there, found⟩
    split at found
    · rename_i held isHeld
      obtain rfl := pure_eq_ok.mp found
      exact ⟨table, there, (orderly network table there).byInstance_iff.mp isHeld⟩
    · simp at found
  · rintro ⟨table, there, member⟩
    exact ⟨table, there, by rw [(orderly network table there).byInstance_iff.mpr member]; rfl⟩

theorem Orderly.allocation_kept (orderlyAfter : after.Orderly) {network : String}
    (found : tables.allocation network instanceID = .ok allocation)
    (kept : ∀ table, tables network = .ok table → allocation ∈ table →
      ∃ tableAfter, after network = .ok tableAfter ∧ allocation ∈ tableAfter) :
    after.allocation network instanceID = .ok allocation := by
  rcases orderly.allocation_iff.mp found with ⟨table, there, member, isInstance⟩
  rcases kept table there member with ⟨tableAfter, thereAfter, memberAfter⟩
  exact orderlyAfter.allocation_iff.mpr ⟨tableAfter, thereAfter, memberAfter, isInstance⟩

end

/-- What a network's table holds stays where it is, if the table that is saved for the network has
it. -/
theorem save_keeps {network : String} {table saved : AllocationTable}
    (there : tables name = .ok table) (member : held ∈ table)
    (kept : name = network → held ∈ saved) :
    ∃ tableAfter, tables.save network saved name = .ok tableAfter ∧ held ∈ tableAfter := by
  by_cases same : name = network
  · exact ⟨saved, update_eq_iff.mpr (.inl ⟨same, rfl⟩), kept same⟩
  · exact ⟨table, (update_of_ne same ..).trans there, member⟩

theorem allocate_keeps (done : tables.allocate other network instanceID staticIP draw = .ok
    (allocation, after)) (there : tables name = .ok table) (member : held ∈ table) :
    ∃ tableAfter, after name = .ok tableAfter ∧ held ∈ tableAfter := by
  rcases allocate_cases done with ⟨own, ownThere, ⟨_, rfl⟩ | ⟨_, _, _, _, rfl⟩⟩
  · exact ⟨table, there, member⟩
  · refine save_keeps there member fun same => List.mem_append_left _ ?_
    exact Except.ok.inj ((same ▸ there).symm.trans ownThere) ▸ member

theorem release_keeps {network : String} (orderly : tables.Orderly)
    (done : tables.release network instanceID = .ok after) (there : tables name = .ok table)
    (member : held ∈ table) (kept : ¬ (name = network ∧ held.instanceID = instanceID)) :
    ∃ tableAfter, after name = .ok tableAfter ∧ held ∈ tableAfter := by
  rcases release_cases done with ⟨own, ownThere, rfl | rfl⟩
  · exact ⟨table, there, member⟩
  refine save_keeps there member fun same => ?_
  subst same
  cases there.symm.trans ownThere
  rw [(orderly name table there).without_eq]
  exact List.mem_filter.mpr ⟨member, by simpa using fun own => kept ⟨rfl, own⟩⟩

theorem reconcile_keeps {live networks : List String}
    (done : tables.reconcile live networks = .ok after) (there : tables name = .ok table)
    (member : held ∈ table)
    (kept : ¬ (name ∈ networks ∧ held.instanceID ∉ live)) :
    ∃ tableAfter, after name = .ok tableAfter ∧ held ∈ tableAfter := by
  induction networks generalizing tables table with
  | nil => exact ⟨table, pure_eq_ok.mp done ▸ there, member⟩
  | cons network rest ih =>
    simp only [Tables.reconcile, bind_eq_ok] at done
    rcases done with ⟨own, ownThere, done⟩
    have keptRest : ¬ (name ∈ rest ∧ held.instanceID ∉ live) :=
      fun dropped => kept ⟨List.mem_cons_of_mem _ dropped.1, dropped.2⟩
    split at done
    · exact ih done there member keptRest
    have stays : name = network → held ∈ own.filter fun allocation =>
        live.contains allocation.instanceID := by
      rintro rfl
      cases there.symm.trans ownThere
      exact List.mem_filter.mpr ⟨member, by simpa using fun gone => kept ⟨List.mem_cons_self, gone⟩⟩
    rcases save_keeps there member stays with ⟨_, thereNext, memberNext⟩
    exact ih done thereNext memberNext keptRest

/-- An address that an instance holds is given to no other. -/
theorem Orderly.allocate_ip {holder : String} (orderly : tables.Orderly)
    (found : tables.allocation network.name holder = .ok held)
    (done : tables.allocate other network instanceID staticIP draw = .ok (allocation, after))
    (same : allocation.ip = held.ip) : instanceID = holder := by
  rcases orderly.allocation_iff.mp found with ⟨table, there, member, isHolder⟩
  rcases orderly.allocate done with ⟨orderlyAfter, tableAfter, thereAfter, memberAfter, isInstance⟩
  rcases allocate_keeps done there member with ⟨_, sameThere, stays⟩
  cases thereAfter.symm.trans sameThere
  have equal := List.inj_on_of_nodup_map (orderlyAfter _ _ thereAfter).addresses memberAfter stays
    same
  rw [← isInstance, ← isHolder, equal]

theorem Reached.orderly (reached : Reached other tables) : tables.Orderly := by
  induction reached with
  | empty => exact orderly_empty
  | allocated network instanceID staticIP draw allocation _ done ih =>
    exact (ih.allocate done).1
  | released network instanceID _ done ih => exact ih.release done
  | forgot network _ ih => exact ih.forget network
  | reconciled live networks _ done ih => exact ih.reconcile done
  | unreadable network error _ ih =>
    intro name table there
    rcases update_eq_iff.mp there with ⟨_, impossible⟩ | ⟨_, there⟩
    · exact nomatch impossible
    · exact ih name table there

end Tables
end Dicer.Networks
