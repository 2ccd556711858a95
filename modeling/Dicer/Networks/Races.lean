import Dicer.Networks.Interleaving

namespace Dicer.Networks.Calls

open FileStore Concurrency

/-!
# Networks created and deleted at once

Two races of the manager.  A new network's subnet is compared with the networks listed before the
new one is written, so two calls that list before either writes create networks that overlap.  And a
deleted network's allocations are discarded by name once its definition is gone, by when the name
may be another network's, with allocations of its own.

Neither happens in runs where a network is only written while those listed for it are the networks
there are, or where a table is only forgotten while no network has its name.
-/

/-- No address is in the subnets of two networks. -/
def Apart (networks : List Network) : Prop :=
  ∀ first ∈ networks, ∀ second ∈ networks, first ≠ second →
    ∀ firstSubnet secondSubnet, parseCIDR first.subnet = some firstSubnet →
      parseCIDR second.subnet = some secondSubnet →
        ∀ address, ¬ (firstSubnet.contains address = true ∧ secondSubnet.contains address = true)

/-- A network is written only while the networks there are are those its subnet was compared
with. -/
abbrev ListsAreCurrent (before after : World) : Prop :=
  after.created.length = before.created.length ∨ ∀ entry ∈ after.created.head?,
    entry.2 = before.store.networks.sorted

variable {network : Network}

/-- A subnet that passes the check has no address of a network's that was listed. -/
theorem apart_of_checked {existing : Network} {listed : List Network} {hostSubnets : List Subnet}
    (checked : checkSubnetOverlap network listed hostSubnets = .ok ()) (member : existing ∈ listed)
    {subnet existingSubnet : Subnet} (isSubnet : parseCIDR network.subnet = some subnet)
    (isExisting : parseCIDR existing.subnet = some existingSubnet) (address : Address) :
    ¬ (subnet.contains address = true ∧ existingSubnet.contains address = true) := by
  intro both
  have overlaps : subnet.overlaps existingSubnet = true := Subnet.overlaps_iff.mpr ⟨address, both⟩
  simp only [checkSubnetOverlap, isSubnet] at checked
  split at checked
  · simp at checked
  rename_i none
  have apart := List.find?_eq_none.mp none existing member
  simp [isExisting, overlaps] at apart

theorem Apart.put {networks : Definitions Network} (apart : Apart networks.items)
    (own : ∀ existing ∈ networks.items, ∀ subnet existingSubnet, parseCIDR network.subnet =
      some subnet → parseCIDR existing.subnet = some existingSubnet →
        ∀ address, ¬ (subnet.contains address = true ∧ existingSubnet.contains address = true)) :
    Apart (networks.put network).items := by
  intro first firstMember second secondMember different
  rcases Definitions.mem_put.mp firstMember with rfl | ⟨firstOld, _⟩
  · rcases Definitions.mem_put.mp secondMember with rfl | ⟨secondOld, _⟩
    · exact absurd rfl different
    · exact own second secondOld
  · rcases Definitions.mem_put.mp secondMember with rfl | ⟨secondOld, _⟩
    · intro firstSubnet secondSubnet isFirst isSecond address both
      exact own first firstOld secondSubnet firstSubnet isSecond isFirst address ⟨both.2, both.1⟩
    · exact apart first firstOld second secondOld different

theorem Apart.delete {networks : Definitions Network} (network : Network)
    (apart : Apart networks.items) : Apart (networks.delete network).items := by
  intro first firstMember second secondMember
  exact apart first (Definitions.mem_delete.mp firstMember).1 second
    (Definitions.mem_delete.mp secondMember).1

/-- However many clients create networks at once, no two networks overlap, as long as none is
written after others than those listed for it. -/
theorem subnets_apart (other : String → Option (Option Address)) {store : Store} {tables : Tables}
    (coherent : store.networks.Coherent) (orderly : tables.Orderly)
    (apart : Apart store.networks.items)
    {pool : Pool Nat World} (reached : (system other).Reaches ListsAreCurrent
      (World.load store tables) pool) :
    Apart pool.world.store.networks.items := by
  have moves : ∀ before after : World, Sane before → Sane after → ListsAreCurrent before after →
      Moved other before after → Apart before.store.networks.items →
          Apart after.store.networks.items := by
    intro before after _ _ met moved apartBefore
    cases moved with
    | created network listed hostSubnets checked =>
      have current : listed = before.store.networks.sorted := by
        rcases met with same | current
        · simp at same
        · exact current _ rfl
      refine apartBefore.put fun existing member subnet existingSubnet isSubnet isExisting => ?_
      have isListed : existing ∈ listed := current ▸ Definitions.mem_sorted.mpr member
      exact apart_of_checked checked isListed isSubnet isExisting
    | deleted network => exact apartBefore.delete network
    | _ => exact apartBefore
  have happens : ∀ before after : World, Elsewhere.Happened before after →
      Apart before.store.networks.items → Apart after.store.networks.items := by
    rintro before after ⟨event, rfl⟩ apartBefore
    exact apartBefore
  exact holds_of_run coherent orderly apart moves happens reached

/-- A network, as it is asked for. -/
def frontSpec : Spec := ⟨"front", "10.1.0.0/16", "", 0, [], false, false⟩

def backSpec : Spec := ⟨"back", "10.2.0.0/16", "", 0, [], false, false⟩

def insideSpec : Spec := ⟨"inside", "10.1.2.0/24", "", 0, [], false, false⟩

theorem subnets_apart_front_back : ∃ pool,
    (system fun _ => none).Reaches ListsAreCurrent (World.load .empty .empty) pool ∧
      pool.world.store.networks.items.length = 2 ∧ Apart pool.world.store.networks.items := by
  have apart : Apart Store.empty.networks.items := by simp [Apart, Store.empty, Definitions.empty]
  exact (system fun _ => none).known_of_schedule
    [.spawn 0 (.create (.ok []) "n1" frontSpec), .act 0 0, .act 0 0, .act 0 0,
      .spawn 1 (.create (.ok []) "n2" backSpec), .act 1 0, .act 1 0, .act 1 0]
          (by decide +kernel) fun reached _ =>
    subnets_apart (fun _ => none) Definitions.coherent_empty Tables.orderly_empty apart reached

/-- Two clients list the networks before either has created its own. -/
theorem overlapping_subnets_created : ∃ pool,
    (system fun _ => none).Reaches (fun _ _ => True) (World.load .empty .empty) pool ∧
      ¬ Apart pool.world.store.networks.items := by
  rcases (system fun _ => none).reaches_of_schedule (fun _ _ => True) (World.load .empty .empty)
    (fun world => ∃ first ∈ world.store.networks.items, ∃ second ∈ world.store.networks.items,
      first ≠ second ∧ (parseCIDR first.subnet).any fun firstSubnet =>
        (parseCIDR second.subnet).any firstSubnet.overlaps)
    [.spawn 0 (.create (.ok []) "n1" frontSpec), .spawn 1 (.create (.ok []) "n2" insideSpec),
      .act 0 0, .act 0 0, .act 1 0, .act 1 0, .act 0 0, .act 1 0] (by decide +kernel) with
    ⟨pool, reached, first, firstMember, second, secondMember, different, overlaps⟩
  refine ⟨pool, reached, fun apart => ?_⟩
  rcases (Option.any_eq_true _ _).mp overlaps with ⟨firstSubnet, isFirst, overlaps⟩
  rcases (Option.any_eq_true _ _).mp overlaps with ⟨secondSubnet, isSecond, overlaps⟩
  rcases Subnet.overlaps_iff.mp overlaps with ⟨address, both⟩
  exact apart first firstMember second secondMember different _ _ isFirst isSecond address both

/-! ## Allocations of a network with another's name -/

/-- An allocation is found as long as the network it was given out on is defined, and its address is
given to no other instance there. -/
def StillHeld (other : String → Option (Option Address)) (world : World) : Prop :=
  ∀ entry ∈ world.granted, (∃ network ∈ world.store.networks.items, network.id = entry.1.id) →
    world.tables.allocation entry.1.name entry.2.instanceID = .ok entry.2 ∧
      ∀ instanceID staticIP draw allocation tables,
        world.tables.allocate other entry.1 instanceID staticIP draw = .ok (allocation, tables) →
          allocation.ip = entry.2.ip → instanceID = entry.2.instanceID

/-- A table is forgotten only while no network has its name. -/
abbrev ForgetsUndefined (before after : World) : Prop :=
  after.forgotten.length = before.forgotten.length ∨
    ∀ name ∈ after.forgotten.head?, ∀ network ∈ before.store.networks.items, network.name ≠ name

/-- What was given out on a network that is defined is found. -/
def Found (world : World) : Prop :=
  ∀ entry ∈ world.granted, (∃ network ∈ world.store.networks.items, network.id = entry.1.id) →
    world.tables.allocation entry.1.name entry.2.instanceID = .ok entry.2

variable {other : String → Option (Option Address)} {before after : World}

theorem Found.created {listed : List Network} (found : Found before) (sane : Sane before)
    (fresh : before.isFresh network.id = true) :
    Found { before with
      store := { before.store with networks := before.store.networks.put network }
      defined := network :: before.defined
      created := (network, listed) :: before.created } := by
  rintro entry member ⟨defined, isDefined, sameID⟩
  rcases Definitions.mem_put.mp isDefined with rfl | ⟨old, _⟩
  · simp only [World.isFresh, Bool.and_eq_true, bne_iff_ne, Bool.not_eq_true', List.contains_eq_mem,
      decide_eq_false_iff_not, List.mem_map, not_exists, not_and] at fresh
    exact absurd sameID.symm (fresh.1.2 entry.1 (sane.grantedKnown entry member))
  · exact found entry member ⟨defined, old, sameID⟩

/-- The network an allocation was given out on, if it is defined, is the one defined with its ID. -/
theorem Sane.eq_of_id (sane : Sane before) {entry : Network × Allocation}
    (member : entry ∈ before.granted) (defined : network ∈ before.store.networks.items)
    (sameID : network.id = entry.1.id) : network = entry.1 :=
  sane.unique network (sane.known network defined) entry.1 (sane.grantedKnown entry member) sameID

theorem Found.forgot {network : String} (found : Found before) (sane : Sane before)
    (undefined : ∀ defined ∈ before.store.networks.items, defined.name ≠ network) :
    Found { before with
      tables := before.tables.forget network
      forgotten := network :: before.forgotten } := by
  rintro entry member ⟨defined, isDefined, sameID⟩
  have different : entry.1.name ≠ network := by
    rw [← sane.eq_of_id member isDefined sameID]
    exact undefined defined isDefined
  refine sane.orderly.allocation_kept (sane.orderly.forget network)
    (found entry member ⟨defined, isDefined, sameID⟩) fun table there held => ?_
  exact ⟨table, (Function.update_of_ne different ..).trans there, held⟩

theorem Found.moved (found : Found before) (sane : Sane before) (saneAfter : Sane after)
    (met : ForgetsUndefined before after) (moved : Moved other before after) : Found after := by
  cases moved with
  | created network listed hostSubnets checked free fresh => exact found.created sane fresh
  | deleted =>
    rintro entry member ⟨defined, kept, sameID⟩
    exact found entry member ⟨defined, (Definitions.mem_delete.mp kept).1, sameID⟩
  | forgot network =>
    refine found.forgot sane ?_
    rcases met with same | undefined
    · simp at same
    · exact undefined network rfl
  | allocated network instanceID staticIP draw allocation tables known done =>
    rintro entry member ⟨defined, isDefined, sameID⟩
    rcases List.mem_cons.mp member with rfl | old
    · rcases sane.orderly.allocate done with ⟨_, table, there, held, isInstance⟩
      exact saneAfter.orderly.allocation_iff.mpr ⟨table, there, held, rfl⟩
    refine sane.orderly.allocation_kept saneAfter.orderly
      (found entry old ⟨defined, isDefined, sameID⟩) fun table there held => ?_
    exact Tables.allocate_keeps done there held
  | released network instanceID tables done =>
    rintro entry member isDefined
    rcases List.mem_filter.mp member with ⟨old, kept⟩
    refine sane.orderly.allocation_kept saneAfter.orderly (found entry old isDefined)
      fun table there held => ?_
    exact Tables.release_keeps sane.orderly done there held (by simpa [imp_iff_not_or] using kept)
  | reconciled networks live tables done =>
    rintro entry member isDefined
    rcases List.mem_filter.mp member with ⟨old, kept⟩
    refine sane.orderly.allocation_kept saneAfter.orderly (found entry old isDefined)
      fun table there held => ?_
    exact Tables.reconcile_keeps done there held (by simpa [imp_iff_not_or] using kept)

/-- However networks are created, deleted and allocated from at once, an allocation on a network
that is still defined is found until it is released or reconciled away, as long as no table is
forgotten that a network has. -/
theorem allocations_stay_held (other : String → Option (Option Address)) {store : Store}
    {tables : Tables} (coherent : store.networks.Coherent) (orderly : tables.Orderly)
    {pool : Pool Nat World}
    (reached : (system other).Reaches ForgetsUndefined (World.load store tables) pool) :
    StillHeld other pool.world := by
  have initially : Found (World.load store tables) := by simp [Found, World.load]
  have found : Found pool.world := by
    refine holds_of_run coherent orderly initially ?_ ?_ reached
    · exact fun before after sane saneAfter met moved found => found.moved sane saneAfter met moved
    · rintro before after ⟨event, rfl⟩ found
      exact found
  have saneNow : Sane pool.world :=
    ((contract_holds other).reaches (sane_load coherent orderly) (fun _ => trivial)
      (reached.mono fun _ _ _ => trivial)).kept
  intro entry member isDefined
  refine ⟨found entry member isDefined, fun instanceID staticIP draw allocation given done same =>
    ?_⟩
  exact saneNow.orderly.allocate_ip (found entry member isDefined) done same

theorem allocations_stay_held_front : ∃ pool,
    (system fun _ => none).Reaches ForgetsUndefined (World.load .empty .empty) pool ∧
      pool.world.granted ≠ [] ∧ pool.world.forgotten ≠ [] ∧
      StillHeld (fun _ => none) pool.world := by
  rcases (system fun _ => none).reaches_of_schedule ForgetsUndefined (World.load .empty .empty)
    (fun world => world.granted ≠ [] ∧ world.forgotten ≠ [])
    [.spawn 0 (.create (.ok []) "n1" frontSpec), .act 0 0, .act 0 0, .act 0 0,
      .spawn 1 (.delete "front"), .act 1 0, .act 1 0, .act 1 0,
      .spawn 2 (.create (.ok []) "n2" frontSpec), .act 2 0, .act 2 0, .act 2 0,
      .spawn 3 (.allocate "front" "i1" "" ⟨[], "m1"⟩), .act 3 0, .act 3 0] (by decide +kernel) with
    ⟨pool, reached, granted, forgotten⟩
  exact ⟨pool, reached, granted, forgotten,
    allocations_stay_held (fun _ => none) Definitions.coherent_empty Tables.orderly_empty reached⟩

/-- A deletion removes a network's definition, another client creates a network with its name and an
instance gets an address there, and the deletion forgets that too.  Another instance then gets the
same address. -/
theorem address_given_twice : ∃ pool, (system fun _ => none).Reaches (fun _ _ => True)
      (World.load .empty .empty) pool ∧ (∃ first ∈ pool.world.granted,
        ∃ second ∈ pool.world.granted, first.1 = second.1 ∧ first.2.ip = second.2.ip ∧
        first.2.instanceID ≠ second.2.instanceID) ∧
      ¬ StillHeld (fun _ => none) pool.world := by
  rcases (system fun _ => none).reaches_of_schedule (fun _ _ => True) (World.load .empty .empty)
    (fun world => (∃ first ∈ world.granted, ∃ second ∈ world.granted, first.1 = second.1 ∧
      first.2.ip = second.2.ip ∧ first.2.instanceID ≠ second.2.instanceID) ∧
      ∃ entry ∈ world.granted, (∃ network ∈ world.store.networks.items, network.id = entry.1.id) ∧
        (world.tables.allocation entry.1.name entry.2.instanceID).toOption ≠ some entry.2)
    [.spawn 0 (.create (.ok []) "n1" frontSpec), .act 0 0, .act 0 0, .act 0 0,
      .spawn 1 (.delete "front"), .act 1 0, .act 1 0,
      .spawn 2 (.create (.ok []) "n2" frontSpec), .act 2 0, .act 2 0, .act 2 0,
      .spawn 3 (.allocate "front" "i1" "" ⟨[], "m1"⟩), .act 3 0, .act 3 0, .act 1 0,
      .spawn 4 (.allocate "front" "i2" "" ⟨[], "m2"⟩), .act 4 0, .act 4 0] (by decide +kernel) with
    ⟨pool, reached, twice, entry, member, defined, lost⟩
  refine ⟨pool, reached, twice, fun held => lost ?_⟩
  rw [(held entry member defined).1]
  rfl

/-- In every run, networks are told apart by name and ID, and no table has an instance or an address
twice. -/
theorem networks_stay_sane {store : Store} {tables : Tables} {pool : Pool Nat World}
    (coherent : store.networks.Coherent) (orderly : tables.Orderly)
    (reached : (system other).Reaches (fun _ _ => True) (World.load store tables) pool) :
    Sane pool.world :=
  ((contract_holds other).reaches (sane_load coherent orderly) (fun _ => trivial) reached).kept

theorem networks_stay_sane_front : ∃ pool,
    (system fun _ => none).Reaches (fun _ _ => True) (World.load .empty .empty) pool ∧
      (pool.world.store.networks.items.length = 2 ∧ pool.world.granted.length = 1) ∧
      Sane pool.world :=
  (system fun _ => none).known_of_schedule
    [.spawn 0 (.create (.ok []) "n1" frontSpec), .act 0 0, .act 0 0, .act 0 0,
      .spawn 1 (.create (.ok []) "n2" backSpec), .act 1 0, .spawn 2 (.allocate "front" "i1" ""
      ⟨[], "m1"⟩), .act 2 0, .act 1 0, .act 2 0, .act 1 0]
    (by decide +kernel) fun reached _ => networks_stay_sane Definitions.coherent_empty
      Tables.orderly_empty reached

end Dicer.Networks.Calls
