import Dicer.HostNet.Changes
import Dicer.Networks.Manager

namespace Dicer

variable {network : Network}

/-!
# Bridges apart

A bridge's rules carry comments with its name, and its registration is kept by its name, so setting
up and tearing down another bridge touches neither.  Whether two networks have different bridges is
a matter of their names alone: `bridges_apart_iff` says when, for every store the network manager
can bring about.
-/

namespace HostNet

def bridgeKinds : List String :=
  ["dicer-nat-", "dicer-fwd-out-", "dicer-fwd-in-", "dicer-icc-", "dicer-isolation-s1-",
    "dicer-isolation-s2-", "dicer-internal-", "dicer-input-accept-", "dicer-input-drop-",
    "dicer-input-listener-drop-", "dicer-input-dns-", "dicer-input-replies-",
      "dicer-input-internal-"]

def bridgeComments (bridge : String) : List String := bridgeKinds.map (· ++ bridge)

def rulesOf (bridge : String) (rules : List Rule) : List Rule :=
  rules.filter fun rule => (bridgeComments bridge).contains rule.comment

/-- A bridge's rules are the same in each chain. -/
def Spares (bridge : String) (before after : Tables) : Prop :=
  ∀ table chain, rulesOf bridge (after table chain) = rulesOf bridge (before table chain)

theorem bridgeKinds_subset : ∀ kind ∈ bridgeKinds, kind ∈ commentKinds := by
  decide

section

variable {bridge other comment : String} {rule : Rule} {before after : Tables}

theorem names_not_mem (names : Names other comment) (different : other ≠ bridge) :
    comment ∉ bridgeComments bridge := by
  intro member
  rcases List.mem_map.mp member with ⟨kind, isKind, same⟩
  exact names.other different (bridgeKinds_subset kind isKind) same.symm

theorem rulesOf_deleted (rules : List Rule) (foreign : comment ∉ bridgeComments bridge) :
    rulesOf bridge (deleted rules comment) = rulesOf bridge rules := by
  unfold rulesOf deleted
  rw [List.filter_filter]
  apply List.filter_congr
  intro rule _
  by_cases own : rule.comment ∈ bridgeComments bridge
  · have different : rule.comment ≠ comment := fun same => foreign (same ▸ own)
    simp [own, different]
  · simp [own]

theorem spares_of_changes (different : other ≠ bridge) (changes : ChangesOf other before after) :
    Spares bridge before after := by
  refine changes.preserves (fun before after => rulesOf bridge after = rulesOf bridge before)
    (fun _ => rfl) ?_ ?_ ?_ ?_
  · exact fun _ _ _ earlier later => later.trans earlier
  · exact fun rules comment names => rulesOf_deleted rules (names_not_mem names different)
  · intro rules rule names
    simp [rulesOf, names_not_mem names different]
  · intro rules rule names
    simp [rulesOf, names_not_mem names different]

/-- Neither a bridge's rules nor its registration change. -/
structure LeavesBridge (bridge : String) (before after : Host) : Prop where
  rules : Spares bridge before.tables after.tables
  registered : after.networks bridge = before.networks bridge

theorem leavesBridge_setup (different : network.bridge ≠ bridge) (listenerPort : Nat) (host : Host)
    (uplink : Option String) : LeavesBridge bridge host
    (host.apply listenerPort (.setupBridge network uplink)) := by
  cases uplink with
  | none => exact ⟨fun _ _ => rfl, rfl⟩
  | some =>
    refine ⟨spares_of_changes different ?_, Function.update_of_ne different.symm ..⟩
    exact (((changes_ensureDicerChains.trans changes_natRule).trans
      changes_ensureForwardRules).trans changes_ensureIsolationRules).trans changes_ensureInputRules

theorem leavesBridge_teardown (different : network.bridge ≠ bridge) (listenerPort : Nat)
    (host : Host) : LeavesBridge bridge host
    (host.apply listenerPort (.teardownBridge network)) := by
  refine ⟨spares_of_changes different ?_, Function.update_of_ne different.symm ..⟩
  exact changes_removeInputRules.trans changes_teardownIPTables

end

end HostNet

namespace Networks

open FileStore
open HostNet (Host LeavesBridge)

variable {store : Store}

/-! ## The networks there can be -/

section

variable (other : String → Option (Option Address))

/-- The stores that the network manager's calls lead to, whatever each of them finds on the host and
whatever else changes the store in between. -/
inductive Managed : Store → Prop
  | empty : Managed .empty
  | created {store after : Store} (hostSubnets : Except Err (List Subnet)) (id : String)
      (spec : Spec) (lookedUp listed : Store) : Managed store →
      create other hostSubnets id spec lookedUp listed store = .ok after → Managed after
  | ensuredDefault {store after : Store} (hostSubnets : Except Err (List Subnet))
      (id subnet : String) (lookedUp listed : Store) : Managed store →
      ensureDefault other hostSubnets id subnet lookedUp listed store = .ok after → Managed after
  | deleted {store after : Store} (nameOrID : String) (lookedUp : Store) : Managed store →
      delete nameOrID lookedUp store = .ok after → Managed after
  | elsewhere {store after : Store} : Managed store → after.networks = store.networks →
    Managed after

/-- Each name is one network's, and each network has the bridge of its name. -/
structure WellNamed (store : Store) : Prop where
  names : (store.networks.items.map Network.name).Nodup
  bridges : ∀ network ∈ store.networks.items, network.bridge = bridgeName network.name

variable {other}

theorem WellNamed.createNetwork {after : Store} (wellNamed : WellNamed store) {id : String}
    {spec : Spec} (made : new other id spec = .ok network)
    (done : store.createNetwork network = .ok after) : WellNamed after := by
  simp only [Store.createNetwork, bind_eq_ok, pure_eq_ok] at done
  rcases done with ⟨_, _, rfl⟩
  refine ⟨Definitions.nodup_names_put wellNamed.names network, ?_⟩
  intro defined member
  rcases Definitions.mem_put.mp member with rfl | ⟨old, _⟩
  · exact (new_names other made).2
  · exact wellNamed.bridges defined old

theorem WellNamed.deleteNetwork {after : Store} (wellNamed : WellNamed store) {nameOrID : String}
    (done : store.deleteNetwork nameOrID = .ok after) : WellNamed after := by
  simp only [Store.deleteNetwork, bind_eq_ok, pure_eq_ok] at done
  rcases done with ⟨network, _, _, _, rfl⟩
  refine ⟨wellNamed.names.sublist (List.filter_sublist.map _), ?_⟩
  intro defined member
  exact wellNamed.bridges defined (Definitions.mem_delete.mp member).1

theorem Managed.wellNamed (managed : Managed other store) : WellNamed store := by
  induction managed with
  | empty => exact ⟨List.nodup_nil, by simp [Store.empty, Definitions.empty]⟩
  | created hostSubnets id spec lookedUp listed _ done ih =>
    simp only [create, bind_eq_ok] at done
    rcases done with ⟨network, made, done⟩
    split at done
    · simp at done
    simp only [bind_eq_ok] at done
    rcases done with ⟨_, _, done⟩
    exact ih.createNetwork made done
  | ensuredDefault hostSubnets id subnet lookedUp listed _ done ih =>
    unfold ensureDefault at done
    split at done
    · exact pure_eq_ok.mp done ▸ ih
    simp only [bind_eq_ok] at done
    rcases done with ⟨network, made, _, _, done⟩
    exact ih.createNetwork made done
  | deleted nameOrID lookedUp _ done ih =>
    simp only [delete, bind_eq_ok] at done
    rcases done with ⟨network, _, done⟩
    split at done
    · simp at done
    · exact ih.deleteNetwork done
  | elsewhere _ same ih =>
    exact ⟨same ▸ ih.names, same ▸ ih.bridges⟩

/-- Two networks have bridges of their own, neither of which the other's setup or teardown touches,
unless both names are too long for a bridge's and have the same hash. -/
theorem bridges_apart_iff {store : Store} (managed : Managed other store) {first second : Network}
    (firstDefined : first ∈ store.networks.items) (secondDefined : second ∈ store.networks.items)
    (different : first ≠ second) :
    (first.bridge ≠ second.bridge ∧ ∀ (listenerPort : Nat) (host : Host) (uplink : Option String),
      LeavesBridge second.bridge host (host.apply listenerPort (.setupBridge first.onHost uplink)) ∧
        LeavesBridge second.bridge host (host.apply listenerPort (.teardownBridge first.onHost))) ↔
      ¬ (isLong first.name = true ∧ isLong second.name = true ∧
      hashOf first.name = hashOf second.name) := by
  have wellNamed := managed.wellNamed
  have names : first.name ≠ second.name := fun same =>
    different (List.inj_on_of_nodup_map wellNamed.names firstDefined secondDefined same)
  have bridges : first.bridge = second.bridge ↔
      isLong first.name = true ∧ isLong second.name = true ∧
          hashOf first.name = hashOf second.name := by
    rw [wellNamed.bridges first firstDefined, wellNamed.bridges second secondDefined,
      bridgeName_eq_iff]
    exact or_iff_right names
  rw [← bridges]
  constructor
  · exact And.left
  intro apart
  refine ⟨apart, fun listenerPort host uplink => ⟨?_, ?_⟩⟩
  · exact HostNet.leavesBridge_setup apart listenerPort host uplink
  · exact HostNet.leavesBridge_teardown apart listenerPort host

end

/-- Two networks created one after the other, and nothing else. -/
def createBoth (firstName secondName : String) : Except Err Store := do
  let hostSubnets : Except Err (List Subnet) := pure []
  let first ← create (fun _ => none) hostSubnets "n1"
    ⟨firstName, "10.1.0.0/16", "", 0, [], false, false⟩ .empty .empty .empty
  create (fun _ => none) hostSubnets "n2" ⟨secondName, "10.2.0.0/16", "", 0, [], false, false⟩ first
    first first

theorem managed_createBoth {firstName secondName : String}
    (done : createBoth firstName secondName = .ok store) : Managed (fun _ => none) store := by
  simp only [createBoth, bind_eq_ok] at done
  rcases done with ⟨between, first, second⟩
  exact .created _ _ _ between between (.created _ _ _ .empty .empty .empty first) second

theorem bridges_apart_iff_front_back : ∃ store : Store, ∃ first ∈ store.networks.items,
    ∃ second ∈ store.networks.items, first.bridge ≠ second.bridge := by
  rcases exists_ok_of_any (fun store : Store => ∃ first ∈ store.networks.items,
    ∃ second ∈ store.networks.items,
      first ≠ second ∧ isLong first.name = false)
    (createBoth "front" "backend-of-the-shop") (by decide +kernel) with
    ⟨store, done, first, firstDefined, second, secondDefined, different, short⟩
  have apart := (bridges_apart_iff (managed_createBoth done) firstDefined secondDefined
    different).mpr (by simp [short])
  exact ⟨store, first, firstDefined, second, secondDefined, apart.1⟩

/-- Two long names with one hash: the two networks share a bridge. -/
theorem bridges_shared : ∃ store, Managed (fun _ => none) store ∧ ∃ first ∈ store.networks.items,
    ∃ second ∈ store.networks.items, first ≠ second ∧ first.bridge = second.bridge := by
  rcases exists_ok_of_any (fun store : Store => ∃ first ∈ store.networks.items,
    ∃ second ∈ store.networks.items,
      first ≠ second ∧ first.bridge = second.bridge)
    (createBoth "tenant-97018" "tenant-180400") (by decide +kernel) with ⟨store, done, shared⟩
  exact ⟨store, managed_createBoth done, shared⟩

end Networks
end Dicer
