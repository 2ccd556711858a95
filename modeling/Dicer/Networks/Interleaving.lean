import Dicer.Networks.Calls

namespace Dicer.Networks.Calls

open FileStore Concurrency

/-!
# What the calls may do to each other

Every change a call makes is one of a few, with what was checked before it.  In any interleaving the
networks are in step with their IDs, no two networks there have been share an ID, and the tables are
in order.
-/

section

variable (other : String → Option (Option Address))

/-- A change of the definitions or the tables, with what is known when it is made. -/
inductive Moved (world : World) : World → Prop
  | created (network : Network) (listed : List Network) (hostSubnets : List Subnet)
      (checked : checkSubnetOverlap network listed hostSubnets = .ok ())
      (free : world.store.networks.lookup network.name = none)
      (fresh : world.isFresh network.id = true)
      (ownName : network.name ≠ network.id) :
      Moved world { world with
        store := { world.store with networks := world.store.networks.put network }
        defined := network :: world.defined
        created := (network, listed) :: world.created }
  | deleted (network : Network) (member : network ∈ world.store.networks.items) :
      Moved world { world with
        store := { world.store with networks := world.store.networks.delete network } }
  | forgot (network : String) :
      Moved world { world with
        tables := world.tables.forget network
        forgotten := network :: world.forgotten }
  | allocated (network : Network) (instanceID staticIP : String) (draw : Draw)
      (allocation : Allocation) (tables : Tables) (known : network ∈ world.defined)
      (done : world.tables.allocate other network instanceID staticIP draw = .ok
        (allocation, tables)) :
      Moved world { world with
        tables := tables
        granted := (network, allocation) :: world.granted }
  | released (network instanceID : String) (tables : Tables)
      (done : world.tables.release network instanceID = .ok tables) :
      Moved world { world with
        tables := tables
        granted := world.granted.filter fun entry =>
          !(entry.1.name == network && entry.2.instanceID == instanceID) }
  | reconciled (networks live : List String) (tables : Tables)
      (done : world.tables.reconcile live networks = .ok tables) :
      Moved world { world with
        tables := tables
        granted := world.granted.filter fun entry =>
          !(networks.contains entry.1.name && !live.contains entry.2.instanceID) }

end

/-- The networks are in step with their IDs, which are each one network's for good, and the tables
are in order. -/
structure Sane (world : World) : Prop where
  coherent : world.store.networks.Coherent
  known : ∀ network ∈ world.store.networks.items, network ∈ world.defined
  unique : ∀ first ∈ world.defined, ∀ second ∈ world.defined, first.id = second.id → first = second
  orderly : world.tables.Orderly
  grantedKnown : ∀ entry ∈ world.granted, entry.1 ∈ world.defined

variable {store : Store} {tables : Tables}

theorem sane_load (coherent : store.networks.Coherent) (orderly : tables.Orderly) :
    Sane (World.load store tables) where
  coherent := coherent
  known := fun _ member => member
  unique := coherent.ids
  orderly := orderly
  grantedKnown := by simp [World.load]

variable {other : String → Option (Option Address)} {before after world : World}

theorem Moved.sane (sane : Sane before) (moved : Moved other before after) : Sane after := by
  cases moved with
  | created network listed hostSubnets checked free fresh ownName =>
    simp only [World.isFresh, Bool.and_eq_true, bne_iff_ne, Bool.not_eq_true', List.contains_eq_mem,
      decide_eq_false_iff_not, Option.isNone_iff_eq_none, List.mem_map, not_exists,
        not_and] at fresh
    rcases fresh with ⟨⟨identified, unused⟩, unresolved⟩
    refine ⟨sane.coherent.create identified ownName free unresolved, ?_, ?_, sane.orderly, ?_⟩
    · exact Definitions.forall_mem_put List.mem_cons_self fun defined old _ =>
        List.mem_cons_of_mem _ (sane.known defined old)
    · simp only [List.forall_mem_cons]
      exact ⟨⟨fun _ => trivial, fun second old sameID => absurd sameID.symm (unused second old)⟩,
          fun first old =>
        ⟨fun sameID => absurd sameID (unused first old), sane.unique first old⟩⟩
    · exact fun entry member => List.mem_cons_of_mem _ (sane.grantedKnown entry member)
  | deleted network member =>
    exact { sane with
      coherent := sane.coherent.delete member
      known := fun defined kept => sane.known defined (Definitions.mem_delete.mp kept).1 }
  | forgot network =>
    exact { sane with orderly := sane.orderly.forget network }
  | allocated network instanceID staticIP draw allocation tables known done =>
    exact { sane with
      orderly := (sane.orderly.allocate done).1
      grantedKnown := List.forall_mem_cons.mpr ⟨known, sane.grantedKnown⟩ }
  | released network instanceID tables done =>
    exact { sane with
      orderly := sane.orderly.release done
      grantedKnown := fun entry member => sane.grantedKnown entry (List.mem_filter.mp member).1 }
  | reconciled networks live tables done =>
    exact { sane with
      orderly := sane.orderly.reconcile done
      grantedKnown := fun entry member => sane.grantedKnown entry (List.mem_filter.mp member).1 }

/-- Instances and snapshots are defined and deleted. -/
def Elsewhere.Happened (before after : World) : Prop :=
  ∃ event : Elsewhere, after = { before with
    store := { before.store with instances := event.instances, snapshots := event.snapshots } }

variable (other) in
def contract : Contract Nat World where
  keeps := Sane
  may := fun _ => Moved other
  outside := Elsewhere.Happened
  idle := fun _ _ => True
  meets := fun _ _ => True

/-! ## Every call does only that -/

variable {thread : Nat} {network : Network} {Value : Type}

variable (other) in
/-- A call knows of a network it has read that it was defined, which nobody changes. -/
def reading (thread : Nat) : Knowledge (contract other) thread (Option Network) where
  knows := fun known world => ∀ network ∈ known, network ∈ world.defined
  stable := by
    rintro known first second ⟨_, _, _, ⟨_, rfl⟩ | ⟨_, _, moved⟩⟩ isKnown
    · exact isKnown
    cases moved with
    | created => exact fun network member => List.mem_cons_of_mem _ (isKnown network member)
    | _ => exact isKnown

variable (other) in
/-- Whatever the call returns, it has made no other change. -/
abbrev Fine (thread : Nat) (call : Call Value) :
    Prop := Concurrency.Calls.Stays (reading other thread) call none

theorem action_fine {action : Nat → World → List (Except Err Value × World)}
    (step : ∀ now, Sane now → Answers (fun _ after => after = now ∨ Moved other now after)
      (action thread now)) :
    Fine other thread (Program.perform action) :=
  fun _ goes => Program.Ensures.perform fun now sane _ answer after answered _ =>
    ⟨step now sane answer after answered, fun _ => ⟨none, nofun, goes answer⟩⟩

theorem orFails_moves {done : Value × World} (moved : Moved other world done.2) :
    Answers (fun _ after => after = world ∨ Moved other world after) (orFails world done) :=
  .two (.inr moved) (.inl rfl)

theorem storeNetwork_fine (nameOrID : String) : Fine other thread (storeNetwork nameOrID) :=
  action_fine fun _ _ => .one (.inl rfl)

theorem storeNetworks_fine : Fine other thread storeNetworks :=
  action_fine fun _ _ => .one (.inl rfl)

theorem storeNetwork_reads (nameOrID : String) {post : Except Err Network → Option Network → Prop}
    (fails : ∀ error, post (.error error) none)
    (found : ∀ network, post (.ok network) (some network)) :
    (storeNetwork nameOrID).run.Ensures (reading other thread) post none := by
  refine Program.Ensures.perform fun now sane _ => .one fun _ => ⟨.inl rfl, fun _ => ?_⟩
  cases read : now.store.network nameOrID with
  | error error => exact ⟨none, nofun, fails error⟩
  | ok network =>
    have stored := (sane.coherent.lookup_eq_some.mp (Definitions.find_ok.mp read)).1
    exact ⟨some network, fun _ same => Option.some.inj same ▸ sane.known network stored,
      found network⟩

theorem storeCreateNetwork_fine {listed : List Network} {hostSubnets : List Subnet}
    (checked : checkSubnetOverlap network listed hostSubnets = .ok ()) :
    Fine other thread (storeCreateNetwork network listed) := by
  refine action_fine fun now _ => ?_
  split
  · exact .one (.inl rfl)
  rename_i store stored
  split
  · exact .none
  rename_i fresh
  simp only [Bool.or_eq_true, Bool.not_eq_true', beq_iff_eq, not_or, Bool.not_eq_false] at fresh
  simp only [Store.createNetwork, Definitions.checkNew, bind_eq_ok, pure_eq_ok] at stored
  rcases stored with ⟨_, ⟨_, _, isNew⟩, rfl⟩
  split at isNew
  · simp at isNew
  rename_i free
  exact orFails_moves (.created network listed hostSubnets checked (by simpa using free) fresh.1
    (Ne.symm fresh.2))

theorem storeDeleteNetwork_fine (nameOrID : String) :
    Fine other thread (storeDeleteNetwork nameOrID) := by
  refine action_fine fun now sane => ?_
  split
  · exact .one (.inl rfl)
  rename_i store deleted
  simp only [Store.deleteNetwork, bind_eq_ok, pure_eq_ok] at deleted
  rcases deleted with ⟨network, found, _, _, rfl⟩
  exact orFails_moves (.deleted network
    (sane.coherent.lookup_eq_some.mp (Definitions.find_ok.mp found)).1)

theorem forget_fine (network : String) : Fine other thread (forget network) :=
  action_fine fun _ _ => orFails_moves (.forgot network)

theorem release_fine (network instanceID : String) :
    Fine other thread (release network instanceID) := by
  refine action_fine fun now _ => ?_
  split
  · exact .one (.inl rfl)
  · exact orFails_moves (.released network instanceID _ ‹_›)

theorem moved_of_reconciled {networks live : List String}
    (reconciles : reconciled before networks live = some after) : Moved other before after := by
  unfold reconciled at reconciles
  split at reconciles
  · simp at reconciles
  rename_i tables done
  cases reconciles
  exact .reconciled networks live tables done

theorem reconcile_fine (networks live : List String) :
    Fine other thread (reconcile networks live) := by
  refine action_fine fun now _ answer after answered => .inr ?_
  rcases List.mem_append.mp answered with stopped | finished
  · rcases List.mem_flatMap.mp stopped with ⟨count, _, stopped⟩
    rcases Option.map_eq_some_iff.mp (Option.mem_toList.mp stopped) with ⟨_, reconciles, same⟩
    exact (Prod.mk.inj same).2 ▸ moved_of_reconciled reconciles
  · rcases Option.map_eq_some_iff.mp (Option.mem_toList.mp finished) with ⟨_, reconciles, same⟩
    exact (Prod.mk.inj same).2 ▸ moved_of_reconciled reconciles

theorem allocateOn_ensures (instanceID staticIP : String) (draw : Draw)
    {post : Except Err Allocation → Option Network → Prop} (goes : ∀ result, post result none) :
    (allocateOn other network instanceID staticIP draw).run.Ensures (reading other thread) post
    (some network) := by
  refine Program.Ensures.perform fun now _ known answer after answered _ => ?_
  refine ⟨?_, fun _ => ⟨none, nofun, goes answer⟩⟩
  split at answered
  · exact .inl (sole answered).2
  · exact orFails_moves (.allocated network instanceID staticIP draw _ _ (known network rfl) ‹_›) _
      _ answered

theorem checkSubnetIsFree_ensures (network : Network) (hostSubnets : Except Err (List Subnet))
    {post : Except Err (List Network) → Option Network → Prop}
    (fails : ∀ error, post (.error error) none)
    (free : ∀ listed subnets, checkSubnetOverlap network listed subnets = .ok () →
      post (.ok listed) none) :
    (checkSubnetIsFree network hostSubnets).run.Ensures (reading other thread) post none := by
  unfold checkSubnetIsFree
  cases hostSubnets with
  | error => exact .done (fails _)
  | ok subnets =>
    refine .bindExcept (storeNetworks_fine _ fun result => ?_)
    cases result with
    | error error => exact fails error
    | ok listed =>
      dsimp only
      cases checked : checkSubnetOverlap network listed subnets with
      | error error => exact .done (fails error)
      | ok => exact .done (free listed subnets checked)

theorem create_fine (hostSubnets : Except Err (List Subnet)) (id : String) (spec : Spec) :
    Fine other thread (create other hostSubnets id spec) := by
  intro post goes
  unfold create
  split
  · exact .done (goes _)
  refine .bindExcept (.lift (storeNetwork_fine _ _ fun found => ?_))
  cases found with
  | ok => exact .done (goes _)
  | error =>
    refine .bindExcept (checkSubnetIsFree_ensures _ _ (fun _ => goes _)
      fun listed subnets checked => ?_)
    exact (storeCreateNetwork_fine checked).bind (fun _ _ goes => .done (goes _)) post goes

theorem ensureDefault_fine (hostSubnets : Except Err (List Subnet)) (id subnet : String) :
    Fine other thread (ensureDefault other hostSubnets id subnet) := by
  intro post goes
  refine .bindExcept (.lift (storeNetwork_fine _ _ fun found => ?_))
  dsimp only
  split
  · exact .done (goes _)
  split
  · exact .done (goes _)
  refine .bindExcept (.lift (checkSubnetIsFree_ensures _ _ (fun _ => .done (goes _))
    fun listed subnets checked => ?_))
  refine .bindExcept (.lift (storeCreateNetwork_fine checked _ fun stored => ?_))
  cases stored <;> exact .done (goes _)

theorem delete_fine (nameOrID : String) : Fine other thread (delete nameOrID) := by
  refine (storeNetwork_fine nameOrID).bind fun network => ?_
  split
  · exact .throw
  refine (storeDeleteNetwork_fine _).bind fun _ post goes => ?_
  refine .bindExcept (.lift (forget_fine _ _ fun forgot => ?_))
  cases forgot <;> exact .done (goes _)

theorem allocate_fine (nameOrID instanceID staticIP : String) (draw : Draw) :
    Fine other thread (allocate other nameOrID instanceID staticIP draw) := by
  intro post goes
  exact .bindExcept (storeNetwork_reads nameOrID (fun _ => goes _) fun network =>
    allocateOn_ensures instanceID staticIP draw goes)

variable (other) in
theorem contract_holds : (contract other).Holds (system other) where
  mayKeeps := fun _ _ _ sane _ moved => moved.sane sane
  happens := by
    intro event before after sane _ happened
    cases happened
    exact ⟨⟨event, rfl⟩, { sane with }⟩
  crashes := by simp [system]
  serves := by
    intro request thread world sane _ _
    have served {Value : Type} {call : Call Value} (fine : Fine other thread call) :
        (bestEffort call).Safe (contract other) thread (fun _ _ => True) world := by
      have ensured : (bestEffort call).Ensures (reading other thread) (fun _ _ => True) none :=
        Concurrency.Calls.bestEffort_ensures (fine _ fun _ => trivial)
      exact (ensured world sane nofun).mono sane fun _ _ _ _ => trivial
    cases request with
    | create hostSubnets id spec => exact served (create_fine hostSubnets id spec)
    | ensureDefault hostSubnets id subnet => exact served (ensureDefault_fine hostSubnets id subnet)
    | delete nameOrID => exact served (delete_fine nameOrID)
    | allocate nameOrID instanceID staticIP draw =>
      exact served (allocate_fine nameOrID instanceID staticIP draw)
    | release network instanceID => exact served (release_fine network instanceID)
    | reconcile networks live => exact served (reconcile_fine networks live)

/-- What every change keeps, of those in runs that meet a condition, holds throughout such runs.
Only the networks, the tables and the history are spoken of. -/
theorem holds_of_run {meets : World → World → Prop} {property : World → Prop}
    {pool : Pool Nat World} (coherent : store.networks.Coherent) (orderly : tables.Orderly)
    (initially : property (World.load store tables))
    (moves : ∀ before after, Sane before → Sane after → meets before after →
      Moved other before after → property before → property after)
    (happens : ∀ before after, Elsewhere.Happened before after → property before → property after)
    (reached : (system other).Reaches meets (World.load store tables) pool) :
    property pool.world := by
  refine (contract_holds other).preserved (fun _ _ _ => trivial) (sane_load coherent orderly)
    (fun _ => trivial) initially ?_ reached
  rintro before after sane saneAfter met (rfl | ⟨_, moved⟩ | happened | crashed) holds
  · exact holds
  · exact moves before after sane saneAfter met moved holds
  · exact happens before after happened holds
  · simp [system] at crashed

end Dicer.Networks.Calls
