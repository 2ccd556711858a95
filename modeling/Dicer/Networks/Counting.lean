import Dicer.Networks.AllocationSoundness

namespace Dicer.Networks

/-!
# Counting a network's addresses

How many addresses a network has left is computed from the length of its prefix and the number of
its allocations, while an allocation looks for an address that is not in use.  The two agree because
a table's addresses are all among those that can be given out, each is there once, and none is the
gateway.
-/

/-- How many addresses the network has for instances, and how many of them are free. -/
def Network.ipCounts (network : Network) (allocated : Nat) : Nat × Nat :=
  match parseCIDR network.subnet with
  | none => (0, 0)
  | some subnet =>
    let total := 2 ^ (32 - subnet.length) - 3
    (total, total - allocated)

/-- What an allocation fails with if the subnet has no address left. -/
def noAvailableIPs (network : Network) : Err :=
  .resourceExhausted ("allocate address on network " ++ quoted network.name ++ ": " ++
    "the network has no free addresses left")

/-- The part of `checkCanStart` that is about the static IP of a definition. -/
def checkStaticIP (other : String → Option (Option Address)) (network : Network)
    (staticIP : String) : Except Err Unit :=
  if staticIP = "" then pure ()
  else do
    let subnet ← parseSubnet network.subnet
    match parseIP other staticIP with
    | some (some address) =>
      if !assignable subnet address || parseIP other network.gateway = some (some address)
        then throw refusal
      else pure ()
    | _ => throw refusal
where
  refusal : Err := .invalidArgument ("static IP " ++ quoted staticIP ++
    " is not an address network " ++ quoted network.name ++ " can assign: its subnet is " ++
    network.subnet ++ ", and its gateway " ++ network.gateway)

theorem Address.text_inj {first second : Address} (same : first.text = second.text) :
    first = second := by
  have parsed := parseIPv4_text first
  rw [same, parseIPv4_text] at parsed
  exact (Option.some.inj parsed).symm

namespace Subnet

variable (subnet : Subnet)

/-- The addresses between the first and the last, in order. -/
def hosts : List String :=
  (List.range (subnet.size - 2)).map fun place =>
    (subnet.address + BitVec.ofNat 32 (place + 1)).text

theorem length_hosts : subnet.hosts.length = subnet.size - 2 := by simp [hosts]

theorem nodup_hosts : subnet.hosts.Nodup := by
  refine List.Nodup.map_on (fun first inFirst second inSecond same => ?_) List.nodup_range
  rw [List.mem_range] at inFirst inSecond
  have places := congrArg BitVec.toNat (Address.text_inj same)
  rw [subnet.toNat_add (by omega), subnet.toNat_add (by omega)] at places
  omega

theorem mem_hosts {address : Address} (given : assignable subnet address = true) :
    address.text ∈ subnet.hosts := by
  simp only [assignable, contains, Bool.and_eq_true, decide_eq_true_eq, ne_eq] at given
  obtain ⟨⟨inside, notFirst⟩, notLast⟩ := given
  have positive := subnet.size_pos
  have bound := subnet.end_le
  obtain ⟨count, isCount⟩ := Nat.dvd_of_mod_eq_zero subnet.aligned
  change subnet.address.toNat = subnet.size * count at isCount
  rw [isCount, Nat.mul_div_cancel_left _ positive] at inside
  have split := Nat.div_add_mod address.toNat subnet.size
  have offset := Nat.mod_lt address.toNat positive
  rw [inside] at split
  have first : address.toNat % subnet.size ≠ 0 :=
    fun none => notFirst (BitVec.eq_of_toNat_eq (by omega))
  have last : address.toNat % subnet.size ≠ subnet.size - 1 :=
      fun whole => notLast (BitVec.eq_of_toNat_eq (by
    rw [broadcast, BitVec.toNat_ofNat, Nat.mod_eq_of_lt (by omega)]
    omega))
  refine List.mem_map.mpr ⟨address.toNat % subnet.size - 1, List.mem_range.mpr (by omega),
    congrArg Address.text ?_⟩
  refine BitVec.eq_of_toNat_eq ?_
  rw [subnet.toNat_add (by omega)]
  omega

end Subnet

section

variable {subnet : Subnet} {used : List String}

theorem scan_eq_none {left offset : Nat} (none : scan subnet used left offset = none) :
    ∀ place < left, (subnet.address + BitVec.ofNat 32 (offset + place)).text ∈ used := by
  induction left generalizing offset with
  | zero => simp
  | succ left ih =>
    simp only [scan] at none
    split at none
    case isTrue taken =>
      intro place below
      cases place with
      | zero => simpa using taken
      | succ place =>
        rw [← Nat.add_assoc, Nat.add_right_comm]
        exact ih none place (by omega)
    case isFalse => cases none

theorem freeIP_cases (roomy : subnet.length ≤ maxPrefixLen) (offsets : List Nat) :
    (∃ ip, freeIP subnet used offsets = .ok ip ∧ ip ∈ subnet.hosts ∧ ip ∉ used) ∨
      freeIP subnet used offsets = .error (.resourceExhausted
        "the network has no free addresses left") ∧ subnet.hosts ⊆ used := by
  cases chosen : freeIP subnet used offsets with
  | ok =>
    rcases freeIP_gives chosen with ⟨free, address, rfl, given⟩
    exact .inl ⟨_, rfl, subnet.mem_hosts given, free⟩
  | error =>
    have bits := subnet.bounded
    simp only [maxPrefixLen] at roomy
    simp only [freeIP, if_neg (show ¬ 32 - subnet.length < 2 by omega)] at chosen
    split at chosen
    · exact nomatch chosen
    split at chosen
    · exact nomatch chosen
    case h_2 none =>
      cases chosen
      refine .inr ⟨rfl, fun ip host => ?_⟩
      obtain ⟨place, below, rfl⟩ := List.mem_map.mp host
      rw [Nat.add_comm]
      exact scan_eq_none none place (List.mem_range.mp below)

/-- If what is in use are addresses of the subnet, each once, all are in use once there are as
many. -/
theorem hosts_subset_iff (distinct : used.Nodup) (inside : used ⊆ subnet.hosts) :
    subnet.hosts ⊆ used ↔ subnet.size - 2 ≤ used.length := by
  rw [← subnet.length_hosts]
  refine ⟨fun all => (subnet.nodup_hosts.subperm all).length_le, fun many => ?_⟩
  exact ((distinct.subperm inside).perm_of_length_le many).symm.subset

end

/-! ## Networks -/

section

variable {other : String → Option (Option Address)} {network : Network}

/-- A network as `new` makes it: its subnet has room, and its gateway is one of the addresses that
could be given out. -/
structure Roomy (network : Network) (subnet : Subnet) (gateway : Address) : Prop where
  subnet_eq : network.subnet = subnet.text
  length_le : subnet.length ≤ maxPrefixLen
  gateway_eq : network.gateway = gateway.text
  given : assignable subnet gateway = true

theorem Subnet.four_le_size {subnet : Subnet} (short : subnet.length ≤ maxPrefixLen) :
    4 ≤ subnet.size := by
  rw [Subnet.size, show 4 = 2 ^ 2 by rfl]
  simp only [maxPrefixLen] at short
  exact Nat.pow_le_pow_right (by decide) (by omega)

theorem new_roomy {id : String} {spec : Spec} (made : new other id spec = .ok network) :
    ∃ subnet gateway, Roomy network subnet gateway := by
  unfold new at made
  split at made
  · simp at made
  simp only [bind_eq_ok, pure_eq_ok] at made
  obtain ⟨subnet, parsed, gateway, chosen, _, _, rfl⟩ := made
  have short : subnet.length ≤ maxPrefixLen := by
    unfold parseSubnet at parsed
    split at parsed
    · simp at parsed
    · obtain ⟨short, same⟩ := ite_throw_eq_ok.mp parsed
      exact pure_eq_ok.mp same ▸ Nat.le_of_not_lt short
  unfold gatewayOf at chosen
  split at chosen
  · have large := Subnet.four_le_size short
    exact ⟨subnet, _, rfl, short, (pure_eq_ok.mp chosen).symm, subnet.assignable_offset Nat.one_pos
      (by omega)⟩
  split at chosen
  · split at chosen
    case isTrue given => exact ⟨subnet, _, rfl, short, (pure_eq_ok.mp chosen).symm, given⟩
    · simp at chosen
  · simp at chosen

namespace Roomy

variable {subnet : Subnet} {gateway : Address} (roomy : Roomy network subnet gateway)

include roomy

theorem parseCIDR_eq : parseCIDR network.subnet = some subnet :=
    by rw [roomy.subnet_eq, subnet.parseCIDR_text]

variable {allocations : List Allocation}

/-- Every address is in use once the allocations are as many as the network counts. -/
theorem hosts_subset_iff (fits : Fits network allocations) :
    subnet.hosts ⊆ network.gateway :: allocations.map Allocation.ip ↔
      (network.ipCounts allocations.length).2 = 0 := by
  rw [Networks.hosts_subset_iff]
  · have large := Subnet.four_le_size roomy.length_le
    simp only [Network.ipCounts, roomy.parseCIDR_eq, List.length_cons, List.length_map]
    change subnet.size - 2 ≤ _ ↔ subnet.size - 3 - _ = 0
    omega
  · refine List.nodup_cons.mpr ⟨fun taken => ?_, fits.orderly.addresses⟩
    obtain ⟨allocation, member, same⟩ := List.mem_map.mp taken
    exact fits.notGateway allocation member same
  · obtain ⟨same, isSubnet, given⟩ := fits.inSubnet
    cases roomy.parseCIDR_eq.symm.trans isSubnet
    intro ip inUse
    obtain rfl | inUse := List.mem_cons.mp inUse
    · exact roomy.gateway_eq ▸ subnet.mem_hosts roomy.given
    obtain ⟨allocation, member, rfl⟩ := List.mem_map.mp inUse
    obtain ⟨address, isText, isAssignable⟩ := given allocation member
    exact isText ▸ subnet.mem_hosts isAssignable

theorem chooseIP_cases (other : String → Option (Option Address)) (fits : Fits network allocations)
    (offsets : List Nat) :
    (∃ ip, chooseIP other network subnet (network.gateway :: allocations.map Allocation.ip) ""
        offsets = .ok ip ∧ (network.ipCounts allocations.length).2 ≠ 0) ∨
      chooseIP other network subnet (network.gateway :: allocations.map Allocation.ip) "" offsets =
          .error (noAvailableIPs network) ∧ (network.ipCounts allocations.length).2 = 0 := by
  have counted := roomy.hosts_subset_iff fits
  obtain ⟨ip, found, host, free⟩ | ⟨failed, all⟩ := freeIP_cases roomy.length_le offsets
  · exact .inl ⟨ip, by rw [chooseIP, if_pos rfl, found]; rfl, fun none =>
      free (counted.mpr none host)⟩
  · exact .inr ⟨by rw [chooseIP, if_pos rfl, failed]; rfl, counted.mp all⟩

theorem checkStaticIP_iff (staticIP instanceID : String) (draw : Draw) :
      checkStaticIP other network staticIP = .ok () ↔ ∃ result, Tables.empty.allocate other network
      instanceID staticIP draw = .ok result := by
  have gateway_text : parseIP other network.gateway = some (some gateway) := by
    rw [parseIP, roomy.gateway_eq, parseIPv4_text]
  have allocated : (∃ result, Tables.empty.allocate other network instanceID staticIP draw =
      .ok result) ↔ ∃ ip, chooseIP other network subnet [network.gateway] staticIP draw.offsets =
          .ok ip := by
    simp only [Tables.allocate, Tables.empty, AllocationTable.byInstance, List.reverse_nil,
      List.find?_nil, roomy.parseCIDR_eq, pure_bind, List.map_nil, bind_eq_ok, pure_eq_ok,
      Prod.exists]
    constructor
    · rintro ⟨_, _, ip, chosen, _⟩
      exact ⟨ip, chosen⟩
    · rintro ⟨ip, chosen⟩
      exact ⟨_, _, ip, chosen, rfl⟩
  rw [allocated]
  by_cases none : staticIP = ""
  · subst none
    obtain ⟨ip, chosen, _⟩ | ⟨_, full⟩ := roomy.chooseIP_cases other (Fits.nil roomy.parseCIDR_eq)
      draw.offsets
    · exact ⟨fun _ => ⟨ip, chosen⟩, fun _ => rfl⟩
    have large := Subnet.four_le_size roomy.length_le
    simp only [Network.ipCounts, roomy.parseCIDR_eq, List.length_nil] at full
    change subnet.size - 3 - 0 = 0 at full
    omega
  · have parsed : parseSubnet network.subnet = .ok subnet := by
      rw [parseSubnet, roomy.parseCIDR_eq]
      exact if_neg (Nat.not_lt.mpr roomy.length_le)
    rw [checkStaticIP, if_neg none, parsed, chooseIP, if_neg none, gateway_text, roomy.gateway_eq]
    cases parseIP other staticIP with
    | none => simp [bind, Except.bind]
    | some address =>
      cases address with
      | none => simp [bind, Except.bind]
      | some address =>
        have texts : address.text = gateway.text ↔ gateway = address :=
          ⟨fun same => (Address.text_inj same).symm, fun same => same ▸ rfl⟩
        by_cases given : assignable subnet address = true
        · by_cases taken : gateway = address <;> simp [bind, Except.bind, given, texts, taken]
        · simp [bind, Except.bind, given]

end Roomy

end

section

variable {Data : Type} (yaml : Yaml Data) (other : String → Option (Option Address))
    (networks : List Network)

/-- The managers that calls on some networks and restarts lead to, from an empty directory on. -/
inductive Manager.Reached : Manager Data → Prop
  | started (unread : String → Option Err) : Reached (newManager yaml unread fun _ => none)
  | called {manager : Manager Data} (call : TableCall) : Reached manager → call.On networks →
      Reached (manager.perform yaml other call).2
  | restarted {manager : Manager Data} (unread : String → Option Err) : Reached manager →
      Reached (newManager yaml unread manager.files)

variable {yaml other networks} in
theorem Manager.Reached.inStep {network : Network} {subnet : Subnet} {manager : Manager Data}
    (names : (networks.map Network.name).Nodup) (member : network ∈ networks)
    (isSubnet : parseCIDR network.subnet = some subnet)
    (reached : Reached yaml other networks manager) :
    manager.InStep yaml network := by
  induction reached with
  | started unread => exact inStep_newManager unread fun _ empty => pure_eq_ok.mp empty ▸ Fits.nil isSubnet
  | @called manager call _ on ih =>
    exact holds_of_changes (perform_changes call on manager)
      (fun _ _ change => InStep.changed names member isSubnet change) ih
  | restarted unread _ ih => exact inStep_newManager unread ih.file

/-- Whatever was allocated on the networks before, an allocation finds no address exactly if the
network counts none as free, and a definition's static IP is accepted exactly if the network could
give it out. -/
theorem addresses_counted (made : ∀ network ∈ networks, ∃ id spec, new other id spec = .ok network)
    (names : (networks.map Network.name).Nodup) (network : Network) (member : network ∈ networks) :
    (∀ manager, Manager.Reached yaml other networks manager →
      ∀ table, manager.allocationTableOf network.name = .ok table →
        ∀ instanceID, table.byInstance instanceID = none → ∀ draw,
          (manager.allocate yaml other network instanceID "" draw ⟨none, none⟩).1 = .error
            (noAvailableIPs network) ↔ (network.ipCounts table.allocations.length).2 = 0) ∧
      ∀ staticIP instanceID draw, checkStaticIP other network staticIP = .ok () ↔
        ∃ result, Tables.empty.allocate other network instanceID staticIP draw = .ok result := by
  obtain ⟨id, spec, isNew⟩ := made network member
  obtain ⟨subnet, gateway, roomy⟩ := new_roomy isNew
  refine ⟨fun manager reached table there instanceID missing draw => ?_, roomy.checkStaticIP_iff⟩
  have fits := ((reached.inStep names member roomy.parseCIDR_eq).agrees table there).1.fits
  simp only [Manager.allocate, there, missing, roomy.parseCIDR_eq]
  obtain ⟨ip, chosen, free⟩ | ⟨failed, full⟩ := roomy.chooseIP_cases other fits draw.offsets
  · simp only [chosen, Manager.saveAllocationTable, Manager.writeFile, free, iff_false]
    cases yaml.marshal (table.allocations ++ [⟨network.id, instanceID, ip, draw.mac⟩]) with
    | ok => exact fun failed => nomatch failed
    | error error =>
      -- An error of its own, told apart by its text.
      intro failed
      have texts := congrArg (fun error : Err => error.message.toList.head?)
        (Except.error.inj failed)
      simp [noAvailableIPs, Err.resourceExhausted] at texts
  · simp [failed, full]

end

/-- A manager with one instance on a network. -/
def occupied (network : Network) : Manager (List Allocation) :=
  ((newManager Yaml.plain (fun _ => none) fun _ => none).perform Yaml.plain (fun _ => none)
    (.allocate network "i1" "" ⟨[], "m1"⟩ ⟨none, none⟩)).2

/-- On a network with one address for an instance, the second gets none. -/
theorem addresses_counted_smallest : ∃ network,
    new (fun _ => none) "n1" ⟨"front", "10.1.0.0/30", "", 0, [], false, false⟩ = .ok network ∧
      ((occupied network).allocate Yaml.plain (fun _ => none) network "i2" "" ⟨[], "m2"⟩
        ⟨none, none⟩).1 = .error (noAvailableIPs network) ∧
      (checkStaticIP (fun _ => none) network "10.1.0.2" = .ok () ↔
        ∃ result, Tables.empty.allocate (fun _ => none) network "i1" "10.1.0.2" ⟨[], "m1"⟩ =
        .ok result) := by
  obtain ⟨network, isNew, held⟩ := exists_ok_of_any (fun network =>
      ((occupied network).allocationTableOf network.name).toOption.any (fun table =>
        table.byInstance "i2" = none ∧ (network.ipCounts table.allocations.length).2 = 0) = true)
    (new (fun _ => none) "n1" ⟨"front", "10.1.0.0/30", "", 0, [], false, false⟩) (by decide +kernel)
  obtain ⟨table, there, missing, full⟩ := exists_ok_of_any _ _ held
  obtain ⟨first, second⟩ := addresses_counted Yaml.plain _ [network] (fun same member =>
    ⟨"n1", _, List.mem_singleton.mp member ▸ isNew⟩) (List.nodup_singleton _) network
    List.mem_cons_self
  exact ⟨network, isNew, (first _ (.called _ (.started _) List.mem_cons_self) table there "i2"
    missing _).mpr full, second _ _ _⟩

end Dicer.Networks
