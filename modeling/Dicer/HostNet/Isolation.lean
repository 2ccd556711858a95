import Dicer.HostNet.Description

namespace Dicer.HostNet

open PacketFilter Function

variable {bridge : String} {network : Network}

/-!
# Networks are kept apart

What becomes of a packet is read off the placement of the rules.  It depends on the order of the
jumps in FORWARD, and on the order of each network's own rules in DICER-INPUT, but not on how the
rules of different networks are interleaved.
-/

section Packets

variable {surroundings : Surroundings} {below : Chain → Packet → Option Verdict} {packet : Packet}

/-- What a chain of the filter table says about a packet, with calls between chains up to a
depth. -/
def Host.verdict (surroundings : Surroundings) (host : Host) (depth : Nat) (chain : Chain)
    (packet : Packet) : Option Verdict :=
  (meaning surroundings).traverse (host.tables .filter) depth chain packet

theorem decides_internalRule (bridge : String) :
    (meaning surroundings).decides below packet (internalRule bridge) =
      if packet.inInterface = bridge ∧ packet.outInterface ≠ bridge ∧ packet.state ≠ .established ∧
        packet.state ≠ .related then some .drop else none := by
  simp [Meaning.decides, meaning, internalRule, Match.holds, CtState.holds]

theorem decides_isolationStage1Rule (bridge : String) :
    (meaning surroundings).decides below packet (isolationStage1Rule bridge) =
      if packet.inInterface = bridge ∧ packet.outInterface ≠ bridge then
        below .dicerIsolationStage2 packet else none := by
  simp [Meaning.decides, meaning, isolationStage1Rule, Match.holds]

theorem decides_isolationStage2Rule (bridge : String) :
    (meaning surroundings).decides below packet (isolationStage2Rule bridge) =
      if packet.outInterface = bridge then some .drop else none := by
  simp [Meaning.decides, meaning, isolationStage2Rule, Match.holds]

theorem decides_jump (comment : String) (chain : Chain) :
    (meaning surroundings).decides below packet ⟨[], comment, .jump chain⟩ = below chain
    packet := by
  simp [Meaning.decides, meaning]

variable {listenerPort : Nat} {own : List Rule} {host : Host}

section

variable (placed : Placed listenerPort own host)
include placed

theorem Placed.stage2_blocks :
    ∀ rule ∈ host.tables .filter .dicerIsolationStage2, (meaning surroundings).Blocks below packet
    rule := by
  intro rule member
  rcases placed.stage2 rule member with ⟨bridge, rfl⟩
  unfold Meaning.Blocks
  rw [decides_isolationStage2Rule]
  split <;> simp

theorem Placed.stage1_blocks (depth : Nat) : ∀ rule ∈ host.tables .filter .dicerIsolationStage1,
      (meaning surroundings).Blocks ((meaning surroundings).traverse (host.tables .filter)
        (depth + 1)) packet rule := by
  intro rule member
  unfold Meaning.Blocks
  rcases placed.stage1 rule member with ⟨bridge, rfl | rfl⟩
  · rw [decides_internalRule]
    split <;> simp
  rw [decides_isolationStage1Rule]
  split
  · exact Meaning.scan_ne_accept placed.stage2_blocks
  · simp

/-- A packet that stage 1 drops is dropped in FORWARD, ahead of everything that could accept it. -/
theorem Placed.forward_drop (setUp : host.networks bridge = some network) {depth : Nat}
    (dropped : host.verdict surroundings (depth + 1) .dicerIsolationStage1 packet = some .drop) :
    host.verdict surroundings (depth + 2) .forward packet = some .drop := by
  have empty : host.verdict surroundings (depth + 1) .dicerUser packet = none := by
    unfold Host.verdict Meaning.traverse
    rw [placed.user]
    rfl
  unfold Host.verdict at dropped empty ⊢
  rw [Meaning.traverse, placed.jumped bridge network setUp]
  simp only [forwardJumps, List.cons_append, Meaning.scan, decides_jump, empty, dropped]

/-- A packet from one network's bridge to another's, or one that opens a connection from an internal
network's bridge to anywhere beyond it, is dropped. -/
theorem Placed.isolates {first second : String} {firstNetwork secondNetwork : Network}
    (firstSetUp : host.networks first = some firstNetwork)
    (secondSetUp : host.networks second = some secondNetwork)
    (different : first ≠ second) (comesIn : packet.inInterface = first)
    (goesOut : packet.outInterface = second)
    (depth : Nat) : host.verdict surroundings (depth + 3) .forward packet = some .drop := by
  apply placed.forward_drop firstSetUp
  have stage2 : host.verdict surroundings (depth + 1) .dicerIsolationStage2 packet =
      some .drop := by
    apply Meaning.scan_drop placed.stage2_blocks
    refine ⟨isolationStage2Rule second, (placed.isolated second secondNetwork secondSetUp).2, ?_⟩
    rw [decides_isolationStage2Rule, if_pos goesOut]
  apply Meaning.scan_drop (placed.stage1_blocks depth)
  refine ⟨isolationStage1Rule first, (placed.isolated first firstNetwork firstSetUp).1, ?_⟩
  have leaves : packet.outInterface ≠ first := by
    rw [goesOut]
    exact different.symm
  rw [decides_isolationStage1Rule, if_pos ⟨comesIn, leaves⟩]
  exact stage2

theorem Placed.contains (setUp : host.networks bridge = some network)
    (internal : network.internal = true) (comesIn : packet.inInterface = bridge)
    (leaves : packet.outInterface ≠ bridge) (starts : packet.state = .new)
    (depth : Nat) : host.verdict surroundings (depth + 3) .forward packet = some .drop := by
  apply placed.forward_drop setUp
  apply Meaning.scan_drop (placed.stage1_blocks depth)
  refine ⟨internalRule bridge, placed.internal bridge network setUp internal, ?_⟩
  rw [decides_internalRule, if_pos ⟨comesIn, leaves, by rw [starts]; decide,
    by rw [starts]; decide⟩]

end

variable {rule : Rule}

theorem blocks_drop (drops : rule.target = .drop) :
    (meaning surroundings).Blocks below packet rule := by
  unfold Meaning.Blocks Meaning.decides
  simp only [meaning, drops]
  split <;> simp

theorem blocks_unmatched {missed : Match} (member : missed ∈ rule.matchers)
    (fails : missed.holds surroundings packet = false) :
    (meaning surroundings).Blocks below packet rule := by
  have notApplies : (meaning surroundings).applies rule packet = false := by
    simp only [meaning, List.all_eq_false]
    exact ⟨missed, member, by simp [fails]⟩
  unfold Meaning.Blocks Meaning.decides
  simp [notApplies]

/-- A network's input rules accept nothing from another bridge, and no packet that opens a
connection to another address than its gateway. -/
theorem inputRules_block {gateway : String} {internal : Bool}
    (member : rule ∈ inputRules bridge gateway listenerPort internal)
    (elsewhere : packet.inInterface ≠ bridge ∨
      (packet.destination ≠ gateway ∧ packet.state = .new)) :
    (meaning surroundings).Blocks below packet rule := by
  have asksBridge : Match.inInterface bridge ∈ rule.matchers → packet.inInterface ≠ bridge →
      (meaning surroundings).Blocks below packet rule :=
    fun asks other => blocks_unmatched asks (by simpa [Match.holds] using other)
  have asksGateway : Match.destination gateway ∈ rule.matchers → packet.destination ≠ gateway →
      (meaning surroundings).Blocks below packet rule :=
    fun asks other => blocks_unmatched asks (by simpa [Match.holds] using other)
  rcases mem_inputRules.mp member with ⟨_, rfl⟩ | ⟨_, rfl | rfl | rfl | rfl⟩ | ⟨_, rfl⟩ | rfl
  · exact blocks_drop rfl
  · exact elsewhere.elim (asksBridge (by simp [inputDNSRule])) fun other =>
      asksGateway (by simp [inputDNSRule]) other.1
  · exact elsewhere.elim (asksBridge (by simp [inputDNSRule])) fun other =>
      asksGateway (by simp [inputDNSRule]) other.1
  · rcases elsewhere with otherBridge | ⟨_, starts⟩
    · exact asksBridge (by simp [inputRepliesRule]) otherBridge
    have notReply : (Match.ctstate [.established, .related]).holds surroundings packet = false := by
      simp [Match.holds, CtState.holds, starts]
    exact blocks_unmatched (by simp [inputRepliesRule]) notReply
  · exact blocks_drop rfl
  · exact elsewhere.elim (asksBridge (by simp [inputAcceptRule])) fun other =>
      asksGateway (by simp [inputAcceptRule]) other.1
  · exact blocks_drop rfl

/-- Networks that are set up have gateways of their own. -/
def DistinctGateways (host : Host) : Prop :=
  ∀ first second firstNetwork secondNetwork, host.networks first = some firstNetwork →
    host.networks second = some secondNetwork → first ≠ second →
    firstNetwork.gateway ≠ secondNetwork.gateway

theorem Placed.guardsGateway (placed : Placed listenerPort own host)
    (distinct : DistinctGateways host) (setUp : host.networks bridge = some network)
    (addressed : packet.destination = network.gateway)
    (starts : packet.state = .new) (otherBridge : packet.inInterface ≠ bridge) (depth : Nat) :
    host.verdict surroundings (depth + 1) .dicerInput packet = some .drop := by
  apply Meaning.scan_drop
  · intro rule member
    rcases placed.inputKnown rule member with ⟨other, otherNetwork, otherSetUp, inRules⟩
    apply inputRules_block inRules
    by_cases same : other = bridge
    · left
      rw [placed.keyed other otherNetwork otherSetUp, same]
      exact otherBridge
    · right
      rw [addressed]
      exact ⟨distinct bridge other network otherNetwork setUp otherSetUp (.symm same), starts⟩
  · refine ⟨inputDropRule network.bridge network.gateway, ?_, ?_⟩
    · apply List.mem_of_mem_filter
      rw [placed.inputOrder bridge network setUp]
      exact inputDropRule_mem
    · simp [Meaning.decides, meaning, inputDropRule, Match.holds, addressed]

theorem Placed.guardsListener (placed : Placed listenerPort own host) (listens : listenerPort ≠ 0)
    (setUp : host.networks bridge = some network) (comesIn : packet.inInterface = bridge)
    (overTCP : packet.protocol = "tcp") (toListener : packet.dport = listenerPort) (depth : Nat) :
    host.verdict surroundings (depth + 1) .dicerInput packet = some .drop := by
  apply Meaning.scan_drop_of_filter (belongsTo bridge)
  · intro rule member notOurs
    rcases placed.inputKnown rule member with ⟨other, otherNetwork, otherSetUp, inRules⟩
    apply inputRules_block inRules
    left
    intro same
    have belongs := inputRules_belong inRules
    rw [← same, comesIn, notOurs] at belongs
    exact Bool.noConfusion belongs
  · have keyed := placed.keyed bridge network setUp
    rw [placed.inputOrder bridge network setUp]
    simp only [inputRules, if_pos listens, List.cons_append]
    apply Meaning.scan_cons_drop
    simp [Meaning.decides, meaning, inputListenerDropRule, Match.holds, comesIn, overTCP,
      toListener, keyed]

/-- After any sequence of setups, teardowns, publications and their removals on a host that had none
of Dicer's rules: packets between different networks' bridges are dropped; so are packets that open
a connection from an internal network's bridge to beyond it; packets that open a connection to a
network's gateway are dropped by DICER-INPUT unless they come in on that network's bridge; and so
are a bridge's TCP packets to the daemon's listener. -/
theorem networks_are_isolated (surroundings : Surroundings) (listenerPort : Nat) {start : Host}
    (untouched : Untouched start) (operations : List Operation)
    (distinct : DistinctGateways (start.run listenerPort operations)) {bridge : String}
    {network : Network}
    (setUp : (start.run listenerPort operations).networks bridge = some network) (packet : Packet)
    (depth : Nat) :
    (∀ other otherNetwork, (start.run listenerPort operations).networks other = some otherNetwork →
      other ≠ bridge → packet.inInterface = bridge → packet.outInterface = other →
        (start.run listenerPort operations).verdict surroundings (depth + 3) .forward packet =
        some .drop) ∧
    (network.internal = true → packet.inInterface = bridge → packet.outInterface ≠ bridge →
        packet.state = .new → (start.run listenerPort operations).verdict surroundings (depth + 3)
        .forward packet = some .drop) ∧
    (packet.destination = network.gateway → packet.state = .new → packet.inInterface ≠ bridge →
      (start.run listenerPort operations).verdict surroundings (depth + 1) .dicerInput packet =
      some .drop) ∧
    (listenerPort ≠ 0 → packet.inInterface = bridge → packet.protocol = "tcp" →
        packet.dport = listenerPort → (start.run listenerPort operations).verdict surroundings
          (depth + 1) .dicerInput packet = some .drop) := by
  have placed : Placed listenerPort (start.tables .filter .forward)
      (start.run listenerPort operations) :=
    placed_run untouched operations
  refine ⟨?_, ?_, ?_, ?_⟩
  · intro other otherNetwork otherSetUp different comesIn goesOut
    exact placed.isolates setUp otherSetUp different.symm comesIn goesOut depth
  · intro internal comesIn leaves starts
    exact placed.contains setUp internal comesIn leaves starts depth
  · intro addressed starts otherBridge
    exact placed.guardsGateway distinct setUp addressed starts otherBridge depth
  · intro listens comesIn overTCP toListener
    exact placed.guardsListener listens setUp comesIn overTCP toListener depth

end Packets

/-! ## Two networks -/

def bareHost : Host := ⟨fun _ _ => [], fun _ => none⟩

def backNetwork : Network := ⟨"dicer-back", "10.1.0.0/24", "10.1.0.1", true⟩

def frontNetwork : Network := ⟨"dicer-front", "10.2.0.0/24", "10.2.0.1", false⟩

def frontAndBack : List Operation :=
  [.setupBridge backNetwork (some "eth0"), .setupBridge frontNetwork (some "eth0"),
    .publishPorts backNetwork "db" "10.1.0.2" [⟨"", 5432, 5432, ""⟩] (fun _ => false)]

/-- A redirected connection from one network's guest to a port the other publishes. -/
def acrossPacket : Packet := ⟨"dicer-front", "dicer-back", "10.1.0.2", "tcp", 5432, .new, true⟩

def plainSurroundings : Surroundings where
  inSubnet := fun _ _ => false
  fromSubnet := fun _ _ => false
  isLocal := fun _ => false
  hostMatch := fun _ _ => false
  hostAction := fun _ _ => .pass

theorem frontAndBack_networks : (bareHost.run 7443 frontAndBack).networks bridge = some network ↔
      (bridge = "dicer-front" ∧ network = frontNetwork) ∨
      (bridge = "dicer-back" ∧ network = backNetwork) := by
  have networks : (bareHost.run 7443 frontAndBack).networks =
      update (update (fun _ => none) "dicer-back" (some backNetwork)) "dicer-front"
        (some frontNetwork) := rfl
  rw [networks]
  constructor
  · intro setUp
    by_cases front : bridge = "dicer-front"
    · rw [front, update_self] at setUp
      exact .inl ⟨front, (Option.some.inj setUp).symm⟩
    rw [update_of_ne front] at setUp
    by_cases back : bridge = "dicer-back"
    · rw [back, update_self] at setUp
      exact .inr ⟨back, (Option.some.inj setUp).symm⟩
    · simp [update_of_ne back] at setUp
  · rintro (⟨rfl, rfl⟩ | ⟨rfl, rfl⟩) <;> rfl

theorem frontAndBack_distinct : DistinctGateways (bareHost.run 7443 frontAndBack) := by
  intro first second firstNetwork secondNetwork firstSetUp secondSetUp different
  rcases frontAndBack_networks.mp firstSetUp with ⟨rfl, rfl⟩ | ⟨rfl, rfl⟩ <;>
    rcases frontAndBack_networks.mp secondSetUp with ⟨rfl, rfl⟩ | ⟨rfl, rfl⟩
  · exact absurd rfl different
  · decide
  · decide
  · exact absurd rfl different

theorem networks_are_isolated_front_back :
    (bareHost.run 7443 frontAndBack).verdict plainSurroundings 3 .forward acrossPacket =
    some .drop := by
  have untouched : Untouched bareHost := by
    constructor <;> simp [bareHost]
  have frontSetUp : (bareHost.run 7443 frontAndBack).networks "dicer-front" = some frontNetwork :=
    rfl
  exact (networks_are_isolated plainSurroundings 7443 untouched frontAndBack frontAndBack_distinct
    frontSetUp acrossPacket 0).1 "dicer-back" backNetwork rfl (by decide) rfl rfl

end Dicer.HostNet
