import Dicer.HostNet.Isolation
import Dicer.PacketFilter.Treatment

namespace Dicer.HostNet

open PacketFilter

/-!
# Reloads of firewalld

A reload flushes Dicer's rules, and the host network then sets every network that it remembers up
again, in any order. What becomes of a packet is what became of it before if it is for no published
port, since these are not remembered; if networks have gateways of their own; and if it is no reply
from an internal network's guest to another network's gateway, which the order of the networks
decides about.
-/

variable {surroundings : Surroundings} {packet : Packet} {below : Chain → Packet → Option Target}
  {rule : Rule} {table : Table} {chain : Chain} {network : Network} {uplink : String}
    {listenerPort : Nat} {start host after : Host}

/-- What becomes of a packet in a chain, with calls between chains up to a depth. -/
def Host.treatment (surroundings : Surroundings) (host : Host) (table : Table) (depth : Nat)
    (chain : Chain) (packet : Packet) : Option Target :=
  (meaning surroundings).treatment Rule.target (host.tables table) depth chain packet

/-- The packet is for no port that an instance publishes. -/
def Unpublished (surroundings : Surroundings) (host : Host) (packet : Packet) : Prop :=
  ∀ place ∈ publishedPlaces, ∀ rule ∈ host.tables place.1 place.2, rule.isPublished = true →
    (meaning surroundings).applies rule packet = false

instance : Decidable (Unpublished surroundings host packet) :=
  inferInstanceAs (Decidable (∀ place ∈ publishedPlaces, ∀ rule ∈ host.tables place.1 place.2, _))

/-- A reply from an internal network's bridge to the gateway of another network. -/
def CrossReply (host : Host) (packet : Packet) : Prop :=
  ∃ second firstNetwork secondNetwork, host.networks packet.inInterface = some firstNetwork ∧
    host.networks second = some secondNetwork ∧ packet.inInterface ≠ second ∧
      firstNetwork.internal = true ∧ packet.destination = secondNetwork.gateway ∧
      (packet.state = .established ∨ packet.state = .related)

/-- What a rule makes of a packet, given what the chains below make of it. -/
abbrev Rule.gives (rule : Rule) (surroundings : Surroundings)
    (below : Chain → Packet → Option Target) (packet : Packet) : Option Target :=
  (meaning surroundings).treats Rule.target below packet rule

/-- Nothing becomes of a packet but this. -/
abbrev AtMost (outcome : Target) (said : Option Target) : Prop := said = none ∨ said = some outcome

theorem treats_target (verdict : Verdict)
    (decides : (meaning surroundings).action rule packet = .decide verdict) :
    AtMost rule.target (rule.gives surroundings below packet) := by
  unfold Rule.gives Meaning.treats
  split
  · rw [decides]
    exact .inr rfl
  · exact .inl rfl

/-! ## The rules at the end of a chain -/

/-- What all rules at the end of a chain make of a packet that they apply to. -/
def endOutcome : Table → Chain → Target
  | .nat, _ => .masquerade
  | .filter, .dicerForward => .accept
  | .filter, _ => .drop

theorem bridgeRules_agree (stage2 : AtMost .drop (below .dicerIsolationStage2 packet))
    (member : rule ∈ bridgeRules uplink network table chain) :
    AtMost (endOutcome table chain) (rule.gives surroundings below packet) := by
  cases table <;> cases chain <;>
    simp only [bridgeRules, List.not_mem_nil, List.mem_cons, List.mem_append, or_false] at member
  · rcases member with isInternal | rfl
    · split at isInternal
      · rw [List.mem_singleton.mp isInternal]
        exact treats_target .drop rfl
      · cases isInternal
    · unfold Rule.gives Meaning.treats
      split
      · exact stage2
      · exact .inl rfl
  · subst member
    exact treats_target .drop rfl
  · rcases member with rfl | rfl | rfl <;> exact treats_target .accept rfl
  · subst member
    exact treats_target .accept rfl

theorem Described.stage2_treatment (described : Described listenerPort uplink start host)
    (depth : Nat) : AtMost .drop (host.treatment surroundings .filter depth .dicerIsolationStage2
      packet) := by
  cases depth with
  | zero => exact .inl rfl
  | succ depth =>
    cases treated : host.treatment surroundings .filter (depth + 1) .dicerIsolationStage2 packet
        with
    | none => exact .inl rfl
    | some =>
      rcases List.exists_of_findSome?_eq_some treated with ⟨rule, member, isTarget⟩
      rcases described.placed.stage2 rule member with ⟨bridge, rfl⟩
      have decides : (meaning surroundings).action (isolationStage2Rule bridge) packet =
        .decide .drop := rfl
      rcases treats_target .drop decides with silent | drops
      · exact nomatch silent.symm.trans isTarget
      · exact .inr (isTarget.symm.trans drops)

variable {own : List Rule} {networks : String → Option Network}

/-- A rule at the end of a chain that says something is a network's. -/
theorem Laid.speaks {head tail : List Rule}
    (laid : Laid uplink networks table chain own (host.tables table chain) head tail)
    (unpublished : Unpublished surroundings host packet) (member : rule ∈ tail)
    (speaks : rule.gives surroundings below packet ≠ none) :
    ∃ bridge network, networks bridge = some network ∧ rule ∈ bridgeRules uplink network table
    chain := by
  rcases laid.standing.known rule member with theirs | ⟨isPublished, isPlace⟩
  · exact theirs
  have isThere : rule ∈ host.tables table chain := by
    rw [laid.parts]
    exact List.mem_append.mpr (.inr member)
  exact absurd (Meaning.treats_of_not_applies (unpublished _ isPlace rule isThere isPublished))
    speaks

variable {firstOwn firstHead firstTail secondOwn secondHead secondTail rules : List Rule}
  {bridge gateway : String} {internal : Bool} {order : List Network}

theorem ends_agree (first : Laid uplink networks table chain firstOwn (host.tables table chain)
    firstHead firstTail) (second : Laid uplink networks table chain secondOwn
    (after.tables table chain) secondHead secondTail)
    (unpublished : Unpublished surroundings host packet)
    (unpublishedAfter : Unpublished surroundings after packet)
    (stage2 : AtMost .drop (below .dicerIsolationStage2 packet)) :
    firstTail.findSome? (·.gives surroundings below packet) =
      secondTail.findSome? (·.gives surroundings below packet) := by
  refine findSome_congr_agree (endOutcome table chain) ?_ ?_ ?_
  · intro rule member
    by_cases silent : rule.gives surroundings below packet = none
    · exact .inl silent
    · rcases first.speaks unpublished member silent with ⟨_, _, _, theirs⟩
      exact bridgeRules_agree stage2 theirs
  · intro rule member speaks
    rcases first.speaks unpublished member speaks with ⟨bridge, network, isNetwork, theirs⟩
    exact second.standing.there bridge network isNetwork rule theirs
  · intro rule member speaks
    rcases second.speaks unpublishedAfter member speaks with ⟨bridge, network, isNetwork, theirs⟩
    exact first.standing.there bridge network isNetwork rule theirs

/-- A chain of Dicer's in which no network has rules says nothing. -/
theorem Described.quiet (bare : Bare start) (described : Described listenerPort uplink start host)
    (unpublished : Unpublished surroundings host packet) (isDicers : chain ∈ dicerChains)
    (notInput : table = .filter → chain ≠ .dicerInput)
    (noRules : ∀ bridge network, host.networks bridge = some network →
      bridgeRules uplink network table chain = [])
    (depth : Nat) : host.treatment surroundings table depth chain packet = none := by
  cases depth with
  | zero => rfl
  | succ =>
    rcases described.laid table chain notInput with ⟨head, tail, laid⟩
    have noJumps : headJumps table chain = [] := by
      cases table <;> cases chain <;> first | rfl | simp [dicerChains] at isDicers
    have noHead : head = [] := laid.ahead.elim id (·.trans noJumps)
    have onlyTail : host.tables table chain = tail := by
      rw [laid.parts, noHead, bare.chains table chain isDicers]
      rfl
    refine List.findSome?_eq_none_iff.mpr ?_
    intro rule member
    by_contra speaks
    rw [onlyTail] at member
    rcases laid.speaks unpublished member speaks with ⟨bridge, network, isNetwork, theirs⟩
    rw [noRules bridge network isNetwork] at theirs
    exact List.not_mem_nil theirs

theorem Placed.input_eq_nil (placed : Placed listenerPort own host)
    (nothing : ∀ bridge network, host.networks bridge ≠ some network) :
    host.tables .filter .dicerInput = [] := by
  refine List.eq_nil_iff_forall_not_mem.mpr ?_
  intro rule member
  rcases placed.inputKnown rule member with ⟨bridge, network, isNetwork, _⟩
  exact nothing bridge network isNetwork

theorem Described.jumps_quiet (bare : Bare start)
    (described : Described listenerPort uplink start host)
    (unpublished : Unpublished surroundings host packet) (depth : Nat)
    (nothing : table = .filter → ∀ bridge network, host.networks bridge ≠ some network)
    (member : rule ∈ headJumps table chain) :
    rule.gives surroundings (host.treatment surroundings table depth) packet = none := by
  have jumpsTo : ∃ target ∈ dicerChains, rule.target = .jump target ∧
      (table = .nat → ∀ network, bridgeRules uplink network table target = []) := by
    cases table with
    | filter =>
      rcases List.mem_map.mp member with ⟨jump, isJump, rfl⟩
      have targets : ∀ jump ∈ dicerJumps, jump.target ∈ dicerChains := by decide
      exact ⟨jump.target, targets jump (List.mem_filter.mp isJump).1, rfl, nofun⟩
    | nat =>
      rcases List.mem_map.mp member with ⟨jump, isJump, rfl⟩
      exact ⟨.dicerDNAT, by decide, rfl, fun _ _ => rfl⟩
  rcases jumpsTo with ⟨target, isDicers, jumps, noRules⟩
  have quiet : host.treatment surroundings table depth target packet = none := by
    by_cases isInput : table = .filter ∧ target = .dicerInput
    · rcases isInput with ⟨rfl, rfl⟩
      cases depth with
      | zero => rfl
      | succ =>
        unfold Host.treatment Meaning.treatment
        rw [described.placed.input_eq_nil (nothing rfl)]
        rfl
    · refine described.quiet bare unpublished isDicers
        (fun isFilter isTarget => isInput ⟨isFilter, isTarget⟩) ?_ depth
      intro bridge network isNetwork
      cases table with
      | filter => exact absurd isNetwork (nothing rfl bridge network)
      | nat => exact noRules rfl network
  have action : (meaning surroundings).action rule packet = .jump target := by
    simp only [meaning, jumps]
  unfold Rule.gives Meaning.treats
  split
  · rw [action]
    exact quiet
  · rfl

theorem Placed.mem_input (placed : Placed listenerPort own host) :
    rule ∈ host.tables .filter .dicerInput ↔ ∃ bridge network, host.networks bridge = some network ∧
      rule ∈ inputRules network.bridge network.gateway listenerPort network.internal := by
  constructor
  · exact placed.inputKnown rule
  rintro ⟨bridge, network, isNetwork, theirs⟩
  rw [← placed.inputOrder bridge network isNetwork] at theirs
  exact (List.mem_filter.mp theirs).1

/-- Each input rule asks for its bridge, or for its gateway. -/
theorem inputRules_silent (member : rule ∈ inputRules bridge gateway listenerPort internal)
    (otherBridge : packet.inInterface ≠ bridge) (otherAddress : packet.destination ≠ gateway)
    : (meaning surroundings).applies rule packet = false := by
  have misses : ∀ (missed : Match), missed ∈ rule.matchers → missed.holds surroundings packet =
      false → (meaning surroundings).applies rule packet = false := by
    intro missed isMatch fails
    simp only [meaning, List.all_eq_false]
    exact ⟨missed, isMatch, by simp [fails]⟩
  have notBridge : (Match.inInterface bridge).holds surroundings packet = false := by
    simpa [Match.holds] using otherBridge
  have notGateway : (Match.destination gateway).holds surroundings packet = false := by
    simpa [Match.holds] using otherAddress
  rcases mem_inputRules.mp member with ⟨_, rfl⟩ | ⟨_, rfl | rfl | rfl | rfl⟩ | ⟨_, rfl⟩ | rfl
  on_goal 7 => exact misses _ List.mem_cons_self notGateway
  all_goals exact misses _ List.mem_cons_self notBridge

/-- A packet that is not for the bridge's own gateway, and no reply from an internal network, is at
most dropped. -/
theorem inputRules_drop (member : rule ∈ inputRules bridge gateway listenerPort internal)
    (elsewhere : ¬ (packet.inInterface = bridge ∧ packet.destination = gateway))
    (noReply : ¬ (internal = true ∧ packet.inInterface = bridge ∧
      (packet.state = .established ∨ packet.state = .related))) :
    AtMost .drop (rule.gives surroundings below packet) := by
  have silent : (meaning surroundings).applies rule packet = false →
      AtMost .drop (rule.gives surroundings below packet) :=
    fun notApplies => .inl (Meaning.treats_of_not_applies notApplies)
  rcases mem_inputRules.mp member with ⟨_, rfl⟩ | ⟨isInternal, rfl | rfl | rfl | rfl⟩ | ⟨_, rfl⟩ |
    rfl
  · exact treats_target .drop rfl
  · apply silent
    simp only [meaning, inputDNSRule, List.all_cons, Match.holds]
    grind
  · apply silent
    simp only [meaning, inputDNSRule, List.all_cons, Match.holds]
    grind
  · apply silent
    simp only [meaning, inputRepliesRule, List.all_cons, Match.holds, CtState.holds, List.any_cons]
    grind
  · exact treats_target .drop rfl
  · apply silent
    simp only [meaning, inputAcceptRule, List.all_cons, Match.holds]
    grind
  · exact treats_target .drop rfl

theorem input_agree (first : Placed listenerPort firstOwn host)
    (second : Placed listenerPort secondOwn after) (sameNetworks : after.networks = host.networks)
    (distinct : DistinctGateways host)
    (noReply : ¬ CrossReply host packet) :
    (host.tables .filter .dicerInput).findSome? (·.gives surroundings below packet) =
      (after.tables .filter .dicerInput).findSome? (·.gives surroundings below packet) := by
  have sameRules : ∀ rule, rule ∈ host.tables .filter .dicerInput ↔
      rule ∈ after.tables .filter .dicerInput := by
    intro rule
    rw [first.mem_input, second.mem_input, sameNetworks]
  have congr (agree : ∀ rule ∈ host.tables .filter .dicerInput,
      AtMost .drop (rule.gives surroundings below packet)) :=
    findSome_congr_agree Target.drop agree (fun rule member _ => (sameRules rule).mp member)
      fun rule member _ => (sameRules rule).mpr member
  by_cases cross : ∃ other network, host.networks other = some network ∧
      packet.destination = network.gateway ∧ packet.inInterface ≠ other
  · -- for another network's gateway every rule drops it, or says nothing
    rcases cross with ⟨other, otherNetwork, isOther, addressed, different⟩
    refine congr fun rule member => ?_
    rcases first.inputKnown rule member with ⟨bridge, network, isNetwork, theirs⟩
    have keyed := first.keyed bridge network isNetwork
    apply inputRules_drop theirs
    · rintro ⟨comesIn, own⟩
      rw [keyed] at comesIn
      have apart : bridge ≠ other := comesIn ▸ different
      exact distinct bridge other network otherNetwork isNetwork isOther apart
        (own.symm.trans addressed)
    · rintro ⟨isInternal, comesIn, isReply⟩
      rw [keyed] at comesIn
      exact noReply ⟨other, network, otherNetwork, comesIn ▸ isNetwork, isOther, different,
        isInternal, addressed, isReply⟩
  · have silent : ∀ bridge network, host.networks bridge = some network →
        packet.inInterface ≠ bridge →
        ∀ rule ∈ inputRules network.bridge network.gateway listenerPort network.internal,
          rule.gives surroundings below packet = none := by
      intro bridge network isNetwork different rule theirs
      apply Meaning.treats_of_not_applies
      apply inputRules_silent theirs
      · rw [first.keyed bridge network isNetwork]
        exact different
      · exact fun addressed => cross ⟨bridge, network, isNetwork, addressed, different⟩
    cases comesFrom : host.networks packet.inInterface with
    | none =>
      refine congr fun rule member => ?_
      rcases first.inputKnown rule member with ⟨bridge, network, isNetwork, theirs⟩
      refine .inl (silent bridge network isNetwork ?_ rule theirs)
      rintro rfl
      exact nomatch comesFrom.symm.trans isNetwork
    | some network =>
      -- only the rules of the network it comes from are left, and these keep their order
      have othersSilent : ∀ rule ∈ host.tables .filter .dicerInput,
          belongsTo packet.inInterface rule = false → rule.gives surroundings below packet =
              none := by
        intro rule member notOurs
        rcases first.inputKnown rule member with ⟨bridge, network, isNetwork, theirs⟩
        refine silent bridge network isNetwork ?_ rule theirs
        intro same
        have belongs := inputRules_belong theirs
        rw [first.keyed bridge network isNetwork, ← same, notOurs] at belongs
        exact nomatch belongs
      rw [← findSome_filter othersSilent,
        ← findSome_filter fun rule member => othersSilent rule ((sameRules rule).mpr member),
        first.inputOrder _ network comesFrom, second.inputOrder _ network
          (sameNetworks ▸ comesFrom)]

theorem heads_agree {firstRules : List Rule} {said : Rule → Option Target}
    (first : Laid uplink networks table chain own firstRules firstHead firstTail)
    (second : Laid uplink networks table chain own rules secondHead secondTail)
    (quiet : (table = .filter → ∀ bridge network, networks bridge ≠ some network) →
      ∀ jump ∈ headJumps table chain, said jump = none) :
      firstHead.findSome? said = secondHead.findSome? said := by
  by_cases nothing : table = .filter → ∀ bridge network, networks bridge ≠ some network
  · have silent : ∀ head, head = [] ∨ head = headJumps table chain →
        head.findSome? said = none := by
      rintro head (rfl | rfl)
      · rfl
      · exact List.findSome?_eq_none_iff.mpr (quiet nothing)
    rw [silent firstHead first.ahead, silent secondHead second.ahead]
  · simp only [not_forall, not_not] at nothing
    rcases nothing with ⟨isFilter, bridge, network, isNetwork⟩
    rw [first.jumped isFilter ⟨bridge, network, isNetwork⟩,
      second.jumped isFilter ⟨bridge, network, isNetwork⟩]

/-- What becomes of a packet depends on the networks that are set up, not on how they came to be. -/
theorem treatment_agree (bare : Bare start) (first : Described listenerPort uplink start host)
    (second : Described listenerPort uplink start after)
    (sameNetworks : after.networks = host.networks)
    (distinct : DistinctGateways host) (unpublished : Unpublished surroundings host packet)
    (unpublishedAfter : Unpublished surroundings after packet) (noReply : ¬ CrossReply host packet)
    (table : Table)
    (depth : Nat) (chain : Chain) :
    after.treatment surroundings table depth chain packet = host.treatment surroundings table depth
    chain packet := by
  induction depth generalizing chain with
  | zero => rfl
  | succ depth ih =>
    have sameBelow : (Rule.gives · surroundings (after.treatment surroundings table depth) packet) =
        (Rule.gives · surroundings (host.treatment surroundings table depth) packet) := by
      funext rule
      unfold Rule.gives Meaning.treats
      split
      · cases (meaning surroundings).action rule packet with
        | jump target => exact ih target
        | decide | pass => rfl
      · rfl
    change List.findSome? (Rule.gives · surroundings (after.treatment surroundings table depth)
      packet) _ = List.findSome? (Rule.gives · surroundings
      (host.treatment surroundings table depth) packet) _
    rw [sameBelow]
    by_cases isInput : table = .filter ∧ chain = .dicerInput
    · rcases isInput with ⟨rfl, rfl⟩
      exact (input_agree first.placed second.placed sameNetworks distinct noReply).symm
    have notInput : table = .filter → chain ≠ .dicerInput := fun isFilter isChain =>
      isInput ⟨isFilter, isChain⟩
    rcases first.laid table chain notInput with ⟨firstHead, firstTail, firstLaid⟩
    rcases second.laid table chain notInput with ⟨secondHead, secondTail, secondLaid⟩
    rw [sameNetworks] at secondLaid
    have heads := heads_agree firstLaid secondLaid fun nothing jump isJump =>
      first.jumps_quiet bare unpublished depth nothing isJump
    have stage2 : AtMost .drop (host.treatment surroundings table depth .dicerIsolationStage2
        packet) := by
      cases table with
      | filter => exact first.stage2_treatment depth
      | nat =>
        have isDicers : Chain.dicerIsolationStage2 ∈ dicerChains := by decide
        have notFilter : Table.nat = .filter → Chain.dicerIsolationStage2 ≠ .dicerInput := fun _ =>
          by decide
        exact .inl (first.quiet bare unpublished isDicers notFilter (fun _ _ _ => rfl) depth)
    have tails := ends_agree firstLaid secondLaid unpublished unpublishedAfter stage2
    rw [firstLaid.parts, secondLaid.parts]
    simp only [List.findSome?_append]
    exact congrArg₂ Option.or (congrArg (Option.or · _) heads.symm) tails.symm

/-! ## The reload -/

/-- A reload flushes the rules, and the networks that are remembered are set up again, one after the
other. -/
def Host.reloaded (listenerPort : Nat) (uplink : String) (host : Host) (order : List Network) :
    Host :=
  Host.run listenerPort (order.map fun network => .setupBridge network (some uplink))
    { host with tables := host.tables.flush }

abbrev setups (uplink : String) (order : List Network) : List Operation :=
  order.map fun network => .setupBridge network (some uplink)

theorem run_setups_tables (order : List Network) (same : after.tables = host.tables) :
    (after.run listenerPort (setups uplink order)).tables =
    (host.run listenerPort (setups uplink order)).tables := by
  induction order generalizing host after with
  | nil => exact same
  | cons network rest ih =>
    refine ih ?_
    simp only [Host.apply, same]

theorem run_setups_networks (known : ∀ network ∈ order, networks network.bridge = some network)
    (rest : ∀ bridge, host.networks bridge = networks bridge ∨ ∃ network ∈ order,
      network.bridge = bridge) :
    (host.run listenerPort (setups uplink order)).networks = networks := by
  induction order generalizing host with
  | nil =>
    funext bridge
    rcases rest bridge with same | ⟨network, impossible, _⟩
    · exact same
    · exact nomatch impossible
  | cons network others ih =>
    refine ih (fun other member => known other (List.mem_cons_of_mem network member)) ?_
    intro bridge
    by_cases same : bridge = network.bridge
    · left
      subst same
      exact (Function.update_self ..).trans (known network List.mem_cons_self).symm
    · rcases rest bridge with kept | ⟨other, member, isBridge⟩
      · exact .inl ((Function.update_of_ne same ..).trans kept)
      rcases List.mem_cons.mp member with rfl | later
      · exact absurd isBridge.symm same
      · exact .inr ⟨other, later, isBridge⟩

/-- After the reload everything is as if only the remembered networks had been set up. -/
theorem reloaded_eq (bare : Bare start) (described : Described listenerPort uplink start host)
    (remembered : ∀ network, network ∈ order ↔ ∃ bridge, host.networks bridge = some network) :
    host.reloaded listenerPort uplink order = start.run listenerPort (setups uplink order) ∧
      (host.reloaded listenerPort uplink order).networks = host.networks := by
  have keyed := described.placed.keyed
  have known : ∀ network ∈ order, host.networks network.bridge = some network := by
    intro network member
    rcases (remembered network).mp member with ⟨bridge, isNetwork⟩
    rw [keyed bridge network isNetwork]
    exact isNetwork
  have fromThere : (host.reloaded listenerPort uplink order).networks = host.networks :=
    run_setups_networks known fun _ => .inl rfl
  have fromNothing : (start.run listenerPort (setups uplink order)).networks = host.networks := by
    refine run_setups_networks known ?_
    intro bridge
    cases isNetwork : host.networks bridge with
    | none => exact .inl (congrFun bare.networks bridge)
    | some network =>
      exact .inr ⟨network, (remembered network).mpr ⟨bridge, isNetwork⟩, keyed bridge network isNetwork⟩
  have sameTables : (host.reloaded listenerPort uplink order).tables =
      (start.run listenerPort (setups uplink order)).tables :=
    run_setups_tables order (described.flush bare)
  have ext : ∀ first second : Host, first.tables = second.tables →
      first.networks = second.networks → first = second := by
    rintro ⟨_, _⟩ ⟨_, _⟩ rfl rfl
    rfl
  exact ⟨ext _ _ sameTables (fromThere.trans fromNothing.symm), fromThere⟩

theorem mem_of_mem_foldl_ensured {wanted : List Rule} (member : rule ∈ wanted.foldl ensured rules) :
    rule ∈ wanted ∨ rule ∈ rules := by
  induction wanted generalizing rules with
  | nil => exact .inr member
  | cons first rest ih =>
    rcases ih member with later | earlier
    · exact .inl (List.mem_cons_of_mem first later)
    rcases mem_of_mem_ensured earlier with rfl | before
    · exact .inl List.mem_cons_self
    · exact .inr before

abbrev PublishesNothing (host : Host) : Prop :=
  ∀ place ∈ publishedPlaces, ∀ rule ∈ host.tables place.1 place.2, rule.isPublished = false

theorem Bare.publishesNothing (bare : Bare start) : PublishesNothing start := by
  intro place isPlace rule member
  have isDicers : ∀ place ∈ publishedPlaces, place.2 ∈ dicerChains := by decide
  rw [bare.chains place.1 place.2 (isDicers place isPlace)] at member
  exact nomatch member

theorem unpublished_setups (order : List Network) (nothing : PublishesNothing host) :
    PublishesNothing (host.run listenerPort (setups uplink order)) := by
  induction order generalizing host with
  | nil => exact nothing
  | cons network rest ih =>
    refine ih fun place isPlace rule member => ?_
    have notHead : ∀ place ∈ publishedPlaces, place.1 = .filter →
        place.2 ≠ .forward ∧ place.2 ≠ .input ∧ place.2 ≠ .dicerInput := by decide
    change rule ∈ setUpTables host.tables listenerPort network uplink place.1 place.2 at member
    rw [setUpTables_apply _ _ _ _ _ _ (notHead place isPlace)] at member
    rcases mem_of_mem_foldl_ensured member with wanted | earlier
    · rcases comment_of_mem_bridgeRules wanted with ⟨kind, isKind, named⟩
      cases isPublished : rule.isPublished with
      | false => rfl
      | true => exact absurd named (published_ne isPublished (endKinds_of_ruleKinds isKind))
    · exact nothing place isPlace rule (Standing.mem_cleared.mp earlier).1

/-- What a target decides. -/
def Target.verdict (surroundings : Surroundings) (target : Target) (packet : Packet) :
    Option Verdict :=
  match target with
  | .accept | .masquerade | .dnat _ _ => some .accept
  | .drop => some .drop
  | .jump _ => none
  | .host text =>
    match surroundings.hostAction text packet with
    | .decide verdict => some verdict
    | _ => none

theorem verdict_eq_treatment (depth : Nat) (chain : Chain) :
      host.verdict surroundings depth chain packet =
      (host.treatment surroundings .filter depth chain packet).bind
      (Target.verdict surroundings · packet) := by
  refine Meaning.traverse_eq ?_ depth chain
  intro rule verdict decides
  unfold Target.verdict
  cases isTarget : rule.target <;> simp_all [meaning]

/-- In every state that setups, teardowns, publications and their removals lead to from a host
without any of Dicer's rules, if each setup finds the same uplink and the networks set up have
gateways of their own: once firewalld has flushed the rules and the remembered networks are set up
again, in any order, what becomes of a packet in any chain is what became of it before, and so is
the verdict about it, unless it is for a port that is published or a reply from an internal network
to another network's gateway. -/
theorem reload_restores (surroundings : Surroundings) (listenerPort : Nat) {start : Host}
    (bare : Bare start) {uplink : String} (operations : List Operation)
    (find : ∀ operation ∈ operations, operation.Finds uplink)
    (distinct : DistinctGateways (start.run listenerPort operations)) {order : List Network}
    (remembered : ∀ network, network ∈ order ↔
      ∃ bridge, (start.run listenerPort operations).networks bridge = some network)
      {packet : Packet}
    (unpublished : Unpublished surroundings (start.run listenerPort operations) packet)
    (noReply : ¬ CrossReply (start.run listenerPort operations) packet) (depth : Nat)
    (chain : Chain) :
    (∀ table, ((start.run listenerPort operations).reloaded listenerPort uplink order).treatment
      surroundings table depth chain packet = (start.run listenerPort operations).treatment
      surroundings table depth chain packet) ∧
    ((start.run listenerPort operations).reloaded listenerPort uplink order).verdict surroundings
      depth chain packet = (start.run listenerPort operations).verdict surroundings depth chain
      packet := by
  have described : Described listenerPort uplink start _ := described_run bare find
  rcases reloaded_eq bare described remembered with ⟨rebuilt, sameNetworks⟩
  have finds : ∀ operation ∈ setups uplink order, operation.Finds uplink := by
    intro operation member
    rcases List.mem_map.mp member with ⟨_, _, rfl⟩
    rfl
  have describedAfter : Described listenerPort uplink start
      ((start.run listenerPort operations).reloaded listenerPort uplink order) := by
    rw [rebuilt]
    exact described_run bare finds
  have unpublishedAfter : Unpublished surroundings
      ((start.run listenerPort operations).reloaded listenerPort uplink order) packet := by
    rw [rebuilt]
    intro place isPlace rule member isPublished
    exact nomatch isPublished.symm.trans
      (unpublished_setups order bare.publishesNothing place isPlace rule member)
  have agree := treatment_agree bare described describedAfter sameNetworks distinct unpublished
    unpublishedAfter noReply
  refine ⟨fun table => agree table depth chain, ?_⟩
  rw [verdict_eq_treatment, verdict_eq_treatment, agree]

theorem bare_bareHost : Bare bareHost where
  networks := rfl
  chains := fun _ _ _ => rfl
  foreign := nofun

/-- A guest's connection out to the uplink. -/
def outward : Packet := ⟨"dicer-front", "eth0", "192.0.2.1", "tcp", 443, .new, false⟩

theorem reload_restores_outward :
    (bareHost.run 7443 frontAndBack).verdict plainSurroundings 3 .forward outward = some .accept ∧
      ((bareHost.run 7443 frontAndBack).reloaded 7443 "eth0" [frontNetwork, backNetwork]).verdict
        plainSurroundings 3 .forward outward = some .accept := by
  have before : (bareHost.run 7443 frontAndBack).verdict plainSurroundings 3 .forward outward =
      some .accept := by
    decide +kernel
  have find : ∀ operation ∈ frontAndBack, operation.Finds "eth0" := by
    simp [frontAndBack, Operation.Finds]
  have remembered : ∀ network, network ∈ [frontNetwork, backNetwork] ↔
      ∃ bridge, (bareHost.run 7443 frontAndBack).networks bridge = some network := by
    intro network
    simp [frontAndBack_networks, exists_or]
  have unpublished : Unpublished plainSurroundings (bareHost.run 7443 frontAndBack) outward := by
    decide +kernel
  have noReply : ¬ CrossReply (bareHost.run 7443 frontAndBack) outward := by
    rintro ⟨_, _, _, _, _, _, _, _, isReply | isReply⟩ <;> exact absurd isReply (by decide)
  refine ⟨before, ?_⟩
  rw [(reload_restores plainSurroundings 7443 bare_bareHost frontAndBack find frontAndBack_distinct
    remembered unpublished noReply 3 .forward).2]
  exact before

def webHost : Host := bareHost.run 7443
  [.setupBridge frontNetwork (some "eth0"), .publishPorts frontNetwork "web" "10.2.0.2"
  [⟨"", 8080, 80, ""⟩] fun _ => false]

/-- The host is addressed. -/
def addressedSurroundings : Surroundings := { plainSurroundings with isLocal := fun _ => true }

/-- A connection to the published port, before its destination is rewritten, and after. -/
def toPort : Packet := ⟨"eth0", "", "192.0.2.1", "tcp", 8080, .new, false⟩

def toGuest : Packet := ⟨"eth0", "dicer-front", "10.2.0.2", "tcp", 80, .new, true⟩

/-- The instance still publishes its port, but nothing redirects connections to it any more, or lets
them through. -/
theorem reload_loses_ports :
    webHost.treatment addressedSurroundings .nat 2 .prerouting toPort = some (.dnat "10.2.0.2" 80) ∧
      webHost.treatment addressedSurroundings .filter 2 .forward toGuest = some .accept ∧
      (webHost.reloaded 7443 "eth0" [frontNetwork]).networks = webHost.networks ∧
      (webHost.reloaded 7443 "eth0" [frontNetwork]).treatment addressedSurroundings .nat 2
      .prerouting toPort = none ∧
      (webHost.reloaded 7443 "eth0" [frontNetwork]).treatment addressedSurroundings .filter 2
      .forward toGuest = none := by
  refine ⟨by decide +kernel, by decide +kernel, ?_, by decide +kernel, by decide +kernel⟩
  exact Function.update_idem ..

end Dicer.HostNet
