import Dicer.HostNet.Changes

namespace Dicer.HostNet

open Function

/-!
# What a history leaves

After any history every chain but DICER-INPUT is the host's own with jumps at its head and rules at
its end.  The jumps are those of Dicer's that leave that chain, or none; the rules at the end are
those of the networks that are set up and of published ports, and no others.  In DICER-INPUT each
network's rules keep their order, with others' between them in any way.
-/

variable {table : Table} {chain : Chain} {network : Network}
  {uplink bridge kind name instanceID : String} {rule other : Rule}

theorem endKinds_known (member : kind ∈ endKinds table chain) :
    kind ∈ commentKinds ∧ kind ≠ "dicer-port-" := by
  cases table <;> cases chain <;>
    simp only [endKinds, List.not_mem_nil, List.mem_cons, or_false] at member
  · rcases member with rfl | rfl <;> decide
  · subst member
    decide
  · rcases member with rfl | rfl | rfl <;> decide
  · subst member
    decide

/-- What the comments of a network's rules start with. -/
def ruleKinds (internal : Bool) : Table → Chain → List String
  | .filter, .dicerIsolationStage1 => (if internal then ["dicer-internal-"] else []) ++
    ["dicer-isolation-s1-"]
  | table, chain => endKinds table chain

theorem comments_bridgeRules : (bridgeRules uplink network table chain).map Rule.comment =
    (ruleKinds network.internal table chain).map (· ++ network.bridge) := by
  cases table <;> cases chain <;> try rfl
  simp only [bridgeRules, ruleKinds]
  split <;> rfl

theorem ruleKinds_nodup {internal : Bool} : (ruleKinds internal table chain).Nodup := by
  cases table <;> cases chain <;> cases internal <;> first | exact List.nodup_nil | decide

theorem endKinds_of_ruleKinds {internal : Bool} (member : kind ∈ ruleKinds internal table chain) :
    kind ∈ endKinds table chain := by
  cases table <;> cases chain <;> try exact member
  cases internal <;> simp_all [ruleKinds, endKinds, or_comm]

/-- Only the rule that keeps an internal network in is not every network's. -/
theorem ruleKinds_or_internal {old internal : Bool} (member : kind ∈ ruleKinds old table chain) :
    kind ∈ ruleKinds internal table chain ∨
      (internal = false ∧ table = .filter ∧ chain = .dicerIsolationStage1 ∧
      kind = "dicer-internal-") := by
  cases table <;> cases chain <;> try exact .inl member
  cases old <;> cases internal <;> simp_all [ruleKinds, or_comm]

theorem comment_of_mem_bridgeRules (member : rule ∈ bridgeRules uplink network table chain) :
    ∃ kind ∈ ruleKinds network.internal table chain, rule.comment = kind ++ network.bridge := by
  have isComment : rule.comment ∈ (bridgeRules uplink network table chain).map Rule.comment :=
    List.mem_map_of_mem member
  rw [comments_bridgeRules] at isComment
  rcases List.mem_map.mp isComment with ⟨kind, isKind, named⟩
  exact ⟨kind, isKind, named.symm⟩

theorem bridge_of_named (theirs : rule ∈ bridgeRules uplink network table chain)
    (isKind : kind ∈ endKinds table chain) (named : rule.comment = kind ++ bridge) :
    network.bridge = bridge := by
  rcases comment_of_mem_bridgeRules theirs with ⟨theirKind, isTheirKind, theirName⟩
  exact (comment_inj (endKinds_known (endKinds_of_ruleKinds isTheirKind)).1
    (endKinds_known isKind).1 (theirName.symm.trans named)).2

theorem comments_nodup : ((bridgeRules uplink network table chain).map Rule.comment).Nodup := by
  rw [comments_bridgeRules]
  exact .map (fun first second same => (String.append_left_inj _).mp same) ruleKinds_nodup

theorem published_ne (isPublished : rule.isPublished = true)
    (isKind : kind ∈ endKinds table chain) : rule.comment ≠ kind ++ bridge := by
  intro same
  have starts := List.isPrefixOf_iff_prefix.mp isPublished
  rw [same, String.toList_append] at starts
  rcases endKinds_known isKind with ⟨isKnown, different⟩
  have isPort : "dicer-port-" ∈ commentKinds := by decide
  rcases List.prefix_or_prefix_of_prefix starts (List.prefix_append kind.toList bridge.toList)
    with within | within
  · exact different (commentKinds_apart _ isPort kind isKnown within).symm
  · exact different (commentKinds_apart kind isKnown _ isPort within)

theorem commentKinds_dicers : ∀ kind ∈ commentKinds, "dicer-".toList <+: kind.toList :=
    by decide +kernel

theorem isDicers_of_kind (isKind : kind ∈ commentKinds) (named : rule.comment = kind ++ name) :
    rule.isDicers = true := by
  refine List.isPrefixOf_iff_prefix.mpr ?_
  rw [named, String.toList_append]
  exact (commentKinds_dicers kind isKind).trans (List.prefix_append _ _)

theorem isDicers_of_mem_bridgeRules (member : rule ∈ bridgeRules uplink network table chain) :
    rule.isDicers = true := by
  rcases comment_of_mem_bridgeRules member with ⟨kind, isKind, named⟩
  exact isDicers_of_kind (endKinds_known (endKinds_of_ruleKinds isKind)).1 named

theorem isDicers_of_published (isPublished : rule.isPublished = true) : rule.isDicers = true := by
  have dicers : "dicer-".toList <+: "dicer-port-".toList := by decide +kernel
  exact List.isPrefixOf_iff_prefix.mpr (dicers.trans (List.isPrefixOf_iff_prefix.mp isPublished))

theorem jumps_dicers : (∀ jump ∈ dicerJumps, (jumpRule jump).isDicers = true) ∧
    ∀ jump ∈ dnatJumps, (dnatJumpRule jump).isDicers = true := by
  decide +kernel

theorem isDicers_of_mem_headJumps (member : rule ∈ headJumps table chain) :
    rule.isDicers = true := by
  cases table with
  | filter =>
    rcases List.mem_map.mp member with ⟨jump, isJump, rfl⟩
    exact jumps_dicers.1 jump (List.mem_filter.mp isJump).1
  | nat =>
    rcases List.mem_map.mp member with ⟨jump, isJump, rfl⟩
    exact jumps_dicers.2 jump (List.mem_filter.mp isJump).1

section Ensuring

variable {rules wanted own : List Rule}

theorem mem_ensured (unique : rule ∈ rules → ∀ other ∈ rules, other.comment = rule.comment →
    other = rule) : other ∈ ensured rules rule ↔ other = rule ∨
    (other ∈ rules ∧ other.comment ≠ rule.comment) := by
  unfold ensured
  split
  · rename_i present
    constructor
    · intro member
      by_cases same : other.comment = rule.comment
      · exact .inl (unique present other member same)
      · exact .inr ⟨member, same⟩
    · rintro (rfl | ⟨member, _⟩)
      · exact present
      · exact member
  · rw [List.mem_append, mem_deleted, List.mem_singleton, or_comm]

theorem mem_foldl_ensured (apart : (wanted.map Rule.comment).Nodup)
    (unique : ∀ rule ∈ wanted, rule ∈ rules → ∀ other ∈ rules, other.comment = rule.comment →
      other = rule) :
    other ∈ wanted.foldl ensured rules ↔
      other ∈ wanted ∨ (other ∈ rules ∧ ∀ rule ∈ wanted, other.comment ≠ rule.comment) := by
  induction wanted generalizing rules with
  | nil => simp
  | cons rule rest ih =>
    rcases List.nodup_cons.mp apart with ⟨isNew, apartRest⟩
    have apartFirst : ∀ later ∈ rest, rule.comment ≠ later.comment :=
      fun later isLater same => isNew (same ▸ List.mem_map_of_mem isLater)
    have uniqueFirst := unique rule List.mem_cons_self
    have uniqueRest : ∀ later ∈ rest, later ∈ ensured rules rule → ∀ other ∈ ensured rules rule,
        other.comment = later.comment → other = later := by
      intro later isLater present other isOther same
      rcases (mem_ensured uniqueFirst).mp present with rfl | ⟨present, _⟩
      · exact absurd rfl (apartFirst _ isLater)
      rcases (mem_ensured uniqueFirst).mp isOther with rfl | ⟨isOther, _⟩
      · exact absurd same (apartFirst later isLater)
      · exact unique later (List.mem_cons_of_mem rule isLater) present other isOther same
    rw [List.foldl_cons, ih apartRest uniqueRest, mem_ensured uniqueFirst, List.mem_cons]
    constructor
    · rintro (later | ⟨rfl | ⟨member, different⟩, others⟩)
      · exact .inl (.inr later)
      · exact .inl (.inl rfl)
      · exact .inr ⟨member, List.forall_mem_cons.mpr ⟨different, others⟩⟩
    · rintro ((rfl | later) | ⟨member, different⟩)
      · exact .inr ⟨.inl rfl, apartFirst⟩
      · exact .inl later
      · rcases List.forall_mem_cons.mp different with ⟨different, others⟩
        exact .inr ⟨.inr ⟨member, different⟩, others⟩

theorem deleted_append {comment : String} (foreign : ∀ other ∈ own, other.comment ≠ comment) :
    deleted (own ++ rules) comment = own ++ deleted rules comment := by
  rw [deleted, List.filter_append]
  exact congrArg (· ++ deleted rules comment) (deleted_eq_self foreign)

theorem ensured_append (foreign : ∀ other ∈ own, other.comment ≠ rule.comment) :
    ensured (own ++ rules) rule = own ++ ensured rules rule := by
  have absent : rule ∉ own := fun member => foreign rule member rfl
  unfold ensured
  by_cases present : rule ∈ rules
  · rw [if_pos present, if_pos (List.mem_append.mpr (.inr present))]
  · have missing : rule ∉ own ++ rules := fun member =>
      (List.mem_append.mp member).elim absent present
    rw [if_neg present, if_neg missing, deleted_append foreign, List.append_assoc]

theorem foldl_ensured_append (foreign : ∀ rule ∈ wanted, ∀ other ∈ own,
    other.comment ≠ rule.comment) : wanted.foldl ensured (own ++ rules) = own ++
    wanted.foldl ensured rules := by
  induction wanted generalizing rules with
  | nil => rfl
  | cons rule rest ih =>
    rw [List.foldl_cons, List.foldl_cons, ensured_append (foreign rule List.mem_cons_self)]
    exact ih fun later isLater => foreign later (List.mem_cons_of_mem rule isLater)

end Ensuring

/-! ## The rules at the end of a chain -/

/-- The rules are those of the networks set up, with others that publish ports. -/
structure Standing (uplink : String) (networks : String → Option Network) (table : Table)
    (chain : Chain) (rules : List Rule) : Prop where
  there : ∀ bridge network, networks bridge = some network →
    ∀ rule ∈ bridgeRules uplink network table chain, rule ∈ rules
  known : ∀ rule ∈ rules,
    (∃ bridge network, networks bridge = some network ∧ rule ∈ bridgeRules uplink network table
      chain) ∨ (rule.isPublished = true ∧ (table, chain) ∈ publishedPlaces)

namespace Standing

variable {networks : String → Option Network} {rules : List Rule}

theorem mem_cleared : rule ∈ cleared network table chain rules ↔
    rule ∈ rules ∧ (network.internal = false → table = .filter → chain = .dicerIsolationStage1 →
      rule.comment ≠ internalComment network.bridge) := by
  cases table <;> cases chain <;> simp only [cleared, reduceCtorEq, false_implies, implies_true,
    and_true, true_implies]
  cases network.internal <;> simp [mem_deleted]

/-- The comments that a network's rules have, or had while it was of the other kind. -/
theorem comment_or_cleared {old : Network} (same : old.bridge = network.bridge)
    (theirs : rule ∈ bridgeRules uplink old table chain)
    (kept : rule ∈ cleared network table chain rules) :
    ∃ wanted ∈ bridgeRules uplink network table chain, wanted.comment = rule.comment := by
  rcases comment_of_mem_bridgeRules theirs with ⟨kind, isKind, named⟩
  rw [same] at named
  rcases ruleKinds_or_internal isKind with isKind | ⟨notInternal, isFilter, isStage1, rfl⟩
  · have isComment : rule.comment ∈ (bridgeRules uplink network table chain).map Rule.comment := by
      rw [comments_bridgeRules, named]
      exact List.mem_map_of_mem isKind
    exact List.mem_map.mp isComment
  · exact absurd named ((mem_cleared.mp kept).2 notInternal isFilter isStage1)

section

variable (standing : Standing uplink networks table chain rules)
  (keyed : ∀ bridge network, networks bridge = some network → network.bridge = bridge)
include standing keyed

theorem unique (wanted : rule ∈ bridgeRules uplink network table chain) (present : rule ∈ rules)
    (member : other ∈ rules) (same : other.comment = rule.comment) : other = rule := by
  rcases comment_of_mem_bridgeRules wanted with ⟨kind, isKind, named⟩
  replace isKind := endKinds_of_ruleKinds isKind
  -- both come from the one network with that bridge
  have owner : ∀ found ∈ rules, found.comment = kind ++ network.bridge →
      ∃ old, networks network.bridge = some old ∧ found ∈ bridgeRules uplink old table chain := by
    intro found isFound foundNamed
    rcases standing.known found isFound with ⟨place, old, isOld, theirs⟩ | ⟨isPublished, _⟩
    · have sameBridge := bridge_of_named theirs isKind foundNamed
      rw [keyed place old isOld] at sameBridge
      exact ⟨old, sameBridge ▸ isOld, theirs⟩
    · exact absurd foundNamed (published_ne isPublished isKind)
  rcases owner rule present named with ⟨old, isOld, isRule⟩
  rcases owner other member (same.trans named) with ⟨sameOld, isSameOld, isOther⟩
  obtain rfl : old = sameOld := Option.some.inj (isOld.symm.trans isSameOld)
  exact List.inj_on_of_nodup_map comments_nodup isOther isRule same

theorem setUp (network : Network) : Standing uplink (update networks network.bridge (some network))
    table chain ((bridgeRules uplink network table chain).foldl ensured
      (cleared network table chain rules)) := by
  have ensures : ∀ rule, rule ∈ (bridgeRules uplink network table chain).foldl ensured
      (cleared network table chain rules) ↔ rule ∈ bridgeRules uplink network table chain ∨
        (rule ∈ cleared network table chain rules ∧
          ∀ wanted ∈ bridgeRules uplink network table chain, rule.comment ≠ wanted.comment) :=
    fun _ => mem_foldl_ensured comments_nodup fun _ wanted present _ member =>
      standing.unique keyed wanted (mem_cleared.mp present).1 (mem_cleared.mp member).1
  constructor
  · intro place found isFound rule theirs
    rw [ensures]
    rcases update_eq_some_iff.mp isFound with ⟨rfl, rfl⟩ | ⟨different, isFound⟩
    · exact .inl theirs
    have otherNamed : ∀ kind ∈ endKinds table chain, rule.comment ≠ kind ++ network.bridge :=
      fun _ isKind named => different ((keyed place found isFound).symm.trans
        (bridge_of_named theirs isKind named))
    refine .inr ⟨mem_cleared.mpr ⟨standing.there place found isFound rule theirs, ?_⟩, ?_⟩
    · rintro _ rfl rfl
      exact otherNamed "dicer-internal-" (by decide)
    intro wanted isWanted sameComment
    rcases comment_of_mem_bridgeRules isWanted with ⟨kind, isKind, named⟩
    exact otherNamed kind (endKinds_of_ruleKinds isKind) (sameComment.trans named)
  · intro rule member
    rcases (ensures rule).mp member with wanted | ⟨kept, different⟩
    · exact .inl ⟨network.bridge, network, update_self .., wanted⟩
    rcases standing.known rule (mem_cleared.mp kept).1 with ⟨place, old, isOld, theirs⟩ |
      isPublished
    · by_cases same : place = network.bridge
      · rcases comment_or_cleared ((keyed place old isOld).trans same) theirs kept
          with ⟨wanted, isWanted, sameComment⟩
        exact absurd sameComment.symm (different wanted isWanted)
      · exact .inl ⟨place, old, (update_of_ne same ..).trans isOld, theirs⟩
    · exact .inr isPublished

theorem tearDown (bridge : String) : Standing uplink (update networks bridge none) table chain
    (rules.filter fun rule => !((endKinds table chain).map (· ++ bridge)).contains
      rule.comment) := by
  have kept : ∀ rule, rule ∈ rules.filter (fun rule =>
      !((endKinds table chain).map (· ++ bridge)).contains rule.comment) ↔
        rule ∈ rules ∧ ∀ kind ∈ endKinds table chain, rule.comment ≠ kind ++ bridge := by
    intro rule
    simp only [List.mem_filter, List.contains_eq_mem, Bool.not_eq_true', decide_eq_false_iff_not,
      List.mem_map, not_exists, not_and]
    exact and_congr_right fun _ => forall₂_congr fun _ _ => not_congr eq_comm
  constructor
  · intro place found isFound rule theirs
    rcases update_none_eq_some_iff.mp isFound with ⟨different, isFound⟩
    refine (kept rule).mpr ⟨standing.there place found isFound rule theirs, ?_⟩
    intro kind isKind named
    exact different ((keyed place found isFound).symm.trans (bridge_of_named theirs isKind named))
  · intro rule member
    rcases (kept rule).mp member with ⟨member, different⟩
    rcases standing.known rule member with ⟨place, old, isOld, theirs⟩ | isPublished
    · rcases comment_of_mem_bridgeRules theirs with ⟨kind, isKind, named⟩
      have notSame : place ≠ bridge := by
        rintro rfl
        rw [keyed place old isOld] at named
        exact different kind (endKinds_of_ruleKinds isKind) named
      exact .inl ⟨place, old, (update_of_ne notSame ..).trans isOld, theirs⟩
    · exact .inr isPublished

end

variable (standing : Standing uplink networks table chain rules)
include standing

theorem eq_nil (noRules : ∀ network, bridgeRules uplink network table chain = [])
    (noPorts : (table, chain) ∉ publishedPlaces) : rules = [] := by
  refine List.eq_nil_iff_forall_not_mem.mpr ?_
  intro rule member
  rcases standing.known rule member with ⟨_, network, _, theirs⟩ | ⟨_, isPlace⟩
  · rw [noRules network] at theirs
    exact nomatch theirs
  · exact noPorts isPlace

theorem unpublish (instanceID : String) :
    Standing uplink networks table chain (deleted rules (portComment instanceID)) := by
  constructor
  · intro place found isFound rule theirs
    refine mem_deleted.mpr ⟨standing.there place found isFound rule theirs, ?_⟩
    intro same
    rcases comment_of_mem_bridgeRules theirs with ⟨kind, isKind, named⟩
    rcases endKinds_known (endKinds_of_ruleKinds isKind) with ⟨isKnown, different⟩
    have isPort : "dicer-port-" ∈ commentKinds := by decide
    exact different (comment_inj isKnown isPort (named.symm.trans same)).1
  · exact fun rule member => standing.known rule (mem_deleted.mp member).1

theorem publish {added : List Rule}
    (published : ∀ rule ∈ added, rule.isPublished = true ∧ (table, chain) ∈ publishedPlaces) :
    Standing uplink networks table chain (rules ++ added) := by
  constructor
  · intro place found isFound rule theirs
    exact List.mem_append.mpr (.inl (standing.there place found isFound rule theirs))
  exact List.forall_mem_append.mpr ⟨standing.known, fun rule isAdded =>
    .inr (published rule isAdded)⟩

end Standing

/-! ## A whole chain -/

/-- The host's own rules in a chain are told from those that Dicer puts there. -/
structure Foreign (table : Table) (chain : Chain) (own : List Rule) : Prop where
  jumps : ∀ rule ∈ own, ∀ jump ∈ headJumps table chain, rule.comment ≠ jump.comment
  kinds : ∀ rule ∈ own, ∀ kind ∈ endKinds table chain, ∀ name, rule.comment ≠ kind ++ name
  ports : (table, chain) ∈ publishedPlaces → ∀ rule ∈ own, ∀ instanceID,
    rule.comment ≠ portComment instanceID

theorem foreign_nil : Foreign table chain [] := ⟨nofun, nofun, fun _ => nofun⟩

theorem foreign_of_bare {own : List Rule} (bare : ∀ rule ∈ own, rule.isDicers = false) :
    Foreign table chain own := by
  have ne : ∀ rule ∈ own, rule.isDicers ≠ true := fun rule member isDicers =>
    nomatch isDicers.symm.trans (bare rule member)
  refine ⟨fun rule member jump isJump same => ne rule member ?_,
    fun rule member kind isKind name named => ne rule member ?_,
    fun _ rule member instanceID named => ne rule member ?_⟩
  · rw [Rule.isDicers, same]
    exact isDicers_of_mem_headJumps isJump
  · exact isDicers_of_kind (endKinds_known isKind).1 named
  · exact isDicers_of_kind (by decide : "dicer-port-" ∈ commentKinds) named

/-- The host's own rules, with Dicer's jumps ahead of them, if anything is set up, and the rest
behind. -/
structure Laid (uplink : String) (networks : String → Option Network) (table : Table)
    (chain : Chain) (own rules head tail : List Rule) : Prop where
  parts : rules = head ++ own ++ tail
  ahead : head = [] ∨ head = headJumps table chain
  jumped : table = .filter → (∃ bridge network, networks bridge = some network) →
    head = headJumps table chain
  standing : Standing uplink networks table chain tail

/-- A chain from which Dicer jumps has no network's rules at its end, and publishes no ports. -/
theorem nothing_of_jumps {jump : Rule} (isJump : jump ∈ headJumps table chain) :
    endKinds table chain = [] ∧ (table, chain) ∉ publishedPlaces := by
  cases table <;> cases chain <;> first | exact ⟨rfl, by decide⟩ |
    simp [headJumps, dicerJumps, dnatJumps] at isJump

namespace Laid

variable {networks : String → Option Network} {own rules head tail : List Rule} {tables : Tables}
  {listenerPort : Nat} {ip : String} {ports : List PortMapping} {inUse : PortMapping → Bool}

section

variable (laid : Laid uplink networks table chain own rules head tail)
include laid

/-- A chain with nothing at its end is the host's own, or has the jumps ahead of that. -/
theorem shape (noRules : ∀ network, bridgeRules uplink network table chain = [])
    (noPorts : (table, chain) ∉ publishedPlaces) : rules = own ∨ rules = headJumps table chain ++
    own := by
  rw [laid.parts, laid.standing.eq_nil noRules noPorts, List.append_nil]
  rcases laid.ahead with rfl | rfl
  · exact .inl (List.nil_append own)
  · exact .inr rfl

variable (foreign : Foreign table chain own)
include foreign

theorem ahead_ne (isKind : kind ∈ endKinds table chain) :
    ∀ rule ∈ head ++ own, rule.comment ≠ kind ++ name := by
  intro rule member
  rcases List.mem_append.mp member with isHead | isOwn
  · rcases laid.ahead with rfl | rfl
    · exact nomatch isHead
    · rw [(nothing_of_jumps isHead).1] at isKind
      exact nomatch isKind
  · exact foreign.kinds rule isOwn kind isKind name

/-- The jumps ahead do not publish ports, nor do the host's own rules. -/
theorem unpublished (isPlace : (table, chain) ∈ publishedPlaces) :
    ∀ rule ∈ head ++ own, rule.comment ≠ portComment instanceID := by
  intro rule member
  rcases List.mem_append.mp member with isHead | isOwn
  · rcases laid.ahead with rfl | rfl
    · exact nomatch isHead
    · exact absurd isPlace (nothing_of_jumps isHead).2
  · exact foreign.ports isPlace rule isOwn instanceID

theorem cleared_append : cleared network table chain rules = head ++ own ++
    cleared network table chain tail := by
  have ahead : table = .filter → chain = .dicerIsolationStage1 →
      ∀ rule ∈ head ++ own, rule.comment ≠ internalComment network.bridge := by
    rintro rfl rfl
    exact laid.ahead_ne foreign (by decide : "dicer-internal-" ∈ _)
  rw [laid.parts]
  cases table <;> cases chain <;> try rfl
  simp only [cleared]
  split
  · rfl
  · exact deleted_append (ahead rfl rfl)

end

variable (laid : Laid uplink networks table chain own (tables table chain) head tail)
    (foreign : Foreign table chain own)
include laid foreign

section

variable (keyed : ∀ bridge network, networks bridge = some network → network.bridge = bridge)
  (notInput : table = .filter → chain ≠ .dicerInput)
include keyed notInput

theorem setUp {found : String} (same : bridgeRules found network table chain = bridgeRules uplink
    network table chain) : ∃ head tail, Laid uplink (update networks network.bridge (some network))
      table chain own (setUpTables tables listenerPort network found table chain) head tail := by
  have standing := laid.standing.setUp keyed network
  by_cases isHead : table = .filter ∧ (chain = .forward ∨ chain = .input)
  · rcases isHead with ⟨rfl, isHead⟩
    have noRules : ∀ network, bridgeRules uplink network .filter chain = [] := by
      rcases isHead with rfl | rfl <;> exact fun _ => rfl
    have noPorts : (.filter, chain) ∉ publishedPlaces := by
      rcases isHead with rfl | rfl <;> decide
    refine ⟨headJumps .filter chain, _, ?_, .inr rfl, fun _ _ => rfl, standing⟩
    rw [standing.eq_nil noRules noPorts, List.append_nil]
    exact setUpTables_jumps isHead foreign.jumps (laid.shape noRules noPorts)
  · refine ⟨head, _, ?_, laid.ahead, ?_, standing⟩
    · rw [setUpTables_apply, same, laid.cleared_append foreign]
      · apply foldl_ensured_append
        intro rule wanted
        rcases comment_of_mem_bridgeRules wanted with ⟨kind, isKind, named⟩
        rw [named]
        exact laid.ahead_ne foreign (endKinds_of_ruleKinds isKind)
      · rintro rfl
        exact ⟨fun isForward => isHead ⟨rfl, .inl isForward⟩, fun isInput =>
          isHead ⟨rfl, .inr isInput⟩, notInput rfl⟩
    · rintro rfl _
      have noJumps : headJumps .filter chain = [] := by
        cases chain <;> first | rfl | simp at isHead
      rcases laid.ahead with rfl | rfl
      · exact noJumps.symm
      · rfl

theorem tearDown (bridge : String) : ∃ head tail, Laid uplink (update networks bridge none) table
    chain own (tornDownTables tables bridge table chain) head tail := by
  refine ⟨head, _, ?_, laid.ahead, ?_, laid.standing.tearDown keyed bridge⟩
  · rw [tornDownTables_apply _ _ _ _ notInput, laid.parts, List.filter_append]
    refine congrArg (· ++ _) (List.filter_eq_self.mpr ?_)
    intro rule member
    simp only [List.contains_eq_mem, Bool.not_eq_true', decide_eq_false_iff_not, List.mem_map,
      not_exists, not_and]
    exact fun kind isKind named => laid.ahead_ne foreign isKind rule member named.symm
  · rintro isFilter ⟨place, network, isNetwork⟩
    exact laid.jumped isFilter ⟨place, network, (update_none_eq_some_iff.mp isNetwork).2⟩

end

theorem unpublish (instanceID : String) :
    ∃ tail, Laid uplink networks table chain own (unpublishPorts tables instanceID table chain) head
    tail := by
  rw [unpublishPorts_apply]
  split
  · rename_i isPlace
    refine ⟨_, ?_, laid.ahead, laid.jumped, laid.standing.unpublish instanceID⟩
    rw [laid.parts]
    exact deleted_append (laid.unpublished foreign isPlace)
  · exact ⟨tail, laid⟩

theorem ensureDNATChain :
    ∃ head, Laid uplink networks table chain own (HostNet.ensureDNATChain tables table chain) head
    tail := by
  by_cases isHead : table = .nat ∧ (chain = .prerouting ∨ chain = .output)
  · rcases isHead with ⟨rfl, isHead⟩
    have noRules : ∀ network, bridgeRules uplink network .nat chain = [] := by
      rcases isHead with rfl | rfl <;> exact fun _ => rfl
    have noPorts : (.nat, chain) ∉ publishedPlaces := by
      rcases isHead with rfl | rfl <;> decide
    refine ⟨headJumps .nat chain, ?_, .inr rfl, fun _ _ => rfl, laid.standing⟩
    rw [laid.standing.eq_nil noRules noPorts, List.append_nil]
    exact ensureDNATChain_jumps isHead foreign.jumps (laid.shape noRules noPorts)
  · rw [ensureDNATChain_frame fun isNat => not_or.mp fun isParent => isHead ⟨isNat, isParent⟩]
    exact ⟨head, laid⟩

theorem publish : ∃ head tail, Laid uplink networks table chain own
      (publishPorts tables bridge instanceID ip ports inUse table chain) head tail := by
  rcases laid.ensureDNATChain foreign with ⟨head, laid⟩
  rcases laid.unpublish foreign instanceID with ⟨tail, laid⟩
  rcases publishPorts_apply with ⟨added, isAdded, published⟩
  refine ⟨head, tail ++ added, ?_, laid.ahead, laid.jumped, laid.standing.publish published⟩
  rw [isAdded, laid.parts, List.append_assoc]

end Laid

/-- The chain holds the rules of the networks that are set up, and each network's in order. -/
structure Entered (listenerPort : Nat) (host : Host) : Prop where
  keyed : ∀ bridge network, host.networks bridge = some network → network.bridge = bridge
  known : ∀ rule ∈ host.tables .filter .dicerInput, ∃ bridge network,
    host.networks bridge = some network ∧ rule ∈ inputRules network.bridge network.gateway
    listenerPort network.internal
  order : ∀ bridge network, host.networks bridge = some network →
    (host.tables .filter .dicerInput).filter (belongsTo bridge) =
      inputRules network.bridge network.gateway listenerPort network.internal

namespace Entered

variable {listenerPort : Nat} {host : Host} (entered : Entered listenerPort host)
include entered

theorem listenerRemoved_eq (bridge : String) :
    listenerRemoved listenerPort (host.tables .filter .dicerInput) bridge = host.tables .filter
    .dicerInput := by
  unfold listenerRemoved
  split
  · rfl
  rename_i noListener
  apply deleted_eq_self
  intro rule member
  rcases entered.known rule member with ⟨_, known, _, inRules⟩
  rw [not_not.mp noListener] at inRules
  exact comment_ne_listener inRules

theorem known_other (member : rule ∈ host.tables .filter .dicerInput)
    (notOurs : belongsTo bridge rule = false) (value : Option Network) :
      ∃ place network, update host.networks bridge value place = some network ∧
      rule ∈ inputRules network.bridge network.gateway listenerPort network.internal := by
  rcases entered.known rule member with ⟨place, found, there, inRules⟩
  have different : place ≠ bridge := by
    rintro rfl
    have belongs := inputRules_belong inRules
    rw [entered.keyed place found there, notOurs] at belongs
    exact nomatch belongs
  exact ⟨place, found, (update_of_ne different _ _).trans there, inRules⟩

/-- The rules the network being set up had, and those it should have, if all of them are there. -/
theorem order_in_place (inPlace :
    ∀ rule ∈ inputRules network.bridge network.gateway listenerPort network.internal,
      rule ∈ host.tables .filter .dicerInput) :
    ∃ old, host.networks network.bridge = some old ∧ inputRules old.bridge old.gateway listenerPort
        old.internal = inputRules network.bridge network.gateway listenerPort network.internal := by
  have owner : ∀ rule ∈ inputRules network.bridge network.gateway listenerPort network.internal,
      ∃ old, host.networks network.bridge = some old ∧
        rule ∈ inputRules old.bridge old.gateway listenerPort old.internal := by
    intro rule member
    rcases entered.known rule (inPlace rule member) with ⟨bridge, old, known, inRules⟩
    have oldBridge : old.bridge = network.bridge :=
      belongsTo_unique (inputRules_belong inRules) (inputRules_belong member)
    rw [entered.keyed bridge old known] at oldBridge
    exact ⟨old, oldBridge ▸ known, inRules⟩
  rcases owner _ inputDropRule_mem with ⟨old, known, _⟩
  have oldBridge := entered.keyed network.bridge old known
  refine ⟨old, known, ?_⟩
  rw [oldBridge]
  symm
  apply inputRules_determined
  intro rule member
  rcases owner rule member with ⟨same, sameKnown, inRules⟩
  have sameOld : same = old := Option.some.inj (sameKnown.symm.trans known)
  rw [sameOld, oldBridge] at inRules
  exact inRules

/-- DICER-INPUT after a setup: the network's rules in order, the others' as they were. -/
theorem input_setUp (network : Network) (uplink : String) :
    (∀ rule ∈ setUpTables host.tables listenerPort network uplink .filter .dicerInput,
      rule ∈ inputRules network.bridge network.gateway listenerPort network.internal ∨
        (rule ∈ host.tables .filter .dicerInput ∧ belongsTo network.bridge rule = false)) ∧
      (setUpTables host.tables listenerPort network uplink .filter .dicerInput).filter
        (belongsTo network.bridge) = inputRules network.bridge network.gateway listenerPort
        network.internal ∧
      ∀ other, other ≠ network.bridge →
        (setUpTables host.tables listenerPort network uplink .filter .dicerInput).filter
          (belongsTo other) = (host.tables .filter .dicerInput).filter (belongsTo other) := by
  rw [setUpTables_input, entered.listenerRemoved_eq]
  dsimp only
  split
  · rename_i inPlace
    rcases entered.order_in_place inPlace.2 with ⟨old, known, sameRules⟩
    have order := entered.order network.bridge old known
    rw [sameRules] at order
    refine ⟨?_, order, fun _ _ => rfl⟩
    intro rule member
    cases belongs : belongsTo network.bridge rule with
    | false => exact .inr ⟨member, rfl⟩
    | true =>
      left
      rw [← order]
      exact List.mem_filter.mpr ⟨member, belongs⟩
  · refine ⟨?_, ?_, ?_⟩
    · intro rule member
      rcases List.mem_append.mp member with before | added
      · rcases List.mem_filter.mp before with ⟨there, notBelongs⟩
        exact .inr ⟨there, by simpa using notBelongs⟩
      · exact .inl added
    · rw [List.filter_append, filter_belongsTo_self, List.filter_filter]
      have noneLeft : (host.tables .filter .dicerInput).filter
          (fun rule => belongsTo network.bridge rule && !belongsTo network.bridge rule) = [] := by
        simp
      rw [noneLeft, List.nil_append]
    · intro other different
      rw [List.filter_append, filter_belongsTo_other different, List.append_nil,
        filter_belongsTo_removed different]

theorem setUp (network : Network) (uplink : String) :
    Entered listenerPort (host.apply listenerPort (.setupBridge network (some uplink))) := by
  rcases entered.input_setUp network uplink with ⟨known, order, otherOrder⟩
  constructor
  · intro bridge found there
    rcases update_eq_some_iff.mp there with ⟨rfl, rfl⟩ | ⟨_, before⟩
    · rfl
    · exact entered.keyed bridge found before
  · intro rule member
    rcases known rule member with ours | ⟨before, notOurs⟩
    · exact ⟨network.bridge, network, update_self _ _ _, ours⟩
    · exact entered.known_other before notOurs _
  · intro bridge found there
    rcases update_eq_some_iff.mp there with ⟨rfl, rfl⟩ | ⟨different, before⟩
    · exact order
    · exact (otherOrder bridge different).trans (entered.order bridge found before)

theorem tearDown (network : Network) :
    Entered listenerPort (host.apply listenerPort (.teardownBridge network)) := by
  have input : (host.apply listenerPort (.teardownBridge network)).tables .filter .dicerInput =
      (host.tables .filter .dicerInput).filter fun rule => !belongsTo network.bridge rule :=
    tornDownTables_input host.tables network.bridge
  constructor
  · intro bridge found there
    exact entered.keyed bridge found (update_none_eq_some_iff.mp there).2
  · intro rule member
    rw [input] at member
    rcases List.mem_filter.mp member with ⟨before, notOurs⟩
    exact entered.known_other before (by simpa using notOurs) _
  · intro bridge found there
    rcases update_none_eq_some_iff.mp there with ⟨different, before⟩
    rw [input, filter_belongsTo_removed different]
    exact entered.order bridge found before

theorem apply (operation : Operation) :
    Entered listenerPort (host.apply listenerPort operation) := by
  -- publishing leaves the chain alone
  have frame : ∀ tables : Tables, tables .filter .dicerInput = host.tables .filter .dicerInput →
      Entered listenerPort { host with tables := tables } := by
    intro tables same
    have known := entered.known
    have order := entered.order
    rw [← same] at known order
    exact ⟨entered.keyed, known, order⟩
  cases operation with
  | setupBridge network uplink =>
    cases uplink with
    | none => exact entered
    | some uplink => exact entered.setUp network uplink
  | teardownBridge network => exact entered.tearDown network
  | publishPorts => exact frame _ (publishPorts_frame (by decide))
  | unpublishPorts => exact frame _ unpublishPorts_apply

theorem run (operations : List Operation) :
    Entered listenerPort (host.run listenerPort operations) := by
  induction operations generalizing host with
  | nil => exact entered
  | cons operation rest ih => exact ih (entered.apply operation)

end Entered

/-! ## Every chain, after any history -/

/-- A setup that finds this uplink, or one with which the network has the same rules in the
chain. -/
def Operation.Suits (uplink : String) (table : Table) (chain : Chain) : Operation → Prop
  | .setupBridge _ (some found) => ∀ network, bridgeRules found network table chain = bridgeRules
    uplink network table chain
  | _ => True

section History

variable {listenerPort : Nat} {start host : Host} {own head tail : List Rule}

theorem Laid.apply (entered : Entered listenerPort host) (foreign : Foreign table chain own)
    (notInput : table = .filter → chain ≠ .dicerInput)
    (laid : Laid uplink host.networks table chain own (host.tables table chain) head tail)
    {operation : Operation}
    (suits : operation.Suits uplink table chain) :
    ∃ head tail, Laid uplink (host.apply listenerPort operation).networks table chain own
      ((host.apply listenerPort operation).tables table chain) head tail := by
  cases operation with
  | setupBridge network found =>
    cases found with
    | none => exact ⟨head, tail, laid⟩
    | some => exact laid.setUp foreign entered.keyed notInput (suits network)
  | teardownBridge network => exact laid.tearDown foreign entered.keyed notInput network.bridge
  | publishPorts => exact laid.publish foreign
  | unpublishPorts instanceID =>
    rcases laid.unpublish foreign instanceID with ⟨tail, laid⟩
    exact ⟨head, tail, laid⟩

theorem Laid.run (entered : Entered listenerPort host) (foreign : Foreign table chain own)
    (notInput : table = .filter → chain ≠ .dicerInput)
    (laid : Laid uplink host.networks table chain own (host.tables table chain) head tail)
    (operations : List Operation)
    (suit : ∀ operation ∈ operations, operation.Suits uplink table chain) :
    ∃ head tail, Laid uplink (host.run listenerPort operations).networks table chain own
      ((host.run listenerPort operations).tables table chain) head tail := by
  induction operations generalizing host head tail with
  | nil => exact ⟨head, tail, laid⟩
  | cons operation rest ih =>
    rcases List.forall_mem_cons.mp suit with ⟨suits, suitRest⟩
    rcases laid.apply entered foreign notInput suits with ⟨head, tail, laid⟩
    exact ih (entered.apply operation) laid suitRest

theorem laid_start (nothing : ∀ bridge, start.networks bridge = none) :
    Laid uplink start.networks table chain (start.tables table chain) (start.tables table chain) []
    [] where
  parts := (List.append_nil _).symm
  ahead := .inl rfl
  jumped := by
    rintro _ ⟨bridge, network, isNetwork⟩
    exact nomatch (nothing bridge).symm.trans isNetwork
  standing := ⟨fun bridge _ isNetwork => absurd ((nothing bridge).symm.trans isNetwork) nofun,
    nofun⟩

def forwardJumps : List Rule :=
  [⟨[], "dicer-jump-user", .jump .dicerUser⟩,
    ⟨[], "dicer-jump-isolation", .jump .dicerIsolationStage1⟩,
    ⟨[], "dicer-jump-forward", .jump .dicerForward⟩]

/-- A host on which Dicer has set nothing up: its chains are empty and no rule has their jumps'
comments. -/
structure Untouched (host : Host) : Prop where
  networks : ∀ bridge, host.networks bridge = none
  user : host.tables .filter .dicerUser = []
  stage1 : host.tables .filter .dicerIsolationStage1 = []
  stage2 : host.tables .filter .dicerIsolationStage2 = []
  input : host.tables .filter .dicerInput = []
  foreign : ∀ rule ∈ host.tables .filter .forward, ∀ jump ∈ forwardJumps,
    rule.comment ≠ jump.comment

/-- Where the rules stand: `own` are the host's own rules in FORWARD. -/
structure Placed (listenerPort : Nat) (own : List Rule) (host : Host) : Prop where
  keyed : ∀ bridge network, host.networks bridge = some network → network.bridge = bridge
  user : host.tables .filter .dicerUser = []
  forward : host.tables .filter .forward = own ∨ host.tables .filter .forward = forwardJumps ++ own
  jumped : ∀ bridge network, host.networks bridge = some network → host.tables .filter .forward =
    forwardJumps ++ own
  stage1 : ∀ rule ∈ host.tables .filter .dicerIsolationStage1,
    ∃ bridge, rule = internalRule bridge ∨ rule = isolationStage1Rule bridge
  stage2 : ∀ rule ∈ host.tables .filter .dicerIsolationStage2, ∃ bridge,
    rule = isolationStage2Rule bridge
  isolated : ∀ bridge network, host.networks bridge = some network →
    isolationStage1Rule bridge ∈ host.tables .filter .dicerIsolationStage1 ∧
      isolationStage2Rule bridge ∈ host.tables .filter .dicerIsolationStage2
  internal : ∀ bridge network, host.networks bridge = some network → network.internal = true →
    internalRule bridge ∈ host.tables .filter .dicerIsolationStage1
  inputKnown : ∀ rule ∈ host.tables .filter .dicerInput, ∃ bridge network,
      host.networks bridge = some network ∧ rule ∈ inputRules network.bridge network.gateway
      listenerPort network.internal
  inputOrder : ∀ bridge network, host.networks bridge = some network →
    (host.tables .filter .dicerInput).filter (belongsTo bridge) =
      inputRules network.bridge network.gateway listenerPort network.internal

theorem placed_run (untouched : Untouched start) (operations : List Operation) :
    Placed listenerPort (start.tables .filter .forward) (start.run listenerPort operations) := by
  have entered : Entered listenerPort start := by
    constructor <;> simp [untouched.networks, untouched.input]
  have laid : ∀ chain, Foreign .filter chain (start.tables .filter chain) → chain ≠ .dicerInput →
      (∀ found network, bridgeRules found network .filter chain = bridgeRules "" network .filter
        chain) → ∃ head tail, Laid "" (start.run listenerPort operations).networks .filter chain
          (start.tables .filter chain) ((start.run listenerPort operations).tables .filter chain)
              head tail := by
    intro chain foreign notInput same
    refine (laid_start untouched.networks).run entered foreign (fun _ => notInput) operations ?_
    intro operation _
    cases operation with
    | setupBridge network found =>
      cases found with
      | none => trivial
      | some found => exact same found
    | _ => trivial
  have ours : ∀ chain, start.tables .filter chain = [] → headJumps .filter chain = [] →
      chain ≠ .dicerInput → (∀ found network, bridgeRules found network .filter chain = bridgeRules
        "" network .filter chain) → Standing "" (start.run listenerPort operations).networks .filter
          chain ((start.run listenerPort operations).tables .filter chain) := by
    intro chain empty noJumps notInput same
    rcases laid chain (empty ▸ foreign_nil) notInput same with ⟨head, tail, laid⟩
    have noHead : head = [] := laid.ahead.elim id (·.trans noJumps)
    rw [laid.parts, noHead, empty]
    exact laid.standing
  have foreign : Foreign .filter .forward (start.tables .filter .forward) :=
    ⟨untouched.foreign, nofun, fun isPlace => absurd isPlace (by decide)⟩
  rcases laid .forward foreign (by decide) fun _ _ => rfl with ⟨head, tail, forward⟩
  have stage1 := ours .dicerIsolationStage1 untouched.stage1 rfl (by decide) fun _ _ => rfl
  have stage2 := ours .dicerIsolationStage2 untouched.stage2 rfl (by decide) fun _ _ => rfl
  have user := ours .dicerUser untouched.user rfl (by decide) fun _ _ => rfl
  have noTail := forward.standing.eq_nil (fun _ => rfl) (by decide)
  have isEntered := entered.run operations
  refine ⟨isEntered.keyed, user.eq_nil (fun _ => rfl) (by decide), forward.shape (fun _ => rfl)
    (by decide), ?_, ?_, ?_, ?_, ?_, isEntered.known, isEntered.order⟩
  · intro bridge network isNetwork
    rw [forward.parts, forward.jumped rfl ⟨bridge, network, isNetwork⟩, noTail, List.append_nil]
    rfl
  · intro rule member
    rcases stage1.known rule member with ⟨_, network, _, theirs⟩ | ⟨_, isPlace⟩
    · refine ⟨network.bridge, ?_⟩
      rcases List.mem_append.mp theirs with isInternal | isStage1
      · exact .inl (List.mem_singleton.mp (List.mem_ite_nil_right.mp isInternal).2)
      · exact .inr (List.mem_singleton.mp isStage1)
    · exact absurd isPlace (by decide)
  · intro rule member
    rcases stage2.known rule member with ⟨_, network, _, theirs⟩ | ⟨_, isPlace⟩
    · exact ⟨network.bridge, List.mem_singleton.mp theirs⟩
    · exact absurd isPlace (by decide)
  · intro bridge network isNetwork
    rw [← isEntered.keyed bridge network isNetwork]
    exact ⟨stage1.there bridge network isNetwork _ (List.mem_append_right _ List.mem_cons_self),
      stage2.there bridge network isNetwork _ List.mem_cons_self⟩
  · intro bridge network isNetwork internal
    rw [← isEntered.keyed bridge network isNetwork]
    refine stage1.there bridge network isNetwork _ (List.mem_append_left _ ?_)
    rw [if_pos internal]
    exact List.mem_cons_self

/-- A host on which Dicer has set nothing up: its chains are empty, and no rule has a comment of
its. -/
structure Bare (host : Host) : Prop where
  networks : host.networks = fun _ => none
  chains : ∀ table, ∀ chain ∈ dicerChains, host.tables table chain = []
  foreign : ∀ table chain, ∀ rule ∈ host.tables table chain, rule.isDicers = false

theorem Bare.untouched {host : Host} (bare : Bare host) : Untouched host where
  networks := congrFun bare.networks
  user := bare.chains .filter .dicerUser (by decide)
  stage1 := bare.chains .filter .dicerIsolationStage1 (by decide)
  stage2 := bare.chains .filter .dicerIsolationStage2 (by decide)
  input := bare.chains .filter .dicerInput (by decide)
  foreign := (foreign_of_bare (bare.foreign _ _) : Foreign .filter .forward
    (host.tables .filter .forward)).jumps

/-- Every chain is described by the networks that are set up and the ports that are published. -/
structure Described (listenerPort : Nat) (uplink : String) (start host : Host) : Prop where
  placed : Placed listenerPort (start.tables .filter .forward) host
  laid : ∀ table chain, (table = .filter → chain ≠ .dicerInput) →
    ∃ head tail, Laid uplink host.networks table chain (start.tables table chain)
    (host.tables table chain) head tail

/-- A setup finds the uplink. -/
def Operation.Finds (uplink : String) : Operation → Prop
  | .setupBridge _ found => found = some uplink
  | _ => True

theorem described_run (bare : Bare start) {operations : List Operation}
    (find : ∀ operation ∈ operations, operation.Finds uplink) :
    Described listenerPort uplink start (start.run listenerPort operations) where
  placed := placed_run bare.untouched operations
  laid := by
    intro table chain notInput
    have entered : Entered listenerPort start := by
      constructor <;> simp [bare.networks, bare.untouched.input]
    refine (laid_start (congrFun bare.networks)).run entered
      (foreign_of_bare (bare.foreign table chain)) notInput operations ?_
    intro operation member
    have finds := find operation member
    cases operation with
    | setupBridge network found =>
      obtain rfl : found = some uplink := finds
      exact fun _ => rfl
    | _ => trivial

/-- What a flush leaves is what there was before Dicer. -/
theorem Described.flush (bare : Bare start) (described : Described listenerPort uplink start host) :
    host.tables.flush = start.tables := by
  funext table chain
  unfold Tables.flush
  split
  · rename_i isDicers
    exact (bare.chains table chain isDicers).symm
  rename_i notDicers
  have notInput : table = .filter → chain ≠ .dicerInput := by
    rintro _ rfl
    exact notDicers (by decide)
  rcases described.laid table chain notInput with ⟨head, tail, laid⟩
  rw [laid.parts, List.filter_append, List.filter_append]
  have noHead : (head.filter fun rule => !rule.isDicers) = [] := by
    refine List.filter_eq_nil_iff.mpr ?_
    intro rule member
    rcases laid.ahead with rfl | rfl
    · exact nomatch member
    · simp [isDicers_of_mem_headJumps member]
  have noTail : (tail.filter fun rule => !rule.isDicers) = [] := by
    refine List.filter_eq_nil_iff.mpr ?_
    intro rule member
    rcases laid.standing.known rule member with ⟨_, _, _, theirs⟩ | ⟨isPublished, _⟩
    · simp [isDicers_of_mem_bridgeRules theirs]
    · simp [isDicers_of_published isPublished]
  have allOwn : ((start.tables table chain).filter fun rule => !rule.isDicers) = start.tables table
      chain := by
    refine List.filter_eq_self.mpr ?_
    intro rule member
    rw [bare.foreign table chain rule member]
    rfl
  rw [noHead, noTail, allOwn, List.nil_append, List.append_nil]

end History

end Dicer.HostNet
