import Dicer.HostNet.Rules

namespace Dicer.HostNet

/-!
# Where the rules stand

What each operation does to each chain.  A setup and a teardown change their bridge's rules, which
are told by their comments; publishing changes the rules of published ports; and the jumps to
Dicer's chains go to the head of the host's.
-/

section Chains

variable (rules : List Rule) (rule : Rule) (comment : String)

def deleted : List Rule := rules.filter fun other => other.comment ≠ comment

def ensured : List Rule :=
  if rule ∈ rules then rules else deleted rules rule.comment ++ [rule]

variable {rules rule comment} {other : Rule}

theorem mem_deleted : other ∈ deleted rules comment ↔ other ∈ rules ∧ other.comment ≠ comment := by
  simp [deleted]

theorem deleted_eq_self (absent : ∀ other ∈ rules, other.comment ≠ comment) :
    deleted rules comment = rules := by
  apply List.filter_eq_self.mpr
  intro other member
  simpa using absent other member

theorem mem_of_mem_ensured (member : other ∈ ensured rules rule) :
    other = rule ∨ other ∈ rules := by
  unfold ensured at member
  split at member
  · exact .inr member
  rcases List.mem_append.mp member with before | last
  · exact .inr (mem_deleted.mp before).1
  · exact .inl (List.mem_singleton.mp last)

variable (tables : Tables) (table otherTable : Table) (chain otherChain : Chain)

@[simp] theorem set_apply (newRules : List Rule) :
    tables.set table chain newRules otherTable otherChain =
      if otherTable = table ∧ otherChain = chain then newRules else tables otherTable otherChain :=
  rfl

@[simp] theorem deleteRulesWithComment_apply :
    tables.deleteRulesWithComment table chain comment otherTable otherChain =
      if otherTable = table ∧ otherChain = chain then deleted (tables table chain) comment
      else tables otherTable otherChain :=
  rfl

@[simp] theorem appendRule_apply :
    tables.appendRule table chain rule otherTable otherChain =
      if otherTable = table ∧ otherChain = chain then tables table chain ++ [rule]
      else tables otherTable otherChain :=
  rfl

@[simp] theorem insertFirst_apply :
    tables.insertFirst table chain rule otherTable otherChain =
      if otherTable = table ∧ otherChain = chain then rule :: tables table chain
      else tables otherTable otherChain :=
  rfl

@[simp] theorem ensureRule_apply :
    tables.ensureRule table chain rule otherTable otherChain =
      if otherTable = table ∧ otherChain = chain then ensured (tables table chain) rule
      else tables otherTable otherChain := by
  unfold Tables.ensureRule ensured
  by_cases present : rule ∈ tables table chain
  · have there : tables.ruleExists table chain rule = true := by
      simpa [Tables.ruleExists] using present
    rw [if_pos there, if_pos present]
    split
    · rename_i same
      rw [same.1, same.2]
    · rfl
  · have missing : ¬ tables.ruleExists table chain rule = true := by
      simpa [Tables.ruleExists] using present
    rw [if_neg missing, if_neg present]
    simp only [appendRule_apply, deleteRulesWithComment_apply, and_self, if_true]
    split
    · rfl
    · rfl

end Chains

/-- What the comments start with, before the name of the bridge or the instance. -/
def commentKinds : List String :=
  ["dicer-nat-", "dicer-fwd-out-", "dicer-fwd-in-", "dicer-icc-", "dicer-isolation-s1-",
    "dicer-isolation-s2-", "dicer-internal-", "dicer-input-accept-", "dicer-input-drop-",
    "dicer-input-listener-drop-", "dicer-input-dns-", "dicer-input-replies-",
      "dicer-input-internal-",
    "dicer-port-"]

theorem commentKinds_apart : ∀ first ∈ commentKinds, ∀ second ∈ commentKinds,
    first.toList <+: second.toList → first = second := by
  decide +kernel

variable {first second bridge gateway : String} {internal : Bool} {rule : Rule}

/-- No kind of comment starts another, so a comment says of what kind it is, and whose. -/
theorem comment_inj {firstName secondName : String} (firstKind : first ∈ commentKinds)
    (secondKind : second ∈ commentKinds) (same : first ++ firstName = second ++ secondName) :
    first = second ∧ firstName = secondName := by
  have sameText : first.toList ++ firstName.toList = second.toList ++ secondName.toList := by
    rw [← String.toList_append, ← String.toList_append, same]
  have sameKind : first = second := by
    rcases List.prefix_or_prefix_of_prefix (List.prefix_append first.toList firstName.toList)
      (sameText ▸ List.prefix_append second.toList secondName.toList) with starts | starts
    · exact commentKinds_apart first firstKind second secondKind starts
    · exact (commentKinds_apart second secondKind first firstKind starts).symm
  subst sameKind
  exact ⟨rfl, String.toList_inj.mp (List.append_cancel_left sameText)⟩

/-! ## What each operation does to each chain -/

section Operations

variable (tables : Tables) (table : Table) (chain : Chain)

theorem foldl_frame {Item : Type} {change : Tables → Item → Tables} (items : List Item)
    (frames : ∀ tables item, change tables item table chain = tables table chain) :
    items.foldl change tables table chain = tables table chain := by
  induction items generalizing tables with
  | nil => rfl
  | cons item rest ih =>
    rw [List.foldl_cons, ih, frames]

theorem foldr_frame {Item : Type} {change : Item → Tables → Tables} (items : List Item)
    (frames : ∀ tables item, change item tables table chain = tables table chain) :
    items.foldr change tables table chain = tables table chain := by
  induction items with
  | nil => rfl
  | cons item rest ih =>
    rw [List.foldr_cons, frames, ih]

theorem foldl_deleted (rules : List Rule) (comments : List String) :
    comments.foldl deleted rules = rules.filter fun rule => !comments.contains rule.comment := by
  induction comments generalizing rules with
  | nil => exact (List.filter_true rules).symm
  | cons comment rest ih =>
    rw [List.foldl_cons, ih, deleted, List.filter_filter]
    refine List.filter_congr fun rule _ => ?_
    simp [Bool.and_comm]

theorem foldl_delete (comments : List String) (otherTable : Table) (otherChain : Chain) :
    comments.foldl (fun tables comment => tables.deleteRulesWithComment table chain comment) tables
    otherTable otherChain =
      if otherTable = table ∧ otherChain = chain then
        (tables table chain).filter fun rule => !comments.contains rule.comment
      else tables otherTable otherChain := by
  rw [← foldl_deleted]
  induction comments generalizing tables with
  | nil =>
    split
    · rename_i same
      rw [same.1, same.2]
      rfl
    · rfl
  | cons comment rest ih =>
    rw [List.foldl_cons, ih]
    simp only [deleteRulesWithComment_apply, and_self, if_true, List.foldl_cons]
    split <;> rfl

theorem foldl_append (rules : List Rule) :
    rules.foldl (fun tables rule => tables.appendRule table chain rule) tables table chain =
      tables table chain ++ rules := by
  induction rules generalizing tables with
  | nil => simp
  | cons rule rest ih =>
    rw [List.foldl_cons, ih]
    simp

/-- A bridge's rules in DICER-INPUT, by their comments. -/
def belongsTo (bridge : String) (rule : Rule) : Bool := (inputComments bridge).contains rule.comment

/-- A network's rules outside DICER-INPUT, in the order in which they are ensured. -/
def bridgeRules (uplink : String) (network : Network) : Table → Chain → List Rule
  | .nat, .postrouting => [natRule network.bridge network.subnet uplink]
  | .filter, .dicerForward =>
    [iccRule network.bridge, forwardOutRule network.bridge uplink,
      forwardInRule network.bridge uplink]
  | .filter, .dicerIsolationStage1 =>
    (if network.internal then [internalRule network.bridge] else []) ++
    [isolationStage1Rule network.bridge]
  | .filter, .dicerIsolationStage2 => [isolationStage2Rule network.bridge]
  | _, _ => []

/-- What the comments of these rules start with. -/
def endKinds : Table → Chain → List String
  | .nat, .postrouting => ["dicer-nat-"]
  | .filter, .dicerForward => ["dicer-icc-", "dicer-fwd-out-", "dicer-fwd-in-"]
  | .filter, .dicerIsolationStage1 => ["dicer-isolation-s1-", "dicer-internal-"]
  | .filter, .dicerIsolationStage2 => ["dicer-isolation-s2-"]
  | _, _ => []

/-- The jumps to Dicer's chains from one of the host's. -/
def headJumps : Table → Chain → List Rule
  | .filter, chain => (dicerJumps.filter fun jump => jump.parent = chain).map jumpRule
  | .nat, chain => (dnatJumps.filter fun jump => jump.parent = chain).map dnatJumpRule

/-- The tables after a network is set up. -/
def setUpTables (listenerPort : Nat) (network : Network) (uplink : String) : Tables :=
  ensureInputRules (setupIPTables tables network.bridge network.subnet network.internal uplink)
    network.bridge network.gateway listenerPort network.internal

/-- The tables after a network is torn down. -/
def tornDownTables (bridge : String) : Tables :=
  teardownIPTables (removeInputRules tables bridge) bridge

/-- The rule that only an internal network has goes before the others are ensured. -/
def cleared (network : Network) : Table → Chain → List Rule → List Rule
  | .filter, .dicerIsolationStage1, rules =>
    if network.internal then rules else deleted rules (internalComment network.bridge)
  | _, _, rules => rules

variable (bridge : String)

theorem removeInputRules_apply : removeInputRules tables bridge table chain =
    if table = .filter ∧ chain = .dicerInput then
      (tables .filter .dicerInput).filter fun rule => !belongsTo bridge rule
    else tables table chain :=
  foldl_delete ..

theorem removeForwardRules_apply : removeForwardRules tables bridge table chain =
    if table = .filter ∧ chain = .dicerForward then
      (tables .filter .dicerForward).filter fun rule =>
        !([iccComment bridge, forwardOutComment bridge, forwardInComment bridge]).contains
        rule.comment
    else tables table chain :=
  foldl_delete ..

theorem teardownIPTables_apply : teardownIPTables tables bridge table chain =
    (tables table chain).filter fun rule => !((endKinds table chain).map (· ++ bridge)).contains
    rule.comment := by
  cases table <;> cases chain <;>
    simp only [teardownIPTables, removeIsolationRules, removeForwardRules_apply,
      deleteRulesWithComment_apply, endKinds, reduceCtorEq, and_self, and_false, false_and,
      if_false, if_true, List.map_nil, List.contains_nil, Bool.not_false,
      List.filter_true]
  · exact foldl_deleted _ [isolationStage1Comment bridge, internalComment bridge]
  · exact foldl_deleted _ [isolationStage2Comment bridge]
  · rfl
  · exact foldl_deleted _ [natComment bridge]

theorem tornDownTables_apply (notInput : table = .filter → chain ≠ .dicerInput) :
    tornDownTables tables bridge table chain =
      (tables table chain).filter fun rule => !((endKinds table chain).map (· ++ bridge)).contains
      rule.comment := by
  rw [tornDownTables, teardownIPTables_apply, removeInputRules_apply, if_neg (not_and.mpr notInput)]

theorem tornDownTables_input : tornDownTables tables bridge .filter .dicerInput =
    (tables .filter .dicerInput).filter fun rule => !belongsTo bridge rule := by
  rw [tornDownTables, teardownIPTables_apply, removeInputRules_apply]
  exact List.filter_true _

theorem ensureJumps_frame (parent : Chain) (elsewhere : ¬ (table = .filter ∧ chain = parent)) :
    ensureJumps tables parent table chain = tables table chain := by
  unfold ensureJumps
  dsimp only
  split
  · rw [foldr_frame, foldl_frame]
    · intro tables jump
      simp [elsewhere]
    · intro tables jump
      simp [elsewhere]
  · rfl

theorem ensureDicerChains_frame (elsewhere : table = .filter → chain ≠ .forward ∧ chain ≠ .input) :
    ensureDicerChains tables table chain = tables table chain := by
  unfold ensureDicerChains
  rw [ensureJumps_frame _ _ _ _ fun same => (elsewhere same.1).2 same.2,
    ensureJumps_frame _ _ _ _ fun same => (elsewhere same.1).1 same.2]

theorem ensureInputRules_frame (gateway : String) (listenerPort : Nat) (internal : Bool)
    (elsewhere : ¬ (table = .filter ∧ chain = .dicerInput)) :
    ensureInputRules tables bridge gateway listenerPort internal table chain = tables table
    chain := by
  have removed : removeListenerRule tables bridge listenerPort table chain = tables table
      chain := by
    unfold removeListenerRule
    split
    · rfl
    · simp [elsewhere]
  unfold ensureInputRules
  split
  · exact removed
  rw [foldl_frame, removeInputRules_apply, if_neg elsewhere, removed]
  intro tables rule
  simp [elsewhere]

variable (listenerPort : Nat) (network : Network) (uplink : String)

theorem setUpTables_apply (notHead : table = .filter → chain ≠ .forward ∧ chain ≠ .input ∧
    chain ≠ .dicerInput) : setUpTables tables listenerPort network uplink table chain =
      (bridgeRules uplink network table chain).foldl ensured
      (cleared network table chain (tables table chain)) := by
  have notInput : ¬ (table = .filter ∧ chain = .dicerInput) := fun same =>
    (notHead same.1).2.2 same.2
  have kept : ensureDicerChains tables table chain = tables table chain :=
    ensureDicerChains_frame _ _ _ fun isFilter => ⟨(notHead isFilter).1, (notHead isFilter).2.1⟩
  rw [setUpTables, ensureInputRules_frame _ _ _ _ _ _ _ notInput]
  cases isInternal : network.internal <;> cases table <;> cases chain <;>
    simp_all [setupIPTables, ensureForwardRules, ensureIsolationRules, bridgeRules, cleared]

def listenerRemoved (rules : List Rule) (bridge : String) : List Rule :=
  if listenerPort ≠ 0 then rules else deleted rules (inputListenerDropComment bridge)

/-- DICER-INPUT once a network's rules are ensured: as it was, if they were all there, and otherwise
without what rules it had, and with its rules at the end. -/
theorem setUpTables_input : setUpTables tables listenerPort network uplink .filter .dicerInput =
    let rules := listenerRemoved listenerPort (tables .filter .dicerInput) network.bridge
    let wanted := inputRules network.bridge network.gateway listenerPort network.internal
    if staleInputRule network.bridge network.gateway network.internal ∉ rules ∧ ∀ rule ∈ wanted,
      rule ∈ rules then rules
    else rules.filter (fun rule => !belongsTo network.bridge rule) ++ wanted := by
  have kept : setupIPTables tables network.bridge network.subnet network.internal uplink .filter
      .dicerInput = tables .filter .dicerInput := by
    cases network.internal <;>
      simp [setupIPTables, ensureForwardRules, ensureIsolationRules, ensureDicerChains_frame]
  have removed : removeListenerRule (setupIPTables tables network.bridge network.subnet
      network.internal uplink) network.bridge listenerPort .filter .dicerInput =
        listenerRemoved listenerPort (tables .filter .dicerInput) network.bridge := by
    unfold removeListenerRule listenerRemoved
    split
    · exact kept
    · simp [kept]
  unfold setUpTables ensureInputRules inputRulesInPlace
  simp only [Tables.ruleExists, removed, List.contains_eq_mem, Bool.and_eq_true, Bool.not_eq_true',
    decide_eq_false_iff_not, List.all_eq_true, decide_eq_true_eq]
  split
  · exact removed
  · rw [foldl_append, removeInputRules_apply, if_pos ⟨rfl, rfl⟩, removed]

section

variable {tables chain listenerPort network uplink bridge} {own : List Rule}

theorem ensureJumps_parent {parent : Chain}
    (foreign : ∀ rule ∈ own, ∀ jump ∈ headJumps .filter parent, rule.comment ≠ jump.comment)
    (shape : tables .filter parent = own ∨ tables .filter parent = headJumps .filter parent ++
      own) :
    ensureJumps tables parent .filter parent = headJumps .filter parent ++ own := by
  have inserted : ∀ (jumps : List ChainJump) (tables : Tables),
      jumps.foldr (fun jump tables => tables.insertFirst .filter parent (jumpRule jump)) tables
        .filter parent = jumps.map jumpRule ++ tables .filter parent := by
    intro jumps tables
    induction jumps with
    | nil => rfl
    | cons jump rest ih =>
      rw [List.foldr_cons, insertFirst_apply, if_pos ⟨rfl, rfl⟩, ih]
      rfl
  have removed := foldl_delete tables .filter parent
    ((dicerJumps.filter fun jump => jump.parent = parent).map ChainJump.comment) .filter parent
  rw [List.foldl_map, if_pos ⟨rfl, rfl⟩] at removed
  unfold ensureJumps
  dsimp only
  split
  · rename_i missing
    rcases shape with absent | present
    · rw [inserted, removed, absent]
      refine congrArg (headJumps .filter parent ++ ·) (List.filter_eq_self.mpr ?_)
      intro rule member
      simp only [List.contains_eq_mem, Bool.not_eq_true', decide_eq_false_iff_not, List.mem_map,
        not_exists, not_and]
      intro jump isJump same
      exact foreign rule member _ (List.mem_map_of_mem isJump) same.symm
    · rcases List.any_eq_true.mp missing with ⟨jump, isJump, isMissing⟩
      have isThere : jumpRule jump ∈ tables .filter parent := by
        rw [present]
        exact List.mem_append.mpr (.inl (List.mem_map_of_mem isJump))
      simp [Tables.ruleExists, isThere] at isMissing
  · rename_i allThere
    rcases shape with absent | present
    · have noJumps : (dicerJumps.filter fun jump => jump.parent = parent) = [] := by
        refine List.eq_nil_iff_forall_not_mem.mpr ?_
        intro jump isJump
        apply allThere
        refine List.any_eq_true.mpr ⟨jump, isJump, ?_⟩
        have isMissing : jumpRule jump ∉ tables .filter parent := by
          rw [absent]
          intro member
          exact foreign _ member _ (List.mem_map_of_mem isJump) rfl
        simp [Tables.ruleExists, isMissing]
      rw [absent, headJumps, noJumps]
      rfl
    · exact present

theorem setUpTables_jumps (isHead : chain = .forward ∨ chain = .input)
    (foreign : ∀ rule ∈ own, ∀ jump ∈ headJumps .filter chain, rule.comment ≠ jump.comment)
    (shape : tables .filter chain = own ∨ tables .filter chain = headJumps .filter chain ++ own) :
    setUpTables tables listenerPort network uplink .filter chain = headJumps .filter chain ++
    own := by
  have jumped : ensureDicerChains tables .filter chain = headJumps .filter chain ++ own := by
    unfold ensureDicerChains
    rcases isHead with rfl | rfl
    · rw [ensureJumps_frame _ _ _ _ (by decide)]
      exact ensureJumps_parent foreign shape
    have kept : ensureJumps tables .forward .filter .input = tables .filter .input :=
      ensureJumps_frame _ _ _ _ (by decide)
    exact ensureJumps_parent foreign (kept ▸ shape)
  rw [setUpTables, ensureInputRules_frame]
  · rcases isHead with rfl | rfl <;> cases network.internal <;>
      simp [setupIPTables, ensureForwardRules, ensureIsolationRules, jumped]
  · rcases isHead with rfl | rfl <;> decide

/-- The rule publishes a port. -/
def Rule.isPublished (rule : Rule) : Bool := "dicer-port-".toList.isPrefixOf rule.comment.toList

def publishedPlaces : List (Table × Chain) := [(.nat, .dicerDNAT), (.filter, .dicerForward)]

variable {table : Table} {instanceID : String}

theorem published_portComment {matchers : List Match} {target : Target} :
    Rule.isPublished ⟨matchers, portComment instanceID, target⟩ = true := by
  refine List.isPrefixOf_iff_prefix.mpr ?_
  rw [portComment, String.toList_append]
  exact List.prefix_append _ _

theorem insertJump_apply {jump : DNATJump} :
    (if tables.ruleExists .nat jump.parent (dnatJumpRule jump) then tables
      else tables.insertFirst .nat jump.parent (dnatJumpRule jump)) table chain =
      if (table = .nat ∧ chain = jump.parent) ∧ dnatJumpRule jump ∉ tables table chain then
        dnatJumpRule jump :: tables table chain
      else tables table chain := by
  by_cases same : table = .nat ∧ chain = jump.parent
  · rcases same with ⟨rfl, rfl⟩
    by_cases present : dnatJumpRule jump ∈ tables .nat jump.parent <;>
      simp [Tables.ruleExists, present]
  · split <;> simp [same]

theorem ensureDNATChain_frame (elsewhere : table = .nat → chain ≠ .prerouting ∧ chain ≠ .output) :
    ensureDNATChain tables table chain = tables table chain := by
  rw [ensureDNATChain, dnatJumps, List.foldl_cons, List.foldl_cons, List.foldl_nil,
    insertJump_apply, insertJump_apply]
  have notParent : ¬ (table = .nat ∧ chain = .prerouting) ∧ ¬ (table = .nat ∧ chain = .output) :=
    ⟨fun same => (elsewhere same.1).1 same.2, fun same => (elsewhere same.1).2 same.2⟩
  simp only [notParent.1, notParent.2, false_and, if_false]

theorem ensureDNATChain_jumps (isHead : chain = .prerouting ∨ chain = .output)
    (foreign : ∀ rule ∈ own, ∀ jump ∈ headJumps .nat chain, rule.comment ≠ jump.comment)
    (shape : tables .nat chain = own ∨ tables .nat chain = headJumps .nat chain ++ own) :
    ensureDNATChain tables .nat chain = headJumps .nat chain ++ own := by
  have absent : ∀ jump ∈ headJumps .nat chain, jump ∉ own := fun jump isJump member =>
    foreign jump member jump isJump rfl
  rw [ensureDNATChain, dnatJumps, List.foldl_cons, List.foldl_cons, List.foldl_nil,
    insertJump_apply, insertJump_apply]
  rcases isHead with rfl | rfl <;> rcases shape with isOwn | isHeaded
  · simp [isOwn, absent _ List.mem_cons_self, headJumps, dnatJumps]
  · simp [isHeaded, headJumps, dnatJumps]
  · simp [isOwn, absent _ List.mem_cons_self, headJumps, dnatJumps]
  · simp [isHeaded, headJumps, dnatJumps]

theorem unpublishPorts_apply : unpublishPorts tables instanceID table chain =
    if (table, chain) ∈ publishedPlaces then deleted (tables table chain) (portComment instanceID)
    else tables table chain := by
  cases table <;> cases chain <;> simp [unpublishPorts, publishedPlaces]

/-- Publishing adds rules that publish ports, and nothing else but the jumps to DICER-DNAT. -/
theorem publishPorts_apply {ip : String} {ports : List PortMapping} {inUse : PortMapping → Bool} :
    ∃ added, publishPorts tables bridge instanceID ip ports inUse table chain =
        unpublishPorts (ensureDNATChain tables) instanceID table chain ++ added ∧
      ∀ rule ∈ added, rule.isPublished = true ∧ (table, chain) ∈ publishedPlaces := by
  have adds : ∀ (ports : List PortMapping) (tables : Tables), ∃ added,
      ports.foldl (fun tables mapping =>
        (tables.appendRule .filter .dicerForward
          (portForwardRule instanceID ip bridge mapping)).appendRule .nat .dicerDNAT
          (dnatRule instanceID ip mapping)) tables table chain = tables table chain ++ added ∧
      ∀ rule ∈ added, rule.isPublished = true ∧ (table, chain) ∈ publishedPlaces := by
    intro ports
    induction ports with
    | nil => exact fun tables => ⟨[], (List.append_nil _).symm, nofun⟩
    | cons mapping rest ih =>
      intro tables
      rcases ih ((tables.appendRule .filter .dicerForward
        (portForwardRule instanceID ip bridge mapping)).appendRule .nat .dicerDNAT
        (dnatRule instanceID ip mapping))
        with ⟨added, isAdded, published⟩
      rw [List.foldl_cons, isAdded]
      by_cases isForward : (table, chain) = (.filter, .dicerForward)
      · obtain ⟨rfl, rfl⟩ := Prod.mk.inj isForward
        refine ⟨portForwardRule instanceID ip bridge mapping :: added, by simp, ?_⟩
        exact List.forall_mem_cons.mpr ⟨⟨published_portComment, by decide⟩, published⟩
      by_cases isDNAT : (table, chain) = (.nat, .dicerDNAT)
      · obtain ⟨rfl, rfl⟩ := Prod.mk.inj isDNAT
        refine ⟨dnatRule instanceID ip mapping :: added, by simp, ?_⟩
        exact List.forall_mem_cons.mpr ⟨⟨published_portComment, by decide⟩, published⟩
      · refine ⟨added, ?_, published⟩
        rw [Prod.mk.injEq] at isForward isDNAT
        rw [appendRule_apply, if_neg isDNAT, appendRule_apply, if_neg isForward]
  unfold publishPorts
  split
  · exact ⟨[], (List.append_nil _).symm, nofun⟩
  · exact adds ports _

theorem publishPorts_frame {ip : String} {ports : List PortMapping} {inUse : PortMapping → Bool}
    (notPlace : (.filter, chain) ∉ publishedPlaces) :
    publishPorts tables bridge instanceID ip ports inUse .filter chain = tables .filter chain := by
  rcases publishPorts_apply with ⟨added, isAdded, published⟩
  have nothing : added = [] :=
    List.eq_nil_iff_forall_not_mem.mpr fun rule member => notPlace (published rule member).2
  rw [isAdded, nothing, List.append_nil, unpublishPorts_apply, if_neg notPlace,
    ensureDNATChain_frame]
  exact nofun

end

end Operations

/-! ## A network's rules in DICER-INPUT -/

variable {otherGateway name : String} {otherInternal : Bool} {listenerPort : Nat}

theorem mem_inputRules : rule ∈ inputRules bridge gateway listenerPort internal ↔
    (listenerPort ≠ 0 ∧ rule = inputListenerDropRule bridge listenerPort) ∨
      (internal = true ∧ (rule = inputDNSRule bridge gateway "udp" ∨
        rule = inputDNSRule bridge gateway "tcp" ∨ rule = inputRepliesRule bridge ∨
        rule = inputInternalRule bridge)) ∨
      (internal = false ∧ rule = inputAcceptRule bridge gateway) ∨
      rule = inputDropRule bridge gateway := by
  unfold inputRules
  cases internal <;> by_cases listener : listenerPort = 0 <;> simp [listener, or_assoc]

theorem inputRules_belong (member : rule ∈ inputRules bridge gateway listenerPort internal) :
    belongsTo bridge rule = true := by
  rcases mem_inputRules.mp member with ⟨_, rfl⟩ | ⟨_, rfl | rfl | rfl | rfl⟩ | ⟨_, rfl⟩ | rfl <;>
    simp [belongsTo, inputComments, inputListenerDropRule, inputDNSRule, inputRepliesRule,
      inputInternalRule, inputAcceptRule, inputDropRule]

theorem inputDropRule_mem : inputDropRule bridge gateway ∈ inputRules bridge gateway listenerPort
    internal :=
  mem_inputRules.mpr (.inr (.inr (.inr rfl)))

/-- What the comments of a bridge's input rules start with, and where these rules stand. -/
def inputPlaces : List (String × Table × Chain) :=
  [("dicer-input-listener-drop-", .filter, .dicerInput), ("dicer-input-dns-", .filter, .dicerInput),
    ("dicer-input-replies-", .filter, .dicerInput), ("dicer-input-internal-", .filter, .dicerInput),
    ("dicer-input-accept-", .filter, .dicerInput), ("dicer-input-drop-", .filter, .dicerInput)]

theorem inputComments_eq : inputComments bridge = inputPlaces.map fun place => place.1 ++ bridge :=
    rfl

theorem kind_of_belongsTo (belongs : belongsTo bridge rule = true) :
    ∃ kind ∈ commentKinds, rule.comment = kind ++ bridge := by
  have kinds : ∀ place ∈ inputPlaces, place.1 ∈ commentKinds := by decide
  rw [belongsTo, List.contains_iff_mem, inputComments_eq] at belongs
  rcases List.mem_map.mp belongs with ⟨place, isPlace, named⟩
  exact ⟨place.1, kinds place isPlace, named.symm⟩

theorem belongsTo_unique (belongsFirst : belongsTo first rule = true)
    (belongsSecond : belongsTo second rule = true) :
    first = second := by
  rcases kind_of_belongsTo belongsFirst with ⟨firstKind, firstMember, firstIs⟩
  rcases kind_of_belongsTo belongsSecond with ⟨secondKind, secondMember, secondIs⟩
  exact (comment_inj firstMember secondMember (firstIs.symm.trans secondIs)).2

theorem filter_belongsTo_self : (inputRules bridge gateway listenerPort internal).filter
    (belongsTo bridge) = inputRules bridge gateway listenerPort internal :=
  List.filter_eq_self.mpr fun _ member => inputRules_belong member

theorem filter_belongsTo_other {other : String} (different : other ≠ bridge) :
    (inputRules bridge gateway listenerPort internal).filter (belongsTo other) = [] := by
  apply List.filter_eq_nil_iff.mpr
  intro rule member belongs
  exact different (belongsTo_unique belongs (inputRules_belong member))

theorem filter_belongsTo_removed {other : String} (different : other ≠ bridge) (rules : List Rule) :
    (rules.filter fun rule => !belongsTo bridge rule).filter (belongsTo other) = rules.filter
    (belongsTo other) := by
  rw [List.filter_filter]
  apply List.filter_congr
  intro rule _
  cases ours : belongsTo bridge rule with
  | false => simp
  | true =>
    cases theirs : belongsTo other rule with
    | false => rfl
    | true => exact absurd (belongsTo_unique theirs ours) different

theorem inputRules_determined (included : ∀ rule ∈ inputRules bridge gateway listenerPort internal,
      rule ∈ inputRules bridge otherGateway listenerPort otherInternal) :
    inputRules bridge gateway listenerPort internal =
      inputRules bridge otherGateway listenerPort otherInternal := by
  have dropIncluded := included (inputDropRule bridge gateway) inputDropRule_mem
  have sameGateway : gateway = otherGateway := by
    by_cases listener : listenerPort = 0 <;> cases otherInternal <;>
      simpa [inputRules, listener, inputDropRule, inputListenerDropRule, inputDNSRule,
        inputRepliesRule, inputInternalRule, inputAcceptRule] using dropIncluded
  subst sameGateway
  have sameKind : internal = otherInternal := by
    cases internal with
    | true =>
      have internalIncluded := included (inputInternalRule bridge) (by simp [inputRules])
      cases otherInternal with
      | true => rfl
      | false =>
        by_cases listener : listenerPort = 0 <;>
          simp [inputRules, listener, inputDropRule, inputListenerDropRule, inputInternalRule,
            inputAcceptRule] at internalIncluded
    | false =>
      have acceptIncluded := included (inputAcceptRule bridge gateway) (by simp [inputRules])
      cases otherInternal with
      | false => rfl
      | true =>
        by_cases listener : listenerPort = 0 <;>
          simp [inputRules, listener, inputDropRule, inputListenerDropRule, inputDNSRule,
            inputRepliesRule, inputInternalRule, inputAcceptRule] at acceptIncluded
  rw [sameKind]

theorem comment_ne_listener (member : rule ∈ inputRules bridge gateway 0 internal) :
    rule.comment ≠ inputListenerDropComment name := by
  intro same
  rcases mem_inputRules.mp member with ⟨impossible, _⟩ | ⟨_, rfl | rfl | rfl | rfl⟩ | ⟨_, rfl⟩ | rfl
  · exact impossible rfl
  all_goals exact absurd (comment_inj (by decide) (by decide) same).1 (by decide)

end Dicer.HostNet
