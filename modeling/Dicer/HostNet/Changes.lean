import Dicer.HostNet.Placement
import Dicer.HostNet.Watching

namespace Dicer.HostNet

/-!
# Changes of rules

A bridge's rules are told by their comments, so setting one bridge up adds no rule of another.
Tearing it down removes all that its setups can have added.
-/

/-- The same of its other rules. -/
def otherPlaces : List (String × Table × Chain) :=
  [("dicer-nat-", .nat, .postrouting), ("dicer-icc-", .filter, .dicerForward),
    ("dicer-fwd-out-", .filter, .dicerForward), ("dicer-fwd-in-", .filter, .dicerForward),
    ("dicer-isolation-s1-", .filter, .dicerIsolationStage1),
      ("dicer-internal-", .filter, .dicerIsolationStage1),
    ("dicer-isolation-s2-", .filter, .dicerIsolationStage2)]

/-- None of the bridge's rules that stand at the places are there. -/
def GoneFrom (places : List (String × Table × Chain)) (tables : Tables) (bridge : String) : Prop :=
  ∀ place ∈ places, ∀ rule ∈ tables place.2.1 place.2.2, rule.comment ≠ place.1 ++ bridge

/-- The bridge has no rules. -/
def Gone : Tables → String → Prop := GoneFrom (inputPlaces ++ otherPlaces)

theorem places_kinds : ∀ place ∈ inputPlaces ++ otherPlaces, place.1 ∈ commentKinds := by decide

/-- A change that deletes rules with certain comments only, and adds only rules with certain
comments. -/
inductive Changes (removed added : String → Prop) : Tables → Tables → Prop
  | refl (tables : Tables) : Changes removed added tables tables
  | trans {before middle after : Tables} : Changes removed added before middle →
      Changes removed added middle after → Changes removed added before after
  | delete {tables : Tables} {table : Table} {chain : Chain} {comment : String}
      (isRemoved : removed comment) : Changes removed added tables
      (tables.deleteRulesWithComment table chain comment)
  | append {tables : Tables} {table : Table} {chain : Chain} {rule : Rule}
      (isAdded : added rule.comment) : Changes removed added tables
      (tables.appendRule table chain rule)
  | insertFirst {tables : Tables} {table : Table} {chain : Chain} {rule : Rule}
      (isAdded : added rule.comment) : Changes removed added tables
      (tables.insertFirst table chain rule)

/-- A change adds only rules with certain comments. -/
def Adds (allowed : String → Prop) (before after : Tables) : Prop :=
  ∀ table chain, ∀ rule ∈ after table chain, rule ∈ before table chain ∨ allowed rule.comment

namespace Changes

variable {removed added : String → Prop} {before after tables : Tables} {table : Table}
    {chain : Chain} {rule : Rule}

theorem preserves (relates : List Rule → List Rule → Prop) (isRefl : ∀ rules, relates rules rules)
    (isTrans : ∀ first second third, relates first second → relates second third →
      relates first third)
    (deletes : ∀ rules comment, removed comment → relates rules (deleted rules comment))
    (appends : ∀ rules (rule : Rule), added rule.comment → relates rules (rules ++ [rule]))
    (inserts : ∀ rules (rule : Rule), added rule.comment → relates rules (rule :: rules))
    (changes : Changes removed added before after) (table : Table) (chain : Chain) :
    relates (before table chain) (after table chain) := by
  have one : ∀ {tables : Tables} {place : Table} {other : Chain} {rules : List Rule},
      relates (tables place other) rules → relates (tables table chain)
          (tables.set place other rules table chain) := by
    intro tables place other rules related
    rw [set_apply]
    split
    · rename_i same
      rw [same.1, same.2]
      exact related
    · exact isRefl _
  induction changes with
  | refl => exact isRefl _
  | trans _ _ first second => exact isTrans _ _ _ first second
  | delete isRemoved => exact one (deletes _ _ isRemoved)
  | append isAdded => exact one (appends _ _ isAdded)
  | insertFirst isAdded => exact one (inserts _ _ isAdded)

theorem adds (changes : Changes removed added before after) : Adds added before after := by
  refine changes.preserves (fun before after => ∀ rule ∈ after, rule ∈ before ∨ added rule.comment)
    (fun _ _ member => .inl member) ?_ ?_ ?_ ?_
  · intro first second third earlier later rule member
    exact (later rule member).elim (earlier rule) .inr
  · exact fun _ _ _ _ member => .inl (mem_deleted.mp member).1
  · intro rules rule isAdded other member
    rcases List.mem_append.mp member with earlier | isLast
    · exact .inl earlier
    · exact .inr (List.mem_singleton.mp isLast ▸ isAdded)
  · intro rules rule isAdded other member
    rcases List.mem_cons.mp member with rfl | earlier
    · exact .inr isAdded
    · exact .inl earlier

theorem ensureRule (isRemoved : removed rule.comment) (isAdded : added rule.comment) :
    Changes removed added tables (tables.ensureRule table chain rule) := by
  unfold Tables.ensureRule
  split
  · exact refl tables
  · exact (delete isRemoved).trans (append isAdded)

theorem foldl {Item : Type} {change : Tables → Item → Tables} {items : List Item}
    (changes : ∀ tables, ∀ item ∈ items, Changes removed added tables (change tables item))
    (tables : Tables) :
    Changes removed added tables (items.foldl change tables) := by
  induction items generalizing tables with
  | nil => exact refl tables
  | cons item rest ih =>
    rw [List.foldl_cons]
    exact (changes tables item List.mem_cons_self).trans
      (ih (fun tables other member => changes tables other (List.mem_cons_of_mem item member)) _)

theorem foldr {Item : Type} {change : Item → Tables → Tables} {items : List Item}
    (changes : ∀ tables, ∀ item ∈ items, Changes removed added tables (change item tables))
    (tables : Tables) :
    Changes removed added tables (items.foldr change tables) := by
  induction items with
  | nil => exact refl tables
  | cons item rest ih =>
    rw [List.foldr_cons]
    exact (ih fun tables other member =>
      changes tables other (List.mem_cons_of_mem item member)).trans
        (changes _ item List.mem_cons_self)

end Changes

def jumpComments : List String := dicerJumps.map ChainJump.comment

/-- The comment of a rule that setting a bridge up may add: one of the bridge's, or a jump's. -/
def Names (bridge comment : String) : Prop :=
  (∃ kind ∈ commentKinds, comment = kind ++ bridge) ∨ comment ∈ jumpComments

theorem jumpComments_apart : ∀ comment ∈ jumpComments, ∀ kind ∈ commentKinds,
    ¬ kind.toList <+: comment.toList := by
  decide +kernel

theorem Names.other {bridge other comment : String} (names : Names bridge comment)
    (different : bridge ≠ other) {kind : String} (isKind : kind ∈ commentKinds) :
    comment ≠ kind ++ other := by
  rintro rfl
  rcases names with ⟨theirs, theirsKind, same⟩ | isJump
  · exact different (comment_inj isKind theirsKind same).2.symm
  apply jumpComments_apart _ isJump kind isKind
  rw [String.toList_append]
  exact List.prefix_append _ _

section

variable {tables : Tables} {bridge : String}

/-- A change of a bridge's rules, or of the jumps. -/
abbrev ChangesOf (bridge : String) : Tables → Tables → Prop := Changes (Names bridge) (Names bridge)

theorem names_kind {kind : String} (isKind : kind ∈ commentKinds) : Names bridge (kind ++ bridge) :=
  .inl ⟨kind, isKind, rfl⟩

theorem names_belongsTo {rule : Rule} (belongs : belongsTo bridge rule = true) :
    Names bridge rule.comment :=
  .inl (kind_of_belongsTo belongs)

theorem ensures {table : Table} {chain : Chain} {rule : Rule} (names : Names bridge rule.comment) :
    ChangesOf bridge tables (tables.ensureRule table chain rule) :=
  .ensureRule names names

theorem changes_ensureDicerChains : ChangesOf bridge tables (ensureDicerChains tables) := by
  have jumps : ∀ (tables : Tables) (parent : Chain),
      ChangesOf bridge tables (ensureJumps tables parent) := by
    intro tables parent
    have isJump : ∀ jump ∈ dicerJumps.filter (fun jump => jump.parent = parent),
        Names bridge jump.comment :=
      fun jump member => .inr (List.mem_map_of_mem (List.mem_filter.mp member).1)
    unfold ensureJumps
    dsimp only
    split
    · exact (Changes.foldl (fun _ jump member => .delete (isJump jump member)) tables).trans
        (Changes.foldr (fun _ jump member => .insertFirst (isJump jump member)) _)
    · exact .refl tables
  exact (jumps _ _).trans (jumps _ _)

theorem changes_natRule {subnet uplink : String} :
    ChangesOf bridge tables (tables.ensureRule .nat .postrouting (natRule bridge subnet uplink)) :=
  ensures (names_kind (by decide : "dicer-nat-" ∈ commentKinds))

theorem changes_ensureForwardRules {uplink : String} :
    ChangesOf bridge tables (ensureForwardRules tables bridge uplink) := by
  have icc : "dicer-icc-" ∈ commentKinds := by decide
  have out : "dicer-fwd-out-" ∈ commentKinds := by decide
  have into : "dicer-fwd-in-" ∈ commentKinds := by decide
  exact ((ensures (names_kind icc)).trans (ensures (names_kind out))).trans
    (ensures (names_kind into))

theorem changes_ensureIsolationRules {internal : Bool} :
    ChangesOf bridge tables (ensureIsolationRules tables bridge internal) := by
  have isInternal : "dicer-internal-" ∈ commentKinds := by decide
  have stage1 : "dicer-isolation-s1-" ∈ commentKinds := by decide
  have stage2 : "dicer-isolation-s2-" ∈ commentKinds := by decide
  have first : ChangesOf bridge tables
      (if internal then tables.ensureRule .filter .dicerIsolationStage1 (internalRule bridge)
      else tables.deleteRulesWithComment .filter .dicerIsolationStage1
          (internalComment bridge)) := by
    split
    · exact ensures (names_kind isInternal)
    · exact .delete (names_kind isInternal)
  exact (first.trans (ensures (names_kind stage1))).trans (ensures (names_kind stage2))

variable {added : String → Prop}

theorem changes_removeInputRules : Changes (Names bridge) added tables
    (removeInputRules tables bridge) := by
  refine .foldl (fun _ comment member => .delete ?_) tables
  exact names_belongsTo (List.contains_iff_mem.mpr member : belongsTo bridge ⟨[], comment, .drop⟩ =
    true)

theorem changes_ensureInputRules {gateway : String} {listenerPort : Nat} {internal : Bool} :
    ChangesOf bridge tables (ensureInputRules tables bridge gateway listenerPort internal) := by
  have isListener : "dicer-input-listener-drop-" ∈ commentKinds := by decide
  have removes : ChangesOf bridge tables (removeListenerRule tables bridge listenerPort) := by
    unfold removeListenerRule
    split
    · exact .refl tables
    · exact .delete (names_kind isListener)
  unfold ensureInputRules
  dsimp only
  split
  · exact removes
  · refine (removes.trans changes_removeInputRules).trans (.foldl ?_ _)
    exact fun _ rule member => .append (names_belongsTo (inputRules_belong member))

theorem changes_teardownIPTables : Changes (Names bridge) added tables
    (teardownIPTables tables bridge) := by
  have deletes : ∀ {kind : String} {tables : Tables} {table : Table} {chain : Chain},
      kind ∈ commentKinds → Changes (Names bridge) added tables
          (tables.deleteRulesWithComment table chain (kind ++ bridge)) :=
    fun isKind => .delete (names_kind isKind)
  refine ((((((deletes ?_).trans (deletes ?_)).trans (deletes ?_)).trans (deletes ?_)).trans
    (deletes ?_)).trans (deletes ?_)).trans (deletes ?_) <;> decide

variable {allowed : String → Prop}

theorem adds_flush : Adds allowed tables tables.flush := by
  intro table chain rule member
  unfold Tables.flush at member
  split at member
  · exact nomatch member
  · exact .inl (List.mem_filter.mp member).1

/-! ## What a teardown removes -/

theorem GoneFrom.adds {places : List (String × Table × Chain)} {after : Tables}
    (gone : GoneFrom places tables bridge) (adds : Adds allowed tables after)
    (others : ∀ place ∈ places, ∀ comment, allowed comment → comment ≠ place.1 ++ bridge) :
    GoneFrom places after bridge := by
  intro place member rule isRule
  rcases adds _ _ rule isRule with earlier | isAllowed
  · exact gone place member rule earlier
  · exact others place member rule.comment isAllowed

theorem inputPlaces_chain : ∀ place ∈ inputPlaces, place.2 = (.filter, .dicerInput) := by decide

theorem gone_removeInputRules : GoneFrom inputPlaces (removeInputRules tables bridge) bridge := by
  intro place member rule isRule same
  have isListed : rule.comment ∈ inputComments bridge := by
    rw [same, inputComments_eq]
    exact List.mem_map_of_mem member
  rw [inputPlaces_chain place member, removeInputRules_apply, if_pos ⟨rfl, rfl⟩] at isRule
  have notTheirs := (List.mem_filter.mp isRule).2
  rw [belongsTo, List.contains_eq_mem, decide_eq_true isListed] at notTheirs
  exact absurd notTheirs (by decide)

theorem otherPlaces_kinds : ∀ place ∈ otherPlaces, place.1 ∈ endKinds place.2.1 place.2.2 :=
    by decide

theorem gone_teardownIPTables : GoneFrom otherPlaces (teardownIPTables tables bridge) bridge := by
  intro place member rule isRule same
  have isListed : rule.comment ∈ (endKinds place.2.1 place.2.2).map (· ++ bridge) := by
    rw [same]
    exact List.mem_map_of_mem (otherPlaces_kinds place member)
  rw [teardownIPTables_apply] at isRule
  have notTheirs := (List.mem_filter.mp isRule).2
  rw [List.contains_eq_mem, decide_eq_true isListed] at notTheirs
  exact absurd notTheirs (by decide)

end

end Dicer.HostNet
