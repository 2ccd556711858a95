import Dicer.HostNet.Changes
import Mathlib.Data.List.Permutation

namespace Dicer.HostNet.Watching

open Concurrency Function
open Program (Ensures)
open Concurrency.Calls

/-!
# Bridges that stay down

To touch a bridge it takes its network's lock, or a place among the networks that the reload handler
copied.  A network that is forgotten while it has no such place is out of everyone's reach but the
lock's holder, and stays so until a setup is called for it.
-/

variable {before after now world : World} {thread : Nat} {network : Network} {bridge : String}

/-- The host network remembers the bridge. -/
def World.Remembers (world : World) (bridge : String) : Prop := ∃ network ∈ world.networks,
    network.bridge = bridge

/-- The reload handler has yet to finish with the bridge. -/
def World.Copied (world : World) (bridge : String) : Prop := ∃ network ∈ world.copied,
    network.bridge = bridge

structure Sane (world : World) : Prop where
  copied : ∀ bridge, world.Copied bridge → world.Remembers bridge
  down : ∀ bridge, world.down bridge = true →
    ¬ world.Remembers bridge ∧ world.links bridge = false ∧ Gone world.tables bridge

/-- A step that brings back nothing of the bridge. -/
structure Spares (bridge : String) (before after : World) : Prop where
  holder : after.holder bridge = before.holder bridge
  down : after.down bridge = before.down bridge
  networks : after.Remembers bridge → before.Remembers bridge
  link : before.links bridge = false → after.links bridge = false
  rules : ∀ places, places ⊆ inputPlaces ++ otherPlaces → GoneFrom places before.tables bridge →
    GoneFrom places after.tables bridge

/-- A network is forgotten only when the reload handler has finished with it. -/
def ForgetsUncopied (before after : World) : Prop :=
  ∀ network ∈ before.networks, (∀ other ∈ after.networks, other.bridge ≠ network.bridge) →
    ∀ copy ∈ before.copied, copy.bridge ≠ network.bridge

instance : DecidableRel ForgetsUncopied := fun _ _ => inferInstanceAs (Decidable (∀ _ ∈ _, _))

theorem ForgetsUncopied.uncopied (meets : ForgetsUncopied before after)
    (remembers : before.Remembers bridge) (forgets : ¬ after.Remembers bridge) :
    ¬ before.Copied bridge := by
  rintro ⟨copy, isCopied, rfl⟩
  rcases remembers with ⟨network, member, same⟩
  refine meets network member ?_ copy isCopied same.symm
  intro other isOther sameBridge
  exact forgets ⟨other, isOther, sameBridge.trans same⟩

def contract : Contract Nat World where
  keeps := Sane
  may := fun thread before after => Sane after ∧
      (before.handler = none ∨ before.handler = some thread ∨
      (after.handler = before.handler ∧ after.copied = before.copied)) ∧
    ∀ bridge, Spares bridge before after ∨ before.holder bridge = none ∨
      before.holder bridge = some thread ∨
      (before.Copied bridge ∧ after.holder bridge = before.holder bridge ∧
        after.down bridge = before.down bridge)
  outside := fun before after =>
    (∀ bridge, Spares bridge before after) ∧ after.handler = before.handler ∧
      after.copied = before.copied
  idle := fun _ _ => True
  meets := ForgetsUncopied

/-! ## What a thread knows -/

/-- What a thread knows: that it sets a bridge up and no one takes it for down, that it holds a
network's lock, how far it is with tearing its bridge down, or which networks it has yet to set up
again. -/
inductive Known
  | nothing
  | setting (bridge : String)
  | locked (bridge : String)
  | tearing (bridge : String) (gone : List (String × Table × Chain)) (unlinked : Bool)
  | handling (rest : List Network)

def Known.Knows (thread : Nat) (world : World) : Known → Prop
  | nothing => True
  | setting bridge => world.holder bridge = some thread ∧ world.down bridge = false
  | locked bridge => world.holder bridge = some thread
  | tearing bridge gone unlinked => world.holder bridge = some thread ∧ ¬ world.Remembers bridge ∧
      (gone ⊆ inputPlaces ++ otherPlaces ∧ GoneFrom gone world.tables bridge) ∧
      (unlinked = true → world.links bridge = false)
  | handling rest => world.handler = some thread ∧ world.copied = rest

theorem Spares.knows_tearing {gone : List (String × Table × Chain)} {unlinked : Bool}
    (spares : Spares bridge before after)
    (knows : (Known.tearing bridge gone unlinked).Knows thread before) :
    (Known.tearing bridge gone unlinked).Knows thread after := by
  rcases knows with ⟨holder, forgotten, ⟨included, isGone⟩, isUnlinked⟩
  exact ⟨spares.holder.trans holder, fun remembers => forgotten (spares.networks remembers),
    ⟨included, spares.rules gone included isGone⟩, fun unlinked =>
    spares.link (isUnlinked unlinked)⟩

theorem knows_outside {known : Known} (outside : contract.outside before after)
    (knows : known.Knows thread before) : known.Knows thread after := by
  rcases outside with ⟨spares, sameHandler, sameCopied⟩
  cases known with
  | nothing => trivial
  | setting bridge => exact ⟨(spares bridge).holder.trans knows.1, (spares bridge).down.trans knows.2⟩
  | locked bridge => exact (spares bridge).holder.trans knows
  | tearing bridge => exact (spares bridge).knows_tearing knows
  | handling => exact ⟨sameHandler.trans knows.1, sameCopied.trans knows.2⟩

/-- A lock that is held leaves to others only what they copied. -/
theorem spares_of_held {other : Nat} (allowed : contract.may other before after)
    (different : other ≠ thread) (holder : before.holder bridge = some thread) :
      Spares bridge before after ∨ (before.Copied bridge ∧ after.holder bridge = before.holder
      bridge ∧ after.down bridge = before.down bridge) := by
  rcases allowed.2.2 bridge with spares | free | theirs | copied
  · exact .inl spares
  · exact nomatch holder.symm.trans free
  · exact absurd (Option.some.inj (holder.symm.trans theirs)).symm different
  · exact .inr copied

theorem knows_may {known : Known} {other : Nat} (sane : Sane before)
    (allowed : contract.may other before after) (different : other ≠ thread)
    (knows : known.Knows thread before) : known.Knows thread after := by
  cases known with
  | nothing => trivial
  | setting =>
    rcases spares_of_held allowed different knows.1 with spares | ⟨_, sameHolder, sameDown⟩
    · exact ⟨spares.holder.trans knows.1, spares.down.trans knows.2⟩
    · exact ⟨sameHolder.trans knows.1, sameDown.trans knows.2⟩
  | locked =>
    rcases spares_of_held allowed different knows with spares | ⟨_, sameHolder, _⟩
    · exact spares.holder.trans knows
    · exact sameHolder.trans knows
  | tearing bridge =>
    rcases spares_of_held allowed different knows.1 with spares | ⟨copied, _⟩
    · exact spares.knows_tearing knows
    · exact absurd (sane.copied bridge copied) knows.2.1
  | handling =>
    rcases allowed.2.1 with free | theirs | ⟨sameHandler, sameCopied⟩
    · exact nomatch knows.1.symm.trans free
    · exact absurd (Option.some.inj (knows.1.symm.trans theirs)).symm different
    · exact ⟨sameHandler.trans knows.1, sameCopied.trans knows.2⟩

def knowledge (thread : Nat) : Knowledge contract thread Known where
  knows := fun known world => known.Knows thread world
  stable := by
    rintro known first second ⟨sane, _, _, outside | ⟨other, different, allowed⟩⟩ knows
    · exact knows_outside outside knows
    · exact knows_may sane allowed different knows

abbrev During {Value : Type} (thread : Nat) (program : Op Value) (post : Value → Known → Prop)
    (known : Known) : Prop :=
  program.Ensures (knowledge thread) post known

/-! ## Setting a bridge up -/

/-- What a step of a setup does: nothing of any other bridge, and nothing is forgotten. -/
structure Sets (network : Network) (before after : World) : Prop where
  holder : after.holder = before.holder
  down : after.down = before.down
  handler : after.handler = before.handler
  copied : after.copied = before.copied
  links : ∀ bridge, bridge ≠ network.bridge → after.links bridge = before.links bridge
  remembers : ∀ bridge, before.Remembers bridge → after.Remembers bridge
  remembered : ∀ bridge, bridge ≠ network.bridge → after.Remembers bridge → before.Remembers bridge
  tables : Adds (Names network.bridge) before.tables after.tables

theorem Sets.spares (sets : Sets network before after) (different : bridge ≠ network.bridge) :
    Spares bridge before after where
  holder := congrFun sets.holder bridge
  down := congrFun sets.down bridge
  networks := sets.remembered bridge different
  link := (sets.links bridge different).trans
  rules := by
    intro places included gone
    refine gone.adds sets.tables ?_
    intro place member comment names
    exact names.other (.symm different) (places_kinds place (included member))

theorem Sets.sane (sets : Sets network before after) (sane : Sane before)
    (notDown : before.down network.bridge = false) : Sane after where
  copied := by
    rintro bridge ⟨copy, isCopied, same⟩
    rw [sets.copied] at isCopied
    exact sets.remembers bridge (sane.copied bridge ⟨copy, isCopied, same⟩)
  down := by
    intro bridge isDown
    rw [sets.down] at isDown
    have different : bridge ≠ network.bridge := by
      rintro rfl
      exact nomatch isDown.symm.trans notDown
    have spares := sets.spares different
    rcases sane.down bridge isDown with ⟨forgotten, unlinked, gone⟩
    exact ⟨fun remembers => forgotten (spares.networks remembers), spares.link unlinked,
      spares.rules _ (List.Subset.refl _) gone⟩

/-- The thread may set the bridge up. -/
def Known.MaySet (thread : Nat) (network : Network) (known : Known) : Prop :=
  ∀ world, Sane world → known.Knows thread world → world.down network.bridge = false ∧
    (world.holder network.bridge = some thread ∨ world.Copied network.bridge)

theorem maySet_setting : (Known.setting network.bridge).MaySet thread network :=
  fun _ _ knows => ⟨knows.2, .inl knows.1⟩

/-- What is copied is remembered, so it is not down. -/
theorem maySet_handling {rest : List Network} :
    (Known.handling (network :: rest)).MaySet thread network := by
  intro world sane knows
  have isCopied : world.Copied network.bridge := ⟨network, knows.2 ▸ List.mem_cons_self, rfl⟩
  refine ⟨?_, .inr isCopied⟩
  cases isDown : world.down network.bridge with
  | false => rfl
  | true => exact absurd (sane.copied _ isCopied) (sane.down _ isDown).1

/-- What it knows lasts through its own steps. -/
def Known.Lasts (thread : Nat) (network : Network) (known : Known) : Prop :=
  ∀ before after, Sets network before after → known.Knows thread before → known.Knows thread after

theorem lasts_setting : (Known.setting bridge).Lasts thread network := by
  intro before after sets knows
  exact ⟨(congrFun sets.holder bridge).trans knows.1, (congrFun sets.down bridge).trans knows.2⟩

theorem lasts_handling {rest : List Network} : (Known.handling rest).Lasts thread network := by
  intro before after sets knows
  exact ⟨sets.handler.trans knows.1, sets.copied.trans knows.2⟩

section

variable {known : Known}

theorem Sets.may (sets : Sets network before after) (sane : Sane before)
    (maySet : known.MaySet thread network) (knows : known.Knows thread before) :
    contract.may thread before after := by
  rcases maySet before sane knows with ⟨notDown, reaches⟩
  refine ⟨sets.sane sane notDown, .inr (.inr ⟨sets.handler, sets.copied⟩), ?_⟩
  intro bridge
  by_cases same : bridge = network.bridge
  · subst same
    rcases reaches with holder | copied
    · exact .inr (.inr (.inl holder))
    · exact .inr (.inr (.inr ⟨copied, congrFun sets.holder _, congrFun sets.down _⟩))
  · exact .inl (sets.spares same)

theorem sets_stays {failure : Err} {effect : World → World} (maySet : known.MaySet thread network)
    (lasts : known.Lasts thread network) (sets : ∀ world, Sets network world (effect world)) :
    Stays (knowledge thread) (mayChange failure effect) known := by
  apply Stays.mayChange
  intro now sane knows
  exact ⟨(sets now).may sane maySet knows, lasts _ _ (sets now) knows⟩

theorem sets_self (world : World) {tables : Tables}
    (adds : Adds (Names network.bridge) world.tables tables) :
    Sets network world { world with tables := tables } where
  holder := rfl
  down := rfl
  handler := rfl
  copied := rfl
  links := fun _ _ => rfl
  remembers := fun _ remembers => remembers
  remembered := fun _ _ remembers => remembers
  tables := adds

theorem sets_link (world : World) :
    Sets network world { world with links := update world.links network.bridge true } where
  holder := rfl
  down := rfl
  handler := rfl
  copied := rfl
  links := fun _ different => update_of_ne different _ _
  remembers := fun _ remembers => remembers
  remembered := fun _ _ remembers => remembers
  tables := fun _ _ _ member => .inl member

theorem sets_remembered (world : World) :
    Sets network world { world with networks := remembered world.networks network } where
  holder := rfl
  down := rfl
  handler := rfl
  copied := rfl
  links := fun _ _ => rfl
  remembers := by
    rintro bridge ⟨other, isOther, rfl⟩
    by_cases same : other.bridge = network.bridge
    · exact ⟨network, List.mem_cons_self, same.symm⟩
    · exact ⟨other, List.mem_cons_of_mem _ (List.mem_filter.mpr ⟨isOther, decide_eq_true same⟩),
        rfl⟩
  remembered := by
    rintro bridge different ⟨other, isOther, rfl⟩
    rcases List.mem_cons.mp isOther with rfl | isKept
    · exact absurd rfl different
    · exact ⟨other, (List.mem_filter.mp isKept).1, rfl⟩
  tables := fun _ _ _ member => .inl member

variable {listenerPort : Nat}

theorem setupIPTables_stays (maySet : known.MaySet thread network)
    (lasts : known.Lasts thread network) {subnet : String} {internal : Bool} :
    Stays (knowledge thread) (setupIPTables network.bridge subnet internal) known := by
  have changes : ∀ (failure : Err) (effect : Tables → Tables),
      (∀ tables, ChangesOf network.bridge tables (effect tables)) →
        Stays (knowledge thread) (rules failure effect) known :=
    fun failure effect changes => sets_stays maySet lasts fun world =>
      sets_self world (changes world.tables).adds
  refine Stays.mayFail.bind fun _ => Stays.observe.bind ?_
  intro uplink
  cases uplink with
  | none => exact Stays.throw
  | some =>
    refine (changes _ _ fun _ => changes_ensureDicerChains).bind fun _ => ?_
    refine (changes _ _ fun _ => changes_natRule).bind fun _ => ?_
    refine (changes _ _ fun _ => changes_ensureForwardRules).bind fun _ => ?_
    exact changes _ _ fun _ => changes_ensureIsolationRules

theorem setupBridge_stays (maySet : known.MaySet thread network)
    (lasts : known.Lasts thread network) :
    Stays (knowledge thread) (setupBridge listenerPort network) known := by
  have linked : Stays (knowledge thread) (ensureBridge network) known :=
    Stays.mayFail.bind fun _ => (sets_stays maySet lasts sets_link).bind fun _ =>
      Stays.mayFail.bind fun _ => Stays.mayFail
  have remembers : Stays (knowledge thread) (always (change fun world =>
      { world with networks := remembered world.networks network }) : Call Unit) known := by
    apply Stays.always
    intro post goes
    apply change_ensures
    intro now sane knows
    exact ⟨(sets_remembered now).may sane maySet knows, known,
      lasts _ _ (sets_remembered now) knows, goes _⟩
  have gateway : Stays (knowledge thread) (ensureGatewayAccess listenerPort network) known :=
    (sets_stays maySet lasts fun world => sets_self world changes_ensureInputRules.adds).bind
      fun _ => Stays.mayFail
  exact Stays.mayFail.bind fun _ => linked.bind fun _ => remembers.bind fun _ =>
    (setupIPTables_stays maySet lasts).bind fun _ => gateway

end

/-- A step under the network's lock that is about its bridge alone. -/
structure Owns (bridge : String) (before after : World) : Prop where
  handler : after.handler = before.handler
  copied : after.copied = before.copied
  others : ∀ other, other ≠ bridge → Spares other before after

theorem Owns.may (owns : Owns bridge before after) (sane : Sane after)
    (mine : before.holder bridge = none ∨ before.holder bridge = some thread) :
    contract.may thread before after := by
  refine ⟨sane, .inr (.inr ⟨owns.handler, owns.copied⟩), ?_⟩
  intro other
  by_cases same : other = bridge
  · subst same
    exact .inr (mine.imp_right .inl)
  · exact .inl (owns.others other same)

theorem owns_holder (world : World) (holder : Option Nat) :
    Owns bridge world { world with holder := update world.holder bridge holder } where
  handler := rfl
  copied := rfl
  others := fun _ different => ⟨update_of_ne different _ _, rfl, id, id, fun _ _ gone => gone⟩

theorem owns_down (world : World) (down : Bool) :
    Owns bridge world { world with down := update world.down bridge down } where
  handler := rfl
  copied := rfl
  others := fun _ different => ⟨rfl, update_of_ne different _ _, id, id, fun _ _ gone => gone⟩

theorem owns_unlinked (world : World) :
    Owns bridge world { world with links := update world.links bridge false } where
  handler := rfl
  copied := rfl
  others := fun _ different =>
    ⟨rfl, rfl, id, (update_of_ne different _ _).trans, fun _ _ gone => gone⟩

theorem owns_removed (world : World) {tables : Tables}
    (adds : Adds (fun _ => False) world.tables tables) :
    Owns bridge world { world with tables := tables } where
  handler := rfl
  copied := rfl
  others := fun _ _ =>
    ⟨rfl, rfl, id, id, fun _ _ gone => gone.adds adds fun _ _ _ impossible => absurd impossible id⟩

theorem remembers_forgotten {networks : List Network} {other : String} :
    (∃ network ∈ forgotten networks bridge, network.bridge = other) ↔
      other ≠ bridge ∧ ∃ network ∈ networks, network.bridge = other := by
  constructor
  · rintro ⟨network, member, rfl⟩
    rcases List.mem_filter.mp member with ⟨isOne, different⟩
    exact ⟨of_decide_eq_true different, network, isOne, rfl⟩
  · rintro ⟨different, network, member, rfl⟩
    exact ⟨network, List.mem_filter.mpr ⟨member, decide_eq_true different⟩, rfl⟩

theorem owns_forgotten (world : World) :
    Owns bridge world { world with networks := forgotten world.networks bridge } where
  handler := rfl
  copied := rfl
  others := fun _ _ => ⟨rfl, rfl, fun remembers => (remembers_forgotten.mp remembers).2, id,
    fun _ _ gone => gone⟩

variable {post : Unit → Known → Prop}

theorem lock_during (holds : post () (.locked bridge)) :
    During thread (lock bridge) post .nothing := by
  refine Ensures.perform fun now sane _ => ?_
  split
  · rename_i free
    exact .one fun _ => ⟨.inr ((owns_holder now _).may ⟨sane.copied, sane.down⟩ (.inl free)),
      fun _ => ⟨.locked bridge, update_self .., holds⟩⟩
  · exact .none

theorem unlock_during {known : Known}
    (holder : ∀ world, known.Knows thread world → world.holder bridge = some thread)
    (holds : post () .nothing) : During thread (unlock bridge) post known := by
  apply change_ensures
  intro now sane knows
  exact ⟨(owns_holder now none).may ⟨sane.copied, sane.down⟩ (.inr (holder now knows)), .nothing,
    trivial, holds⟩

/-- From here on the bridge is not taken for down. -/
theorem called_during (holds : post () (.setting bridge)) :
    During thread (change fun world => { world with down := update world.down bridge false }) post
      (.locked bridge) := by
  apply change_ensures
  intro now sane holder
  refine ⟨(owns_down now false).may ⟨sane.copied, ?_⟩ (.inr holder), .setting bridge,
    ⟨holder, update_self ..⟩, holds⟩
  intro other isDown
  by_cases same : other = bridge
  · subst same
    exact nomatch (update_self ..).symm.trans isDown
  · exact sane.down other ((update_of_ne same ..).symm.trans isDown)

theorem setUp_stays {listenerPort : Nat} :
    Stays (knowledge thread) (setUp listenerPort network) .nothing := by
  intro post goes
  apply Ensures.bindExcept
  apply always_ensures
  apply lock_during
  apply Ensures.bindExcept
  apply always_ensures
  apply called_during
  apply finally_ensures
  apply setupBridge_stays maySet_setting lasts_setting
  intro result
  exact unlock_during (fun _ knows => knows.1) (goes result)

/-! ## Tearing a bridge down -/

/-- A network that is not among the copied ones is forgotten for good. -/
theorem forget_during (holds : post () (.tearing bridge [] false)) :
    During thread (change fun world => { world with networks := forgotten world.networks bridge })
      post (.locked bridge) := by
  refine Ensures.perform fun now sane holder => .one fun meets => ?_
  have isForgotten : ¬ World.Remembers { now with networks := forgotten now.networks bridge }
      bridge :=
    fun remembers => (remembers_forgotten.mp remembers).1 rfl
  have uncopied : ¬ now.Copied bridge :=
    fun isCopied => meets.uncopied (sane.copied bridge isCopied) isForgotten isCopied
  refine ⟨.inr ((owns_forgotten now).may ⟨?_, ?_⟩ (.inr holder)), fun _ =>
    ⟨.tearing bridge [] false, ⟨holder, isForgotten, ⟨List.nil_subset _, nofun⟩, nofun⟩, holds⟩⟩
  · intro other isCopied
    have different : other ≠ bridge := by
      rintro rfl
      exact uncopied isCopied
    exact remembers_forgotten.mpr ⟨different, sane.copied other isCopied⟩
  · intro other isDown
    rcases sane.down other isDown with ⟨isForgotten, rest⟩
    exact ⟨fun remembers => isForgotten (remembers_forgotten.mp remembers).2, rest⟩

section

variable {gone : List (String × Table × Chain)} {unlinked : Bool}

theorem remove_during {effect : Tables → Tables} {more : List (String × Table × Chain)}
    (adds : ∀ tables, Adds (fun _ => False) tables (effect tables))
    (included : more ⊆ inputPlaces ++ otherPlaces)
    (removes : ∀ tables, GoneFrom more (effect tables) bridge)
    (holds : post () (.tearing bridge (gone ++ more) unlinked)) :
    During thread (change fun world => { world with tables := effect world.tables }) post
      (.tearing bridge gone unlinked) := by
  apply change_ensures
  intro now sane knows
  rcases knows with ⟨holder, isForgotten, ⟨isIncluded, isGone⟩, isUnlinked⟩
  have stays : ∀ places other, GoneFrom places now.tables other →
      GoneFrom places (effect now.tables) other :=
    fun _ _ isGone => isGone.adds (adds now.tables) fun _ _ _ impossible => absurd impossible id
  refine ⟨(owns_removed now (adds now.tables)).may ⟨sane.copied, ?_⟩ (.inr holder),
    .tearing bridge (gone ++ more) unlinked,
    ⟨holder, isForgotten, ⟨List.append_subset.mpr ⟨isIncluded, included⟩, ?_⟩, isUnlinked⟩, holds⟩
  · intro other isDown
    rcases sane.down other isDown with ⟨isForgotten, isUnlinked, isGone⟩
    exact ⟨isForgotten, isUnlinked, stays _ _ isGone⟩
  · intro place member
    rcases List.mem_append.mp member with earlier | isMore
    · exact stays _ _ isGone place earlier
    · exact removes now.tables place isMore

theorem unlink_during (holds : post () (.tearing bridge gone true)) :
    During thread (change fun world => { world with links := update world.links bridge false }) post
      (.tearing bridge gone unlinked) := by
  apply change_ensures
  intro now sane knows
  rcases knows with ⟨holder, isForgotten, isGone, _⟩
  refine ⟨(owns_unlinked now).may ⟨sane.copied, ?_⟩ (.inr holder), .tearing bridge gone true,
    ⟨holder, isForgotten, isGone, fun _ => update_self ..⟩, holds⟩
  intro other isDown
  rcases sane.down other isDown with ⟨isForgotten, isUnlinked, isGone⟩
  refine ⟨isForgotten, ?_, isGone⟩
  by_cases same : other = bridge
  · subst same
    exact update_self ..
  · exact (update_of_ne same _ _).trans isUnlinked

end

theorem down_during (holds : post () (.tearing bridge (inputPlaces ++ otherPlaces) true)) :
    During thread (change fun world => { world with down := update world.down bridge true }) post
      (.tearing bridge (inputPlaces ++ otherPlaces) true) := by
  apply change_ensures
  intro now sane knows
  refine ⟨(owns_down now true).may ⟨sane.copied, ?_⟩ (.inr knows.1),
    .tearing bridge (inputPlaces ++ otherPlaces) true, knows, holds⟩
  intro other isDown
  by_cases same : other = bridge
  · subst same
    exact ⟨knows.2.1, knows.2.2.2 rfl, knows.2.2.1.2⟩
  · exact sane.down other ((update_of_ne same ..).symm.trans isDown)

theorem tearDown_during (goes : post () .nothing) :
    During thread (tearDown network) post .nothing := by
  apply Ensures.bind
  apply lock_during
  apply Ensures.bind
  apply Ensures.bind
  apply forget_during
  apply Ensures.bind
  apply remove_during (fun _ => changes_removeInputRules.adds) (List.subset_append_left _ _)
    fun _ => gone_removeInputRules
  apply Ensures.bind
  apply unlink_during
  apply remove_during (fun _ => changes_teardownIPTables.adds) (List.subset_append_right _ _)
    fun _ => gone_teardownIPTables
  apply Ensures.bind
  apply down_during
  exact unlock_during (fun _ knows => knows.1) goes

theorem Copied.keeps_sane (sane : Sane world) {copied : List Network} {handler : Option Nat}
    (known : ∀ network ∈ copied, world.Remembers network.bridge) :
    Sane { world with handler := handler, copied := copied } where
  copied := by
    rintro bridge ⟨network, isCopied, rfl⟩
    exact known network isCopied
  down := sane.down

theorem spares_handler (world : World) (copied : List Network) (handler : Option Nat) :
    Spares bridge world { world with handler := handler, copied := copied } :=
  ⟨rfl, rfl, id, id, fun _ _ gone => gone⟩

theorem copyNetworks_during {post : List Network → Known → Prop}
    (holds : ∀ networks, post networks (.handling networks)) :
    During thread copyNetworks post .nothing := by
  refine Ensures.perform fun now sane _ => ?_
  split
  · rename_i free
    refine .map fun networks isPermuted _ =>
      ⟨.inr ⟨Copied.keeps_sane sane ?_, .inl free, fun _ => .inl (spares_handler ..)⟩, fun _ =>
        ⟨.handling networks, ⟨rfl, rfl⟩, holds networks⟩⟩
    intro network isCopied
    exact ⟨network, (List.mem_permutations.mp isPermuted).mem_iff.mp isCopied, rfl⟩
  · exact .none

theorem setUpAgain_during {listenerPort : Nat} (goes : post () .nothing) (networks : List Network)
    : During thread (setUpAgain listenerPort networks) post (.handling networks) := by
  induction networks with
  | nil =>
    apply change_ensures
    intro now sane knows
    refine ⟨⟨Copied.keeps_sane sane ?_, .inr (.inl knows.1), fun _ => .inl (spares_handler ..)⟩,
      .nothing, trivial, goes⟩
    intro network isCopied
    rw [knows.2] at isCopied
    exact nomatch isCopied
  | cons network rest ih =>
    apply Ensures.bind
    apply bestEffort_ensures
    apply setupBridge_stays maySet_handling lasts_handling
    intro _
    apply Ensures.bind
    apply change_ensures
    intro now sane knows
    refine ⟨⟨Copied.keeps_sane sane ?_, .inr (.inl knows.1), fun _ => .inl (spares_handler ..)⟩,
      .handling rest, ⟨knows.1, rfl⟩, ih⟩
    intro other isCopied
    refine sane.copied other.bridge ⟨other, ?_, rfl⟩
    rw [knows.2]
    exact List.mem_cons_of_mem network isCopied

theorem contract_holds (listenerPort : Nat) : contract.Holds (system listenerPort) where
  mayKeeps := fun _ _ _ _ _ allowed => allowed.1
  happens := by
    intro event before after sane _ happened
    cases event with
    | flushed =>
      cases happened
      have stays : ∀ places bridge, GoneFrom places before.tables bridge →
          GoneFrom places before.tables.flush bridge :=
        fun _ _ gone => gone.adds (adds_flush : Adds (fun _ => False) _ _) fun _ _ _ impossible =>
          absurd impossible id
      refine ⟨⟨fun bridge => ⟨rfl, rfl, id, id, fun places _ => stays places bridge⟩, rfl, rfl⟩,
        sane.copied, ?_⟩
      intro bridge isDown
      rcases sane.down bridge isDown with ⟨isForgotten, isUnlinked, isGone⟩
      exact ⟨isForgotten, isUnlinked, stays _ _ isGone⟩
    | rerouted =>
      cases happened
      exact ⟨⟨fun _ => ⟨rfl, rfl, id, id, fun _ _ gone => gone⟩, rfl, rfl⟩, sane.copied, sane.down⟩
  crashes := fun _ _ _ _ impossible => absurd impossible nofun
  serves := by
    intro request thread world sane _ _
    have served : During thread ((system listenerPort).program request)
        (fun _ _ => True) .nothing := by
      cases request with
      | setUp =>
        apply Ensures.bind
        exact setUp_stays _ fun _ => .done trivial
      | tearDown => exact tearDown_during trivial
      | reloaded =>
        apply Ensures.bind
        exact copyNetworks_during fun networks => setUpAgain_during trivial networks
    exact (served world sane trivial).mono sane fun _ _ _ _ => trivial

/-- In every run in which no network is forgotten while the reload handler has yet to set it up
again: a network that was torn down has no bridge and none of its rules until a setup is called for
it. -/
theorem torn_down_stays_gone {listenerPort : Nat} {tables : Tables} {links : String → Bool}
    {uplink : Option String} {networks : List Network} {pool : Pool Nat World}
    (reached : (system listenerPort).Reaches ForgetsUncopied (.resting tables links uplink networks)
      pool)
    {bridge : String} (isDown : pool.world.down bridge = true) :
    pool.world.links bridge = false ∧ Gone pool.world.tables bridge := by
  have sane : Sane (.resting tables links uplink networks) :=
    ⟨fun _ ⟨_, impossible, _⟩ => (nomatch impossible), nofun⟩
  have kept := ((contract_holds listenerPort).reaches sane (fun _ => trivial) reached).kept
  exact (kept.down bridge isDown).2

def lan : Network := ⟨"dicer-lan", "10.1.0.0/24", "10.1.0.1", false⟩

def bare : World := .resting (fun _ _ => []) (fun _ => false) (some "eth0") []

def acts (thread times : Nat) : List (Choice Nat Request Event) :=
    List.replicate times (.act thread 0)

/-- The network is set up again after a reload, and then torn down. -/
def reloadsFirst : List (Choice Nat Request Event) :=
  [.spawn 0 (.setUp lan)] ++ acts 0 17 ++ [.happen .flushed, .spawn 1 .reloaded] ++ acts 1 17 ++
    [.spawn 2 (.tearDown lan)] ++ acts 2 7

theorem torn_down_stays_gone_reloaded :
    ∃ pool, (system 0).Reaches ForgetsUncopied bare pool ∧ pool.world.down "dicer-lan" = true ∧
      pool.world.links "dicer-lan" = false ∧ Gone pool.world.tables "dicer-lan" :=
  (system 0).known_of_schedule reloadsFirst (by decide +kernel) fun reached =>
    torn_down_stays_gone reached

/-- The handler copies the network, which is torn down before the handler comes to it. -/
def tearsDownCopied : List (Choice Nat Request Event) :=
  [.spawn 0 (.setUp lan)] ++ acts 0 17 ++
    [.happen .flushed, .spawn 1 .reloaded, .act 1 0, .spawn 2 (.tearDown lan)] ++ acts 2 7 ++
    acts 1 16

/-- The bridge and its rules are back though no instance needs them, and are remembered for the next
reload. -/
theorem torn_down_comes_back :
    ∃ pool, (system 0).Reaches (fun _ _ => True) bare pool ∧ pool.world.down "dicer-lan" = true ∧
      pool.world.links "dicer-lan" = true ∧
      natRule "dicer-lan" "10.1.0.0/24" "eth0" ∈ pool.world.tables .nat .postrouting ∧
      lan ∈ pool.world.networks ∧ pool.world.handler = none ∧ pool.world.holder "dicer-lan" =
      none :=
  (system 0).pool_of_schedule tearsDownCopied (by decide +kernel)

end Dicer.HostNet.Watching
