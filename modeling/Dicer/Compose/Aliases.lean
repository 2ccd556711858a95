import Mathlib.Data.Set.Card
import Mathlib.Logic.Relation
import Mathlib.Tactic.FinCases

namespace Dicer.Compose

open Relation

/-!
# Aliases in a compose file

The reader of YAML gives a graph: an alias points to the node with its anchor, and that node may be
one the alias is inside of, since an anchor is known before what it stands at is read.  Before
anything else every alias is replaced by a copy of what it points to, in place.  A call that has not
returned within so many calls of itself gives nothing.
-/

inductive Kind
  | scalar
  | sequence
  | mapping
  deriving DecidableEq, Repr

structure Label where
  kind : Kind
  tag : String
  value : String
  anchor : String
  deriving DecidableEq, Repr

/-- A node and everything under it, without an alias. -/
inductive Tree
  | node (label : Label) (content : List Tree)

/-- A node of the file or a copy, which nothing else points into. -/
inductive Child (Place : Type)
  | place (place : Place)
  | copy (tree : Tree)

structure Node (Place : Type) where
  label : Label
  aliasOf : Option Place
  content : List (Child Place)

abbrev Graph (Place : Type) := Place → Node Place

variable {Place : Type}

def copyChild (copy : Place → Option Tree) : Child Place → Option Tree
  | .place child => copy child
  | .copy tree => some tree

def deepCopy : Nat → Graph Place → Place → Option Tree
  | 0, _, _ => none
  | calls + 1, graph, place =>
    match (graph place).aliasOf with
    | some target => deepCopy calls graph target
    | none => do
      let content ← (graph place).content.mapM (copyChild (deepCopy calls graph))
      some (.node { (graph place).label with anchor := "" } content)

def Graph.setContent [DecidableEq Place] (graph : Graph Place) (place : Place) (index : Nat)
    (tree : Tree) : Graph Place :=
  Function.update graph place { graph place with content := (graph place).content.set index (.copy tree) }

/-- A copy has no aliases left to expand. -/
def expandChild [DecidableEq Place] (copy : Graph Place → Place → Option Tree)
    (expand : Place → Graph Place → Option (Graph Place)) (place : Place) (graph : Graph Place)
    (index : Nat) :
    Option (Graph Place) :=
  match (graph place).content[index]? with
  | some (.place child) =>
    match (graph child).aliasOf with
    | some target => (copy graph target).map (graph.setContent place index)
    | none => expand child graph
  | _ => some graph

def expandAliases [DecidableEq Place] : Nat → Place → Graph Place → Option (Graph Place)
  | 0, _, _ => none
  | calls + 1, place, graph =>
    (List.range (graph place).content.length).foldlM
    (expandChild (deepCopy calls) (expandAliases calls) place) graph

def Graph.Refers (graph : Graph Place) (place target : Place) : Prop :=
  (graph place).aliasOf = some target ∨ .place target ∈ (graph place).content

/-- Going on from a node one comes to a node that leads back to itself. -/
def Graph.Loops (graph : Graph Place) (place : Place) : Prop :=
  ∃ later, ReflTransGen graph.Refers place later ∧ TransGen graph.Refers later later

/-- References lead from sound nodes to sound nodes only, and down a measure. -/
def Ranked (sound : Place → Prop) (rank : Place → Nat) (graph : Graph Place) : Prop :=
  ∀ place target, sound place → graph.Refers place target → sound target ∧ rank target < rank place

variable {sound : Place → Prop} {rank : Place → Nat} {graph : Graph Place}

/-- In a finite graph the nodes that come to no loop go down some measure. -/
theorem exists_rank [Finite Place] (graph : Graph Place) :
    ∃ rank : Place → Nat, Ranked (fun place => ¬graph.Loops place) rank graph := by
  refine ⟨fun place => {other | TransGen graph.Refers place other}.ncard, ?_⟩
  intro place target straight step
  have straightOn : ¬graph.Loops target := by
    rintro ⟨later, reached, around⟩
    exact straight ⟨later, .head step reached, around⟩
  refine ⟨straightOn, Set.ncard_lt_ncard ⟨fun _ later => .head step later, fun all => ?_⟩
    (Set.toFinite _)⟩
  exact straightOn ⟨target, .refl, all (.single step)⟩

theorem Ranked.of_transGen (ranked : Ranked sound rank graph) {place target : Place}
    (isSound : sound place) (reached : TransGen graph.Refers place target) :
    sound target ∧ rank target < rank place := by
  induction reached with
  | single step => exact ranked _ _ isSound step
  | tail _ step ih =>
    have next := ranked _ _ ih.1 step
    exact ⟨next.1, next.2.trans ih.2⟩

theorem exists_mapM {Item Value : Type} {call : Item → Option Value} {items : List Item} :
    (∃ values, items.mapM call = some values) ↔ ∀ item ∈ items, ∃ value,
    call item = some value := by
  induction items with
  | nil => simp
  | cons item rest ih =>
    rw [List.forall_mem_cons, ← ih]
    cases called : call item <;> cases others : rest.mapM call <;>
      simp [List.mapM_cons, called, others]

theorem deepCopy_returns (ranked : Ranked sound rank graph) {calls : Nat} {place : Place}
    (isSound : sound place) (enough : rank place < calls) :
    ∃ tree, deepCopy calls graph place = some tree := by
  induction calls generalizing place with
  | zero => omega
  | succ calls ih =>
    have below : ∀ {target}, graph.Refers place target →
        ∃ tree, deepCopy calls graph target = some tree := by
      intro target refers
      have next := ranked place target isSound refers
      exact ih next.1 (next.2.trans_le (Nat.le_of_lt_succ enough))
    unfold deepCopy
    split
    · rename_i target isAlias
      exact below (.inl isAlias)
    have each : ∀ child ∈ (graph place).content,
        ∃ tree, copyChild (deepCopy calls graph) child = some tree := by
      rintro (child | tree) member
      · exact below (.inr member)
      · exact ⟨tree, rfl⟩
    rcases exists_mapM.mpr each with ⟨content, copied⟩
    exact ⟨_, by rw [copied]; rfl⟩

/-- Nodes from which one can go on for ever without leaving them, in a graph whose aliases hold
nothing themselves. -/
structure Trap (trapped : Place → Prop) (graph : Graph Place) : Prop where
  goesOn : ∀ place, trapped place → ∃ target, trapped target ∧ graph.Refers place target
  leaf : ∀ place target, (graph place).aliasOf = some target → (graph place).content = []

theorem trap_loops (leaf : ∀ place target, (graph place).aliasOf = some target →
    (graph place).content = []) : Trap graph.Loops graph := by
  refine ⟨?_, leaf⟩
  rintro place ⟨later, reached, around⟩
  rcases reached.cases_head with rfl | ⟨next, step, rest⟩
  · rcases TransGen.head'_iff.mp around with ⟨next, step, back⟩
    exact ⟨next, ⟨place, back, around⟩, step⟩
  · exact ⟨next, ⟨later, rest, around⟩, step⟩

variable {trapped : Place → Prop}

theorem deepCopy_trapped (trap : Trap trapped graph) (calls : Nat) {place : Place}
    (isTrapped : trapped place) : deepCopy calls graph place = none := by
  induction calls generalizing place with
  | zero => rfl
  | succ calls ih =>
    rcases trap.goesOn place isTrapped with ⟨target, stays, refers⟩
    unfold deepCopy
    split
    · rename_i other isAlias
      rcases refers with leads | holds
      · exact ih (Option.some.inj (isAlias.symm.trans leads) ▸ stays)
      · simp [trap.leaf place other isAlias] at holds
    · rename_i noAlias
      have held := refers.resolve_left (by simp [noAlias])
      cases copied : (graph place).content.mapM (copyChild (deepCopy calls graph)) with
      | none => rfl
      | some =>
        rcases exists_mapM.mp ⟨_, copied⟩ _ held with ⟨tree, isCopy⟩
        cases (ih stays).symm.trans isCopy

/-- What is left of a graph once aliases were expanded in it. -/
structure Shrunk (trapped : Place → Prop) (graph after : Graph Place) : Prop
    extends Trap trapped after where
  aliases : ∀ place, (after place).aliasOf = (graph place).aliasOf
  content : ∀ place (index : Nat) target,
    (after place).content[index]? = some (.place target) →
      (graph place).content[index]? = some (.place target)

theorem Shrunk.refl (trap : Trap trapped graph) : Shrunk trapped graph graph :=
  ⟨trap, fun _ => rfl, fun _ _ _ held => held⟩

theorem Shrunk.trans {middle after : Graph Place} (first : Shrunk trapped graph middle)
    (second : Shrunk trapped middle after) : Shrunk trapped graph after where
  toTrap := second.toTrap
  aliases := fun place => (second.aliases place).trans (first.aliases place)
  content := fun _ _ _ held => first.content _ _ _ (second.content _ _ _ held)

variable [DecidableEq Place]

theorem refers_of_setContent {place other target : Place} {index : Nat} {tree : Tree}
    (refers : (graph.setContent place index tree).Refers other target) :
    graph.Refers other target := by
  by_cases same : other = place
  · subst same
    simp only [Graph.Refers, Graph.setContent, Function.update_self] at refers
    refine refers.imp_right fun member => ?_
    rcases List.mem_or_eq_of_mem_set member with old | new
    · exact old
    · cases new
  · simpa [Graph.Refers, Graph.setContent, same] using refers

/-- Expanding only takes references away, so it goes on down the measure. -/
theorem expandAliases_returns (ranked : Ranked sound rank graph) {calls : Nat} {place : Place}
    (isSound : sound place) (enough : rank place < calls) :
    ∃ after, expandAliases calls place graph = some after ∧ Ranked sound rank after := by
  induction calls generalizing place graph with
  | zero => omega
  | succ calls ih =>
    have lower : ∀ {graph target}, Ranked sound rank graph → graph.Refers place target →
        sound target ∧ rank target < calls := by
      intro graph target ranked refers
      have next := ranked _ _ isSound refers
      exact ⟨next.1, next.2.trans_le (Nat.le_of_lt_succ enough)⟩
    unfold expandAliases
    generalize List.range (graph place).content.length = indices
    induction indices generalizing graph with
    | nil => exact ⟨graph, rfl, ranked⟩
    | cons index rest ihRest =>
      have step : ∃ after, expandChild (deepCopy calls) (expandAliases calls) place graph index =
          some after ∧ Ranked sound rank after := by
        unfold expandChild
        split
        · rename_i child isChild
          have below := lower ranked (.inr (List.mem_of_getElem? isChild))
          split
          · rename_i target isAlias
            have next := ranked child target below.1 (.inl isAlias)
            rcases deepCopy_returns ranked next.1 (next.2.trans below.2) with ⟨tree, copied⟩
            exact ⟨_, by rw [copied]; rfl, fun other target isSound refers =>
              ranked other target isSound (refers_of_setContent refers)⟩
          · exact ih ranked below.1 below.2
        · exact ⟨graph, rfl, ranked⟩
      rcases step with ⟨middle, stepped, rankedMiddle⟩
      rcases ihRest rankedMiddle with ⟨after, others, rankedAfter⟩
      exact ⟨after, by rw [List.foldlM_cons, stepped]; exact others, rankedAfter⟩

/-- An alias to a node outside of the trap is not in it, and can go. -/
theorem Trap.setContent (trap : Trap trapped graph) {place child target : Place} {index : Nat}
    (tree : Tree) (held : (graph place).content[index]? = some (.place child))
    (isAlias : (graph child).aliasOf = some target) (outside : ¬trapped target) :
    Shrunk trapped graph (graph.setContent place index tree) := by
  have free : ¬trapped child := by
    intro isTrapped
    rcases trap.goesOn child isTrapped with ⟨other, stays, leads | holds⟩
    · exact outside (Option.some.inj (isAlias.symm.trans leads) ▸ stays)
    · simp [trap.leaf child target isAlias] at holds
  refine ⟨⟨?_, ?_⟩, ?_, ?_⟩
  · intro other isTrapped
    rcases trap.goesOn other isTrapped with ⟨next, stays, refers⟩
    refine ⟨next, stays, ?_⟩
    by_cases same : other = place
    · subst same
      rcases refers with leads | holds
      · exact .inl (by simpa [Graph.setContent] using leads)
      · rcases List.mem_iff_getElem?.mp holds with ⟨at_, isNext⟩
        have apart : index ≠ at_ := by
          rintro rfl
          cases held.symm.trans isNext
          exact free stays
        refine .inr (List.mem_iff_getElem?.mpr ⟨at_, ?_⟩)
        simpa [Graph.setContent, List.getElem?_set_ne apart] using isNext
    · simpa [Graph.Refers, Graph.setContent, same] using refers
  · intro other next leads
    by_cases same : other = place
    · subst same
      simp only [Graph.setContent, Function.update_self] at leads ⊢
      simp [trap.leaf other next leads]
    · simp only [Graph.setContent, Function.update_of_ne same] at leads ⊢
      exact trap.leaf other next leads
  · intro other
    by_cases same : other = place <;> simp [Graph.setContent, same]
  · intro other at_ next isNext
    by_cases same : other = place
    · subst same
      simp only [Graph.setContent, Function.update_self, List.getElem?_set] at isNext
      split at isNext
      · split at isNext <;> simp at isNext
      · exact isNext
    · simpa [Graph.setContent, same] using isNext

/-- Expanding keeps what is trapped, and returns only for nodes that are not. -/
theorem expandAliases_outside {after : Graph Place} (trap : Trap trapped graph) {calls : Nat}
    {place : Place} (noAlias : (graph place).aliasOf = none)
    (returned : expandAliases calls place graph = some after) :
    Shrunk trapped graph after ∧ ¬trapped place := by
  induction calls generalizing place graph after with
  | zero => cases returned
  | succ calls ih =>
    have step : ∀ {graph after : Graph Place} {index : Nat}, Trap trapped graph →
        expandChild (deepCopy calls) (expandAliases calls) place graph index = some after →
        Shrunk trapped graph after ∧
          ∀ target, (after place).content[index]? = some (.place target) → ¬trapped target := by
      intro graph after index trap stepped
      unfold expandChild at stepped
      split at stepped
      · rename_i child held
        split at stepped
        · rename_i target isAlias
          rcases Option.map_eq_some_iff.mp stepped with ⟨tree, copied, rfl⟩
          have outside : ¬trapped target := by
            intro isTrapped
            cases (deepCopy_trapped trap calls isTrapped).symm.trans copied
          have shrunk := trap.setContent tree held isAlias outside
          refine ⟨shrunk, fun other isOther => ?_⟩
          simp [Graph.setContent, (List.getElem?_eq_some_iff.mp held).1] at isOther
        · rcases ih trap ‹_› stepped with ⟨shrunk, outside⟩
          refine ⟨shrunk, fun other isOther => ?_⟩
          cases held.symm.trans (shrunk.content _ _ _ isOther)
          exact outside
      · rename_i noChild
        cases stepped
        exact ⟨.refl trap, fun target held => absurd held (noChild target)⟩
    have run : ∀ {indices : List Nat} {graph : Graph Place}, Trap trapped graph →
        indices.foldlM (expandChild (deepCopy calls) (expandAliases calls) place) graph =
          some after →
        Shrunk trapped graph after ∧ ∀ index ∈ indices, ∀ target,
          (after place).content[index]? = some (.place target) → ¬trapped target := by
      intro indices
      induction indices with
      | nil =>
        intro graph trap done
        cases done
        exact ⟨.refl trap, by simp⟩
      | cons index rest ihRest =>
        intro graph trap done
        rw [List.foldlM_cons] at done
        rcases Option.bind_eq_some_iff.mp done with ⟨middle, stepped, others⟩
        rcases step trap stepped with ⟨first, passed⟩
        rcases ihRest first.toTrap others with ⟨second, passedRest⟩
        refine ⟨first.trans second, List.forall_mem_cons.mpr ⟨fun target held => ?_, passedRest⟩⟩
        exact passed target (second.content _ _ _ held)
    rcases run trap returned with ⟨shrunk, passed⟩
    refine ⟨shrunk, fun isTrapped => ?_⟩
    rcases shrunk.goesOn place isTrapped with ⟨target, stays, leads | holds⟩
    · simp [shrunk.aliases, noAlias] at leads
    · rcases List.mem_iff_getElem?.mp holds with ⟨index, held⟩
      have inside := (List.getElem?_eq_some_iff.mp (shrunk.content _ _ _ held)).1
      exact passed index (List.mem_range.mpr inside) target held stays

/-- Every alias is expanded, and the result can be copied, also once nodes of it were dropped or
moved up, as merging does, exactly if from the root one comes to no node that leads back to
itself. -/
theorem aliases_expanded [Finite Place] (graph : Graph Place) (root : Place)
    (noAlias : (graph root).aliasOf = none)
    (leaf : ∀ place target, (graph place).aliasOf = some target → (graph place).content = []) :
    (∃ calls after, expandAliases calls root graph = some after ∧ ∀ later : Graph Place,
      (∀ place target, later.Refers place target → TransGen after.Refers place target) →
        ∃ tree, deepCopy calls later root = some tree) ↔ ¬graph.Loops root := by
  constructor
  · rintro ⟨calls, after, expanded, _⟩
    exact (expandAliases_outside (trap_loops leaf) noAlias expanded).2
  intro straight
  rcases exists_rank graph with ⟨rank, ranked⟩
  rcases expandAliases_returns ranked straight (Nat.lt_succ_self (rank root))
    with ⟨after, expanded, rankedAfter⟩
  refine ⟨rank root + 1, after, expanded, fun later within => ?_⟩
  have rankedLater : Ranked (fun place => ¬graph.Loops place) rank later :=
    fun place target isSound refers => rankedAfter.of_transGen isSound (within _ _ refers)
  exact deepCopy_returns rankedLater straight (Nat.lt_succ_self _)

/-- The file "a: &a [*a]", with the alias inside of what it points to, or "a: &a []" and "b: *a". -/
def listWithAlias (inside : Bool) : Graph (Fin 5) := fun place =>
  match place with
  | 0 => ⟨⟨.mapping, "!!map", "", ""⟩, none, [.place 1, .place 2] ++ if inside then []
    else [.place 4, .place 3]⟩
  | 1 => ⟨⟨.scalar, "!!str", "a", ""⟩, none, []⟩
  | 2 => ⟨⟨.sequence, "!!seq", "", "a"⟩, none, if inside then [.place 3] else []⟩
  | 3 => ⟨⟨.scalar, "", "a", ""⟩, some 2, []⟩
  | 4 => ⟨⟨.scalar, "!!str", "b", ""⟩, none, []⟩

theorem aliases_expanded_outside : ∃ calls after, expandAliases calls 0 (listWithAlias false) =
    some after := by
  have lower : ∀ place target, (listWithAlias false).Refers place target →
      [3, 0, 1, 2, 0].getD target.val 0 < [3, 0, 1, 2, 0].getD place.val 0 := by
    rintro place target (isAlias | member)
    · fin_cases place <;> simp [listWithAlias] at isAlias
      simp [← isAlias]
    · fin_cases place <;> simp [listWithAlias] at member
      rcases member with rfl | rfl | rfl | rfl <;> simp
  have ranked : Ranked (fun _ => True) (fun place : Fin 5 => [3, 0, 1, 2, 0].getD place 0)
      (listWithAlias false) := fun place target _ refers => ⟨trivial, lower place target refers⟩
  have straight : ¬(listWithAlias false).Loops 0 := by
    rintro ⟨later, _, around⟩
    exact (ranked.of_transGen trivial around).2.false
  have leaf : ∀ place target, (listWithAlias false place).aliasOf = some target →
      (listWithAlias false place).content = [] := by
    intro place target isAlias
    fin_cases place <;> simp [listWithAlias] at isAlias ⊢
  rcases (aliases_expanded (listWithAlias false) 0 rfl leaf).mpr straight
    with ⟨calls, after, expanded, _⟩
  exact ⟨calls, after, expanded⟩

theorem list_in_itself : (listWithAlias true).Refers 2 3 ∧ (listWithAlias true).Refers 3 2 ∧
    ∀ calls, expandAliases calls 0 (listWithAlias true) = none := by
  have copies : ∀ calls, deepCopy calls (listWithAlias true) 2 = none ∧
      deepCopy calls (listWithAlias true) 3 = none := by
    intro calls
    induction calls with
    | zero => exact ⟨rfl, rfl⟩
    | succ calls ih =>
      refine ⟨?_, ih.1⟩
      simp [deepCopy, listWithAlias, copyChild, ih.2]
  refine ⟨.inr List.mem_cons_self, .inl rfl, ?_⟩
  rintro (_ | _ | calls)
  · rfl
  · rfl
  · simp [expandAliases, expandChild, listWithAlias, List.range_succ, (copies calls).1]

end Dicer.Compose
