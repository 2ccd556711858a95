import Mathlib.Data.List.Basic
import Mathlib.Logic.Function.Basic

namespace Dicer.PacketFilter

/-!
# Ordered chains of rules

A packet goes through a chain's rules in order, and the first that decides about it does.  A rule
may also send the packet through another chain, and takes it up again behind that rule if the chain
does not decide.  Chains do not call each other in circles, so a packet's way is described up to a
depth of such calls.

What a rule matches and does is left open: the results here are about the position of rules only.
-/

inductive Verdict
  | accept
  | drop
  deriving DecidableEq, Repr

/-- What a rule does with a packet it applies to. -/
inductive Action (Chain : Type)
  | decide (verdict : Verdict)
  | jump (chain : Chain)
  | pass

/-- How the rules of a table apply to packets. -/
structure Meaning (Chain Rule Packet : Type) where
  applies : Rule → Packet → Bool
  action : Rule → Packet → Action Chain

namespace Meaning

variable {Chain Rule Packet : Type} (meaning : Meaning Chain Rule Packet)

/-- What one rule says about a packet, given what the chains below say. -/
def decides (below : Chain → Packet → Option Verdict) (packet : Packet) (rule : Rule) :
    Option Verdict :=
  if meaning.applies rule packet then
    match meaning.action rule packet with
    | .decide verdict => some verdict
    | .jump chain => below chain packet
    | .pass => none
  else none

def scan (below : Chain → Packet → Option Verdict) (packet : Packet) : List Rule → Option Verdict
  | [] => none
  | rule :: rest =>
    match meaning.decides below packet rule with
    | some verdict => some verdict
    | none => scan below packet rest

/-- What a chain says about a packet, with calls between chains up to a depth. -/
def traverse (chains : Chain → List Rule) : Nat → Chain → Packet → Option Verdict
  | 0, _, _ => none
  | depth + 1, chain, packet => meaning.scan (traverse chains depth) packet (chains chain)

variable {meaning} {below : Chain → Packet → Option Verdict} {packet : Packet}

/-- A rule that does not let a packet through: it drops it, or says nothing. -/
def Blocks (meaning : Meaning Chain Rule Packet) (below : Chain → Packet → Option Verdict)
    (packet : Packet) (rule : Rule) : Prop :=
  meaning.decides below packet rule ≠ some .accept

variable {rules : List Rule}

theorem scan_ne_accept (blocks : ∀ rule ∈ rules, meaning.Blocks below packet rule) :
    meaning.scan below packet rules ≠ some .accept := by
  induction rules with
  | nil => simp [scan]
  | cons rule rest ih =>
    have blocksFirst := blocks rule List.mem_cons_self
    unfold scan
    cases decided : meaning.decides below packet rule with
    | some =>
      unfold Blocks at blocksFirst
      rw [decided] at blocksFirst
      exact blocksFirst
    | none => exact ih fun other member => blocks other (List.mem_cons_of_mem rule member)

/-- If no rule lets the packet through and one drops it, the chain drops it, whatever their
order. -/
theorem scan_drop (blocks : ∀ rule ∈ rules, meaning.Blocks below packet rule)
    (dropped : ∃ rule ∈ rules, meaning.decides below packet rule = some .drop) :
    meaning.scan below packet rules = some .drop := by
  induction rules with
  | nil =>
    rcases dropped with ⟨rule, member, _⟩
    exact nomatch member
  | cons rule rest ih =>
    have blocksFirst := blocks rule List.mem_cons_self
    unfold scan
    cases decided : meaning.decides below packet rule with
    | some verdict =>
      cases verdict with
      | drop => rfl
      | accept => exact absurd decided blocksFirst
    | none =>
      apply ih
      · intro other member
        exact blocks other (List.mem_cons_of_mem rule member)
      rcases dropped with ⟨dropping, member, drops⟩
      rcases List.mem_cons.mp member with same | later
      · rw [same, decided] at drops
        exact absurd drops (by simp)
      · exact ⟨dropping, later, drops⟩

/-- If some of the rules drop the packet by themselves, and the others do not let it through, the
chain drops it: the others may stand anywhere between. -/
theorem scan_drop_of_filter (keep : Rule → Bool)
    (blocks : ∀ rule ∈ rules, keep rule = false → meaning.Blocks below packet rule)
    (dropped : meaning.scan below packet (rules.filter keep) = some .drop) :
    meaning.scan below packet rules = some .drop := by
  induction rules with
  | nil => exact dropped
  | cons rule rest ih =>
    have blocksRest : ∀ other ∈ rest, keep other = false → meaning.Blocks below packet other := by
      intro other member
      exact blocks other (List.mem_cons_of_mem rule member)
    by_cases kept : keep rule = true
    · rw [List.filter_cons_of_pos kept] at dropped
      unfold scan at dropped ⊢
      cases decided : meaning.decides below packet rule with
      | some =>
        rw [decided] at dropped
        exact dropped
      | none =>
        rw [decided] at dropped
        exact ih blocksRest dropped
    · have unkept : keep rule = false := by simpa using kept
      rw [List.filter_cons_of_neg kept] at dropped
      have blocksFirst := blocks rule List.mem_cons_self unkept
      unfold scan
      cases decided : meaning.decides below packet rule with
      | some verdict =>
        cases verdict with
        | drop => rfl
        | accept => exact absurd decided blocksFirst
      | none => exact ih blocksRest dropped

/-- A chain that a rule at its head has dropped the packet in goes no further. -/
theorem scan_cons_drop {rule : Rule} {rest : List Rule}
    (drops : meaning.decides below packet rule = some .drop) :
    meaning.scan below packet (rule :: rest) = some .drop := by
  unfold scan
  rw [drops]

end Meaning
end Dicer.PacketFilter
