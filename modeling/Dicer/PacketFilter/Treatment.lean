import Dicer.PacketFilter.Chains

namespace Dicer.PacketFilter

/-!
# What becomes of a packet

A verdict is all there is to know of a rule that filters, but a rule may also rewrite the packet it
decides about.  What becomes of a packet is told by the rule that decides about it, of which only
its outcome is looked at.  Rules whose outcomes agree may stand in any order, and rules that say
nothing about the packet may stand anywhere between.
-/

section Lists

variable {Item Outcome : Type} {said : Item → Option Outcome} {first second : List Item}

theorem findSome_filter {keep : Item → Bool}
    (silent : ∀ item ∈ first, keep item = false → said item = none) :
    (first.filter keep).findSome? said = first.findSome? said := by
  induction first with
  | nil => rfl
  | cons item rest ih =>
    have goesOn := ih fun other member => silent other (List.mem_cons_of_mem item member)
    cases kept : keep item with
    | true =>
      rw [List.filter_cons_of_pos kept, List.findSome?_cons, List.findSome?_cons, goesOn]
    | false =>
      rw [List.filter_cons_of_neg (by simp [kept]), goesOn, List.findSome?_cons,
        silent item List.mem_cons_self kept]

theorem findSome_agree {outcome : Outcome}
    (agree : ∀ item ∈ first, said item = none ∨ said item = some outcome) :
    first.findSome? said = some outcome ↔ ∃ item ∈ first, said item ≠ none := by
  constructor
  · intro found
    rcases List.exists_of_findSome?_eq_some found with ⟨item, member, isSaid⟩
    exact ⟨item, member, by simp [isSaid]⟩
  · rintro ⟨item, member, speaks⟩
    cases found : first.findSome? said with
    | none => exact absurd (List.findSome?_eq_none_iff.mp found item member) speaks
    | some =>
      rcases List.exists_of_findSome?_eq_some found with ⟨finder, isFinder, isSaid⟩
      rcases agree finder isFinder with silent | isOutcome
      · exact nomatch silent.symm.trans isSaid
      · exact isSaid.symm.trans isOutcome

/-- Two lists with the same items that say something, all of them the same, say the same. -/
theorem findSome_congr_agree (outcome : Outcome)
    (agree : ∀ item ∈ first, said item = none ∨ said item = some outcome)
    (into : ∀ item ∈ first, said item ≠ none → item ∈ second)
    (back : ∀ item ∈ second, said item ≠ none → item ∈ first) :
    first.findSome? said = second.findSome? said := by
  by_cases speaks : ∃ item ∈ first, said item ≠ none
  · have agreeSecond : ∀ item ∈ second, said item = none ∨ said item = some outcome := by
      intro item member
      by_cases silent : said item = none
      · exact .inl silent
      · exact agree item (back item member silent)
    rw [(findSome_agree agree).mpr speaks]
    rcases speaks with ⟨item, member, speaks⟩
    exact ((findSome_agree agreeSecond).mpr ⟨item, into item member speaks, speaks⟩).symm
  · have silentFirst : ∀ item ∈ first, said item = none := by
      intro item member
      by_contra speaksThere
      exact speaks ⟨item, member, speaksThere⟩
    have silentSecond : ∀ item ∈ second, said item = none := by
      intro item member
      by_contra speaksThere
      exact speaks ⟨item, back item member speaksThere, speaksThere⟩
    rw [List.findSome?_eq_none_iff.mpr silentFirst, List.findSome?_eq_none_iff.mpr silentSecond]

end Lists

namespace Meaning

variable {Chain Rule Packet Outcome : Type} (meaning : Meaning Chain Rule Packet)
    (outcome : Rule → Outcome)

/-- What one rule makes of a packet, given what the chains below make of it. -/
def treats (below : Chain → Packet → Option Outcome) (packet : Packet) (rule : Rule) :
    Option Outcome :=
  if meaning.applies rule packet then
    match meaning.action rule packet with
    | .decide _ => some (outcome rule)
    | .jump chain => below chain packet
    | .pass => none
  else none

/-- The outcome of the rule that decides about a packet, with calls between chains up to a depth. -/
def treatment (chains : Chain → List Rule) : Nat → Chain → Packet → Option Outcome
  | 0, _, _ => none
  | depth + 1, chain, packet => (chains chain).findSome?
    (meaning.treats outcome (treatment chains depth) packet)

variable {meaning outcome} {chains : Chain → List Rule} {packet : Packet}
  {verdictOf : Outcome → Packet → Option Verdict}

theorem treats_of_not_applies {below : Chain → Packet → Option Outcome} {rule : Rule}
    (notApplies : meaning.applies rule packet = false) :
    meaning.treats outcome below packet rule = none := by
  unfold treats
  rw [notApplies]
  rfl

variable
  (decides : ∀ rule verdict, meaning.action rule packet = .decide verdict →
      verdictOf (outcome rule) packet = some verdict)
include decides

theorem scan_eq {below : Chain → Packet → Option Verdict}
    {treated : Chain → Packet → Option Outcome}
    (told : ∀ chain, below chain packet = (treated chain packet).bind (verdictOf · packet))
    (certain : ∀ chain made, treated chain packet = some made → (verdictOf made packet).isSome)
    (rules : List Rule) :
    meaning.scan below packet rules =
      (rules.findSome? (meaning.treats outcome treated packet)).bind (verdictOf · packet) := by
  induction rules with
  | nil => rfl
  | cons rule rest ih =>
    rw [scan, List.findSome?_cons, ih, Meaning.decides, treats]
    by_cases applies : meaning.applies rule packet = true
    · rw [if_pos applies, if_pos applies]
      cases acts : meaning.action rule packet with
      | decide verdict => simp [decides rule verdict acts]
      | jump chain =>
        dsimp only
        rw [told chain]
        cases made : treated chain packet with
        | none => rfl
        | some outcome =>
          rcases Option.isSome_iff_exists.mp (certain chain outcome made) with ⟨verdict, isVerdict⟩
          simp [isVerdict]
      | pass => rfl
    · rw [if_neg applies, if_neg applies]

/-- What becomes of a packet is a rule's outcome, so its verdict is known. -/
theorem treatment_certain (depth : Nat) (chain : Chain) {made : Outcome}
    (found : meaning.treatment outcome chains depth chain packet = some made) :
    (verdictOf made packet).isSome := by
  induction depth generalizing chain with
  | zero => exact nomatch found
  | succ depth ih =>
    rcases List.exists_of_findSome?_eq_some found with ⟨rule, _, treated⟩
    unfold treats at treated
    split at treated
    · cases acts : meaning.action rule packet with
      | decide verdict =>
        simp only [acts, Option.some.injEq] at treated
        rw [← treated, decides rule verdict acts]
        rfl
      | jump below =>
        rw [acts] at treated
        exact ih below treated
      | pass =>
        rw [acts] at treated
        exact nomatch treated
    · exact nomatch treated

theorem traverse_eq (depth : Nat) (chain : Chain) : meaning.traverse chains depth chain packet =
      (meaning.treatment outcome chains depth chain packet).bind (verdictOf · packet) := by
  induction depth generalizing chain with
  | zero => rfl
  | succ depth ih =>
    exact scan_eq decides ih (fun _ _ => treatment_certain decides depth _) (chains chain)

end Meaning
end Dicer.PacketFilter
