import Mathlib.Data.List.Basic

namespace Dicer.Instance

/-!
# The last lines of a log

A log is read backwards from its end, block by block, until the newline ahead of the lines asked for
is found.
-/

def newline : UInt8 := 10

def logChunkSize : Nat := 32 * 1024

section Seeking

variable (content : List UInt8) (n : Nat)

/-- Walk a block backwards, from its first `i` bytes on: where the tail starts, or how many newlines
there are now. -/
def walkBlock (block : List UInt8) (offset newlines : Nat) : Nat → Nat ⊕ Nat
  | 0 => .inr newlines
  | i + 1 =>
    if block[i]? ≠ some newline then walkBlock block offset newlines i
    -- a trailing newline ends the last line
    else if offset + i + 1 = content.length then walkBlock block offset newlines i
    else if newlines + 1 = n then .inl (offset + i + 1)
    else walkBlock block offset (newlines + 1) i

/-- The blocks ahead of an offset, with so many newlines behind it. -/
def seekFrom (offset newlines : Nat) : Nat :=
  if _ : offset = 0 then 0
  else
    let size := min logChunkSize offset
    let block := (content.drop (offset - size)).take size
    match walkBlock content n block (offset - size) newlines size with
    | .inl start => start
    | .inr newlines => seekFrom (offset - size) newlines
termination_by offset
decreasing_by
  have some_ : 0 < logChunkSize := by decide
  omega

/-- Where the last lines start. -/
def seekToTail : Nat := seekFrom content n content.length 0

end Seeking

/-- The lines of a text: each ends after a newline, and what is behind the last newline is one
too. -/
def lines : List UInt8 → List (List UInt8)
  | [] => []
  | c :: rest =>
    if c = newline then [c] :: lines rest
    else
      match lines rest with
      | [] => [[c]]
      | line :: more => (c :: line) :: more

variable {c : UInt8} {content rest : List UInt8} {n : Nat}

theorem lines_flatten (content : List UInt8) : (lines content).flatten = content := by
  induction content with
  | nil => rfl
  | cons c rest ih =>
    unfold lines
    split
    · simp [ih]
    · split <;> simp_all

theorem length_lines_cons : (lines (c :: rest)).length =
    if c = newline ∨ rest = [] then (lines rest).length + 1 else (lines rest).length := by
  have flat := lines_flatten rest
  by_cases ends : c = newline
  · simp [lines, ends]
  cases isLines : lines rest with
  | nil =>
    rw [isLines] at flat
    simp [lines, ends, ← flat]
  | cons =>
    have some_ : rest ≠ [] := by
      rintro rfl
      exact nomatch isLines
    simp [lines, ends, isLines, some_]

theorem lines_append (before : List UInt8) :
    lines (before ++ newline :: rest) = lines (before ++ [newline]) ++ lines rest := by
  induction before with
  | nil => simp [lines]
  | cons c before ih =>
    by_cases ends : c = newline
    · simp [lines, ends, ih]
    have some_ : lines (before ++ [newline]) ≠ [] := by
      intro none
      have flat := lines_flatten (before ++ [newline])
      simp [none] at flat
    cases isLines : lines (before ++ [newline]) with
    | nil => exact absurd isLines some_
    | cons => simp [lines, ends, ih, isLines]

/-- The walk over all blocks, as one. -/
def seekBack (content : List UInt8) (n newlines : Nat) : Nat → Nat
  | 0 => 0
  | p + 1 =>
    if content[p]? ≠ some newline ∨ p + 1 = content.length then seekBack content n newlines p
    else if newlines + 1 = n then p + 1
    else seekBack content n (newlines + 1) p

theorem walkBlock_eq {block : List UInt8} {offset : Nat} (i : Nat)
    (isBlock : ∀ j < i, block[j]? = content[offset + j]?) (newlines : Nat) :
    (match walkBlock content n block offset newlines i with
      | .inl start => start
      | .inr newlines => seekBack content n newlines offset) = seekBack content n newlines
      (offset + i) := by
  induction i generalizing newlines with
  | zero => rfl
  | succ i ih =>
    have isBefore : ∀ j < i, block[j]? = content[offset + j]? :=
      fun j before => isBlock j (by omega)
    rw [walkBlock, ← Nat.add_assoc, seekBack, isBlock i (by omega)]
    by_cases other : content[offset + i]? ≠ some newline
    · rw [if_pos other, if_pos (.inl other)]
      exact ih isBefore newlines
    by_cases last : offset + i + 1 = content.length
    · rw [if_neg other, if_pos last, if_pos (.inr last)]
      exact ih isBefore newlines
    rw [if_neg other, if_neg last, if_neg (not_or.mpr ⟨other, last⟩)]
    by_cases found : newlines + 1 = n
    · rw [if_pos found, if_pos found]
    · rw [if_neg found, if_neg found]
      exact ih isBefore (newlines + 1)

theorem seekFrom_eq (offset newlines : Nat) :
    seekFrom content n offset newlines = seekBack content n newlines offset := by
  induction offset using Nat.strongRecOn generalizing newlines with
  | _ offset ih =>
    unfold seekFrom
    split
    · rename_i atStart
      rw [atStart]
      rfl
    · have some_ : 0 < logChunkSize := by decide
      let size := min logChunkSize offset
      have isBlock : ∀ j < size, ((content.drop (offset - size)).take size)[j]? =
          content[offset - size + j]? := by
        intro j inside
        rw [List.getElem?_take_of_lt inside, List.getElem?_drop]
      have whole : offset - size + size = offset := Nat.sub_add_cancel (Nat.min_le_right ..)
      have walked := walkBlock_eq (n := n) size isBlock newlines
      rw [whole] at walked
      simp only [ih (offset - min logChunkSize offset) (by omega)]
      exact walked

theorem seekBack_lines {p newlines : Nat} (inside : p ≤ content.length) (few : newlines < n)
    (behind : (lines (content.drop p)).length = newlines + if p = content.length then 0 else 1) :
    content.drop (seekBack content n newlines p) =
    ((lines content).drop ((lines content).length - n)).flatten := by
  induction p generalizing newlines with
  | zero =>
    have all : (lines content).length - n = 0 := by
      rw [List.drop_zero] at behind
      split at behind <;> omega
    rw [all, List.drop_zero, lines_flatten]
    rfl
  | succ p ih =>
    have here : content.drop p = content[p] :: content.drop (p + 1) :=
      List.drop_eq_getElem_cons inside
    have next := @length_lines_cons content[p] (content.drop (p + 1))
    have atEnd : content.drop (p + 1) = [] ↔ p + 1 = content.length := by
      rw [List.drop_eq_nil_iff]
      omega
    have notEnd : p ≠ content.length := by omega
    simp only [← here, atEnd] at next
    unfold seekBack
    rw [List.getElem?_eq_getElem inside]
    split
    · rename_i passed
      refine ih (by omega) few ?_
      rw [next, if_neg notEnd]
      by_cases last : p + 1 = content.length
      · rw [if_pos (.inr last), behind, if_pos last]
      · have other : content[p] ≠ newline := fun same => (passed.resolve_right last)
          (congrArg some same)
        rw [if_neg (not_or.mpr ⟨other, last⟩), behind, if_neg last]
    · rename_i stops
      rcases not_or.mp stops with ⟨isNewline, notLast⟩
      have ends : content[p] = newline := Option.some.inj (not_not.mp isNewline)
      rw [if_neg notLast] at behind
      split
      · rename_i enough
        have parts : lines content = lines (content.take p ++ [newline]) ++
            lines (content.drop (p + 1)) := by
          rw [← lines_append, ← ends, ← here, List.take_append_drop]
        rw [parts, List.length_append, behind, enough, Nat.add_sub_cancel, List.drop_left,
          lines_flatten]
      · refine ih (by omega) (by omega) ?_
        rw [next, if_pos (.inl ends), if_neg notEnd, behind]

/-- What is read from there on is the last lines, or the whole log if it has no more. -/
theorem tail_is_last_lines (content : List UInt8) {n : Nat} (positive : 1 ≤ n) :
    content.drop (seekToTail content n) =
    ((lines content).drop ((lines content).length - n)).flatten := by
  rw [seekToTail, seekFrom_eq]
  exact seekBack_lines (Nat.le_refl _) positive (by simp [lines])

/-- Of two lines, the second. -/
theorem tail_is_last_lines_second : [97, 10, 98, 10].drop (seekToTail [97, 10, 98, 10] 1) =
    ([98, 10] : List UInt8) :=
  tail_is_last_lines (n := 1) [97, 10, 98, 10] (by decide)

end Dicer.Instance
