import Mathlib.Data.List.Nodup
import Mathlib.Logic.Function.Basic

namespace Dicer

open Function

/-!
# Maps that are changed at one key, and lists that are searched by one
-/

section

variable {Key Value : Type} [DecidableEq Key] {map : Key → Value} {key other : Key}
    {value found : Value}

theorem update_eq_iff : update map key value other = found ↔
    (other = key ∧ found = value) ∨ (other ≠ key ∧ map other = found) := by
  by_cases same : other = key
  · subst same
    simp [eq_comm]
  · simp [same]

end

variable {Key Value : Type} [DecidableEq Key] {map : Key → Option Value} {key other : Key}
    {value found : Value}

theorem update_eq_some_iff : update map key (some value) other = some found ↔
    (other = key ∧ found = value) ∨ (other ≠ key ∧ map other = some found) := by
  simp [update_eq_iff]

theorem update_none_eq_some_iff : update map key none other = some found ↔ other ≠ key ∧
    map other = some found := by
  simp [update_eq_iff]

/-- With keys of their own, a search finds each item by its key. -/
theorem find?_key_iff {Item : Type} {key : Item → Key} {wanted : Key} {items : List Item}
    {item : Item} (nodup : (items.map key).Nodup) :
    items.find? (fun item => key item = wanted) = some item ↔ item ∈ items ∧ key item = wanted := by
  constructor
  · intro found
    exact ⟨List.mem_of_find?_eq_some found, by simpa using List.find?_some found⟩
  rintro ⟨member, rfl⟩
  cases found : items.find? fun other => key other = key item with
  | none => exact absurd (decide_eq_true rfl) (List.find?_eq_none.mp found item member)
  | some other =>
    have same : key other = key item := by simpa using List.find?_some found
    rw [List.inj_on_of_nodup_map nodup (List.mem_of_find?_eq_some found) member same]

end Dicer
