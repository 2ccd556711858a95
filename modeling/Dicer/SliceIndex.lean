import Dicer.Maps
import Mathlib.Data.List.Induction

namespace Dicer

open Function

/-!
# The index of a slice

A map from key to place, filled from the front of a slice, so that of several items with one key it
has the last.  Looking a key up through it is searching the slice from the end, whatever the items
are.  If no two items have one key, it has every item's own place and nothing else.
-/

variable {Item Key : Type} [DecidableEq Key]

/-- The place of the last item with each key. -/
def index (key : Item → Key) (items : List Item) : Key → Option Nat :=
  items.zipIdx.foldl (fun places entry => update places (key entry.1) (some entry.2)) fun _ => none

variable {key : Item → Key}

@[simp] theorem index_nil : index key [] = fun _ => none := rfl

@[simp] theorem index_append_singleton (items : List Item) (item : Item) :
    index key (items ++ [item]) = update (index key items) (key item) (some items.length) := by
  simp [index, List.zipIdx_append]

variable {items : List Item} {wanted : Key} {place : Nat}

theorem index_lt (found : index key items wanted = some place) : place < items.length := by
  induction items using List.reverseRecOn with
  | nil => simp at found
  | append_singleton items item ih =>
    rw [index_append_singleton, update_apply] at found
    rw [List.length_append, List.length_singleton]
    split at found
    · have last := Option.some.inj found
      omega
    · have earlier := ih found
      omega

theorem getElem?_index (items : List Item) (wanted : Key) :
      (index key items wanted).bind (fun place => items[place]?) = items.reverse.find? fun item =>
      key item = wanted := by
  induction items using List.reverseRecOn with
  | nil => rfl
  | append_singleton items item ih =>
    rw [index_append_singleton, update_apply, List.reverse_append, List.reverse_singleton,
      List.singleton_append, List.find?_cons]
    by_cases same : wanted = key item
    · subst same
      simp
    have different : ¬ key item = wanted := fun equal => same equal.symm
    rw [if_neg same]
    simp only [different, decide_false]
    rw [← ih]
    cases found : index key items wanted with
    | none => rfl
    | some => exact List.getElem?_append_left (index_lt found)

/-- With keys of their own, items are found at their own places. -/
theorem index_eq_some_iff (nodup : (items.map key).Nodup) :
    index key items wanted = some place ↔ ∃ item, items[place]? = some item ∧
    key item = wanted := by
  have searched : ∀ item, (index key items wanted).bind (fun place => items[place]?) = some item ↔
      item ∈ items ∧ key item = wanted := by
    intro item
    rw [getElem?_index, find?_key_iff (by simpa using nodup), List.mem_reverse]
  constructor
  · intro found
    have there := List.getElem?_eq_getElem (index_lt found)
    exact ⟨_, there, ((searched _).mp (by rw [found, Option.bind_some, there])).2⟩
  · rintro ⟨item, there, same⟩
    rcases Option.bind_eq_some_iff.mp ((searched item).mpr ⟨List.mem_of_getElem? there, same⟩) with
      ⟨other, found, otherThere⟩
    rw [found, (List.getElem?_inj (index_lt found) nodup.of_map).mp (otherThere.trans there.symm)]

/-- Cutting out what the index finds removes the last item with that key. -/
theorem eraseIdx_index (found : index key items wanted = some place) :
    items.eraseIdx place = (items.reverse.eraseP fun item => key item = wanted).reverse := by
  induction items using List.reverseRecOn with
  | nil => simp at found
  | append_singleton items item ih =>
    rw [index_append_singleton, update_apply] at found
    rw [List.reverse_append, List.reverse_singleton, List.singleton_append]
    by_cases same : wanted = key item
    · rw [if_pos same, Option.some.injEq] at found
      subst found
      rw [List.eraseP_cons_of_pos (by simp [same]), List.reverse_reverse,
        List.eraseIdx_append_of_length_le (Nat.le_refl _)]
      simp
    · have different : ¬ key item = wanted := fun equal => same equal.symm
      rw [if_neg same] at found
      rw [List.eraseP_cons_of_neg (by simp [different]), List.reverse_cons, ← ih found,
        List.eraseIdx_append_of_lt_length (index_lt found)]

end Dicer
