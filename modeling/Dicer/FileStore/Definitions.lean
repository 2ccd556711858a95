import Dicer.Maps

namespace Dicer.FileStore

open Function

/-!
# Definitions in memory

The store keeps every kind of definition the same way: one map from name to definition, and one from
ID to name.  A lookup takes either, and tries the name first.  Nothing in the maps themselves keeps
the two in step, or keeps a name from being the ID of another definition, so those are an invariant
of the operations that write them rather than part of the type.
-/

/-- A definition with the name it is filed under and the ID it was given. -/
class Named (Item : Type) where
  name : Item → String
  id : Item → String

structure Definitions (Item : Type) where
  items : List Item
  namesByID : String → Option String

namespace Definitions

variable {Item : Type} [Named Item]

def empty : Definitions Item where
  items := []
  namesByID := fun _ => none

/-- The definition of a name. -/
def named (definitions : Definitions Item) (name : String) : Option Item :=
  definitions.items.find? fun item => Named.name item = name

/-- A lookup by name or ID.  An ID whose name is no longer filed finds the zero definition, as
indexing a map of the source does. -/
def lookup [Inhabited Item] (definitions : Definitions Item) (nameOrID : String) : Option Item :=
  match definitions.named nameOrID with
  | some item => some item
  | none =>
    match definitions.namesByID nameOrID with
    | some name => some ((definitions.named name).getD default)
    | none => none

def put (definitions : Definitions Item) (item : Item) : Definitions Item where
  items := item :: definitions.items.filter fun other => Named.name other ≠ Named.name item
  namesByID :=
    if Named.id item = "" then definitions.namesByID
    else update definitions.namesByID (Named.id item) (some (Named.name item))

def delete (definitions : Definitions Item) (item : Item) : Definitions Item where
  items := definitions.items.filter fun other => Named.name other ≠ Named.name item
  namesByID := update definitions.namesByID (Named.id item) none

/-- File a definition under another name than the one it replaces. -/
def rename (definitions : Definitions Item) (old item : Item) : Definitions Item :=
  put { definitions with
    items := definitions.items.filter fun other => Named.name other ≠ Named.name old } item

variable {item other old : Item} {nameOrID : String} {definitions : Definitions Item}

@[simp] theorem mem_put :
    other ∈ (definitions.put item).items ↔
      other = item ∨ (other ∈ definitions.items ∧ Named.name other ≠ Named.name item) := by
  simp [put]

theorem forall_mem_put {holds : Item → Prop} (own : holds item)
    (others : ∀ other ∈ definitions.items, Named.name other ≠ Named.name item → holds other) :
    ∀ other ∈ (definitions.put item).items, holds other := by
  intro other member
  rcases mem_put.mp member with rfl | ⟨old, different⟩
  · exact own
  · exact others other old different

@[simp] theorem mem_delete :
    other ∈ (definitions.delete item).items ↔
      other ∈ definitions.items ∧ Named.name other ≠ Named.name item := by
  simp [delete]

@[simp] theorem mem_rename :
    other ∈ (definitions.rename old item).items ↔ other = item ∨
      (other ∈ definitions.items ∧ Named.name other ≠ Named.name old ∧
      Named.name other ≠ Named.name item) := by
  simp [rename, and_assoc]

theorem named_mem {name : String} (found : definitions.named name = some item) :
    item ∈ definitions.items ∧ Named.name item = name := by
  refine ⟨List.mem_of_find?_eq_some found, ?_⟩
  simpa using List.find?_some found

theorem named_eq_none {name : String} :
    definitions.named name = none ↔ ∀ item ∈ definitions.items, Named.name item ≠ name := by
  simp [named, List.find?_eq_none]

theorem nodup_names_put (nodup : (definitions.items.map Named.name).Nodup)
    (item : Item) : ((definitions.put item).items.map Named.name).Nodup := by
  have absent : Named.name item ∉
      (definitions.items.filter fun other => Named.name other ≠ Named.name item).map
          Named.name := by
    simp
  exact List.nodup_cons.mpr ⟨absent, nodup.sublist (List.filter_sublist.map _)⟩

/-! ## Definitions in step with their IDs -/

/-- Each name and each ID is one definition's, the IDs are filed under the names, and no definition
is named by another's ID. -/
structure Coherent (definitions : Definitions Item) : Prop where
  names : (definitions.items.map Named.name).Nodup
  ids : ∀ first ∈ definitions.items, ∀ second ∈ definitions.items,
    Named.id first = Named.id second → first = second
  identified : ∀ item ∈ definitions.items, Named.id item ≠ ""
  indexed : ∀ id name, definitions.namesByID id = some name ↔
    ∃ item ∈ definitions.items, Named.id item = id ∧ Named.name item = name
  apart : ∀ first ∈ definitions.items, ∀ second ∈ definitions.items,
    Named.name first ≠ Named.id second

theorem coherent_empty : (empty : Definitions Item).Coherent where
  names := List.nodup_nil
  ids := by simp [empty]
  identified := by simp [empty]
  indexed := by simp [empty]
  apart := by simp [empty]

namespace Coherent

variable {definitions : Definitions Item} (coherent : definitions.Coherent)
include coherent

theorem eq_of_name {first second : Item} (firstMember : first ∈ definitions.items)
    (secondMember : second ∈ definitions.items) (sameName : Named.name first = Named.name second) :
    first = second :=
  List.inj_on_of_nodup_map coherent.names firstMember secondMember sameName

theorem nodup_ids : (definitions.items.map Named.id).Nodup :=
  coherent.names.of_map.map_on coherent.ids

theorem named_name (member : item ∈ definitions.items) :
    definitions.named (Named.name item) = some item :=
  (find?_key_iff coherent.names).mpr ⟨member, rfl⟩

/-- In step, a lookup finds the definition with that name or that ID, and nothing else. -/
theorem lookup_eq_some [Inhabited Item] : definitions.lookup nameOrID = some item ↔
      item ∈ definitions.items ∧ (Named.name item = nameOrID ∨ Named.id item = nameOrID) := by
  constructor
  · intro found
    unfold lookup at found
    cases byName : definitions.named nameOrID with
    | some =>
      rw [byName] at found
      cases found
      rcases named_mem byName with ⟨member, sameName⟩
      exact ⟨member, .inl sameName⟩
    | none =>
      rw [byName] at found
      cases byID : definitions.namesByID nameOrID with
      | none => simp [byID] at found
      | some name =>
        rcases (coherent.indexed nameOrID name).mp byID with ⟨other, member, sameID, rfl⟩
        simp only [byID, coherent.named_name member, Option.getD_some, Option.some.injEq] at found
        exact ⟨found ▸ member, .inr (found ▸ sameID)⟩
  · rintro ⟨member, rfl | rfl⟩
    · simp [lookup, coherent.named_name member]
    have unnamed : definitions.named (Named.id item) = none :=
      named_eq_none.mpr fun other otherMember => coherent.apart other otherMember item member
    have filed : definitions.namesByID (Named.id item) = some (Named.name item) :=
      (coherent.indexed _ _).mpr ⟨item, member, rfl, rfl⟩
    simp [lookup, unnamed, filed, coherent.named_name member]

theorem lookup_id [Inhabited Item] (member : item ∈ definitions.items)
    : definitions.lookup (Named.id item) = some item :=
  coherent.lookup_eq_some.mpr ⟨member, .inr rfl⟩

theorem lookup_eq_none [Inhabited Item] : definitions.lookup nameOrID = none ↔
      ∀ item ∈ definitions.items, Named.name item ≠ nameOrID ∧ Named.id item ≠ nameOrID := by
  constructor
  · intro missing item member
    constructor
    · intro sameName
      have found := coherent.lookup_eq_some.mpr ⟨member, .inl sameName⟩
      simp [missing] at found
    · intro sameID
      have found := coherent.lookup_eq_some.mpr ⟨member, .inr sameID⟩
      simp [missing] at found
  · intro absent
    cases found : definitions.lookup nameOrID with
    | none => rfl
    | some item =>
      rcases coherent.lookup_eq_some.mp found with ⟨member, sameName | sameID⟩
      · exact absurd sameName (absent item member).1
      · exact absurd sameID (absent item member).2

theorem mem_delete_iff (member : item ∈ definitions.items) :
    other ∈ (definitions.delete item).items ↔ other ∈ definitions.items ∧ other ≠ item := by
  rw [mem_delete]
  constructor
  · rintro ⟨otherMember, otherName⟩
    exact ⟨otherMember, fun same => otherName (same ▸ rfl)⟩
  · rintro ⟨otherMember, different⟩
    exact ⟨otherMember, fun sameName => different (coherent.eq_of_name otherMember member sameName)⟩

theorem nodup_filter_names (keep : Item → Bool) :
    ((definitions.items.filter keep).map Named.name).Nodup :=
  coherent.names.sublist (List.filter_sublist.map _)

theorem delete (member : item ∈ definitions.items) : (definitions.delete item).Coherent where
  names := coherent.nodup_filter_names _
  ids := by
    intro first firstMember second secondMember
    exact coherent.ids first (mem_delete.mp firstMember).1 second (mem_delete.mp secondMember).1
  identified := fun other otherMember => coherent.identified other (mem_delete.mp otherMember).1
  indexed := by
    intro id name
    simp only [coherent.mem_delete_iff member]
    simp only [Definitions.delete, update_none_eq_some_iff, coherent.indexed]
    constructor
    · rintro ⟨different, other, otherMember, rfl, rfl⟩
      exact ⟨other, ⟨otherMember, fun same => different (same ▸ rfl)⟩, rfl, rfl⟩
    rintro ⟨other, ⟨otherMember, different⟩, rfl, rfl⟩
    exact ⟨fun sameID => different (coherent.ids other otherMember item member sameID), other,
      otherMember, rfl, rfl⟩
  apart := by
    intro first firstMember second secondMember
    exact coherent.apart first (mem_delete.mp firstMember).1 second (mem_delete.mp secondMember).1

/-- Filing a definition keeps the maps in step if it replaces only one with its own ID, and neither
its name nor its ID is in use by another. -/
theorem put (identified : Named.id item ≠ "") (ownName : Named.name item ≠ Named.id item)
    (replaces : ∀ other ∈ definitions.items, Named.name other = Named.name item →
      Named.id other = Named.id item)
    (others : ∀ other ∈ definitions.items, Named.name other ≠ Named.name item →
      Named.id other ≠ Named.id item ∧ Named.id other ≠ Named.name item ∧
      Named.name other ≠ Named.id item) :
    (definitions.put item).Coherent where
  names := nodup_names_put coherent.names item
  ids := by
    refine forall_mem_put (forall_mem_put (fun _ => rfl) fun second old different sameID => ?_)
        fun first old different =>
      forall_mem_put (fun sameID => ?_) fun second secondOld _ =>
        coherent.ids first old second secondOld
    · exact absurd sameID.symm (others second old different).1
    · exact absurd sameID (others first old different).1
  identified := forall_mem_put identified fun other old _ => coherent.identified other old
  indexed := by
    intro id name
    have filed : (definitions.put item).namesByID =
        update definitions.namesByID (Named.id item) (some (Named.name item)) :=
      if_neg identified
    simp only [filed, mem_put, update_eq_some_iff, coherent.indexed]
    constructor
    · rintro (⟨rfl, rfl⟩ | ⟨different, other, otherMember, rfl, rfl⟩)
      · exact ⟨item, .inl rfl, rfl, rfl⟩
      · exact ⟨other, .inr ⟨otherMember, fun sameName =>
          different (replaces other otherMember sameName)⟩, rfl, rfl⟩
    · rintro ⟨other, rfl | ⟨otherMember, otherName⟩, rfl, rfl⟩
      · exact .inl ⟨rfl, rfl⟩
      · exact .inr ⟨(others other otherMember otherName).1, other, otherMember, rfl, rfl⟩
  apart := by
    refine forall_mem_put (forall_mem_put ownName fun second old different => ?_)
        fun first old different =>
      forall_mem_put ?_ fun second secondOld _ => coherent.apart first old second secondOld
    · exact (others second old different).2.1.symm
    · exact (others first old different).2.2

theorem replace (member : old ∈ definitions.items) (sameName : Named.name item = Named.name old)
    (sameID : Named.id item = Named.id old) : (definitions.put item).Coherent := by
  refine coherent.put ?_ ?_ ?_ ?_
  · rw [sameID]
    exact coherent.identified old member
  · rw [sameName, sameID]
    exact coherent.apart old member old member
  · intro other otherMember otherName
    rw [coherent.eq_of_name otherMember member (otherName.trans sameName), sameID]
  · intro other otherMember otherName
    rw [sameName, sameID]
    refine ⟨fun otherID => otherName ?_, (coherent.apart old member other otherMember).symm,
      coherent.apart other otherMember old member⟩
    rw [coherent.ids other otherMember old member otherID, sameName]

theorem create [Inhabited Item] (identified : Named.id item ≠ "")
    (ownName : Named.name item ≠ Named.id item) (free : definitions.lookup (Named.name item) = none)
    (fresh : definitions.lookup (Named.id item) = none)
    : (definitions.put item).Coherent := by
  have nameFree := coherent.lookup_eq_none.mp free
  have idFree := coherent.lookup_eq_none.mp fresh
  refine coherent.put identified ownName ?_ ?_
  · intro other otherMember sameName
    exact absurd sameName (nameFree other otherMember).1
  · intro other otherMember _
    exact ⟨(idFree other otherMember).2, (nameFree other otherMember).2,
      (idFree other otherMember).1⟩

theorem rename [Inhabited Item] (member : old ∈ definitions.items)
    (sameID : Named.id item = Named.id old) (ownName : Named.name item ≠ Named.id item)
    (free : definitions.lookup (Named.name item) = none) :
    (definitions.rename old item).Coherent := by
  have nameFree := coherent.lookup_eq_none.mp free
  have identified : Named.id item ≠ "" := sameID ▸ coherent.identified old member
  have moved : definitions.rename old item = (definitions.delete old).put item := by
    simp [Definitions.rename, Definitions.put, Definitions.delete, identified, ← sameID]
  rw [moved]
  refine (coherent.delete member).put identified ownName ?_ ?_
  · intro other otherMember sameName
    exact absurd sameName (nameFree other (mem_delete.mp otherMember).1).1
  intro other otherMember _
  rcases (coherent.mem_delete_iff member).mp otherMember with ⟨otherOld, different⟩
  refine ⟨fun otherID => different (coherent.ids other otherOld old member (otherID.trans sameID)),
    (nameFree other otherOld).2, ?_⟩
  rw [sameID]
  exact coherent.apart other otherOld old member

end Coherent

/-- Each name is one definition's, and an ID that is filed is filed under the name of a definition
with it. -/
structure Indexed (definitions : Definitions Item) : Prop where
  names : (definitions.items.map Named.name).Nodup
  indexed : ∀ id name, definitions.namesByID id = some name →
    ∃ item ∈ definitions.items, Named.id item = id ∧ Named.name item = name

theorem indexed_empty : (empty : Definitions Item).Indexed where
  names := List.nodup_nil
  indexed := by simp [empty]

namespace Indexed

variable {definitions : Definitions Item}

theorem lookup_mem [Inhabited Item] (indexed : definitions.Indexed)
    (found : definitions.lookup nameOrID = some item) : item ∈ definitions.items := by
  unfold lookup at found
  cases byName : definitions.named nameOrID with
  | some =>
    rw [byName] at found
    exact Option.some.inj found ▸ (named_mem byName).1
  | none =>
    rw [byName] at found
    cases byID : definitions.namesByID nameOrID with
    | none => simp [byID] at found
    | some name =>
      rcases indexed.indexed nameOrID name byID with ⟨other, member, _, sameName⟩
      cases filed : definitions.named name with
      | none => exact absurd sameName (named_eq_none.mp filed other member)
      | some =>
        simp only [byID, filed, Option.getD_some, Option.some.injEq] at found
        exact found ▸ (named_mem filed).1

theorem put [Inhabited Item] (indexed : definitions.Indexed)
    (free : definitions.lookup (Named.name item) = none) : (definitions.put item).Indexed where
  names := nodup_names_put indexed.names item
  indexed := by
    have unnamed : definitions.named (Named.name item) = none := by
      cases found : definitions.named (Named.name item) with
      | none => rfl
      | some => simp [lookup, found] at free
    have kept : ∀ other ∈ definitions.items, other ∈ (definitions.put item).items :=
        fun other member =>
      mem_put.mpr (.inr ⟨member, named_eq_none.mp unnamed other member⟩)
    have before : ∀ id name, definitions.namesByID id = some name →
        ∃ other ∈ (definitions.put item).items, Named.id other = id ∧ Named.name other = name := by
      intro id name filed
      rcases indexed.indexed id name filed with ⟨other, member, same⟩
      exact ⟨other, kept other member, same⟩
    intro id name filed
    simp only [Definitions.put] at filed
    split at filed
    · exact before id name filed
    rcases update_eq_some_iff.mp filed with ⟨rfl, rfl⟩ | ⟨_, filed⟩
    · exact ⟨item, mem_put.mpr (.inl rfl), rfl, rfl⟩
    · exact before id name filed

theorem delete (indexed : definitions.Indexed) (member : item ∈ definitions.items) :
    (definitions.delete item).Indexed where
  names := indexed.names.sublist (List.filter_sublist.map _)
  indexed := by
    intro id name filed
    rcases update_none_eq_some_iff.mp filed with ⟨different, filed⟩
    rcases indexed.indexed id name filed with ⟨other, otherMember, rfl, rfl⟩
    refine ⟨other, mem_delete.mpr ⟨otherMember, fun ownName => different ?_⟩, rfl, rfl⟩
    rw [List.inj_on_of_nodup_map indexed.names otherMember member ownName]

end Indexed

end Definitions
end Dicer.FileStore
