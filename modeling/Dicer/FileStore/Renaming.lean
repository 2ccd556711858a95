import Dicer.FileStore.Agreement

namespace Dicer.FileStore

open Instance (Spec)

/-!
# A rename that fails

A rename moves the instance's directory before it writes the new definition there.  A failure before
the move leaves everything as it was.  A failure of the write leaves the directory under the new
name with a definition of the old one: nothing is at the place the maps still say, and a new store
takes the definition for misplaced.
-/

namespace Filed

variable {Data : Type}

/-- An instance is found by its name and its ID, and so it is by a store that is opened on the same
directories; and its directory, with its overlay disk, is where its name says. -/
structure Kept (yaml : Yaml Data) (filed : Filed Data) (spec : Spec) (overlay : Option String) :
    Prop where
  name : filed.lookup spec.name = some spec
  id : filed.lookup spec.id = some spec
  home : (filed.tree.lookup spec.name).map Directory.overlay = some overlay
  reopenedName : (loadInstances yaml filed.tree).lookup spec.name = some spec
  reopenedID : (loadInstances yaml filed.tree).lookup spec.id = some spec

/-- A rename passes its checks and moves the directory, so that it comes to the writing of the new
definition. -/
def Moves (filed : Filed Data) (faults : Faults Data) (nameOrID : String) (renamed : Spec) : Prop :=
  ∃ current moved, filed.checkRename nameOrID renamed = .ok (some current) ∧
    filed.tree.rename faults current.name renamed.name = .ok moved

variable {yaml : Yaml Data} {filed : Filed Data} {faults : Faults Data} {nameOrID : String}
  {renamed : Spec} {error : Err}

theorem renameInstance_unmoved (unmoved : ¬filed.Moves faults nameOrID renamed) :
    (filed.renameInstance yaml faults nameOrID renamed).2 = filed := by
  unfold renameInstance
  split
  · rfl
  · rfl
  rename_i current checked
  split
  · rfl
  rename_i moved isMoved
  exact absurd ⟨current, moved, checked, isMoved⟩ unmoved

/-- One that fails after it has left nothing at the old name. -/
theorem renameInstance_moved {spec : Spec} (found : filed.lookup nameOrID = some spec)
    (moves : filed.Moves faults nameOrID renamed)
    (failed : (filed.renameInstance yaml faults nameOrID renamed).1 = .error error) :
    (filed.renameInstance yaml faults nameOrID renamed).2.tree.lookup spec.name = none := by
  rcases moves with ⟨current, moved, checked, isMoved⟩
  rcases checkRename_some checked with ⟨isCurrent, _, _, different, _⟩
  obtain rfl : current = spec := Option.some.inj (isCurrent.symm.trans found)
  rcases Tree.rename_ok isMoved with ⟨directory, _, rfl⟩
  simp only [renameInstance, checked, isMoved] at failed ⊢
  split
  · simp [different.symm]
  · rename_i written
    simp [written] at failed

/-- A rename that returns an error leaves the instance found as it was, and its directory with its
overlay disk where it was, exactly if it did not come to move the directory. -/
theorem failed_rename_keeps_instance (yaml : Yaml Data) (filed : Filed Data) (faults : Faults Data)
    (nameOrID : String) (renamed spec : Spec) (overlay : Option String) (error : Err)
    (kept : filed.Kept yaml spec overlay) (found : filed.lookup nameOrID = some spec)
    (failed : (filed.renameInstance yaml faults nameOrID renamed).1 = .error error) :
    (filed.renameInstance yaml faults nameOrID renamed).2.Kept yaml spec overlay ↔
      ¬filed.Moves faults nameOrID renamed := by
  constructor
  · intro still moves
    have home := still.home
    rw [renameInstance_moved found moves failed] at home
    cases home
  · intro unmoved
    rw [renameInstance_unmoved unmoved]
    exact kept

/-- An instance with a disk that has been written to. -/
def withDisk : Filed Spec :=
  { created with tree := created.tree.insert "web" ⟨some (called "web"), some "data"⟩ }

theorem kept_withDisk : withDisk.Kept .plain (called "web") (some "data") where
  name := by decide +kernel
  id := by decide +kernel
  home := by decide +kernel
  reopenedName := by decide +kernel
  reopenedID := by decide +kernel

/-- The directory cannot be moved, and neither could the definition be written. -/
theorem failed_rename_keeps_unmoved :
    (withDisk.renameInstance .plain ⟨false, true, some .sync, none⟩ "i1" (called "www")).2.Kept
      .plain (called "web") (some "data") := by
  refine (failed_rename_keeps_instance .plain withDisk ⟨false, true, some .sync, none⟩ "i1"
    (called "www") (called "web") (some "data") (.host "rename instances/web to instances/www")
    kept_withDisk (by decide +kernel) rfl).mpr ?_
  rintro ⟨current, moved, checked, isMoved⟩
  have stays : (withDisk.tree.rename ⟨false, true, some .sync, none⟩ current.name "www").toBool =
      false := by
    rw [Tree.rename]
    split <;> rfl
  rw [show withDisk.tree.rename _ _ "www" = .ok moved from isMoved] at stays
  cases stays

/-- The directory is moved, and the new definition cannot be written there. -/
theorem failed_rename_loses_directory :
    ∃ (filed : Filed Spec) (faults : Faults Spec) (error : Err),
      filed.Kept .plain (called "web") (some "data") ∧
        (filed.renameInstance .plain faults "i1" (called "www")).1 = .error error ∧
        ¬(filed.renameInstance .plain faults "i1" (called "www")).2.Kept .plain (called "web")
          (some "data") := by
  refine ⟨withDisk, ⟨false, false, some .sync, none⟩, .host "sync instances/www", kept_withDisk, ?_,
    ?_⟩
  · rfl
  intro kept
  have gone : (withDisk.renameInstance .plain ⟨false, false, some .sync, none⟩ "i1"
      (called "www")).2.tree.lookup (called "web").name = none := by decide +kernel
  have home := kept.home
  rw [gone] at home
  exact nomatch home

end Filed
end Dicer.FileStore
