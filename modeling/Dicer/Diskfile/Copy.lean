import Mathlib.Algebra.Group.Nat.Defs
import Mathlib.Data.List.GetD
import Mathlib.Order.Lattice

namespace Dicer.Diskfile

/-!
# Copying disk files

A disk is copied to a file beside its destination, which is then renamed into place.  Only the
extents that the filesystem reports to hold data are read, and chunks of zeroes in them are not
written either, so the copy may end before the disk does and is given its length at last.  A
filesystem that cannot say where the data is has the disk read to its end instead, and that copy is
not given its length.
-/

/-- A file reads as zeroes past its end. -/
@[ext]
structure File where
  length : Nat
  byte : Nat → UInt8
  beyond : ∀ i, length ≤ i → byte i = 0

namespace File

def empty : File := ⟨0, fun _ => 0, fun _ _ => rfl⟩

/-- The bytes from an offset on. -/
def block (file : File) (offset n : Nat) : List UInt8 := (List.range n).map fun i =>
    file.byte (offset + i)

def writeAt (file : File) (block : List UInt8) (offset : Nat) : File where
  length := max file.length (offset + block.length)
  byte i := if offset ≤ i ∧ i < offset + block.length then block.getD (i - offset) 0
    else file.byte i
  beyond i after := by rw [if_neg (by omega)]; exact file.beyond i (by omega)

def truncate (file : File) (size : Nat) : File where
  length := size
  byte i := if i < size then file.byte i else 0
  beyond i after := if_neg (by omega)

end File

def isZero (block : List UInt8) : Bool := block.all (· == 0)

def copyChunkSize : Nat := 2 ^ 20

/-- What one read of the source adds to the copy. -/
def copyChunk (src out : File) (offset n : Nat) : File :=
  if isZero (src.block offset n) then out else out.writeAt (src.block offset n) offset

/-- Reads give all that is asked for, or what there is up to the end of the source. -/
def copyRange (src out : File) (offset stop : Nat) : File :=
  if _more : offset < stop then
    let wanted := min copyChunkSize (stop - offset)
    let n := min wanted (src.length - offset)
    if _short : n < wanted then copyChunk src out offset n
    else copyRange src (copyChunk src out offset n) (offset + n) stop
  else out
termination_by stop - offset
decreasing_by grind [copyChunkSize]

/-- What the filesystem says when it is asked for the data from an offset on, and then for the hole
behind it. -/
inductive Answer where
  | data (start : Nat) (hole : Option Nat)
  | nothing
  | unsupported

/-- The loop over the extents, which answers nothing if the filesystem is asked more often than it
answers. -/
def copyExtents (src : File) : Nat → File → List Answer → Option File
  | offset, out, [] => if offset < src.length then none else some (out.truncate src.length)
  | offset, out, answer :: answers =>
    if offset < src.length then
      match answer with
      | .nothing => some (out.truncate src.length)
      | .unsupported => some (copyRange src out offset src.length)
      | .data start hole =>
        let stop := hole.getD src.length
        copyExtents src stop (copyRange src out start stop) answers
    else some (out.truncate src.length)

def copySparse (src : File) (answers : List Answer) : Option File :=
    copyExtents src 0 .empty answers

/-- A property of the answers that are given, each with the offset that is asked about. -/
def EachAnswer (property : Nat → Answer → Prop) (src : File) : Nat → List Answer → Prop
  | _, [] => True
  | offset, answer :: answers => offset < src.length →
    property offset answer ∧ match answer with
      | .data _ hole => EachAnswer property src (hole.getD src.length) answers
      | _ => True

/-- The bytes that are not reported as data are zero. -/
def Honest (src : File) (offset : Nat) : Answer → Prop
  | .data start _ => ∀ i, offset ≤ i → i < start → src.byte i = 0
  | .nothing => ∀ i, offset ≤ i → src.byte i = 0
  | .unsupported => True

/-- If the disk is read to its end, the last chunk that is read does not hold zeroes alone. -/
def EndsWritten (src : File) (offset : Nat) : Answer → Prop
  | .unsupported => ∃ i, offset ≤ i ∧ i < src.length ∧ src.byte i ≠ 0 ∧
      (i - offset) / copyChunkSize = (src.length - 1 - offset) / copyChunkSize
  | _ => True

/-- No hole is reported before the offset that is asked about. -/
def Ahead (offset : Nat) : Answer → Prop
  | .data _ hole => ∀ stop ∈ hole, offset ≤ stop
  | _ => True

section

variable {src out : File}

/-- A copy that is being made: it holds the source's bytes or zeroes, and is no longer than the
source. -/
structure Draft (src out : File) : Prop where
  byte_eq : ∀ i, out.byte i = src.byte i ∨ out.byte i = 0
  length_le : out.length ≤ src.length

theorem Draft.empty (src : File) : Draft src .empty := ⟨fun _ => .inr rfl, Nat.zero_le _⟩

variable {i offset n : Nat}

theorem Draft.beyond (draft : Draft src out) (after : src.length ≤ i) :
    out.byte i = src.byte i := by
  rw [out.beyond i (le_trans draft.length_le after), src.beyond i after]

theorem Draft.of_zero (draft : Draft src out) (zero : src.byte i = 0) :
    out.byte i = src.byte i := by
  obtain same | empty := draft.byte_eq i
  · exact same
  · rw [empty, zero]

theorem isZero_block (zero : isZero (src.block offset n) = true) (after : offset ≤ i)
    (before : i < offset + n) : src.byte i = 0 := by
  simp only [isZero, File.block, List.all_map, List.all_eq_true, List.mem_range,
    Function.comp_apply, beq_iff_eq] at zero
  simpa [Nat.add_sub_cancel' after] using zero (i - offset) (by omega)

theorem writeAt_byte (offset n i : Nat) : (out.writeAt (src.block offset n) offset).byte i =
      if offset ≤ i ∧ i < offset + n then src.byte i else out.byte i := by
  simp only [File.writeAt, File.block, List.length_map, List.length_range]
  split
  case isTrue inside =>
    rw [List.getD_eq_getElem _ _ (by simp; omega)]
    simp [Nat.add_sub_cancel' inside.1]
  case isFalse => rfl

theorem copyChunk_byte (draft : Draft src out) (offset n i : Nat) :
    (copyChunk src out offset n).byte i = if offset ≤ i ∧ i < offset + n then src.byte i
    else out.byte i := by
  unfold copyChunk
  split
  case isTrue zero =>
    split
    case isTrue inside => exact draft.of_zero (isZero_block zero inside.1 inside.2)
    case isFalse => rfl
  case isFalse => exact writeAt_byte offset n i

theorem Draft.copyChunk (draft : Draft src out) (fits : n ≤ src.length - offset) :
    Draft src (copyChunk src out offset n) where
  byte_eq i := by
    rw [copyChunk_byte draft]
    split
    · exact .inl rfl
    · exact draft.byte_eq i
  length_le := by
    unfold Diskfile.copyChunk
    split
    case isTrue => exact draft.length_le
    case isFalse nonzero =>
      have : 0 < n := Nat.pos_of_ne_zero fun none => nonzero (by simp [none, File.block, isZero])
      simp only [File.writeAt, File.block, List.length_map, List.length_range]
      exact max_le draft.length_le (by omega)

/-- A range that is copied holds the source's bytes, and what the copy already had of the source it
keeps. -/
theorem copyRange_draft (draft : Draft src out) (offset stop : Nat) :
      Draft src (copyRange src out offset stop) ∧ ∀ i, out.byte i = src.byte i ∨ offset ≤ i ∧
        i < stop → (copyRange src out offset stop).byte i = src.byte i := by
  fun_induction copyRange src out offset stop with
  | case1 out offset more wanted n short =>
    refine ⟨draft.copyChunk (by omega), fun i known => ?_⟩
    rw [copyChunk_byte draft]
    split
    · rfl
    obtain same | inside := known
    · exact same
    · exact draft.beyond (by omega)
  | case2 out offset more wanted n full ih =>
    obtain ⟨done, copied⟩ := ih (draft.copyChunk (by omega))
    refine ⟨done, fun i known => copied i ?_⟩
    rw [copyChunk_byte draft]
    split
    · exact .inl rfl
    · exact known.imp_right fun inside => ⟨by omega, inside.2⟩
  | case3 out offset none => exact ⟨draft, fun i known => known.resolve_right (by omega)⟩

theorem copyChunkSize_pos : 0 < copyChunkSize := Nat.two_pow_pos 20

/-- Reading to the end gives the copy the source's length if the last chunk is written. -/
theorem copyRange_length (draft : Draft src out) (ends : EndsWritten src offset .unsupported) :
    (copyRange src out offset src.length).length = src.length := by
  generalize stopping : src.length = stop
  fun_induction copyRange src out offset stop with
  | case1 out offset more wanted n short => omega
  | case2 out offset more wanted n full ih =>
    subst stopping
    obtain ⟨i, after, before, nonzero, last⟩ := ends
    by_cases chunks : copyChunkSize < src.length - offset
    · -- More chunks follow, and the nonzero byte is in the last of them.
      have size : n = copyChunkSize := by omega
      refine ih (draft.copyChunk (by omega)) ?_
      have behind : copyChunkSize ≤ i - offset := by
        by_contra inside
        rw [Nat.div_eq_of_lt (Nat.lt_of_not_le inside)] at last
        exact absurd last.symm (Nat.div_pos (by omega) copyChunkSize_pos).ne'
      rw [Nat.div_eq_sub_div copyChunkSize_pos behind,
        Nat.div_eq_sub_div copyChunkSize_pos
        (show copyChunkSize ≤ src.length - 1 - offset by omega)] at last
      refine ⟨i, by omega, before, nonzero, ?_⟩
      rw [size, Nat.sub_add_eq, Nat.sub_add_eq]
      exact Nat.succ.inj last
    · have size : n = src.length - offset := by omega
      rw [copyRange, dif_neg (by omega)]
      unfold copyChunk
      rw [if_neg fun zero => nonzero (isZero_block zero after (by omega))]
      have := draft.length_le
      simp only [File.writeAt, File.block, List.length_map, List.length_range]
      omega
  | case3 out offset none => obtain ⟨i, after, before, -⟩ := ends; omega

theorem copyChunk_length_le (src out : File) (offset n : Nat) :
    (copyChunk src out offset n).length ≤ max out.length (offset + n) := by
  unfold copyChunk
  split
  · exact le_max_left ..
  · simp [File.writeAt, File.block]

theorem copyRange_length_le (src out : File) (offset stop : Nat) :
    (copyRange src out offset stop).length ≤ max out.length stop := by
  fun_induction copyRange src out offset stop with
  | case1 out offset more wanted n short =>
    have chunk := copyChunk_length_le src out offset n
    omega
  | case2 out offset more wanted n full ih =>
    have chunk := copyChunk_length_le src out offset n
    omega
  | case3 => exact le_max_left ..

/-- Reading to the end gives a copy that ends before the source's length only if the last chunk is
written. -/
theorem endsWritten_of_length (behind : out.length ≤ offset) (more : offset < src.length)
    (whole : (copyRange src out offset src.length).length = src.length) :
    EndsWritten src offset .unsupported := by
  generalize stopping : src.length = stop at whole
  fun_induction copyRange src out offset stop with
  | case1 out offset more wanted n short => omega
  | case2 out offset _ wanted n full ih =>
    subst stopping
    have chunk := copyChunk_length_le src out offset n
    by_cases chunks : copyChunkSize < src.length - offset
    · have size : n = copyChunkSize := by omega
      obtain ⟨i, after, before, nonzero, last⟩ := ih (by omega) (by omega) whole
      refine ⟨i, by omega, before, nonzero, ?_⟩
      rw [Nat.div_eq_sub_div copyChunkSize_pos (by omega : copyChunkSize ≤ i - offset),
        Nat.div_eq_sub_div copyChunkSize_pos
          (by omega : copyChunkSize ≤ src.length - 1 - offset), Nat.sub_sub, Nat.sub_sub]
      rw [size] at last
      exact congrArg Nat.succ last
    · have size : n = src.length - offset := by omega
      rw [copyRange, dif_neg (by omega)] at whole
      unfold copyChunk at whole
      split at whole
      · omega
      · rename_i nonzero
        simp only [isZero, File.block, List.all_map, Bool.not_eq_true, List.all_eq_false,
          List.mem_range, Function.comp_apply, beq_iff_eq] at nonzero
        obtain ⟨i, inside, isByte⟩ := nonzero
        refine ⟨offset + i, by omega, by omega, isByte, ?_⟩
        rw [Nat.div_eq_of_lt (by omega), Nat.div_eq_of_lt (by omega)]
  | case3 => omega

theorem truncate_eq (copied : ∀ i < src.length, out.byte i = src.byte i) :
    out.truncate src.length = src := by
  refine File.ext rfl (funext fun i => ?_)
  simp only [File.truncate]
  split
  case isTrue inside => exact copied i inside
  case isFalse outside => exact (src.beyond i (by omega)).symm

/-- The loop over the extents, with everything before its offset copied. -/
theorem copyExtents_exact {answers : List Answer} {result : File} (draft : Draft src out)
    (copied : ∀ i < offset, out.byte i = src.byte i)
    (honest : EachAnswer (Honest src) src offset answers)
    (ends : EachAnswer (EndsWritten src) src offset answers)
    (returned : copyExtents src offset out answers = some result) : result = src := by
  induction answers generalizing offset out with
  | nil =>
    rw [copyExtents] at returned
    split at returned
    · exact nomatch returned
    · cases returned
      exact truncate_eq fun i inside => copied i (by omega)
  | cons answer answers ih =>
    rw [copyExtents.eq_def] at returned
    dsimp only at returned
    split at returned
    case isFalse done =>
      cases returned
      exact truncate_eq fun i inside => copied i (by omega)
    case isTrue more =>
      obtain ⟨answered, honest⟩ := honest more
      obtain ⟨written, ends⟩ := ends more
      cases answer with
      | nothing =>
        cases returned
        refine truncate_eq fun i _ => ?_
        obtain before | after := Nat.lt_or_ge i offset
        · exact copied i before
        · exact draft.of_zero (answered i after)
      | unsupported =>
        cases returned
        obtain ⟨done, all⟩ := copyRange_draft draft offset src.length
        refine File.ext (copyRange_length draft written) (funext fun i => ?_)
        obtain before | after := Nat.lt_or_ge i offset
        · exact all i (.inl (copied i before))
        obtain inside | outside := Nat.lt_or_ge i src.length
        · exact all i (.inr ⟨after, inside⟩)
        · exact done.beyond outside
      | data start hole =>
        obtain ⟨done, all⟩ := copyRange_draft draft start (hole.getD src.length)
        refine ih done (fun i before => ?_) honest ends returned
        obtain known | after := Nat.lt_or_ge i offset
        · exact all i (.inl (copied i known))
        obtain skipped | inside := Nat.lt_or_ge i start
        · exact all i (.inl (draft.of_zero (answered i after skipped)))
        · exact all i (.inr ⟨inside, before⟩)

/-- The loop over the extents, with nothing written behind its offset. -/
theorem copyExtents_ends {answers : List Answer} (behind : out.length ≤ offset)
    (ahead : EachAnswer Ahead src offset answers)
    (returned : copyExtents src offset out answers = some src) :
    EachAnswer (EndsWritten src) src offset answers := by
  induction answers generalizing offset out with
  | nil => trivial
  | cons answer answers ih =>
    intro more
    obtain ⟨forward, ahead⟩ := ahead more
    rw [copyExtents.eq_def] at returned
    simp only [more, if_true] at returned
    cases answer with
    | nothing => exact ⟨trivial, trivial⟩
    | unsupported =>
      have whole := congrArg File.length (Option.some.inj returned)
      exact ⟨endsWritten_of_length behind more whole, trivial⟩
    | data start hole =>
      refine ⟨trivial, ih ?_ ahead returned⟩
      have written := copyRange_length_le src out start (hole.getD src.length)
      cases hole with
      | none => exact written.trans (max_le (behind.trans more.le) le_rfl)
      | some stop => exact written.trans (max_le (behind.trans (forward stop rfl)) le_rfl)

end

/-- The destination of a copy, and the file that is made beside it. -/
structure Destination where
  dst : Option File
  unfinished : Option File

/-- `Copy` with every read, write and rename succeeding.  A reflink, if the filesystem has any,
shares all blocks. -/
def copy (src : File) (reflinked : Bool) (answers : List Answer) (place : Destination) :
    Option Destination := do
  let out ← if reflinked then some src else copySparse src answers
  some { place with dst := some out, unfinished := none }

/-- Whatever the filesystem reports, as long as it is honest, a copy that returns holds the disk's
length and bytes if no disk that is read to its end ends in a chunk of zeroes; and only then, if no
hole is reported before the offset that is asked about. -/
theorem copy_exact (src : File) (answers : List Answer) (before after : Destination)
    (honest : EachAnswer (Honest src) src 0 answers)
    (returned : copy src false answers before = some after) :
    (EachAnswer (EndsWritten src) src 0 answers → after.dst = some src) ∧
      (EachAnswer Ahead src 0 answers →
        (after.dst = some src ↔ EachAnswer (EndsWritten src) src 0 answers)) := by
  obtain ⟨out, copied, finished⟩ := Option.bind_eq_some_iff.mp returned
  cases finished
  have whole : EachAnswer (EndsWritten src) src 0 answers → some out = some src := fun ends =>
    congrArg some (copyExtents_exact (Draft.empty src)
      (fun i none => absurd none (Nat.not_lt_zero i)) honest ends copied)
  refine ⟨whole, fun ahead => ⟨fun same => ?_, whole⟩⟩
  exact copyExtents_ends (Nat.le_refl 0) ahead (copied.trans same)

/-- A file of one byte. -/
def single (byte : UInt8) : File := .writeAt .empty [byte] 0

/-- A byte that is read because the filesystem cannot tell data from holes. -/
theorem copy_exact_single :
    ∃ after, copy (single 7) false [.unsupported] ⟨none, none⟩ = some after ∧
    after.dst = some (single 7) :=
  ⟨_, rfl, (copy_exact (single 7) [.unsupported] ⟨none, none⟩ _ (fun _ => ⟨trivial, trivial⟩)
    rfl).1 fun _ => ⟨⟨0, by decide, by decide, by decide, rfl⟩, trivial⟩⟩

/-- A zero that is read to the end of its file is not written, and the copy is left empty. -/
theorem copy_short : (copy (single 0) false [.unsupported] ⟨none, none⟩).map
    (·.dst.map (·.length)) = some (some 0) ∧ (single 0).length = 1 := by
  refine ⟨?_, rfl⟩
  have copied : copyRange (single 0) .empty 0 1 = .empty := by
    rw [copyRange, dif_pos Nat.one_pos, dif_neg (by decide), copyRange, dif_neg (by decide)]
    rfl
  change (some (some (copyRange (single 0) .empty 0 1).length)) = some (some 0)
  rw [copied]
  rfl

end Dicer.Diskfile
