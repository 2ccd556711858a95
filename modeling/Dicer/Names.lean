import Dicer.Errors

namespace Dicer.Naming

/-!
# Generated names

A generated name is made of a text and four random characters.  Whatever the text is, what can stand
in a name is kept of it and the rest becomes hyphens, so the name follows the rule for names and for
hostnames.  How the bytes of a text are read as characters, and what the lower case of a character
is, is left open.
-/

/-- What `notNameChars` does not match. -/
def isNameChar (c : Char) : Bool :=
  ('a' ≤ c && c ≤ 'z') || ('0' ≤ c && c ≤ '9') || c == '-'

/-- Each run of characters that cannot stand in a name becomes one hyphen. -/
def replaceRuns (inRun : Bool) : List Char → List Char
  | [] => []
  | c :: rest =>
    if isNameChar c then c :: replaceRuns false rest
    else if inRun then replaceRuns true rest
    else '-' :: replaceRuns true rest

def trimRight (text : List Char) : List Char := (text.reverse.dropWhile (· == '-')).reverse

def trim (text : List Char) : List Char := trimRight (text.dropWhile (· == '-'))

def maxGeneratedBaseLength : Nat := 40

def generatedSuffixChars : List Char := "abcdefghijklmnopqrstuvwxyz0123456789".toList

def suffixChar (drawn : UInt8) : Char :=
  generatedSuffixChars.get ⟨drawn.toNat % generatedSuffixChars.length, Nat.mod_lt _ (by decide)⟩

def shorten (base : List Char) : List Char :=
  if maxGeneratedBaseLength < base.length then trimRight (base.take maxGeneratedBaseLength)
    else base

/-- What is kept of a text. -/
def generatedBase (text : List Char) : List Char :=
  let base := shorten (trim (replaceRuns false text))
  if base = [] then "instance".toList else base

section

variable (runes : List UInt8 → List Char) (toLower : Char → Char) (drawn : Fin 4 → UInt8)

def generate (base : List UInt8) : String :=
  String.ofList (generatedBase ((runes base).map toLower) ++
    '-' :: (List.ofFn drawn).map suffixChar)

/-- The part of a text before the first such byte. -/
def cut (byte : Char) (text : List UInt8) : List UInt8 := text.takeWhile fun b =>
    b.toNat != byte.toNat

/-- The part of a text after the last slash. -/
def lastComponent (text : List UInt8) : List UInt8 := (cut '/' text.reverse).reverse

def generateFromImage (imageRef : List UInt8) : String :=
  generate runes toLower drawn (cut ':' (lastComponent (cut '@' imageRef)))

end

example : generate (fun bytes => bytes.map fun b => Char.ofNat b.toNat) Char.toLower (fun _ => 10)
    "My_App..v2-".toUTF8.toList = "my-app-v2-kkkk" := by decide +kernel

theorem isNameChar_replaceRuns (inRun : Bool) (text : List Char) :
    ∀ c ∈ replaceRuns inRun text, isNameChar c = true := by
  induction text generalizing inRun with
  | nil => simp [replaceRuns]
  | cons c rest ih =>
    unfold replaceRuns
    split
    · rename_i kept
      exact List.forall_mem_cons.mpr ⟨kept, ih false⟩
    split
    · exact ih true
    · exact List.forall_mem_cons.mpr ⟨rfl, ih true⟩

theorem trimRight_starts (text : List Char) : trimRight text <+: text := by
  rw [← List.reverse_suffix, trimRight, List.reverse_reverse]
  exact List.dropWhile_suffix _

theorem isAlphanumeric_or_hyphen {c : Char} (isName : isNameChar c = true) :
    isAlphanumeric c = true ∨ c = '-' := by
  simp only [isNameChar, isAlphanumeric, Bool.or_eq_true, beq_iff_eq] at isName ⊢
  tauto

theorem shorten_starts (base : List Char) : shorten base <+: base ∧
    (shorten base).length ≤ maxGeneratedBaseLength := by
  unfold shorten
  split
  · have short := trimRight_starts (base.take maxGeneratedBaseLength)
    exact ⟨short.trans (List.take_prefix _ _), short.length_le.trans (List.length_take_le _ _)⟩
  · exact ⟨List.prefix_rfl, Nat.le_of_not_lt ‹_›⟩

/-- What is kept begins with a letter or digit. -/
theorem generatedBase_eq (text : List Char) : ∃ first rest, generatedBase text = first :: rest ∧
    rest.length < maxGeneratedBaseLength ∧ isAlphanumeric first = true ∧ ∀ c ∈ rest,
    isNameChar c = true := by
  rcases shorten_starts (trim (replaceRuns false text)) with ⟨short, length⟩
  unfold generatedBase
  cases shape : shorten (trim (replaceRuns false text)) with
  | nil => exact ⟨_, _, rfl, by decide, by decide, List.all_eq_true.mp rfl⟩
  | cons first rest =>
    rw [shape] at short length
    have start : first :: rest <+: (replaceRuns false text).dropWhile (· == '-') :=
      short.trans (trimRight_starts _)
    have chars : ∀ c ∈ first :: rest, isNameChar c = true := fun c member =>
      isNameChar_replaceRuns false text c ((List.dropWhile_suffix _).subset (start.subset member))
    have notHyphen : first ≠ '-' := by
      have not := List.head?_dropWhile_not (· == '-') (replaceRuns false text)
      rcases start with ⟨others, cut⟩
      simpa [← cut] using not
    rcases List.forall_mem_cons.mp chars with ⟨isName, others⟩
    exact ⟨first, rest, rfl, length, (isAlphanumeric_or_hyphen isName).resolve_right notHyphen,
      others⟩

theorem utf8Len_le (text : List Char) : String.utf8Len text ≤ 4 * text.length := by
  induction text with
  | nil => simp
  | cons c =>
    have size := c.utf8Size_le_four
    simp only [String.utf8Len_cons, List.length_cons]
    omega

theorem isAlphanumeric_suffixChar (drawn : UInt8) : isAlphanumeric (suffixChar drawn) = true := by
  have all : generatedSuffixChars.all isAlphanumeric = true := by decide +kernel
  exact List.all_eq_true.mp all _ (List.get_mem _ _)

theorem generate_follows (text : List Char) (drawn : Fin 4 → UInt8) :
    let name := String.ofList (generatedBase text ++ '-' :: (List.ofFn drawn).map suffixChar)
    matchesPattern name = true ∧ name.utf8ByteSize ≤ maxNameLength := by
  rcases generatedBase_eq text with ⟨first, rest, shape, length, starts, isName⟩
  rw [shape]
  have short : (first :: rest ++ '-' :: (List.ofFn drawn).map suffixChar).length ≤ 45 := by
    simp only [maxGeneratedBaseLength] at length
    simp only [List.length_append, List.length_cons, List.length_map, List.length_ofFn]
    omega
  have ends : (first :: rest ++ '-' :: (List.ofFn drawn).map suffixChar).getLast?.any
      isAlphanumeric = true := by
    rw [List.getLast?_append]
    simp [isAlphanumeric_suffixChar]
  have chars : ∀ c ∈ first :: rest ++ '-' :: (List.ofFn drawn).map suffixChar,
      isAlphanumeric c = true ∨ c = '-' := by
    simp only [List.cons_append, List.forall_mem_cons, List.forall_mem_append, List.forall_mem_map]
    exact ⟨.inl starts, fun c kept => isAlphanumeric_or_hyphen (isName c kept), .inr trivial,
      fun drawn _ => .inl (isAlphanumeric_suffixChar drawn)⟩
  have dotless : '.' ∉ first :: rest ++ '-' :: (List.ofFn drawn).map suffixChar :=
    fun member => absurd (chars '.' member) (by decide)
  constructor
  · simp only [matchesPattern, String.toList_ofList, List.splitOn_eq_singleton dotless,
      List.all_cons, List.all_nil, Bool.and_true, isLabel, Bool.and_eq_true, decide_eq_true_eq,
      List.all_eq_true, Bool.or_eq_true, beq_iff_eq]
    exact ⟨⟨⟨short.trans (by decide), chars⟩, starts⟩, ends⟩
  · rw [String.utf8ByteSize_ofList, maxNameLength]
    exact (utf8Len_le _).trans (by omega)

/-- The name is one for a resource, and a hostname. -/
def Accepted (name : String) : Prop := validate name = .ok () ∧ validateHostname name = .ok ()

/-- Whatever text a name is generated from, and whatever is drawn for it, it is a valid name and a
valid hostname. -/
theorem generated_names_are_valid (runes : List UInt8 → List Char) (toLower : Char → Char)
    (drawn : Fin 4 → UInt8) (text : List UInt8) :
    Accepted (generate runes toLower drawn text) ∧
    Accepted (generateFromImage runes toLower drawn text) := by
  have accepted : ∀ base, Accepted (generate runes toLower drawn base) := by
    intro base
    have follows := generate_follows ((runes base).map toLower) drawn
    rw [← generate] at follows
    simp [Accepted, validate, validateHostname, follows.1, Nat.not_lt.mpr follows.2, pure,
      Except.pure]
  exact ⟨accepted _, accepted _⟩

end Dicer.Naming
