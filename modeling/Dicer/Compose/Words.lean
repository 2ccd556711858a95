import Mathlib.Data.List.Basic

namespace Dicer.Compose

/-!
# Command lines

A command that a compose file gives as one text is split as a shell would split it, byte by byte.
What a shell is given quoted, in either way, comes back as it was.
-/

def byte (c : Char) : UInt8 := c.toUInt8

inductive Quote
  | none
  | single
  | double
  deriving DecidableEq, Repr

/-- Where the scanner is: the words so far, the one it is in, if any, the quote that is open, and
whether the byte before was a backslash. -/
structure Scanner where
  args : List (List UInt8) := []
  word : List UInt8 := []
  inWord : Bool := false
  quote : Quote := .none
  escaped : Bool := false
  deriving DecidableEq, Repr

namespace Scanner

variable (scanner : Scanner)

def write (c : UInt8) : Scanner := { scanner with word := scanner.word ++ [c] }

def endWord : Scanner :=
  if scanner.inWord then
    { scanner with args := scanner.args ++ [scanner.word], word := [], inWord := false }
  else scanner

end Scanner

/-- What a backslash escapes between double quotes. -/
def escapable : List UInt8 := [byte '"', byte '\\', byte '$', 96]

def isBlank (c : UInt8) : Bool := c = byte ' ' || c = byte '\t' || c = byte '\n'

def scan (scanner : Scanner) : List UInt8 → Scanner
  | [] => scanner
  | c :: rest =>
    if scanner.escaped then scan { scanner.write c with escaped := false } rest
    else
      match scanner.quote with
      | .single =>
        if c = byte '\'' then scan { scanner with quote := .none } rest
        else scan (scanner.write c) rest
      | .double =>
        if c = byte '"' then scan { scanner with quote := .none } rest
        else
          match rest with
          | [] => scanner.write c
          | next :: later =>
            if c = byte '\\' ∧ next ∈ escapable then scan (scanner.write next) later
            else scan (scanner.write c) (next :: later)
      | .none =>
        if c = byte '\\' then scan { scanner with escaped := true, inWord := true } rest
        else if c = byte '\'' then scan { scanner with quote := .single, inWord := true } rest
        else if c = byte '"' then scan { scanner with quote := .double, inWord := true } rest
        else if isBlank c then scan scanner.endWord rest
        else scan { scanner.write c with inWord := true } rest

/-- Why a command line is refused. -/
inductive SplitError
  | unterminated (quote : Quote) (line : List UInt8)
  | endsInBackslash
  deriving DecidableEq, Repr

def splitShellWords (line : List UInt8) : Except SplitError (List (List UInt8)) :=
  let scanner := scan {} line
  if scanner.quote ≠ .none then throw (.unterminated scanner.quote line)
  else if scanner.escaped then throw .endsInBackslash
  else pure scanner.endWord.args

/-! ## Quoting -/

/-- How an argument is written for a shell: in single quotes, with those inside written outside of
them, or in double quotes, with a backslash ahead of what has a meaning there. -/
inductive Style
  | single
  | double
  deriving DecidableEq, Repr

def Style.escape : Style → UInt8 → List UInt8
  | single, c => if c = byte '\'' then [byte '\'', byte '\\', byte '\'', byte '\''] else [c]
  | double, c => if c ∈ escapable then [byte '\\', c] else [c]

def Style.mark : Style → UInt8
  | single => byte '\''
  | double => byte '"'

def Style.quoted (style : Style) (arg : List UInt8) : List UInt8 :=
  style.mark :: arg.flatMap style.escape ++ [style.mark]

/-- The arguments, each quoted in its way, joined by runs of spaces, tabs and newlines. -/
inductive Joined : List (Style × List UInt8) → List UInt8 → Prop
  | nil : Joined [] []
  | last (arg : Style × List UInt8) : Joined [arg] (arg.1.quoted arg.2)
  | cons (arg : Style × List UInt8) {next : Style × List UInt8} {more : List (Style × List UInt8)}
      {run line : List UInt8} : run ≠ [] → (∀ c ∈ run, isBlank c = true) →
        Joined (next :: more) line → Joined (arg :: next :: more)
        (arg.1.quoted arg.2 ++ (run ++ line))

def Style.inside : Style → Quote
  | single => .single
  | double => .double

variable {style : Style} {scanner : Scanner} {arg run rest : List UInt8}

theorem marks_apart : byte '\'' ≠ byte '\\' ∧ byte '"' ≠ byte '\\' ∧ byte '"' ≠ byte '\'' :=
    by decide

/-- A scanner between quotes reads an escaped byte as that byte. -/
theorem scan_escape (isInside : scanner.quote = style.inside) (notEscaped : scanner.escaped = false)
    (isIn : scanner.inWord = true) (c : UInt8) :
    scan scanner (style.escape c ++ rest) = scan (scanner.write c) rest := by
  cases scanner
  cases style with
  | single =>
    by_cases isMark : c = byte '\''
    · subst isMark
      simp_all [Style.escape, Style.inside, scan, Scanner.write, marks_apart]
    · simp_all [Style.escape, Style.inside, scan, Scanner.write]
  | double =>
    by_cases isEscapable : c ∈ escapable
    · simp_all [Style.escape, Style.inside, scan, Scanner.write, Ne.symm marks_apart.2.1]
    have notMark : c ≠ byte '"' := fun same => isEscapable (same ▸ by decide)
    have notSlash : c ≠ byte '\\' := fun same => isEscapable (same ▸ by decide)
    cases rest <;> simp_all [Style.escape, Style.inside, scan, Scanner.write]

theorem scan_escapes (isInside : scanner.quote = style.inside)
    (notEscaped : scanner.escaped = false) (isIn : scanner.inWord = true) :
    scan scanner (arg.flatMap style.escape ++ rest) = scan
    { scanner with word := scanner.word ++ arg } rest := by
  induction arg generalizing scanner with
  | nil => simp
  | cons c arg ih =>
    rw [List.flatMap_cons, List.append_assoc, scan_escape isInside notEscaped isIn]
    refine (@ih (scanner.write c) isInside notEscaped isIn).trans ?_
    simp [Scanner.write]

/-- The scanner is between words, or in a word outside of quotes. -/
structure Scanner.Open (scanner : Scanner) : Prop where
  quote : scanner.quote = .none
  escaped : scanner.escaped = false

theorem scan_quoted (open_ : scanner.Open) :
    scan scanner (style.quoted arg ++ rest) = scan
    { scanner with word := scanner.word ++ arg, inWord := true } rest := by
  rcases open_ with ⟨isOpen, notEscaped⟩
  have enters : scan scanner (style.quoted arg ++ rest) =
      scan { scanner with quote := style.inside, inWord := true }
          (arg.flatMap style.escape ++ style.mark :: rest) := by
    cases scanner
    cases style <;> simp_all [Style.quoted, Style.mark, Style.inside, scan, marks_apart]
  have reads := @scan_escapes style { scanner with quote := style.inside, inWord := true } arg
    (style.mark :: rest) rfl notEscaped rfl
  refine enters.trans (reads.trans ?_)
  rw [scan.eq_def]
  cases style <;> simp [Style.mark, Style.inside, notEscaped, isOpen]

theorem blank_apart {c : UInt8} (blank : isBlank c = true) : c ≠ byte '\\' ∧ c ≠ byte '\'' ∧
    c ≠ byte '"' := by
  simp only [isBlank, Bool.or_eq_true, decide_eq_true_eq] at blank
  rcases blank with (rfl | rfl) | rfl <;> decide

/-- Blanks behind a word end it, once. -/
theorem scan_blanks (open_ : scanner.Open) (blank : ∀ c ∈ run, isBlank c = true)
    (some_ : run ≠ []) : scan scanner (run ++ rest) = scan scanner.endWord rest := by
  induction run generalizing scanner with
  | nil => exact absurd rfl some_
  | cons c more ih =>
    rcases List.forall_mem_cons.mp blank with ⟨isBlank, blankMore⟩
    rcases blank_apart isBlank with ⟨notSlash, notSingle, notDouble⟩
    have first : scan scanner (c :: more ++ rest) = scan scanner.endWord (more ++ rest) := by
      rw [List.cons_append, scan.eq_def]
      simp [open_.escaped, open_.quote, notSlash, notSingle, notDouble, isBlank]
    rw [first]
    by_cases none : more = []
    · rw [none]
      rfl
    have again : scanner.endWord.endWord = scanner.endWord := by
      unfold Scanner.endWord
      split <;> simp_all
    have still : scanner.endWord.Open := by
      unfold Scanner.endWord
      split
      · exact ⟨open_.quote, open_.escaped⟩
      · exact open_
    rw [ih still blankMore none, again]

/-- A scanner between words. -/
def between (args : List (List UInt8)) : Scanner := { args := args }

/-- What is read of a line is the words so far, and the line's. -/
theorem scan_joined {args : List (Style × List UInt8)} {line : List UInt8}
    (joined : Joined args line) (words : List (List UInt8)) :
    (scan (between words) line).Open ∧ (scan (between words) line).endWord.args = words ++
    args.map Prod.snd := by
  induction joined generalizing words with
  | nil => exact ⟨⟨rfl, rfl⟩, (List.append_nil words).symm⟩
  | last arg =>
    have read := @scan_quoted arg.1 (between words) arg.2 [] ⟨rfl, rfl⟩
    rw [List.append_nil] at read
    rw [read]
    exact ⟨⟨rfl, rfl⟩, rfl⟩
  | cons arg some_ blank _ ih =>
    have ended : Scanner.endWord { between words with word := (between words).word ++ arg.2, inWord := true } =
        between (words ++ [arg.2]) := rfl
    rw [scan_quoted ⟨rfl, rfl⟩, scan_blanks ⟨rfl, rfl⟩ blank some_, ended]
    simpa using ih (words ++ [arg.2])

/-- Arguments that are quoted for a shell, each in either way, and joined by blanks, are read
back. -/
theorem splitShellWords_quoted {args : List (Style × List UInt8)} {line : List UInt8}
    (joined : Joined args line) :
    splitShellWords line = .ok (args.map Prod.snd) := by
  rcases scan_joined joined [] with ⟨open_, read⟩
  have starts : ({} : Scanner) = between [] := rfl
  unfold splitShellWords
  rw [starts, if_neg (not_not.mpr open_.quote), open_.escaped, if_neg Bool.false_ne_true, read]
  rfl

/-- `'it'\\''s' ""`, with a tab between the two. -/
theorem splitShellWords_quoted_two :
    splitShellWords ([39, 105, 116, 39, 92, 39, 39, 115, 39] ++ ([9] ++ [34, 34])) = .ok
    [[105, 116, 39, 115], []] :=
  splitShellWords_quoted (.cons (.single, [105, 116, 39, 115]) (by decide)
    (List.forall_mem_singleton.mpr rfl) (.last (.double, [])))

end Dicer.Compose
