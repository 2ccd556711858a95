import Mathlib.Data.List.Basic
import Dicer.Errors

namespace Dicer.Compose

/-!
# Interpolation of compose files

A value of a compose file may name variables, and a default may hold variables itself.  The `}` that
ends a reference is found by a scanner of its own, which counts every `${` it meets, before the text
in between is evaluated.  The two read an escape differently: to the evaluator `$$` is one character
and what follows it stands for itself, while the scanner passes over its first `$` alone and may
take the second for the start of a `${`.
-/

/-- A variable's value, and whether it is set. -/
abbrev Lookup := List Char → List Char × Bool

def isNameStart (c : Char) : Bool := c = '_' || ('a' ≤ c && c ≤ 'z') || ('A' ≤ c && c ≤ 'Z')

def isNameCharacter (c : Char) : Bool := isNameStart c || ('0' ≤ c && c ≤ '9')

/-- How far from the start of a body the `}` is that closes it. -/
def closingBrace (depth : Nat) : List Char → Option Nat
  | '$' :: '{' :: rest => (closingBrace (depth + 1) rest).map (· + 2)
  | '}' :: rest => if depth = 1 then some 0 else (closingBrace (depth - 1) rest).map (· + 1)
  | _ :: rest => (closingBrace depth rest).map (· + 1)
  | [] => none

theorem length_dropWhile (p : Char → Bool) (s : List Char) : (s.dropWhile p).length ≤ s.length :=
  (List.dropWhile_suffix p).length_le

section

variable (lookup : Lookup)

mutual

def interpolate : List Char → Except String (List Char)
  | [] => pure []
  | '$' :: [] => pure ['$']
  | '$' :: '$' :: rest => ('$' :: ·) <$> interpolate rest
  | '$' :: '{' :: body =>
    match closingBrace 1 body with
    | none =>
      throw ("invalid interpolation " ++ quoted (String.ofList ('$' :: '{' :: body)) ++
      ": no closing \x7d")
    | some stop => do
      let value ← expand (body.take stop)
      (value ++ ·) <$> interpolate (body.drop (stop + 1))
  | '$' :: next :: rest =>
    if isNameStart next then
      ((lookup ((next :: rest).takeWhile isNameCharacter)).1 ++ ·) <$>
        interpolate (rest.dropWhile isNameCharacter)
    else ('$' :: ·) <$> interpolate (next :: rest)
  | c :: rest => (c :: ·) <$> interpolate rest
termination_by s => s.length
decreasing_by all_goals grind [length_dropWhile]

/-- The value of what stands between the braces of a reference. -/
def expand (body : List Char) : Except String (List Char) :=
  let name := body.takeWhile isNameCharacter
  if name.head?.any isNameStart then
    let (value, set) := lookup name
    match _rest : body.dropWhile isNameCharacter with
    | [] => pure value
    | colon :: rest =>
      let emptyCounts := colon == ':'
      match _operator : if emptyCounts then rest else colon :: rest with
      | [] => throw s!"invalid interpolation $\x7b{String.ofList body}\x7d"
      | operator :: arg =>
        let present := set && (!emptyCounts || !value.isEmpty)
        if operator = '-' then if present then pure value else interpolate arg
        else if operator = '?' then
          if present then pure value
          else do
            let message ← interpolate arg
            let message := if message.isEmpty then "it is not set" else String.ofList message
            throw s!"required variable {String.ofList name}: {message}"
        else if operator = '+' then if present then interpolate arg else pure []
        else throw s!"invalid interpolation $\x7b{String.ofList body}\x7d: want :-, -, :?, ?, :+ or + after the name"
  else throw s!"invalid interpolation $\x7b{String.ofList body}\x7d: want a variable name"
termination_by body.length
decreasing_by all_goals grind [length_dropWhile]

end

end

structure Name where
  first : Char
  others : List Char
  start : isNameStart first = true
  characters : ∀ c ∈ others, isNameCharacter c = true

def Name.text (name : Name) : List Char := name.first :: name.others

/-- A character that stands for itself. -/
abbrev Literal := { c : Char // c ≠ '$' ∧ c ≠ '}' }

/-- What a value may be written as: characters, escapes and references one after another, a default
being a template again. -/
inductive Template where
  | done
  | literal (c : Literal) (next : Template)
  | escape (next : Template)
  | plain (name : Name) (next : Template)
  | braced (name : Name) (next : Template)
  | defaulted (name : Name) (default next : Template)

namespace Template

def render : Template → List Char
  | done => []
  | literal c next => c.val :: next.render
  | escape next => '$' :: '$' :: next.render
  | plain name next => '$' :: (name.text ++ next.render)
  | braced name next => '$' :: '{' :: (name.text ++ '}' :: next.render)
  | defaulted name default next =>
    '$' :: '{' :: (name.text ++ ':' :: '-' :: (default.render ++ '}' :: next.render))

/-- How many escapes are followed by a `{` that stands for itself. -/
def opened : Template → Nat
  | done => 0
  | literal _ next => next.opened
  | escape next => (if next.render.head? = some '{' then 1 else 0) + next.opened
  | plain _ next => next.opened
  | braced _ next => next.opened
  | defaulted _ default next => default.opened + next.opened

abbrev Clear (template : Template) : Prop := template.opened = 0

end Template

theorem closingBrace_cons {c : Char} {rest : List Char} (depth : Nat)
    (dollar : c = '$' → rest.head? ≠ some '{') (brace : c ≠ '}') :
    closingBrace depth (c :: rest) = (closingBrace depth rest).map (· + 1) :=
  closingBrace.eq_3 _ _ _ (fun _ isDollar opens => dollar isDollar (by rw [opens]; rfl)) brace

theorem closingBrace_close {depth : Nat} (positive : 0 < depth) (rest : List Char) :
    closingBrace (depth + 1) ('}' :: rest) = (closingBrace depth rest).map (· + 1) := by
  grind [closingBrace]

theorem isNameCharacter_ne {c : Char} (isName : isNameCharacter c = true) : c ≠ '$' ∧ c ≠ '}' := by
  constructor <;> rintro rfl <;> simp [isNameCharacter, isNameStart] at isName

theorem Name.text_characters (name : Name) : ∀ c ∈ name.text, isNameCharacter c = true := by
  intro c mem
  obtain rfl | mem := List.mem_cons.mp mem
  · simp [isNameCharacter, name.start]
  · exact name.characters c mem

/-- The scanner passes over characters that neither open nor close anything. -/
theorem closingBrace_skip (depth : Nat) (rest : List Char) : ∀ {chars : List Char},
      (∀ c ∈ chars, c ≠ '$' ∧ c ≠ '}') → closingBrace depth (chars ++ rest) =
      (closingBrace depth rest).map (· + chars.length)
  | [], _ => by simp
  | c :: chars, passed => by
    have first := passed c List.mem_cons_self
    rw [List.cons_append, closingBrace_cons depth (fun isDollar => absurd isDollar first.1) first.2,
      closingBrace_skip depth rest fun c mem => passed c (List.mem_cons_of_mem _ mem)]
    simp [Function.comp_def, Nat.add_assoc]

theorem closingBrace_name (depth : Nat) (name : Name) (rest : List Char) :
    closingBrace depth (name.text ++ rest) = (closingBrace depth rest).map (· + name.text.length) :=
  closingBrace_skip depth rest fun c mem => isNameCharacter_ne (name.text_characters c mem)

variable {template : Template}

/-- A `$` before a template: if the template starts with a `{`, the two open a reference. -/
theorem closingBrace_dollar (depth : Nat) (rest : List Char) :
    closingBrace depth ('$' :: rest) =
      (closingBrace (depth + if rest.head? = some '{' then 1 else 0) rest).map (· + 1) := by
  split
  · rename_i opens
    obtain ⟨rest, rfl⟩ := List.head?_eq_some_iff.mp opens
    rw [closingBrace, closingBrace_cons _ (by simp) (by decide)]
    simp [Function.comp_def]
  · exact closingBrace_cons depth (fun _ => ‹_›) (by decide)

/-- The scanner finds as many `}` as it counts `${` in a template, but for those that only an escape
and a `{` after it make up, and so comes out that much deeper than it went in. -/
theorem closingBrace_render {depth : Nat} {rest : List Char} (positive : 0 < depth)
    (apart : rest.head? ≠ some '{') :
    closingBrace depth (template.render ++ rest) =
      (closingBrace (depth + template.opened) rest).map (· + template.render.length) := by
  induction template generalizing depth rest with
  | done => simp [Template.render, Template.opened]
  | literal c next ih =>
    rw [Template.render, List.cons_append,
      closingBrace_cons depth (fun isDollar => absurd isDollar c.2.1) c.2.2, ih positive apart,
      Template.opened]
    cases closingBrace (depth + next.opened) rest <;> simp; omega
  | escape next ih =>
    have head : (next.render ++ rest).head? = some '{' ↔ next.render.head? = some '{' := by
      rw [List.head?_append]
      cases next.render.head? <;> simp [apart]
    rw [Template.render, List.cons_append, List.cons_append,
      closingBrace_cons depth (by simp) (by decide), closingBrace_dollar, ih (by omega) apart,
      Template.opened, Nat.add_assoc, if_congr head rfl rfl]
    cases closingBrace (depth + ((if next.render.head? = some '{' then 1 else 0) + next.opened))
      rest <;> simp; omega
  | plain name next ih =>
    have opens : (name.text ++ (next.render ++ rest)).head? ≠ some '{' := by
      intro head
      have := name.start
      simp only [Name.text, List.cons_append, List.head?_cons, Option.some.injEq] at head
      simp [head, isNameStart] at this
    rw [Template.render, List.cons_append, List.append_assoc,
      closingBrace_cons depth (fun _ => opens) (by decide), closingBrace_name, ih positive apart,
      Template.opened]
    cases closingBrace (depth + next.opened) rest <;> simp; omega
  | braced name next ih =>
    rw [Template.render, List.cons_append, List.cons_append, List.append_assoc, closingBrace,
      closingBrace_name, List.cons_append, closingBrace_close positive, ih positive apart,
      Template.opened]
    cases closingBrace (depth + next.opened) rest <;> simp; omega
  | defaulted name default next ihDefault ihNext =>
    rw [Template.render, List.cons_append, List.cons_append, List.append_assoc, closingBrace,
      closingBrace_name, List.cons_append, List.cons_append,
      closingBrace_cons _ (by simp) (by decide), closingBrace_cons _ (by simp) (by decide),
      List.append_assoc, List.cons_append, ihDefault (Nat.succ_pos depth) (by simp),
      Nat.succ_eq_add_one, Nat.add_right_comm, closingBrace_close (by omega),
        ihNext (by omega) apart,
      Template.opened, ← Nat.add_assoc]
    cases closingBrace (depth + default.opened + next.opened) rest <;> simp; omega

/-! ## The evaluator -/

section

variable {lookup : Lookup} (name : Name)

theorem takeWhile_name (rest : List Char) (ended : ∀ c ∈ rest.head?, isNameCharacter c = false) :
    (name.text ++ rest).takeWhile isNameCharacter = name.text ∧
      (name.text ++ rest).dropWhile isNameCharacter = rest := by
  rw [List.takeWhile_append_of_pos (name.text_characters), List.dropWhile_append_of_pos
    (name.text_characters)]
  cases rest with
  | nil => simp
  | cons c => simp [ended c rfl]

theorem expand_name : expand lookup name.text = pure (lookup name.text).1 := by
  obtain ⟨taken, left⟩ := takeWhile_name name [] (by simp)
  rw [List.append_nil] at taken left
  unfold expand
  rw [left, taken]
  simp [Name.text, name.start]

theorem expand_defaulted (arg : List Char) : expand lookup (name.text ++ ':' :: '-' :: arg) =
      if (lookup name.text).2 && !(lookup name.text).1.isEmpty then pure (lookup name.text).1
      else interpolate lookup arg := by
  obtain ⟨taken, left⟩ := takeWhile_name name (':' :: '-' :: arg)
    (by simp [isNameCharacter, isNameStart])
  unfold expand
  rw [left, taken]
  simp [Name.text, name.start]

theorem interpolate_cons {c : Char} (plain : c ≠ '$') (rest : List Char) :
    interpolate lookup (c :: rest) = (c :: ·) <$> interpolate lookup rest := by
  rw [interpolate] <;> simp [plain]

theorem interpolate_plain {first : Char} (start : isNameStart first = true) (rest : List Char) :
    interpolate lookup ('$' :: first :: rest) =
        ((lookup ((first :: rest).takeWhile isNameCharacter)).1 ++ ·) <$> interpolate lookup
        (rest.dropWhile isNameCharacter) := by
  have : first ≠ '$' ∧ first ≠ '{' := by constructor <;> rintro rfl <;> simp [isNameStart] at start
  rw [interpolate] <;> simp [start, this]

theorem interpolate_reference {body : List Char} (rest : List Char)
    (found : closingBrace 1 (body ++ '}' :: rest) = some body.length) :
    interpolate lookup ('$' :: '{' :: (body ++ '}' :: rest)) =
      expand lookup body >>= fun value => (value ++ ·) <$> interpolate lookup rest := by
  rw [interpolate, found]
  simp

theorem interpolate_braced (rest : List Char) :
      interpolate lookup ('$' :: '{' :: (name.text ++ '}' :: rest)) = ((lookup name.text).1 ++ ·)
      <$> interpolate lookup rest := by
  rw [interpolate_reference rest (by rw [closingBrace_name]; simp [closingBrace]), expand_name,
    pure_bind]

/-- The body of a reference with a default ends where the default's template does. -/
theorem interpolate_defaulted {default : Template} (clear : default.Clear) (rest : List Char) :
    interpolate lookup ('$' :: '{' :: (name.text ++
      ':' :: '-' :: (default.render ++ '}' :: rest))) =
      (if (lookup name.text).2 && !(lookup name.text).1.isEmpty then pure (lookup name.text).1
        else interpolate lookup default.render) >>= fun value =>
        (value ++ ·) <$> interpolate lookup rest := by
  have regroup : name.text ++ ':' :: '-' :: (default.render ++ '}' :: rest) =
      (name.text ++ ':' :: '-' :: default.render) ++ '}' :: rest := by simp
  rw [← expand_defaulted, regroup, interpolate_reference rest]
  rw [← regroup, closingBrace_name, closingBrace_cons _ (by simp) (by decide),
    closingBrace_cons _ (by simp) (by decide), closingBrace_render Nat.one_pos (by simp), clear]
  simp [closingBrace]
  omega

/-- A template without the characters at its start that a name before it takes up. -/
theorem exists_dropWhile (clear : template.Clear) :
    ∃ left : Template, left.Clear ∧ left.render = template.render.dropWhile isNameCharacter := by
  induction template with
  | literal c next ih =>
    cases isName : isNameCharacter c.val with
    | true => simpa [Template.render, isName] using ih clear
    | false => exact ⟨_, clear, by simp [Template.render, isName]⟩
  | _ => exact ⟨_, clear, by simp [Template.render, isNameCharacter, isNameStart]⟩

theorem interpolate_succeeds (lookup : Lookup) (clear : template.Clear) :
    ∃ out, interpolate lookup template.render = .ok out := by
  induction length : template.render.length using Nat.strong_induction_on generalizing template with
  | h bound ih =>
    subst length
    have shorter (left : Template) (clear : left.Clear)
        (less : left.render.length < template.render.length) :=
      ih _ less clear rfl
    cases template with
    | done => exact ⟨[], by rw [Template.render, interpolate]; rfl⟩
    | literal c next =>
      obtain ⟨out, tail⟩ := shorter next clear (by simp [Template.render])
      exact ⟨c :: out, by rw [Template.render, interpolate_cons c.2.1, tail]; rfl⟩
    | escape next =>
      obtain ⟨out, tail⟩ := shorter next (Nat.add_eq_zero_iff.mp clear).2
        (by simp only [Template.render, List.length_cons]; omega)
      exact ⟨'$' :: out, by rw [Template.render, interpolate, tail]; rfl⟩
    | plain name next =>
      -- The name goes on with the characters of the literals that follow it.
      obtain ⟨left, leftClear, rendered⟩ := exists_dropWhile (show next.Clear from clear)
      have less := length_dropWhile isNameCharacter next.render
      obtain ⟨out, tail⟩ := shorter left leftClear (by rw [rendered]; simp [Template.render]; omega)
      refine ⟨(lookup ((name.text ++ next.render).takeWhile isNameCharacter)).1 ++ out, ?_⟩
      rw [Template.render, Name.text, List.cons_append, interpolate_plain name.start,
        List.dropWhile_append_of_pos name.characters, ← rendered, tail]
      rfl
    | braced name next =>
      obtain ⟨out, tail⟩ := shorter next clear (by simp [Template.render]; omega)
      exact ⟨_ ++ out, by rw [Template.render, interpolate_braced, tail]; rfl⟩
    | defaulted name default next =>
      obtain ⟨defaultClear, nextClear⟩ := Nat.add_eq_zero_iff.mp clear
      obtain ⟨value, inner⟩ := shorter default defaultClear (by simp [Template.render]; omega)
      obtain ⟨out, tail⟩ := shorter next nextClear (by simp [Template.render]; omega)
      rw [Template.render, interpolate_defaulted name defaultClear, inner, tail]
      split
      · exact ⟨_, rfl⟩
      · exact ⟨_, rfl⟩

end

/-- A reference to a variable with a template as its default. -/
def withDefault (name : Name) (template : Template) : List Char :=
    (Template.defaulted name template .done).render

/-- Each escape that is followed by a `{` leaves the scanner one `}` short. -/
theorem no_closingBrace (name : Name) (unclear : ¬template.Clear) :
    closingBrace 1 (name.text ++ ':' :: '-' :: (template.render ++ ['}'])) = none := by
  obtain ⟨more, deeper⟩ := Nat.exists_eq_add_of_lt (Nat.pos_of_ne_zero unclear)
  rw [closingBrace_name, closingBrace_cons _ (by simp) (by decide),
    closingBrace_cons _ (by simp) (by decide), closingBrace_render Nat.one_pos (by simp), deeper,
    Nat.add_comm, closingBrace_close (by omega)]
  rfl

/-- A template may be the default of an unset variable, so that the reference stands for what the
template alone stands for, exactly if no escape in it is followed by a `{`. -/
theorem default_as_alone (lookup : Lookup) (name : Name) (unset : (lookup name.text).2 = false)
    (template : Template) :
    (∃ out, interpolate lookup (withDefault name template) = .ok out ∧
      interpolate lookup template.render = .ok out) ↔ template.Clear := by
  constructor
  · rintro ⟨out, succeeds, _⟩
    by_contra unclear
    rw [withDefault, Template.render, Template.render, interpolate,
      no_closingBrace name unclear] at succeeds
    exact throw_ne_ok succeeds
  · intro clear
    obtain ⟨out, alone⟩ := interpolate_succeeds lookup clear
    refine ⟨out, ?_, alone⟩
    rw [withDefault, Template.render, interpolate_defaulted name clear, unset, alone,
      Template.render, interpolate]
    simp [pure, Except.pure, bind, Except.bind, Functor.map, Except.map]

def unsetVariable : Name := ⟨'V', [], rfl, by simp⟩

/-- `${V:-$$${V:-x}}` with nothing set. -/
theorem default_as_alone_nested : ∃ out, interpolate (fun _ => ([], false))
        (withDefault unsetVariable (.escape (.defaulted unsetVariable
        (.literal ⟨'x', by decide⟩ .done) .done))) = .ok out ∧
      interpolate (fun _ => ([], false))
        (Template.escape (.defaulted unsetVariable (.literal ⟨'x', by decide⟩ .done)
        .done)).render = .ok out :=
  (default_as_alone _ unsetVariable rfl _).mpr
    (by simp [Template.Clear, Template.opened, Template.render])

/-- `$${` alone stands for `${`, and as a default leaves the scanner without the `}` it looks
for. -/
theorem default_not_as_alone :
    interpolate (fun _ => ([], false)) (Template.escape (.literal ⟨'{', by decide⟩ .done)).render =
      .ok ['$', '{'] ∧ interpolate (fun _ => ([], false))
          (withDefault unsetVariable (.escape (.literal ⟨'{', by decide⟩ .done))) =
        .error "invalid interpolation \"$\x7bV:-$$\x7b\x7d\": no closing \x7d" := by
  constructor
  · simp [Template.render, interpolate, pure, Except.pure, Functor.map, Except.map]
  · simp [withDefault, unsetVariable, Template.render, Name.text, interpolate, closingBrace]
    rfl

end Dicer.Compose
