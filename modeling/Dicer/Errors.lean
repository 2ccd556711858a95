import Mathlib.Data.String.Basic

namespace Dicer

/-!
# Errors and the rule for names

The daemon sorts its errors into classes, which callers test for, and keeps the class out of the
message.  An error that wraps or joins others is in each of their classes.
-/

inductive ErrorClass
  | notFound
  | alreadyExists
  | invalidState
  | invalidArgument
  | resourceExhausted
  | unavailable
  | unauthenticated
  | permissionDenied
  deriving DecidableEq, Repr

structure Err where
  classes : List ErrorClass
  message : String
  deriving DecidableEq, Repr

namespace Err

/-- An error of the host, in no class of the daemon's. -/
def host (message : String) : Err := ⟨[], message⟩

def notFound (message : String) : Err := ⟨[.notFound], message⟩

def alreadyExists (message : String) : Err := ⟨[.alreadyExists], message⟩

def invalidState (message : String) : Err := ⟨[.invalidState], message⟩

def invalidArgument (message : String) : Err := ⟨[.invalidArgument], message⟩

def resourceExhausted (message : String) : Err := ⟨[.resourceExhausted], message⟩

def unauthenticated (message : String) : Err := ⟨[.unauthenticated], message⟩

def permissionDenied (message : String) : Err := ⟨[.permissionDenied], message⟩

def is (error : Err) (class_ : ErrorClass) : Bool := error.classes.contains class_

end Err

variable {Failure Value : Type} {result : Value}

/-- A sequence of calls succeeds if each of them does. -/
theorem bind_eq_ok {First Second : Type} {first : Except Failure First}
    {rest : First → Except Failure Second} {result : Second} :
    (first >>= rest) = .ok result ↔ ∃ value, first = .ok value ∧ rest value = .ok result := by
  cases first with
  | error | ok => simp [bind, Except.bind]

@[simp] theorem pure_eq_ok {value : Value} : (pure value : Except Failure Value) = .ok result ↔
    value = result := by
  simp [pure, Except.pure]

@[simp] theorem throw_ne_ok {failure : Failure} :
    (throw failure : Except Failure Value) ≠ .ok result := by
  simp [throw, throwThe, MonadExceptOf.throw]

/-- A chain of refusals is passed if none of them applies. -/
theorem ite_throw_eq_ok {refused : Prop} [Decidable refused] {failure : Failure}
    {rest : Except Failure Value} : (if refused then throw failure else rest) = .ok result ↔
    ¬ refused ∧ rest = .ok result := by
  by_cases applies : refused <;> simp [applies]

/-- A call that can be evaluated shows what it returns. -/
theorem exists_ok_of_any (shows : Value → Prop) [DecidablePred shows] (call : Except Failure Value)
    (shown : call.toOption.any (fun value => decide (shows value)) = true) :
    ∃ value, call = .ok value ∧ shows value := by
  cases call with
  | error => simp [Except.toOption] at shown
  | ok value => exact ⟨value, rfl, by simpa [Except.toOption] using shown⟩

/-- A text as the daemon's messages quote it. -/
def quoted (text : String) : String := "\"" ++ text ++ "\""

namespace Naming

def isAlphanumeric (c : Char) : Bool :=
  ('a' ≤ c && c ≤ 'z') || ('A' ≤ c && c ≤ 'Z') || ('0' ≤ c && c ≤ '9')

/-- One dot-separated part of a name: letters, digits and hyphens, at most 63 of them, with a letter
or digit at both ends. -/
def isLabel (label : List Char) : Bool :=
  label.length ≤ 63 && label.all (fun c => isAlphanumeric c || c == '-') &&
    label.head?.any isAlphanumeric && label.getLast?.any isAlphanumeric

def matchesPattern (name : String) : Bool :=
  (name.toList.splitOn '.').all isLabel

def maxNameLength : Nat := 253

def nameRule : String :=
  "use letters, digits and hyphens, in dot-separated parts that each start and end with a letter or digit"

def validate (name : String) : Except Err Unit :=
  if maxNameLength < name.utf8ByteSize || !matchesPattern name then
    throw (.invalidArgument ("invalid name " ++ quoted name ++ ": " ++ nameRule))
  else pure ()

def validateHostname (hostname : String) : Except Err Unit :=
  if hostname = "" then pure ()
  else if maxNameLength < hostname.utf8ByteSize then
    throw (.invalidArgument ("invalid hostname " ++ quoted hostname ++ ": it exceeds " ++
      toString maxNameLength ++ " characters"))
  else if !matchesPattern hostname then
    throw (.invalidArgument ("invalid hostname " ++ quoted hostname ++ ": " ++ nameRule))
  else pure ()

example : (validate "vmlinux-6.1").toBool = true := by decide +kernel

end Naming
end Dicer
