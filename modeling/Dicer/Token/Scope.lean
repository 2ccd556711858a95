import Dicer.Errors
import Dicer.FileStore.Definitions

namespace Dicer

open FileStore

/-!
# Tokens and what they allow

A scope is a text, `*` or `RESOURCE:ACTION`, and a token's scopes are a list of them.  The rule that
a write scope allows reading is applied to the texts, so the order it makes is proved here for
arbitrary texts and not only for the scopes a stored token can have.
-/

abbrev Scope := String

/-- A token as the daemon stores it.  Times count from the zero time, which `lastUsedAt` has until
the first use. -/
structure Token where
  id : String
  name : String
  secretSHA256 : String
  scopes : List Scope
  createdAt : Nat
  updatedAt : Nat
  lastUsedAt : Nat
  deriving DecidableEq, Repr, Inhabited

instance : Named Token where
  name := Token.name
  id := Token.id

namespace Token

def scopeAll : Scope := "*"

def resourceScopes : List Scope :=
  ["instances:read", "instances:write", "snapshots:read", "snapshots:write", "networks:read",
    "networks:write", "volumes:read", "volumes:write", "images:read", "images:write",
    "kernels:read",
    "kernels:write", "tokens:read", "tokens:write", "events:read"]

def scopeTokensRead : Scope := "tokens:read"

def scopeTokensWrite : Scope := "tokens:write"

def validateScope (scope : Scope) : Except Err Unit :=
  if scope == scopeAll || resourceScopes.contains scope then pure ()
  else throw (.invalidArgument ("invalid scope " ++ quoted scope ++ ": want " ++ scopeAll ++
    ", or one of " ++ ", ".intercalate resourceScopes))

@[simp] theorem named_name (token : Token) : Named.name token = token.name := rfl

/-- What is left of a text when a suffix it ends in is cut off. -/
def cutSuffix (text suffix : String) : Option String :=
  if suffix.toList <:+ text.toList then
    some (String.ofList (text.toList.take (text.toList.length - suffix.toList.length)))
  else none

def allows (scopes : List Scope) (scope : Scope) : Bool :=
  if scopes.contains scopeAll || scopes.contains scope then true
  else
    match cutSuffix scope ":read" with
    | some resource => scopes.contains (resource ++ ":write")
    | none => false

def allowsAll (scopes wanted : List Scope) : Bool :=
  wanted.all (allows scopes)

variable {scopes : List Scope}

theorem allows_iff {scope : Scope} : allows scopes scope = true ↔ scopeAll ∈ scopes ∨
        scope ∈ scopes ∨ ∃ resource, cutSuffix scope ":read" = some resource ∧ resource ++
        ":write" ∈ scopes := by
  unfold allows
  cases cut : cutSuffix scope ":read" <;> by_cases all : scopeAll ∈ scopes <;>
    by_cases listed : scope ∈ scopes <;> simp [all, listed]

/-- A write scope is no read scope, whatever its resource is called, so the write-allows-read rule
applies at most once along a chain. -/
theorem cutSuffix_write (resource : String) : cutSuffix (resource ++ ":write") ":read" = none := by
  have notSuffix : ¬ ":read".toList <:+ (resource ++ ":write").toList := by
    intro readSuffix
    have writeSuffix : "write".toList <:+ (resource ++ ":write").toList := by
      rw [String.toList_append]
      exact .trans (by decide) (List.suffix_append _ _)
    have shorter := List.suffix_of_suffix_length_le readSuffix writeSuffix (by decide)
    exact absurd shorter (by decide)
  exact if_neg notSuffix

theorem cutSuffix_scopeAll : cutSuffix scopeAll ":read" = none := by
  decide

theorem allows_scopeAll (allowed : allows scopes scopeAll = true) : scopeAll ∈ scopes := by
  rcases allows_iff.mp allowed with all | all | ⟨resource, cut, _⟩
  · exact all
  · exact all
  · simp [cutSuffix_scopeAll] at cut

theorem allows_write {resource : String} (allowed : allows scopes (resource ++ ":write") = true) :
    scopeAll ∈ scopes ∨ resource ++ ":write" ∈ scopes := by
  rcases allows_iff.mp allowed with all | listed | ⟨other, cut, _⟩
  · exact .inl all
  · exact .inr listed
  · simp [cutSuffix_write] at cut

theorem allowsAll_iff {wanted : List Scope} :
    allowsAll scopes wanted = true ↔ ∀ scope ∈ wanted, allows scopes scope = true := by
  simp [allowsAll]

/-- A token that allows all of another's scopes allows everything the other allows. -/
theorem allows_of_allowsAll {wanted : List Scope} {scope : Scope}
    (all : allowsAll scopes wanted = true) (allowed : allows wanted scope = true) :
    allows scopes scope = true := by
  have each := allowsAll_iff.mp all
  rcases allows_iff.mp allowed with everything | listed | ⟨resource, cut, written⟩
  · exact allows_iff.mpr (.inl (allows_scopeAll (each _ everything)))
  · exact each _ listed
  rcases allows_write (each _ written) with everything | listed
  · exact allows_iff.mpr (.inl everything)
  · exact allows_iff.mpr (.inr (.inr ⟨resource, cut, listed⟩))

theorem allowsAll_trans {first second third : List Scope} (upper : allowsAll first second = true)
    (lower : allowsAll second third = true) : allowsAll first third = true := by
  apply allowsAll_iff.mpr
  intro scope member
  exact allows_of_allowsAll upper (allowsAll_iff.mp lower scope member)

def isHexDigit (c : Char) : Bool :=
  ('0' ≤ c && c ≤ '9') || ('a' ≤ c && c ≤ 'f') || ('A' ≤ c && c ≤ 'F')

def isSHA256Hex (text : String) : Bool :=
  text.length == 64 && text.toList.all isHexDigit

/-- The checks on a token's scopes, one after another as they are listed; `earlier` are those
before. -/
def validateScopes (earlier : List Scope) : List Scope → Except Err Unit
  | [] => pure ()
  | scope :: rest => do
    validateScope scope
    if earlier.contains scope then
      throw (.invalidArgument ("scope " ++ quoted scope ++ " is given twice"))
    validateScopes (earlier ++ [scope]) rest

def validate (token : Token) : Except Err Unit := do
  Naming.validate token.name
  if !isSHA256Hex token.secretSHA256 then
    throw (.invalidArgument ("token " ++ quoted token.name ++ " has no secret's SHA-256"))
  if token.scopes.isEmpty then
    throw (.invalidArgument ("a token needs at least one scope: " ++ scopeAll ++ " for everything"))
  validateScopes [] token.scopes
  if 1 < token.scopes.length && token.scopes.contains scopeAll then
    throw (.invalidArgument ("scope " ++ scopeAll ++ " allows everything already: give it alone"))

def minSecretLength : Nat := 32

def validateSecret (secret : String) : Except Err Unit :=
  if secret.utf8ByteSize < minSecretLength then
    throw (.host ("invalid token: the secret has " ++ toString secret.utf8ByteSize ++
      " characters, fewer than " ++ toString minSecretLength))
  else
    match secret.toList.find? (fun c => !Naming.isAlphanumeric c) with
    | some c => throw (.host ("invalid token: the secret holds '" ++ c.toString ++
        "': want only letters and digits"))
    | none => pure ()

end Token
end Dicer
