import Dicer.Concurrency.Calls
import Dicer.Token.Scope

namespace Dicer.Token

open FileStore Concurrency

/-!
# The token manager

The store's writes hold one lock each from their check to the map they change, so each is one atomic
action; so is each lookup.  The manager's calls are made of several: in particular `rotate` reads a
token, and writes it back later, under its name.

A write's file may fail, which leaves the token as it was.  What is random in the source (a
generated secret, a new ID) and the time are drawn by the caller of the model, once for each call.
-/

/-- What the store did, for stating what holds of whole runs. -/
inductive Event
  | created (token : Token)
  | wroteBack (token previous : Token)
  | deleted (token : Token)
  deriving DecidableEq, Repr

/-- The tokens in memory.  `issued` are the IDs given out so far and `log` is what was done. -/
structure World where
  tokens : Definitions Token
  issued : List String
  log : List Event

abbrev Op := Program Nat World

abbrev Call := ExceptT Err Op

export Concurrency.Calls (attempt bestEffort)

namespace World

/-- An ID that has not been given out and is nobody's name. -/
def isFresh (world : World) (id : String) : Bool :=
  id != "" && !world.issued.contains id && (world.tokens.lookup id).isNone

def logged (world : World) (event : Event) : World :=
  { world with log := event :: world.log }

end World

/-- A definition's write: it is done, or the file could not be written. -/
def written (world : World) : List (Except Err Unit × World) → List (Except Err Unit × World) :=
  fun done => done ++ [(.error (.host "write definition"), world)]

def storeToken (nameOrID : String) : Call Token :=
  Program.perform fun _ world =>
    match world.tokens.lookup nameOrID with
    | some token => [(.ok token, world)]
    | none => [(.error (.notFound ("no token " ++ quoted nameOrID)), world)]

/-- A token with that hash; the source's map has no order, so any of them. -/
def storeTokenBySecretSHA256 (secretSHA256 : String) : Call Token :=
  Program.perform fun _ world =>
    match world.tokens.items.filter (fun token => token.secretSHA256 = secretSHA256) with
    | [] => [(.error (.notFound "no token with that secret"), world)]
    | found => found.map fun token => (.ok token, world)

/-- Record a new token.  Its ID is random and in nobody's hands before it is stored, so it is fresh
then. -/
def storeCreateToken (token : Token) : Call Unit :=
  Program.perform fun _ world =>
    match Naming.validate token.name with
    | .error error => [(.error error, world)]
    | .ok _ =>
      if (world.tokens.lookup token.name).isSome then
        [(.error (.alreadyExists ("token " ++ quoted token.name ++ " already exists")), world)]
      else if !world.isFresh token.id || token.id == token.name then []
      else
        written world [(.ok (), { (world.logged (.created token)) with
          tokens := world.tokens.put token, issued := token.id :: world.issued })]

def storeUpdateToken (token : Token) : Call Unit :=
  Program.perform fun _ world =>
    match world.tokens.lookup token.name with
    | none => [(.error (.notFound ("no token " ++ quoted token.name)), world)]
    | some previous =>
      written world [(.ok (), { (world.logged (.wroteBack token previous)) with
        tokens := world.tokens.put token })]

def storeRecordTokenUse (nameOrID : String) (time : Nat) : Call Unit :=
  Program.perform fun _ world =>
    match world.tokens.lookup nameOrID with
    | none => [(.error (.notFound ("no token " ++ quoted nameOrID)), world)]
    | some token =>
      written world [(.ok (), { world with tokens := world.tokens.put { token with lastUsedAt := time } })]

def storeDeleteToken (nameOrID : String) : Call Unit :=
  Program.perform fun _ world =>
    match world.tokens.lookup nameOrID with
    | none => [(.error (.notFound ("no token " ++ quoted nameOrID)), world)]
    | some token =>
      written world [(.ok (), { (world.logged (.deleted token)) with
        tokens := world.tokens.delete token })]

/-! ## What the store answers -/

section Store

variable {thread : Nat} {world : World} {token : Token} {nameOrID : String}

theorem leads_storeToken {post : Except Err Token → World → Prop}
    (missing : ∀ error, post (.error error) world)
    (found : ∀ token, world.tokens.lookup nameOrID = some token → post (.ok token) world) :
    (storeToken nameOrID).run.Leads thread post world := by
  refine .perform ?_
  split
  · exact .one (found _ ‹_›)
  · exact .one (missing _)

theorem leads_storeTokenBySecretSHA256 {hash : String} {post : Except Err Token → World → Prop}
    (missing : ∀ error, (∀ token ∈ world.tokens.items, token.secretSHA256 ≠ hash) →
      post (.error error) world)
    (found : ∀ token ∈ world.tokens.items, token.secretSHA256 = hash → post (.ok token) world) :
    (storeTokenBySecretSHA256 hash).run.Leads thread post world := by
  refine .perform ?_
  split
  · rename_i none_
    refine .one (missing _ fun token member same => ?_)
    exact List.filter_eq_nil_iff.mp none_ token member (decide_eq_true same)
  · refine .map fun token member => ?_
    rcases List.mem_filter.mp member with ⟨isStored, isHash⟩
    exact found token isStored (of_decide_eq_true isHash)

variable {post : Except Err Unit → World → Prop} (failed : ∀ error, post (.error error) world)
include failed

theorem leads_storeCreateToken (created : world.tokens.lookup token.name = none →
      world.isFresh token.id = true → token.name ≠ token.id → post (.ok ())
      { (world.logged (.created token)) with
        tokens := world.tokens.put token, issued := token.id :: world.issued }) :
    (storeCreateToken token).run.Leads thread post world := by
  refine .perform ?_
  split
  · exact .one (failed _)
  split
  · exact .one (failed _)
  rename_i free
  split
  · exact .none
  rename_i fresh
  simp only [Bool.or_eq_true, Bool.not_eq_true', beq_iff_eq, not_or, Bool.not_eq_false] at fresh
  exact .two (created (by simpa using free) fresh.1 (.symm fresh.2)) (failed _)

/-- A write of the token with a name or an ID fails, or is done. -/
theorem leads_written {done : Token → World}
      (wrote : ∀ token, world.tokens.lookup nameOrID = some token → post (.ok ()) (done token)) :
      Answers post (match world.tokens.lookup nameOrID with
      | none => [(Except.error (Err.notFound ("no token " ++ quoted nameOrID)), world)]
      | some token => written world [(.ok (), done token)]) := by
  split
  · exact .one (failed _)
  · exact .two (wrote _ ‹_›) (failed _)

theorem leads_storeUpdateToken (updated : ∀ previous, world.tokens.lookup token.name =
      some previous → post (.ok ())
        { (world.logged (.wroteBack token previous)) with tokens := world.tokens.put token }) :
    (storeUpdateToken token).run.Leads thread post world :=
  Program.Leads.perform (leads_written failed updated)

theorem leads_storeRecordTokenUse {time : Nat}
      (recorded : ∀ token, world.tokens.lookup nameOrID = some token → post (.ok ())
      { world with tokens := world.tokens.put { token with lastUsedAt := time } }) :
    (storeRecordTokenUse nameOrID time).run.Leads thread post world :=
  Program.Leads.perform (leads_written failed recorded)

theorem leads_storeDeleteToken (deleted : ∀ token, world.tokens.lookup nameOrID = some token →
      post (.ok ()) { (world.logged (.deleted token)) with tokens := world.tokens.delete token }) :
    (storeDeleteToken nameOrID).run.Leads thread post world :=
  Program.Leads.perform (leads_written failed deleted)

end Store

/-- What one call draws: a random secret, an ID and the time. -/
structure Draw where
  secret : String
  id : String
  now : Nat
  deriving DecidableEq, Repr

section Manager

variable (sha256 : String → String) (draw : Draw)

/-- `given` if it is a valid secret no token has, or the drawn secret if it is empty. -/
def newSecret (given : String) : Call String := do
  if given = "" then return draw.secret
  match validateSecret given with
  | .error error => throw (.invalidArgument error.message)
  | .ok _ =>
    match ← attempt (storeTokenBySecretSHA256 (sha256 given)) with
    | .ok _ => throw (.alreadyExists "another token has that secret")
    | .error error => if error.is .notFound then return given else throw error

def newToken (name secret : String) (scopes : List Scope) : Token where
  id := draw.id
  name := name
  secretSHA256 := sha256 secret
  scopes := scopes
  createdAt := draw.now
  updatedAt := draw.now
  lastUsedAt := 0

def create (name secret : String) (scopes : List Scope) : Call (Token × String) := do
  let secret ← newSecret sha256 draw secret
  let token := newToken sha256 draw name secret scopes
  token.validate
  storeCreateToken token
  return (token, secret)

def withSecret (token : Token) (secret : String) : Token :=
  { token with secretSHA256 := sha256 secret, updatedAt := draw.now }

def rotate (nameOrID secret : String) : Call (Token × String) := do
  let token ← storeToken nameOrID
  let secret ← newSecret sha256 draw secret
  let token := withSecret sha256 draw token secret
  storeUpdateToken token
  return (token, secret)

def tokenBySecret (secret : String) : Call Token :=
  storeTokenBySecretSHA256 (sha256 secret)

def recordUse (nameOrID : String) (time : Nat) : Call Unit :=
  storeRecordTokenUse nameOrID time

def delete (nameOrID : String) : Call Unit :=
  storeDeleteToken nameOrID

end Manager
end Dicer.Token
