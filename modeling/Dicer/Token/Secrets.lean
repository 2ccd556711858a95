import Dicer.Concurrency.Beside
import Dicer.Token.Revocation

namespace Dicer.Token

open FileStore Concurrency
open Program (Ensures)

/-!
# One token for a secret

A secret that a caller gives is looked up before the token with it is written, in two actions.  Two
calls that are given one secret at the same time both find that no token has it, and both write a
token with it.  Calls that are under way at one time and have different secrets do not come in each
other's way.

Which calls are under way is recorded beside the tokens, with the hash of the secret each is given
or has drawn.  A drawn secret is one that no token has.
-/

/-- The tokens, and the thread and the hash of each call under way. -/
abbrev Ledger := World × List (Nat × String)

/-- Whether a call draws its secret, and the secret. -/
def Request.secret : Request → Option (Bool × String)
  | .create draw _ given _ | .rotate draw _ given =>
    some (given = "", if given = "" then draw.secret else given)
  | .delete _ | .recordUse _ _ => none

def hasSecret (tokens : Definitions Token) (hash : String) : Bool :=
  tokens.items.any fun token => token.secretSHA256 = hash

def begins (drawn : Bool) (hash : String) : Program Nat Ledger Unit :=
  Program.perform fun thread ledger =>
    if drawn && hasSecret ledger.1.tokens hash then []
    else [((), (ledger.1, (thread, hash) :: ledger.2))]

def finishes : Program Nat Ledger Unit :=
  Program.perform fun thread ledger =>
    [((), (ledger.1, ledger.2.filter fun entry => entry.1 ≠ thread))]

/-- Any number of calls that create and rotate tokens. -/
def issuing (sha256 : String → String) : System Nat Ledger Request Empty where
  program := fun request => do
    match request.secret with
    | some (drawn, secret) =>
      begins drawn (sha256 secret)
      ((system sha256).program request).beside (List (Nat × String))
      finishes
    | none => return ()
  admits := fun request _ => request.secret.isSome
  event := fun event _ => nomatch event
  crash := fun _ => none

/-- The calls under way have secrets of different hashes. -/
def SecretsApart (ledger : Ledger) : Prop := (ledger.2.map Prod.snd).Nodup

instance : DecidablePred SecretsApart :=
    fun ledger => inferInstanceAs (Decidable (ledger.2.map Prod.snd).Nodup)

/-- No two tokens have one secret. -/
def SecretsDistinct (tokens : Definitions Token) : Prop :=
  ∀ first ∈ tokens.items, ∀ second ∈ tokens.items, first.secretSHA256 = second.secretSHA256 →
    first = second

/-! ## What a call may do -/

def Unheld (tokens : Definitions Token) (hash : String) : Prop := ∀ token ∈ tokens.items,
    token.secretSHA256 ≠ hash

variable {tokens : Definitions Token} {hash : String}

theorem unheld_of_hasSecret (none_ : hasSecret tokens hash = false) : Unheld tokens hash := by
  intro token member same
  have found : hasSecret tokens hash = true :=
    List.any_eq_true.mpr ⟨token, member, decide_eq_true same⟩
  exact absurd (none_.symm.trans found) (by decide)

namespace Issuing

structure Sane (ledger : Ledger) : Prop where
  coherent : ledger.1.tokens.Coherent
  distinct : SecretsDistinct ledger.1.tokens
  apart : SecretsApart ledger

inductive Moved (thread : Nat) (ledger : Ledger) : Ledger → Prop
  | began (hash : String) : Moved thread ledger (ledger.1, (thread, hash) :: ledger.2)
  | created (token : Token) (mine : (thread, token.secretSHA256) ∈ ledger.2)
      (unheld : Unheld ledger.1.tokens token.secretSHA256)
      (free : ledger.1.tokens.lookup token.name = none)
      (fresh : ledger.1.isFresh token.id = true) (ownName : token.name ≠ token.id) :
      Moved thread ledger ({ (ledger.1.logged (.created token)) with
        tokens := ledger.1.tokens.put token, issued := token.id :: ledger.1.issued }, ledger.2)
  | wroteBack (token previous : Token) (mine : (thread, token.secretSHA256) ∈ ledger.2)
      (unheld : Unheld ledger.1.tokens token.secretSHA256)
      (member : previous ∈ ledger.1.tokens.items)
      (sameName : token.name = previous.name) (sameID : token.id = previous.id) :
      Moved thread ledger ({ (ledger.1.logged (.wroteBack token previous)) with
        tokens := ledger.1.tokens.put token }, ledger.2)
  | finished : Moved thread ledger (ledger.1, ledger.2.filter fun entry => entry.1 ≠ thread)

variable {before after ledger : Ledger} {thread other : Nat} {token : Token}

theorem distinct_put (distinct : SecretsDistinct tokens) (unheld : Unheld tokens token.secretSHA256)
    : SecretsDistinct (tokens.put token) := by
  refine Definitions.forall_mem_put (Definitions.forall_mem_put (fun _ => rfl)
    fun second old _ same => ?_) fun first old _ => Definitions.forall_mem_put (fun same => ?_)
        fun second secondOld _ =>
      distinct first old second secondOld
  · exact absurd same.symm (unheld second old)
  · exact absurd same (unheld first old)

theorem Moved.sane (moved : Moved thread before after) (sane : Sane before)
    (apart : SecretsApart after) : Sane after := by
  cases moved with
  | began | finished => exact ⟨sane.coherent, sane.distinct, apart⟩
  | created token mine unheld free fresh ownName =>
    simp only [World.isFresh, Bool.and_eq_true, bne_iff_ne, Option.isNone_iff_eq_none] at fresh
    exact ⟨sane.coherent.create fresh.1.1 ownName free fresh.2, distinct_put sane.distinct unheld,
      apart⟩
  | wroteBack token previous mine unheld member sameName sameID =>
    exact ⟨sane.coherent.replace member sameName sameID, distinct_put sane.distinct unheld, apart⟩

/-- The hash of the call, whether it is known that no token has it, and the token that was read. -/
structure Place where
  hash : String
  unheld : Bool
  read : Option Token

structure Place.Knows (place : Place) (thread : Nat) (ledger : Ledger) : Prop where
  mine : (thread, place.hash) ∈ ledger.2
  unheld : place.unheld = true → Unheld ledger.1.tokens place.hash
  read : ∀ token ∈ place.read, ∃ current ∈ ledger.1.tokens.items, token.name = current.name ∧
    token.id = current.id

variable {place : Place}

/-- The secret of another call under way is another one. -/
theorem Place.Knows.ne_of_other (knows : place.Knows thread ledger) (sane : Sane ledger)
    (different : other ≠ thread) (theirs : (other, hash) ∈ ledger.2) : hash ≠ place.hash := by
  intro same
  have entry := List.inj_on_of_nodup_map sane.apart theirs knows.mine same
  exact different (Prod.mk.inj entry).1

theorem unheld_put (unheld : Unheld tokens hash) (different : token.secretSHA256 ≠ hash)
    : Unheld (tokens.put token) hash := by
  exact Definitions.forall_mem_put different fun held old _ => unheld held old

theorem still_read {read : Token} (replaces : ∀ old ∈ tokens.items, old.name = token.name →
    old.id = token.id) (known : ∃ current ∈ tokens.items, read.name = current.name ∧
    read.id = current.id) :
    ∃ current ∈ (tokens.put token).items, read.name = current.name ∧ read.id = current.id := by
  rcases known with ⟨current, member, sameName, sameID⟩
  by_cases same : current.name = token.name
  · exact ⟨token, Definitions.mem_put.mpr (.inl rfl), sameName.trans same,
      sameID.trans (replaces current member same)⟩
  · exact ⟨current, Definitions.mem_put.mpr (.inr ⟨member, same⟩), sameName, sameID⟩

theorem Moved.knows (sane : Sane before) (different : other ≠ thread)
    (moved : Moved other before after) (knows : place.Knows thread before) :
    place.Knows thread after := by
  cases moved with
  | began => exact { knows with mine := List.mem_cons_of_mem _ knows.mine }
  | created token mine unheld free =>
    refine { knows with unheld := ?_, read := ?_ }
    · intro isUnheld
      exact unheld_put (knows.unheld isUnheld) (knows.ne_of_other sane different mine)
    intro read isRead
    refine still_read ?_ (knows.read read isRead)
    intro old member sameName
    exact absurd sameName (sane.coherent.lookup_eq_none.mp free old member).1
  | wroteBack token previous mine unheld member sameName sameID =>
    refine { knows with unheld := ?_, read := ?_ }
    · intro isUnheld
      exact unheld_put (knows.unheld isUnheld) (knows.ne_of_other sane different mine)
    intro read isRead
    refine still_read ?_ (knows.read read isRead)
    intro old isOld oldName
    rw [sane.coherent.eq_of_name isOld member (oldName.trans sameName), sameID]
  | finished =>
    refine { knows with mine := List.mem_filter.mpr ⟨knows.mine, ?_⟩ }
    exact decide_eq_true different.symm

def contract : Contract Nat Ledger where
  keeps := Sane
  may := Moved
  outside := fun _ _ => False
  idle := fun _ _ => True
  meets := fun _ after => SecretsApart after

/-- A call knows nothing before it is under way. -/
def ownPlace (thread : Nat) : Knowledge contract thread (Option Place) where
  knows := fun known ledger => ∀ place ∈ known, place.Knows thread ledger
  stable := by
    rintro known first second ⟨sane, _, _, impossible | ⟨other, different, moved⟩⟩ knows
    · exact impossible.elim
    · exact fun place isPlace => moved.knows sane different (knows place isPlace)

/-! ## The calls -/

abbrev During {Value : Type} (thread : Nat) (program : Program Nat Ledger Value)
    (post : Value → Option Place → Prop) (known : Option Place) : Prop :=
  program.Ensures (ownPlace thread) post known

/-- A call of the store or the manager, beside what is recorded of the calls under way. -/
abbrev Calls {Value : Type} (thread : Nat) (call : Call Value)
    (post : Except Err Value → Option Place → Prop) (known : Option Place) : Prop :=
  During thread (call.run.beside (List (Nat × String))) post known

theorem nothingKnown : (ownPlace thread).knows none ledger := by
  intro place impossible
  exact absurd impossible (Option.not_mem_none place)

theorem begins_during {drawn : Bool} {post : Unit → Option Place → Prop}
    (done : post () (some ⟨hash, drawn, none⟩)) : During thread (begins drawn hash) post none := by
  refine Ensures.perform fun now sane _ => ?_
  split
  · exact .none
  rename_i fresh
  refine .one fun _ => ⟨.inr (.began hash), fun _ => ⟨_, ?_, done⟩⟩
  intro place isPlace
  cases isPlace
  refine ⟨List.mem_cons_self, ?_, nofun⟩
  intro isDrawn
  apply unheld_of_hasSecret
  simpa [show drawn = true from isDrawn] using fresh

theorem finishes_during {known : Option Place} : During thread finishes (fun _ _ => True) known :=
  Ensures.perform fun _ _ _ => .one fun _ =>
    ⟨.inr .finished, fun _ => ⟨none, nothingKnown, trivial⟩⟩

variable {Value : Type} {action : Nat → World → List (Except Err Value × World)} {nameOrID : String}
  {post : Except Err Token → Option Place → Prop}

theorem looks {post : Except Err Value → Option Place → Prop}
    (seen : ∀ now record, Sane (now, record) → place.Knows thread (now, record) →
      (Program.perform action).Leads thread (fun answer after => after = now ∧
        ∃ later : Place, later.Knows thread (now, record) ∧ post answer (some later)) now) :
    During thread ((Program.perform action).beside (List (Nat × String))) post (some place) := by
  apply Ensures.besidePerform
  intro now record sane knows answer after answered
  rcases (seen now record sane (knows place rfl)).answers answered
    with ⟨rfl, later, knowsLater, holds⟩
  exact ⟨.inl rfl, some later, fun _ isLater => Option.some.inj isLater ▸ knowsLater, holds⟩

theorem writes (moves : ∀ now record, Sane (now, record) → place.Knows thread (now, record) →
      (Program.perform action).Leads thread
        (fun _ after => (after, record) = (now, record) ∨ Moved thread (now, record)
        (after, record)) now) :
    During thread ((Program.perform action).beside (List (Nat × String))) (fun _ _ => True)
    (some place) := by
  apply Ensures.besidePerform
  intro now record sane knows answer after answered
  exact ⟨(moves now record sane (knows place rfl)).answers answered, none, nothingKnown, trivial⟩

theorem storeToken_calls (found : ∀ token, post (.ok token)
    (some { place with read := some token }))
    (missing : ∀ error, post (.error error) (some place)) :
    Calls thread (storeToken nameOrID) post (some place) := by
  refine looks fun now record sane knows =>
    leads_storeToken (fun error => ⟨rfl, place, knows, missing error⟩) ?_
  intro token isFound
  refine ⟨rfl, { place with read := some token }, { knows with read := fun read isRead => ?_ },
    found token⟩
  cases isRead
  exact ⟨token, (sane.coherent.lookup_eq_some.mp isFound).1, rfl, rfl⟩

theorem storeTokenBySecretSHA256_calls (found : ∀ token, post (.ok token) (some place))
    (missing : ∀ error, post (.error error) (some { place with unheld := true })) :
    Calls thread (storeTokenBySecretSHA256 place.hash) post (some place) := by
  refine looks fun now record sane knows => leads_storeTokenBySecretSHA256 (fun error none_ => ?_)
    fun token _ _ => ?_
  · exact ⟨rfl, { place with unheld := true }, { knows with unheld := fun _ => none_ },
      missing error⟩
  · exact ⟨rfl, place, knows, found token⟩

theorem storeCreateToken_calls (own : token.secretSHA256 = place.hash)
    (unheld : place.unheld = true) : Calls thread (storeCreateToken token) (fun _ _ => True)
    (some place) := by
  refine writes fun now record sane knows => leads_storeCreateToken (fun _ => .inl rfl)
    fun free fresh ownName => ?_
  have isUnheld := knows.unheld unheld
  have mine := knows.mine
  rw [← own] at isUnheld mine
  exact .inr (.created token mine isUnheld free fresh ownName)

theorem storeUpdateToken_calls (read : Token) (own : token.secretSHA256 = place.hash)
    (unheld : place.unheld = true) (isRead : place.read = some read)
    (sameName : token.name = read.name) (sameID : token.id = read.id) :
    Calls thread (storeUpdateToken token) (fun _ _ => True) (some place) := by
  refine writes fun now record sane knows => leads_storeUpdateToken (fun _ => .inl rfl)
    fun previous found => ?_
  -- The token that was read is still there, with its name and ID.
  rcases knows.read read isRead with ⟨current, member, currentName, currentID⟩
  have isCurrent : now.tokens.lookup token.name = some current :=
    sane.coherent.lookup_eq_some.mpr ⟨member, .inl (sameName.trans currentName).symm⟩
  obtain rfl := Option.some.inj (isCurrent.symm.trans found)
  have isUnheld := knows.unheld unheld
  have mine := knows.mine
  rw [← own] at isUnheld mine
  exact .inr (.wroteBack token current mine isUnheld member (sameName.trans currentName)
    (sameID.trans currentID))

variable {sha256 : String → String} {draw : Draw} {given : String}

theorem newSecret_calls {post : Except Err String → Option Place → Prop}
    (isHash : place.hash = sha256 (if given = "" then draw.secret else given))
    (isDrawn : place.unheld = decide (given = ""))
    (chosen : ∀ secret, sha256 secret = place.hash → post (.ok secret)
      (some { place with unheld := true }))
    (refused : ∀ error later, post (.error error) later) :
    Calls thread (newSecret sha256 draw given) post (some place) := by
  unfold newSecret
  split
  · rename_i isEmpty
    have same : place = { place with unheld := true } := by
      rw [isEmpty, decide_eq_true rfl] at isDrawn
      rw [← isDrawn]
    rw [same]
    exact .done (chosen _ (by rw [isHash, if_pos isEmpty]))
  · rename_i isGiven
    rw [if_neg isGiven] at isHash
    split
    · exact .done (refused _ _)
    apply Ensures.besideBindExcept
    apply Ensures.besideBind
    rw [← isHash]
    apply storeTokenBySecretSHA256_calls
    · intro token
      exact .done (.done (refused _ _))
    intro error
    refine .done ?_
    dsimp only
    split
    · exact .done (chosen given isHash.symm)
    · exact .done (refused _ _)

theorem create_calls {name : String} {scopes : List Scope}
    (isHash : place.hash = sha256 (if given = "" then draw.secret else given))
    (isDrawn : place.unheld = decide (given = "")) :
    Calls thread (create sha256 draw name given scopes) (fun _ _ => True) (some place) := by
  apply Ensures.besideBindExcept
  refine newSecret_calls isHash isDrawn ?_ fun _ _ => trivial
  intro secret own
  apply Ensures.besideBindExcept
  cases validated : (newToken sha256 draw name secret scopes).validate with
  | error => exact Ensures.done trivial
  | ok =>
    refine .done ?_
    apply Ensures.besideBindExcept
    refine (storeCreateToken_calls own rfl).mono ?_
    intro result later _
    cases result with
    | ok => exact Ensures.done trivial
    | error => trivial

theorem rotate_calls (isHash : place.hash = sha256 (if given = "" then draw.secret else given))
    (isDrawn : place.unheld = decide (given = "")) :
    Calls thread (rotate sha256 draw nameOrID given) (fun _ _ => True) (some place) := by
  apply Ensures.besideBindExcept
  refine storeToken_calls ?_ fun _ => trivial
  intro token
  apply Ensures.besideBindExcept
  refine newSecret_calls isHash isDrawn ?_ fun _ _ => trivial
  intro secret own
  apply Ensures.besideBindExcept
  have updates : Calls thread (storeUpdateToken (withSecret sha256 draw token secret))
      (fun _ _ => True) (some ⟨place.hash, true, some token⟩) :=
      storeUpdateToken_calls token own rfl rfl rfl rfl
  refine updates.mono ?_
  intro result later _
  cases result with
  | ok => exact Ensures.done trivial
  | error => trivial

theorem sends {call : Call Value} (calls : Calls thread call (fun _ _ => True) (some place)) :
    During thread (do
      (bestEffort call).beside (List (Nat × String))
      finishes) (fun _ _ => True) (some place) := by
  apply Ensures.bind
  apply Ensures.besideBind
  refine calls.mono ?_
  intro _ later _
  exact .done finishes_during

theorem contract_holds (sha256 : String → String) : contract.Holds (issuing sha256) where
  mayKeeps := fun _ _ _ sane apart moved => moved.sane sane apart
  happens := fun event => nomatch event
  crashes := by simp [issuing]
  serves := by
    intro request thread ledger sane _ admitted
    have begun {drawn : Bool} {secret : String} {Value : Type} {call : Call Value}
        (calls : Calls thread call (fun _ _ => True) (some ⟨sha256 secret, drawn, none⟩)) :
        During thread (do
          begins drawn (sha256 secret)
          (bestEffort call).beside (List (Nat × String))
          finishes) (fun _ _ => True) none := by
      apply Ensures.bind
      exact begins_during (sends calls)
    have served : During thread ((issuing sha256).program request) (fun _ _ => True) none := by
      cases request with
      | create => exact begun (create_calls rfl rfl)
      | rotate => exact begun (rotate_calls rfl rfl)
      | delete | recordUse => exact nomatch admitted
    exact (served ledger sane nothingKnown).mono sane fun _ _ _ _ => trivial

end Issuing

/-- No two tokens ever have one secret, in a run in which the calls under way at one time have
different ones, and a secret authenticates one token. -/
theorem secrets_distinct (sha256 : String → String) {tokens : Definitions Token}
    (coherent : tokens.Coherent) (distinct : SecretsDistinct tokens) {pool : Pool Nat Ledger}
    (reached : (issuing sha256).Reaches (fun _ after => SecretsApart after)
      (World.load tokens, []) pool) :
    SecretsDistinct pool.world.1.tokens ∧
      ∀ secret first second after later, (.ok first, after) ∈
        (tokenBySecret sha256 secret).run.outcomes 0 pool.world.1 →
        (.ok second, later) ∈ (tokenBySecret sha256 secret).run.outcomes 0 pool.world.1 →
        first = second := by
  have sane : Issuing.Sane (World.load tokens, []) := ⟨coherent, distinct, List.nodup_nil⟩
  have stillDistinct := ((Issuing.contract_holds sha256).reaches sane (fun _ => trivial)
    reached).kept.distinct
  refine ⟨stillDistinct, ?_⟩
  intro secret first second after later foundFirst foundSecond
  rcases mem_tokenBySecret foundFirst with ⟨firstMember, firstSecret⟩
  rcases mem_tokenBySecret foundSecond with ⟨secondMember, secondSecret⟩
  exact stillDistinct first firstMember second secondMember (firstSecret.trans secondSecret.symm)

def otherSecret : String := "bcdefghijklmnopqrstuvwxyz0123456"

/-- One client creates a token and rotates it while another creates one, with secrets of their
own. -/
def createAndRotate : List (Choice Nat Request Empty) :=
  [.spawn 0 (.create ⟨"", "t", 1⟩ "ci" sharedSecret [scopeAll]), .act 0 0, .act 0 0, .act 0 0,
    .act 0 0, .spawn 1 (.rotate ⟨"", "u", 2⟩ "ci" (sharedSecret ++ "6")), .act 1 0, .act 1 0,
    .spawn 2 (.create ⟨"", "v", 3⟩ "deploy" otherSecret [scopeAll]), .act 2 0, .act 2 0, .act 1 0,
    .act 2 0, .act 1 0, .act 1 0, .act 2 0]

theorem secrets_distinct_rotated :
    ∃ pool, (issuing hexOf).Reaches (fun _ after => SecretsApart after)
      (World.load .empty, []) pool ∧ pool.world.1.tokens.items.map Token.secretSHA256 =
      [hexOf (sharedSecret ++ "6"), hexOf otherSecret] ∧
      SecretsDistinct pool.world.1.tokens := by
  have none_ : SecretsDistinct (.empty : Definitions Token) := fun first impossible =>
    nomatch impossible
  exact (issuing hexOf).known_of_schedule createAndRotate (by decide +kernel) fun reached _ =>
    (secrets_distinct hexOf Definitions.coherent_empty none_ reached).1

/-- Two clients are given one secret, and each looks for it before either has written its token. -/
def createTwice : List (Choice Nat Request Empty) :=
  [.spawn 0 (.create ⟨"", "t", 1⟩ "ci" sharedSecret [scopeAll]), .act 0 0, .act 0 0,
    .spawn 1 (.create ⟨"", "u", 2⟩ "deploy" sharedSecret [scopeAll]), .act 1 0, .act 1 0, .act 0 0,
    .act 1 0]

/-- Two tokens come to have one secret. -/
theorem secrets_shared : ∃ pool, (issuing hexOf).Reaches (fun _ _ => True)
      (World.load .empty, []) pool ∧ ¬ SecretsDistinct pool.world.1.tokens := by
  rcases (issuing hexOf).reaches_of_schedule (fun _ _ => True) (World.load .empty, [])
    (fun ledger => ledger.1.tokens.items = [secondToken, firstToken]) createTwice
        (by decide +kernel) with
    ⟨pool, reached, stored⟩
  refine ⟨pool, reached, fun distinct => ?_⟩
  rw [SecretsDistinct, stored] at distinct
  have same := distinct secondToken List.mem_cons_self firstToken
    (List.mem_cons_of_mem _ List.mem_cons_self) rfl
  exact absurd (congrArg Token.id same) (by decide +kernel)

end Dicer.Token
