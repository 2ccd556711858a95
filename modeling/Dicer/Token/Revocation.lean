import Dicer.Token.Manager

namespace Dicer.Token

open FileStore Concurrency

/-!
# Revoking a token

Any number of clients create, rotate, delete and use tokens at once.  A deleted token's ID never
comes back, provided that no rotation writes its token back over another: `rotate` reads a token and
later writes it back under its name, where a deletion and a creation may have put another token
meanwhile.

A deleted token's secret is another matter.  Only the secrets of the tokens there are now are
refused to a new one, so the secret of a deleted token may be given to a new token, and then
authenticates it.
-/

/-- A call on the manager, with what it draws. -/
inductive Request
  | create (draw : Draw) (name secret : String) (scopes : List Scope)
  | rotate (draw : Draw) (nameOrID secret : String)
  | delete (nameOrID : String)
  | recordUse (nameOrID : String) (time : Nat)

def system (sha256 : String → String) : System Nat World Request Empty where
  program := fun
    | .create draw name secret scopes => bestEffort (create sha256 draw name secret scopes)
    | .rotate draw nameOrID secret => bestEffort (rotate sha256 draw nameOrID secret)
    | .delete nameOrID => bestEffort (delete nameOrID)
    | .recordUse nameOrID time => bestEffort (recordUse nameOrID time)
  admits := fun _ _ => true
  event := fun event _ => nomatch event
  crash := fun _ => none

/-- The world of a daemon that has loaded its tokens. -/
def World.load (tokens : Definitions Token) : World where
  tokens := tokens
  issued := tokens.items.map Token.id
  log := tokens.items.map .created

/-- A secret with this hash was the token's at some time. -/
def EverSecret (log : List Event) (id secretSHA256 : String) : Prop :=
  ∃ token : Token, (.created token ∈ log ∨ ∃ previous, .wroteBack token previous ∈ log) ∧
    token.id = id ∧ token.secretSHA256 = secretSHA256

/-- A rotation that wrote its token back over that same token, and not over another of its name. -/
def Event.wroteBackWhatItRead : Event → Bool
  | .wroteBack token previous => previous.id = token.id
  | _ => true

abbrev WritesBackWhatItRead (_ after : World) : Prop :=
  ∀ event ∈ after.log, event.wroteBackWhatItRead = true

/-- A change of the tokens, with what the store checked before it. -/
inductive Moved (world : World) : World → Prop
  | created (token : Token) (free : world.tokens.lookup token.name = none)
      (fresh : world.isFresh token.id = true) (ownName : token.name ≠ token.id) :
      Moved world { (world.logged (.created token)) with
        tokens := world.tokens.put token, issued := token.id :: world.issued }
  | wroteBack (token previous : Token) (ownName : token.name ≠ token.id)
      (found : world.tokens.lookup token.name = some previous) :
      Moved world { (world.logged (.wroteBack token previous)) with tokens := world.tokens.put token }
  | used (token : Token) (time : Nat) (member : token ∈ world.tokens.items) :
      Moved world { world with tokens := world.tokens.put { token with lastUsedAt := time } }
  | deleted (token : Token) (member : token ∈ world.tokens.items) :
      Moved world { (world.logged (.deleted token)) with tokens := world.tokens.delete token }

/-- The tokens are in step with their IDs, every secret is one its token was given, and what is
deleted is gone. -/
structure Sane (world : World) : Prop where
  coherent : world.tokens.Coherent
  issued : ∀ token ∈ world.tokens.items, token.id ∈ world.issued
  deletedIssued : ∀ token, .deleted token ∈ world.log → token.id ∈ world.issued
  gone : ∀ token, .deleted token ∈ world.log → ∀ other ∈ world.tokens.items, other.id ≠ token.id
  given : ∀ token ∈ world.tokens.items, EverSecret world.log token.id token.secretSHA256

theorem EverSecret.later {log : List Event} {id secretSHA256 : String} (event : Event)
    (ever : EverSecret log id secretSHA256) : EverSecret (event :: log) id secretSHA256 := by
  rcases ever with ⟨token, created | ⟨previous, wroteBack⟩, sameID, sameSecret⟩
  · exact ⟨token, .inl (List.mem_cons_of_mem _ created), sameID, sameSecret⟩
  · exact ⟨token, .inr ⟨previous, List.mem_cons_of_mem _ wroteBack⟩, sameID, sameSecret⟩

theorem sane_load {tokens : Definitions Token} (coherent : tokens.Coherent) :
    Sane (World.load tokens) where
  coherent := coherent
  issued := fun _ member => List.mem_map_of_mem member
  deletedIssued := by simp [World.load]
  gone := by simp [World.load]
  given := fun token member => ⟨token, .inl (List.mem_map_of_mem member), rfl, rfl⟩

variable {token : Token} {after : World} {world : World}

theorem Sane.replace (sane : Sane world) {old : Token} (member : old ∈ world.tokens.items)
    (sameName : token.name = old.name) (sameID : token.id = old.id) {log : List Event}
    (given : EverSecret log token.id token.secretSHA256)
    (earlier : ∀ id secretSHA256, EverSecret world.log id secretSHA256 →
      EverSecret log id secretSHA256)
    (sameDeleted : ∀ other, .deleted other ∈ log → .deleted other ∈ world.log) :
    Sane { world with tokens := world.tokens.put token, log := log } where
  coherent := sane.coherent.replace member sameName sameID
  issued := Definitions.forall_mem_put (sameID ▸ sane.issued old member) fun other stored _ =>
    sane.issued other stored
  deletedIssued := fun other deleted => sane.deletedIssued other (sameDeleted other deleted)
  gone := by
    intro deletedToken deleted
    have gone := sane.gone deletedToken (sameDeleted _ deleted)
    exact Definitions.forall_mem_put (sameID ▸ gone old member) fun other stored _ =>
      gone other stored
  given := Definitions.forall_mem_put given fun other stored _ =>
    earlier _ _ (sane.given other stored)

theorem Sane.create (sane : Sane world) (free : world.tokens.lookup token.name = none)
    (fresh : world.isFresh token.id = true) (ownName : token.name ≠ token.id) :
    Sane { (world.logged (.created token)) with
      tokens := world.tokens.put token, issued := token.id :: world.issued } := by
  simp only [World.isFresh, Bool.and_eq_true, bne_iff_ne, Bool.not_eq_true', List.contains_eq_mem,
    decide_eq_false_iff_not, Option.isNone_iff_eq_none] at fresh
  rcases fresh with ⟨⟨identified, unissued⟩, unresolved⟩
  constructor
  · exact sane.coherent.create identified ownName free unresolved
  · exact Definitions.forall_mem_put List.mem_cons_self fun other stored _ =>
      List.mem_cons_of_mem _ (sane.issued other stored)
  · intro other deleted
    exact List.mem_cons_of_mem _ (sane.deletedIssued other (by simpa [World.logged] using deleted))
  · intro deletedToken deleted
    have before : .deleted deletedToken ∈ world.log := by simpa [World.logged] using deleted
    exact Definitions.forall_mem_put (fun sameID =>
      unissued (sameID ▸ sane.deletedIssued deletedToken before)) fun other stored _ =>
        sane.gone deletedToken before other stored
  · exact Definitions.forall_mem_put ⟨token, .inl List.mem_cons_self, rfl, rfl⟩
        fun other stored _ =>
      (sane.given other stored).later _

theorem Sane.delete (sane : Sane world) (member : token ∈ world.tokens.items) :
    Sane { (world.logged (.deleted token)) with tokens := world.tokens.delete token } := by
  constructor
  · exact sane.coherent.delete member
  · exact fun other otherMember => sane.issued other (Definitions.mem_delete.mp otherMember).1
  · intro other deleted
    rcases List.mem_cons.mp deleted with same | deleted
    · obtain rfl := Event.deleted.inj same
      exact sane.issued other member
    · exact sane.deletedIssued other deleted
  · intro deletedToken deleted other otherMember
    rcases (sane.coherent.mem_delete_iff member).mp otherMember with ⟨otherBefore, different⟩
    rcases List.mem_cons.mp deleted with same | deletedBefore
    · obtain rfl := Event.deleted.inj same
      exact fun sameID => different (sane.coherent.ids other otherBefore deletedToken member sameID)
    · exact sane.gone deletedToken deletedBefore other otherBefore
  · exact fun other otherMember => (sane.given other
      (Definitions.mem_delete.mp otherMember).1).later _

/-- A rotation that finds the token it read under its name replaces just that one. -/
theorem Sane.wroteBack (sane : Sane world) {previous : Token} (ownName : token.name ≠ token.id)
    (found : world.tokens.lookup token.name = some previous) (sameID : previous.id = token.id) :
    Sane { (world.logged (.wroteBack token previous)) with tokens := world.tokens.put token } := by
  rcases sane.coherent.lookup_eq_some.mp found with ⟨member, sameName | named⟩
  · refine sane.replace member sameName.symm sameID.symm ?_ ?_ ?_
    · exact ⟨token, .inr ⟨previous, List.mem_cons_self⟩, rfl, rfl⟩
    · exact fun _ _ ever => ever.later _
    · exact fun other deleted => by simpa [World.logged] using deleted
  · exact absurd (named.symm.trans sameID) ownName

def contract : Contract Nat World where
  keeps := Sane
  may := fun _ => Moved
  outside := fun _ _ => False
  idle := fun _ _ => True
  meets := WritesBackWhatItRead

theorem moved_sane {before : World} (sane : Sane before) (met : WritesBackWhatItRead before after)
    (moved : Moved before after) : Sane after := by
  cases moved with
  | created token free fresh ownName => exact sane.create free fresh ownName
  | wroteBack token previous ownName found =>
    exact sane.wroteBack ownName found (of_decide_eq_true (met _ List.mem_cons_self))
  | used token time member =>
    have sameName : { token with lastUsedAt := time }.name = token.name := rfl
    exact sane.replace member sameName rfl (sane.given token member) (fun _ _ ever => ever)
      (fun _ deleted => deleted)
  | deleted token member => exact sane.delete member

/-! ## Every call does only that -/

section Calls

variable {sha256 : String → String} {thread : Nat} {Value : Type}

/-- A call counts on nothing but what is always so. -/
def unaware (thread : Nat) : Knowledge contract thread Unit :=
    ⟨fun _ _ => True, fun _ _ _ _ _ => trivial⟩

/-- Whatever the call returns, it has made no other change. -/
abbrev Fine (thread : Nat) (call : Call Value) : Prop := Calls.Stays (unaware thread) call ()

theorem store_ensures {action : Nat → World → List (Except Err Value × World)}
    {post : Except Err Value → Unit → Prop}
      (fine : ∀ now, Sane now → (Program.perform action).Leads thread
      (fun answer after => (after = now ∨ Moved now after) ∧ post answer ()) now) :
    (Program.perform action).Ensures (unaware thread) post () := by
  apply Program.Ensures.perform
  intro now sane _ answer after answered _
  rcases (fine now sane).answers answered with ⟨moved, holds⟩
  exact ⟨moved, fun _ => ⟨(), trivial, holds⟩⟩

variable (nameOrID : String)

theorem storeToken_ensures {post : Except Err Token → Unit → Prop}
    (fails : ∀ error, post (.error error) ())
    (found : ∀ token, token.name ≠ token.id → post (.ok token) ()) :
    (storeToken nameOrID).run.Ensures (unaware thread) post () := by
  refine store_ensures fun now sane => leads_storeToken (fun error => ⟨.inl rfl, fails error⟩)
      fun token isFound =>
    ⟨.inl rfl, found token ?_⟩
  have member := (sane.coherent.lookup_eq_some.mp isFound).1
  exact sane.coherent.apart token member token member

theorem storeCreateToken_fine (token : Token) : Fine thread (storeCreateToken token) :=
  fun _ goes => store_ensures fun _ _ => leads_storeCreateToken (fun _ => ⟨.inl rfl, goes _⟩)
    fun free fresh ownName => ⟨.inr (.created token free fresh ownName), goes _⟩

theorem storeUpdateToken_fine (ownName : token.name ≠ token.id) :
    Fine thread (storeUpdateToken token) :=
  fun _ goes => store_ensures fun _ _ => leads_storeUpdateToken (fun _ => ⟨.inl rfl, goes _⟩)
    fun previous found => ⟨.inr (.wroteBack token previous ownName found), goes _⟩

theorem storeRecordTokenUse_fine (time : Nat) : Fine thread (storeRecordTokenUse nameOrID time) :=
  fun _ goes => store_ensures fun _ sane => leads_storeRecordTokenUse (fun _ => ⟨.inl rfl, goes _⟩)
    fun token found => ⟨.inr (.used token time (sane.coherent.lookup_eq_some.mp found).1), goes _⟩

theorem storeDeleteToken_fine : Fine thread (storeDeleteToken nameOrID) :=
  fun _ goes => store_ensures fun _ sane => leads_storeDeleteToken (fun _ => ⟨.inl rfl, goes _⟩)
    fun token found => ⟨.inr (.deleted token (sane.coherent.lookup_eq_some.mp found).1), goes _⟩

theorem newSecret_fine (draw : Draw) (given : String) :
    Fine thread (newSecret sha256 draw given) := by
  intro post goes
  unfold newSecret
  split
  · exact .done (goes _)
  split
  · exact .done (goes _)
  refine .bindExcept (.lift (store_ensures fun _ _ => leads_storeTokenBySecretSHA256
    (fun error _ => ⟨.inl rfl, ?_⟩) fun _ _ _ => ⟨.inl rfl, .done (goes _)⟩))
  dsimp only
  split <;> exact .done (goes _)

theorem create_fine (draw : Draw) (name secret : String) (scopes : List Scope) :
    Fine thread (create sha256 draw name secret scopes) := by
  refine (newSecret_fine draw secret).bind fun chosen => .bind (fun _ goes => .done (goes _))
    fun _ => ?_
  exact (storeCreateToken_fine _).bind fun _ _ goes => .done (goes _)

theorem rotate_fine (draw : Draw) (nameOrID secret : String) :
    Fine thread (rotate sha256 draw nameOrID secret) := by
  intro post goes
  refine .bindExcept (storeToken_ensures nameOrID (fun _ => goes _) fun token ownName => ?_)
  have written (chosen : String) : Fine thread
      (storeUpdateToken (withSecret sha256 draw token chosen)) :=
    storeUpdateToken_fine ownName
  exact (newSecret_fine draw secret).bind
    (fun chosen => (written chosen).bind fun _ _ goes => .done (goes _)) post goes

end Calls

theorem contract_holds (sha256 : String → String) : contract.Holds (system sha256) where
  mayKeeps := fun _ _ _ => moved_sane
  happens := fun event => nomatch event
  crashes := by simp [system]
  serves := by
    intro request thread world sane _ _
    have served {Value : Type} {call : Call Value} (fine : Fine thread call) :
        (bestEffort call).Safe contract thread (fun _ _ => True) world := by
      have ensured : (bestEffort call).Ensures (unaware thread) (fun _ _ => True) () :=
        Calls.bestEffort_ensures (fine _ fun _ => trivial)
      exact (ensured world sane trivial).mono sane fun _ _ _ _ => trivial
    cases request with
    | create draw name secret scopes => exact served (create_fine draw name secret scopes)
    | rotate draw nameOrID secret => exact served (rotate_fine draw nameOrID secret)
    | delete nameOrID => exact served (storeDeleteToken_fine nameOrID)
    | recordUse nameOrID time => exact served (storeRecordTokenUse_fine nameOrID time)

theorem mem_tokenBySecret {sha256 : String → String} {secret : String}
    (found : (.ok token, after) ∈ (tokenBySecret sha256 secret).run.outcomes 0 world) :
    token ∈ world.tokens.items ∧ token.secretSHA256 = sha256 secret := by
  have leads : (tokenBySecret sha256 secret).run.Leads 0
      (fun result _ => ∀ token, result = .ok token → token ∈ world.tokens.items ∧
          token.secretSHA256 = sha256 secret) world :=
    leads_storeTokenBySecretSHA256 (fun _ _ => nofun) fun token member isHash _ same =>
      Except.ok.inj same ▸ ⟨member, isHash⟩
  exact leads _ _ found token rfl

/-- Once a token is deleted its ID is never stored again, and no secret authenticates a call as it;
a secret that was its own authenticates a call only as another token that was given that secret
too. -/
theorem deleted_token_stays_deleted (sha256 : String → String) {tokens : Definitions Token}
    (coherent : tokens.Coherent) {pool : Pool Nat World}
    (reached : (system sha256).Reaches WritesBackWhatItRead (World.load tokens) pool)
    {deletedToken : Token}
    (deleted : .deleted deletedToken ∈ pool.world.log) :
    (∀ token ∈ pool.world.tokens.items, token.id ≠ deletedToken.id) ∧
      ∀ secret, EverSecret pool.world.log deletedToken.id (sha256 secret) →
        ∀ token after, (.ok token, after) ∈ (tokenBySecret sha256 secret).run.outcomes 0
          pool.world → token.id ≠ deletedToken.id ∧ EverSecret pool.world.log token.id
          (sha256 secret) := by
  have sane : Sane pool.world :=
    ((contract_holds sha256).reaches (sane_load coherent) (fun _ => trivial) reached).kept
  have gone := sane.gone deletedToken deleted
  refine ⟨gone, ?_⟩
  intro secret _ token after found
  rcases mem_tokenBySecret found with ⟨member, sameSecret⟩
  exact ⟨gone token member, sameSecret ▸ sane.given token member⟩

/-- What revoking a token would mean if its secrets were revoked with it. -/
def Revoked (sha256 : String → String) (world : World) (deletedToken : Token) : Prop :=
  (∀ token ∈ world.tokens.items, token.id ≠ deletedToken.id) ∧
    ∀ secret, EverSecret world.log deletedToken.id (sha256 secret) →
      ∀ token after, (.ok token, after) ∉ (tokenBySecret sha256 secret).run.outcomes 0 world

/-- A stand-in for the hash: two hexadecimal digits for each character. -/
def hexOf (secret : String) : String :=
  let digit (n : Nat) : Char := "0123456789abcdef".toList.getD n '0'
  String.ofList (secret.toList.flatMap fun c => [digit (c.toNat / 16 % 16), digit (c.toNat % 16)])

def sharedSecret : String := "abcdefghijklmnopqrstuvwxyz012345"

def firstToken : Token := newToken hexOf ⟨"", "t", 1⟩ "ci" sharedSecret [scopeAll]

def secondToken : Token := newToken hexOf ⟨"", "u", 2⟩ "deploy" sharedSecret [scopeAll]

/-- One client makes a token with a secret of its own, then deletes it. -/
def createAndDelete : List (Choice Nat Request Empty) :=
  [.spawn 0 (.create ⟨"", "t", 1⟩ "ci" sharedSecret [scopeAll]), .act 0 0, .act 0 0,
    .spawn 1 (.delete "ci"), .act 1 0]

/-- After it, another makes a token with that same secret. -/
def reuseSecret : List (Choice Nat Request Empty) :=
  createAndDelete ++ [.spawn 2 (.create ⟨"", "u", 2⟩ "deploy" sharedSecret [scopeAll]), .act 2 0,
    .act 2 0]

/-- That one rotates its token. -/
theorem deleted_token_stays_deleted_ci :
      ∃ pool, (system hexOf).Reaches WritesBackWhatItRead (World.load .empty) pool ∧
      (.deleted firstToken ∈ pool.world.log ∧ pool.world.tokens.items.map Token.secretSHA256 =
        [hexOf (sharedSecret ++ "6")]) ∧
      ∀ token ∈ pool.world.tokens.items, token.id ≠ firstToken.id :=
  (system hexOf).known_of_schedule (reuseSecret ++
    [.spawn 3 (.rotate ⟨"", "v", 3⟩ "deploy" (sharedSecret ++ "6")), .act 3 0, .act 3 0, .act 3 0])
    (by decide +kernel) fun reached shown =>
    (deleted_token_stays_deleted hexOf Definitions.coherent_empty reached shown.1).1

/-- The secret of a deleted token authenticates calls again once a new token is given it. -/
theorem deleted_secret_authenticates :
      ∃ pool, (system hexOf).Reaches WritesBackWhatItRead (World.load .empty) pool ∧
      .deleted firstToken ∈ pool.world.log ∧ ¬ Revoked hexOf pool.world firstToken := by
  rcases (system hexOf).reaches_of_schedule WritesBackWhatItRead (World.load .empty)
    (fun world => .deleted firstToken ∈ world.log ∧ .created firstToken ∈ world.log ∧
      world.tokens.items = [secondToken]) reuseSecret (by decide +kernel) with
    ⟨pool, reached, deleted, created, stored⟩
  refine ⟨pool, reached, deleted, fun revoked => ?_⟩
  have ever : EverSecret pool.world.log firstToken.id (hexOf sharedSecret) :=
    ⟨firstToken, .inl created, rfl, rfl⟩
  have authenticates : (Except.ok secondToken, pool.world) ∈
      (tokenBySecret hexOf sharedSecret).run.outcomes 0 pool.world := by
    have matching : [secondToken].filter (fun token => token.secretSHA256 = hexOf sharedSecret) =
        [secondToken] := by
      decide +kernel
    simp [tokenBySecret, storeTokenBySecretSHA256, ExceptT.run, stored, matching]
  exact revoked.2 sharedSecret ever secondToken pool.world authenticates

end Dicer.Token
