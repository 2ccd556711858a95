import Dicer.Token.Handler

namespace Dicer.Token

open FileStore Concurrency
open Program (Leads)

variable {Value : Type} {result : Except Err Unit} {token : Token} {name secret : String}
  {response : Except Err (Option IssuedToken)} {call : TokenCall} {world after : World}
    {history : List Exchange}

/-!
# No token grants more than it has

Tokens make tokens, which make more.  Along any such chain the scopes only shrink, because a handler
compares the scopes of the token it is about with the caller's, the order of scope lists is
transitive, and a token's scopes never change under its ID.  The calls here are served one at a
time.
-/

section Outcomes

variable {sha256 : String → String} {world : World} {post : Except Err Value → World → Prop}

/-- A call that only looks. -/
def Reads {Value : Type} (call : Call Value) : Prop :=
  ∀ world result after, (result, after) ∈ call.run.outcomes 0 world → after = world

theorem Reads.leads {call : Call Value} (reads : Reads call) (ends : ∀ result, post result world) :
    call.run.Leads 0 post world := by
  intro result after member
  obtain rfl := reads world result after member
  exact ends result

theorem reads_newSecret (draw : Draw) (given : String) : Reads (newSecret sha256 draw given) := by
  intro world
  unfold newSecret
  split
  · exact Leads.done rfl
  split
  · exact Leads.done rfl
  refine Leads.lifted (leads_storeTokenBySecretSHA256 (fun error _ => ?_) fun _ _ _ =>
    Leads.done rfl)
  dsimp only
  split <;> exact Leads.done rfl

/-- A check that comes first refuses the call, or passes and leaves the world alone. -/
theorem leads_checked {check : Except Err Unit} {rest : Unit → Call Value}
    (refused : ∀ error, post (.error error) world)
    (passed : check = .ok () → (rest ()).run.Leads 0 post world) :
    ((liftM check : Call Unit) >>= rest).run.Leads 0 post world := by
  apply Leads.bindExcept
  cases check with
  | error error => exact Leads.done (refused error)
  | ok => exact Leads.done (passed rfl)

end Outcomes

/-! ## What the handlers do -/

/-- What a served call does to the tokens, and that its caller allows what it is about. -/
inductive Effect (caller : Option Token) (world : World) :
    TokenCall → Except Err (Option IssuedToken) → World → Prop
  | refused (call : TokenCall) (error : Err) : Effect caller world call (.error error) world
  | created (name secret : String) (scopes : List String) (token : Token) (value : String)
      (allowed : ∀ token', caller = some token' → allowsAll token'.scopes token.scopes = true)
      (free : world.tokens.lookup token.name = none) (fresh : world.isFresh token.id = true)
      (ownName : token.name ≠ token.id) :
      Effect caller world (.createToken name secret scopes) (.ok (some ⟨token, value⟩))
        { (world.logged (.created token)) with
          tokens := world.tokens.put token, issued := token.id :: world.issued }
  | rotated (name secret : String) (token rotated : Token) (value : String)
      (member : token ∈ world.tokens.items)
      (allowed : ∀ token', caller = some token' → allowsAll token'.scopes token.scopes = true)
      (sameID : rotated.id = token.id) (sameName : rotated.name = token.name)
      (sameScopes : rotated.scopes = token.scopes) :
      Effect caller world (.rotateToken name secret) (.ok (some ⟨rotated, value⟩))
        { (world.logged (.wroteBack rotated token)) with tokens := world.tokens.put rotated }
  | deleted (name : String) (token : Token) (member : token ∈ world.tokens.items)
      (allowed : ∀ token', caller = some token' → allowsAll token'.scopes token.scopes = true) :
      Effect caller world (.deleteToken name) (.ok none)
        { (world.logged (.deleted token)) with tokens := world.tokens.delete token }

variable {caller : Option Token}

theorem callerAllows_of_ok {scopes : List Scope}
    (checked : checkCallerAllows caller name scopes = .ok ()) : ∀ token, caller = some token →
    allowsAll token.scopes scopes = true := by
  rintro token rfl
  unfold checkCallerAllows at checked
  by_cases allowed : allowsAll token.scopes scopes = true
  · exact allowed
  · simp only [allowed] at checked
    exact nomatch checked

variable {scopes : List String} {tokens : Definitions Token} {sha256 : String → String}
    {config : HandlerConfig}

section Handlers

variable {sha256 : String → String} {config : HandlerConfig} {draw : Draw} {caller : Option Token}
  {world : World} {post : Except Err (Token × String) → World → Prop}

theorem leads_create {scopes : List Scope} (refused : ∀ error, post (.error error) world)
    (created : ∀ token chosen, token.scopes = scopes → world.tokens.lookup token.name = none →
      world.isFresh token.id = true → token.name ≠ token.id →
        post (.ok (token, chosen)) { (world.logged (.created token)) with
          tokens := world.tokens.put token, issued := token.id :: world.issued }) :
    (create sha256 draw name secret scopes).run.Leads 0 post world := by
  apply Leads.bindExcept
  refine (reads_newSecret draw secret).leads fun drawn => ?_
  cases drawn with
  | error error => exact refused error
  | ok chosen =>
    refine leads_checked refused fun _ => ?_
    apply Leads.bindExcept
    refine leads_storeCreateToken refused fun free fresh ownName => ?_
    exact .done (created _ chosen rfl free fresh ownName)

/-- In step, a rotation by ID reads the token with that ID and writes it back over itself. -/
theorem leads_rotate (coherent : world.tokens.Coherent) (stored : token ∈ world.tokens.items)
    (refused : ∀ error, post (.error error) world)
    (rotated : ∀ rotated chosen, rotated.id = token.id → rotated.name = token.name →
      rotated.scopes = token.scopes → post (.ok (rotated, chosen))
        { (world.logged (.wroteBack rotated token)) with tokens := world.tokens.put rotated }) :
    (rotate sha256 draw token.id secret).run.Leads 0 post world := by
  apply Leads.bindExcept
  refine leads_storeToken refused fun read found => ?_
  obtain rfl : token = read := Option.some.inj ((coherent.lookup_id stored).symm.trans found)
  apply Leads.bindExcept
  refine (reads_newSecret draw secret).leads fun drawn => ?_
  cases drawn with
  | error error => exact refused error
  | ok chosen =>
    have isToken : world.tokens.lookup (withSecret sha256 draw token chosen).name = some token :=
      coherent.lookup_eq_some.mpr ⟨stored, .inl rfl⟩
    apply Leads.bindExcept
    refine leads_storeUpdateToken refused fun previous found => ?_
    cases isToken.symm.trans found
    exact .done (rotated _ chosen rfl rfl rfl)

theorem handleCreateToken_effect : (handleCreateToken sha256 config draw caller name secret
      scopes).run.Leads 0 (fun result => Effect caller world (.createToken name secret scopes)
      (some <$> result)) world := by
  refine leads_checked (.refused _) fun _ => leads_checked (.refused _) fun checked => ?_
  apply Leads.bindExcept
  refine leads_create (.refused _) fun token chosen sameScopes free fresh ownName => .done ?_
  exact .created name secret scopes token _ (sameScopes ▸ callerAllows_of_ok checked) free fresh
    ownName

theorem handleRotateToken_effect (sane : Sane world) :
    (handleRotateToken sha256 config draw caller name secret).run.Leads 0
      (fun result => Effect caller world (.rotateToken name secret) (some <$> result)) world := by
  refine leads_checked (.refused _) fun _ => ?_
  apply Leads.bindExcept
  refine leads_storeToken (.refused _) fun token found => leads_checked (.refused _) fun checked =>
    ?_
  have stored := (sane.coherent.lookup_eq_some.mp found).1
  apply Leads.bindExcept
  refine leads_rotate sane.coherent stored (.refused _)
    fun rotated chosen sameID sameName sameScopes => ?_
  exact .done (.rotated name secret token rotated _ stored (callerAllows_of_ok checked) sameID
    sameName sameScopes)

theorem handleDeleteToken_effect (sane : Sane world) : (handleDeleteToken caller name).run.Leads 0
      (fun result => Effect caller world (.deleteToken name) ((fun _ => none) <$> result))
      world := by
  apply Leads.bindExcept
  refine leads_storeToken (.refused _) fun token found => leads_checked (.refused _) fun checked =>
    ?_
  have stored := (sane.coherent.lookup_eq_some.mp found).1
  refine leads_storeDeleteToken (.refused _) fun other found => ?_
  cases (sane.coherent.lookup_id stored).symm.trans found
  exact .deleted name token stored (callerAllows_of_ok checked)

theorem handle_effect (sane : Sane world) :
    (handle sha256 config draw caller call).run.Leads 0 (Effect caller world call) world := by
  cases call with
  | createToken => exact (handleCreateToken_effect).map
  | rotateToken => exact (handleRotateToken_effect sane).map
  | deleteToken => exact (handleDeleteToken_effect sane).map

/-- The world once a token's use is recorded, if it is. -/
inductive Used (world : World) : World → Prop
  | unrecorded : Used world world
  | recorded (token : Token) (time : Nat) (member : token ∈ world.tokens.items) :
      Used world { world with tokens := world.tokens.put { token with lastUsedAt := time } }

variable {header : List String} {now : Nat}

theorem leads_presentedToken {post : Except Err Token → World → Prop}
    (refused : ∀ error, post (.error error) world)
    (known : ∀ token ∈ world.tokens.items, post (.ok token) world) :
    (presentedToken sha256 header).run.Leads 0 post world := by
  unfold presentedToken
  split
  · exact .done (refused _)
  split
  · exact .done (refused _)
  split
  · exact .done (refused _)
  exact .lifted (leads_storeTokenBySecretSHA256 (fun _ _ => .done (refused _))
    fun token stored _ => Leads.done (known token stored))

theorem leads_recordPresented (coherent : world.tokens.Coherent)
    {post : Except Err Unit → World → Prop}
    (used : ∀ after, Used world after → post (.ok ()) after) :
    (recordPresented token now).run.Leads 0 post world := by
  unfold recordPresented
  split
  · exact .done (used _ .unrecorded)
  apply Leads.lifted
  refine leads_storeRecordTokenUse (fun _ => .done (used _ .unrecorded)) fun token found => ?_
  exact .done (used _ (.recorded token _ (coherent.lookup_eq_some.mp found).1))

theorem authenticate_used (coherent : world.tokens.Coherent) :
      (authenticate sha256 header now).run.Leads 0
      (fun result after => Used world after ∧ ∀ token, result = .ok token →
      token ∈ world.tokens.items) world := by
  apply Leads.lifted
  refine leads_presentedToken (fun error => .done ⟨.unrecorded, by simp⟩) fun token stored => ?_
  apply Leads.bindExcept
  refine leads_recordPresented coherent fun after used => .done ⟨used, fun other same => ?_⟩
  obtain rfl := Except.ok.inj same
  exact stored

/-- A served call: the use of its token is recorded, and then it has its effect, none if it was
refused. -/
theorem serve_effect {header : Option (List String)} (sane : Sane world)
    (saneUsed : ∀ between, Used world between → Sane between) :
    (serve sha256 config draw header call).Leads 0 (fun exchange after =>
      ∃ between, Used world between ∧ (∀ token, exchange.caller = some token →
        token ∈ world.tokens.items) ∧ Effect exchange.caller between exchange.call exchange.response
        after ∧
        (header.isSome = true → exchange.caller = none → after = between)) world := by
  unfold serve
  cases header with
  | none =>
    apply Leads.bind
    refine (handle_effect sane).mono fun response after effect => .done ?_
    exact ⟨world, .unrecorded, by simp, effect, by simp⟩
  | some =>
    apply Leads.bind
    refine (authenticate_used sane.coherent).mono fun found between ⟨used, known⟩ => ?_
    cases found with
    | error error => exact Leads.done ⟨between, used, by simp, .refused _ error, fun _ _ => rfl⟩
    | ok token =>
      have stored := known token rfl
      dsimp only
      split
      · exact .done ⟨between, used, by simpa using stored, .refused _ _, by simp⟩
      apply Leads.bind
      refine (handle_effect (saneUsed between used)).mono fun response after effect => ?_
      exact .done ⟨between, used, by simpa using stored, effect, by simp⟩

end Handlers

/-! ## Chains of creations -/

/-- A call with the caller's token created the token. -/
def Made (history : List Exchange) (caller token : Token) : Prop :=
  ∃ exchange ∈ history, exchange.caller = some caller ∧
    (∃ name secret scopes, exchange.call = .createToken name secret scopes) ∧
    ∃ value, exchange.response = .ok (some ⟨token, value⟩)

/-- The token with this ID was created with the caller's token, or with one that descends from it.
The caller is the token as it was when it made the first creation of the chain. -/
inductive Descends (history : List Exchange) (caller : Token) : String → Prop
  | made (token : Token) : Made history caller token → Descends history caller token.id
  | further (parent token : Token) :
      Descends history caller parent.id → Made history parent token →
      Descends history caller token.id

/-- A token's scopes are those it was created with. -/
def Known (log : List Event) (token : Token) : Prop :=
  ∃ created : Token, .created created ∈ log ∧ created.id = token.id ∧ created.scopes = token.scopes

structure Guarded (world : World) (history : List Exchange) : Prop where
  sane : Sane world
  known : ∀ token ∈ world.tokens.items, Known world.log token
  createdIssued : ∀ token, .created token ∈ world.log → token.id ∈ world.issued
  createdOnce : ∀ first second, .created first ∈ world.log → .created second ∈ world.log →
    first.id = second.id → first = second
  callers : ∀ exchange ∈ history, ∀ caller, exchange.caller = some caller → Known world.log caller
  makes : ∀ caller token, Made history caller token →
    .created token ∈ world.log ∧ allowsAll caller.scopes token.scopes = true

theorem Known.later {log : List Event} (event : Event) (known : Known log token) :
    Known (event :: log) token := by
  rcases known with ⟨created, logged, sameID, sameScopes⟩
  exact ⟨created, List.mem_cons_of_mem _ logged, sameID, sameScopes⟩

theorem guarded_load (coherent : tokens.Coherent) : Guarded (World.load tokens) [] where
  sane := sane_load coherent
  known := fun token member => ⟨token, List.mem_map_of_mem member, rfl, rfl⟩
  createdIssued := by
    intro token created
    rcases List.mem_map.mp created with ⟨other, member, same⟩
    obtain rfl := Event.created.inj same
    exact List.mem_map_of_mem member
  createdOnce := by
    intro first second firstCreated secondCreated sameID
    rcases List.mem_map.mp firstCreated with ⟨_, firstMember, firstSame⟩
    rcases List.mem_map.mp secondCreated with ⟨_, secondMember, secondSame⟩
    obtain rfl := Event.created.inj firstSame
    obtain rfl := Event.created.inj secondSame
    exact coherent.ids _ firstMember _ secondMember sameID
  callers := by simp
  makes := by simp [Made]

theorem Used.sane (used : Used world after) (sane : Sane world) : Sane after := by
  cases used with
  | unrecorded => exact sane
  | recorded token time member =>
    have sameName : { token with lastUsedAt := time }.name = token.name := rfl
    exact sane.replace member sameName rfl (sane.given token member) (fun _ _ ever => ever)
      (fun _ deleted => deleted)

theorem Used.same (used : Used world after) (sane : Sane world)
    (member : token ∈ world.tokens.items) : ∃ other ∈ after.tokens.items, other.id = token.id ∧
      other.secretSHA256 = token.secretSHA256 ∧ other.scopes = token.scopes := by
  cases used with
  | unrecorded => exact ⟨token, member, rfl, rfl, rfl⟩
  | recorded used time usedMember =>
    by_cases sameName : token.name = used.name
    · obtain rfl := sane.coherent.eq_of_name member usedMember sameName
      exact ⟨_, Definitions.mem_put.mpr (.inl rfl), rfl, rfl, rfl⟩
    · exact ⟨token, Definitions.mem_put.mpr (.inr ⟨member, sameName⟩), rfl, rfl, rfl⟩

theorem Guarded.used (guarded : Guarded world history) (used : Used world after) :
    Guarded after history := by
  have sane := used.sane guarded.sane
  cases used with
  | unrecorded => exact guarded
  | recorded token time member =>
    exact { guarded with
      sane := sane
      known := Definitions.forall_mem_put (guarded.known token member) fun other stored _ =>
        guarded.known other stored }

theorem Effect.sane (effect : Effect caller world call response after) (sane : Sane world)
    : Sane after := by
  cases effect with
  | refused => exact sane
  | created name secret scopes token value allowed free fresh ownName =>
    exact sane.create free fresh ownName
  | rotated name secret token rotated value member allowed sameID sameName =>
    have ownName : rotated.name ≠ rotated.id := by
      rw [sameName, sameID]
      exact sane.coherent.apart token member token member
    have found : world.tokens.lookup rotated.name = some token :=
      sane.coherent.lookup_eq_some.mpr ⟨member, .inl sameName.symm⟩
    exact sane.wroteBack ownName found sameID.symm
  | deleted name token member => exact sane.delete member

/-- Whatever a call does, the tokens that stay keep the scopes they were created with. -/
theorem Effect.known (effect : Effect caller world call response after)
    (known : ∀ token ∈ world.tokens.items, Known world.log token) :
    (∀ token ∈ after.tokens.items, Known after.log token) ∧
      ∀ token, Known world.log token → Known after.log token := by
  cases effect with
  | refused => exact ⟨known, fun _ before => before⟩
  | created name secret scopes token =>
    exact ⟨Definitions.forall_mem_put ⟨token, List.mem_cons_self, rfl, rfl⟩ fun other stored _ =>
      (known other stored).later _, fun _ before => before.later _⟩
  | rotated name secret token rotated value member allowed sameID sameName sameScopes =>
    rcases known token member with ⟨created, logged, createdID, createdScopes⟩
    exact ⟨Definitions.forall_mem_put
      ⟨created, List.mem_cons_of_mem _ logged, createdID.trans sameID.symm,
      createdScopes.trans sameScopes.symm⟩
      fun other stored _ => (known other stored).later _, fun _ before => before.later _⟩
  | deleted =>
    exact ⟨fun other otherMember => (known other (Definitions.mem_delete.mp otherMember).1).later _,
      fun _ before => before.later _⟩

/-- The creations in the log after a call are those before it and the one it made, under a fresh
ID. -/
theorem Effect.created_log (effect : Effect caller world call response after) :
    (after.issued = world.issued ∧ ∀ token, .created token ∈ after.log ↔
      .created token ∈ world.log) ∨ ∃ made, made.id ∉ world.issued ∧ after.issued = made.id ::
        world.issued ∧ ∀ token, .created token ∈ after.log ↔ token = made ∨
        .created token ∈ world.log := by
  cases effect with
  | refused => exact .inl ⟨rfl, fun _ => Iff.rfl⟩
  | created name secret scopes made value allowed free fresh =>
    have unissued : made.id ∉ world.issued := by
      simp only [World.isFresh, Bool.and_eq_true, Bool.not_eq_true', List.contains_eq_mem,
        decide_eq_false_iff_not] at fresh
      exact fresh.1.2
    exact .inr ⟨made, unissued, rfl, by simp [World.logged]⟩
  | rotated | deleted => exact .inl ⟨rfl, by simp [World.logged]⟩

/-- A call that answers with a token it created logged it, and its caller allows the token's
scopes. -/
theorem Effect.makes {value : String}
    (effect : Effect caller world (.createToken name secret scopes)
      (.ok (some ⟨token, value⟩)) after) :
    .created token ∈ after.log ∧
      ∀ token', caller = some token' → allowsAll token'.scopes token.scopes = true := by
  cases effect with
  | created _ _ _ _ _ allowed => exact ⟨List.mem_cons_self, allowed⟩

theorem Guarded.effect {exchange : Exchange} (guarded : Guarded world history)
    (callerKnown : ∀ token, exchange.caller = some token → Known world.log token)
    (effect : Effect exchange.caller world exchange.call exchange.response after) :
    Guarded after (exchange :: history) := by
  rcases effect.known guarded.known with ⟨known, later⟩
  have createdBefore : ∀ token, .created token ∈ world.log → .created token ∈ after.log := by
    rcases effect.created_log with ⟨_, created⟩ | ⟨made, _, _, created⟩
    · exact fun token before => (created token).mpr before
    · exact fun token before => (created token).mpr (.inr before)
  refine ⟨effect.sane guarded.sane, known, ?_, ?_, ?_, ?_⟩
  · intro token logged
    rcases effect.created_log with ⟨issued, created⟩ | ⟨made, _, issued, created⟩
    · rw [issued]
      exact guarded.createdIssued token ((created token).mp logged)
    rw [issued]
    rcases (created token).mp logged with rfl | before
    · exact List.mem_cons_self
    · exact List.mem_cons_of_mem _ (guarded.createdIssued token before)
  · intro first second firstLogged secondLogged sameID
    rcases effect.created_log with ⟨_, created⟩ | ⟨made, unissued, _, created⟩
    · exact guarded.createdOnce first second ((created first).mp firstLogged)
        ((created second).mp secondLogged) sameID
    rcases (created first).mp firstLogged with rfl | firstBefore
    · rcases (created second).mp secondLogged with rfl | secondBefore
      · rfl
      · exact absurd (sameID ▸ guarded.createdIssued second secondBefore) unissued
    · rcases (created second).mp secondLogged with rfl | secondBefore
      · exact absurd (sameID ▸ guarded.createdIssued first firstBefore) unissued
      · exact guarded.createdOnce first second firstBefore secondBefore sameID
  · exact List.forall_mem_cons.mpr ⟨fun caller called => later caller (callerKnown caller called),
      fun other before caller called => later caller (guarded.callers other before caller called)⟩
  · rintro caller token ⟨other, member, called, creates, value, answered⟩
    rcases List.mem_cons.mp member with rfl | before
    · rcases creates with ⟨name, secret, scopes, created⟩
      rw [created, answered] at effect
      exact ⟨effect.makes.1, effect.makes.2 caller called⟩
    · rcases guarded.makes caller token ⟨other, before, called, creates, value, answered⟩ with
        ⟨created, allowed⟩
      exact ⟨createdBefore token created, allowed⟩

theorem serves_guarded (coherent : tokens.Coherent)
    (served : Serves sha256 config (World.load tokens) world history) : Guarded world history := by
  induction served with
  | start => exact guarded_load coherent
  | serve draw header call exchange _ member guarded =>
    rcases serve_effect guarded.sane (fun _ used => used.sane guarded.sane) _ _ member with
      ⟨between, used, stored, effect, _⟩
    refine (guarded.used used).effect ?_ effect
    intro token called
    rcases guarded.known token (stored token called) with known
    cases used with
    | unrecorded | recorded => exact known

/-- Along a chain of creations the scopes only shrink. -/
theorem Guarded.descends (guarded : Guarded world history) {caller : Token} {id : String}
    (descends : Descends history caller id) :
    ∀ created : Token, .created created ∈ world.log → created.id = id →
      allowsAll caller.scopes created.scopes = true := by
  induction descends with
  | made token made =>
    intro created logged sameID
    rcases guarded.makes caller token made with ⟨tokenLogged, allowed⟩
    rw [guarded.createdOnce created token logged tokenLogged sameID]
    exact allowed
  | further parent token _ made ih =>
    intro created logged sameID
    rcases guarded.makes parent token made with ⟨tokenLogged, allowed⟩
    rcases made with ⟨exchange, member, called, _⟩
    rcases guarded.callers exchange member parent called
      with ⟨parentCreated, parentLogged, parentID, parentScopes⟩
    have upper := ih parentCreated parentLogged parentID
    rw [guarded.createdOnce created token logged tokenLogged sameID]
    rw [parentScopes] at upper
    exact allowsAll_trans upper allowed

/-- A call takes away a token, or its secret, only if its caller allows the token's scopes. -/
theorem Effect.takes (effect : Effect caller world call response after) (sane : Sane world)
    (member : token ∈ world.tokens.items) (taken : ¬ ∃ other ∈ after.tokens.items,
      other.id = token.id ∧ other.secretSHA256 = token.secretSHA256) :
    ∀ token', caller = some token' → allowsAll token'.scopes token.scopes = true := by
  cases effect with
  | refused => exact absurd ⟨token, member, rfl, rfl⟩ taken
  | created name secret scopes made value allowed free =>
    have otherName := (sane.coherent.lookup_eq_none.mp free token member).1
    exact absurd ⟨token, Definitions.mem_put.mpr (.inr ⟨member, otherName⟩), rfl, rfl⟩ taken
  | rotated name secret rotatedToken rotated value rotatedMember allowed sameID sameName =>
    by_cases same : token.name = rotated.name
    · obtain rfl := sane.coherent.eq_of_name member rotatedMember (same.trans sameName)
      exact allowed
    · exact absurd ⟨token, Definitions.mem_put.mpr (.inr ⟨member, same⟩), rfl, rfl⟩ taken
  | deleted name deletedToken deletedMember allowed =>
    by_cases same : token = deletedToken
    · subst same
      exact allowed
    · exact absurd ⟨token, (sane.coherent.mem_delete_iff deletedMember).mpr ⟨member, same⟩, rfl,
        rfl⟩ taken

/-- Served one at a time, calls made with tokens never give a token more than its ancestors had, nor
take away a token, or its secret, that allows a scope the caller's token does not. -/
theorem token_calls_never_escalate (sha256 : String → String) (config : HandlerConfig)
    {tokens : Definitions Token} (coherent : tokens.Coherent) {world : World}
    {history : List Exchange}
    (served : Serves sha256 config (World.load tokens) world history) :
    (∀ caller : Token, ∀ token ∈ world.tokens.items, Descends history caller token.id →
      ∀ scope, allows token.scopes scope = true → allows caller.scopes scope = true) ∧
    ∀ draw header call exchange after,
      (exchange, after) ∈ (serve sha256 config draw (some header) call).outcomes 0 world →
          ∀ token ∈ world.tokens.items, (¬ ∃ other ∈ after.tokens.items, other.id = token.id ∧
          other.secretSHA256 = token.secretSHA256) →
          ∃ caller ∈ world.tokens.items, exchange.caller = some caller ∧
            ∀ scope, allows token.scopes scope = true → allows caller.scopes scope = true := by
  have guarded := serves_guarded coherent served
  constructor
  · intro caller token member descends scope allowed
    rcases guarded.known token member with ⟨created, logged, sameID, sameScopes⟩
    have all := guarded.descends descends created logged sameID
    exact allows_of_allowsAll (sameScopes ▸ all) allowed
  · intro draw header call exchange after answered token member taken
    rcases serve_effect guarded.sane (fun _ used => used.sane guarded.sane) _ _ answered with
      ⟨between, used, stored, effect, refused⟩
    rcases used.same guarded.sane member with ⟨same, sameMember, sameID, sameSecret, sameScopes⟩
    rw [← sameID, ← sameSecret] at taken
    cases called : exchange.caller with
    | none =>
      rw [refused rfl called] at taken
      exact absurd ⟨same, sameMember, rfl, rfl⟩ taken
    | some caller =>
      have all := effect.takes (used.sane guarded.sane) sameMember taken caller called
      refine ⟨caller, stored caller called, rfl, fun scope allowed => ?_⟩
      exact allows_of_allowsAll (sameScopes ▸ all) allowed

/-- Serve calls one after another, each with the first of its outcomes. -/
def serveFirst (sha256 : String → String) (config : HandlerConfig) :
    List (Draw × Option (List String) × TokenCall) → World → List Exchange →
    Option (World × List Exchange)
  | [], world, history => some (world, history)
  | (draw, header, call) :: rest, world, history =>
    match (serve sha256 config draw header call).outcomes 0 world with
    | [] => none
    | (exchange, after) :: _ => serveFirst sha256 config rest after (exchange :: history)

theorem Serves.first {start final : World} {answered : List Exchange}
    (calls : List (Draw × Option (List String) × TokenCall))
    (served : Serves sha256 config start world history)
    (ran : serveFirst sha256 config calls world history = some (final, answered)) :
    Serves sha256 config start final answered := by
  induction calls generalizing world history with
  | nil =>
    obtain ⟨rfl, rfl⟩ := Prod.mk.inj (Option.some.inj ran)
    exact served
  | cons call rest ih =>
    rcases call with ⟨draw, header, call⟩
    simp only [serveFirst] at ran
    split at ran
    · simp at ran
    rename_i exchange after _ outcomes
    refine ih (.serve draw header call exchange served ?_) ran
    rw [outcomes]
    exact List.mem_cons_self

/-- The token made over the socket makes another, with its secret in the header. -/
def chainOfTwo : List (Draw × Option (List String) × TokenCall) :=
  [(⟨"", "t", 1⟩, none, .createToken "root" sharedSecret ["tokens:write", "instances:write"]),
    (⟨"0123456789abcdefghijklmnopqrstuv", "u", 2⟩, some ["Bearer dicer_" ++ sharedSecret],
      .createToken "ci" "" ["instances:read"])]

/-- The last call of a history created a stored token with the token named `root`. -/
def madeByRoot (world : World) : List Exchange → Bool
  | ⟨some caller, .createToken .., .ok (some ⟨token, _⟩)⟩ :: _ =>
    caller.name == "root" && world.tokens.items.contains token
  | _ => false

theorem token_calls_never_escalate_chain :
    ∃ world history caller token, Serves hexOf ⟨true, ""⟩ (World.load .empty) world history ∧
      token ∈ world.tokens.items ∧ Descends history caller token.id ∧ caller.name = "root" ∧
      ∀ scope, allows token.scopes scope = true → allows caller.scopes scope = true := by
  have ran : (serveFirst hexOf ⟨true, ""⟩ chainOfTwo (World.load .empty) []).any
      (fun final => madeByRoot final.1 final.2) = true := by
    decide +kernel
  rcases (Option.any_eq_true _ _).mp ran with ⟨⟨world, history⟩, served, made⟩
  have serves := Serves.start.first chainOfTwo served
  unfold madeByRoot at made
  split at made
  · rename_i caller name secret scopes token value earlier shape
    subst shape
    simp only [Bool.and_eq_true, beq_iff_eq, List.contains_eq_mem, decide_eq_true_eq] at made
    have descends : Descends
        (⟨some caller, .createToken name secret scopes, .ok (some ⟨token, value⟩)⟩ :: earlier)
            caller token.id :=
      .made token ⟨_, List.mem_cons_self, rfl, ⟨name, secret, scopes, rfl⟩, value, rfl⟩
    exact ⟨world, _, caller, token, serves, made.2, descends, made.1,
      (token_calls_never_escalate hexOf ⟨true, ""⟩ Definitions.coherent_empty serves).1 caller token
      made.2 descends⟩
  · simp at made

end Dicer.Token
