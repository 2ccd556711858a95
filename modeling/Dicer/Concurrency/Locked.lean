import Dicer.Concurrency.Calls

namespace Dicer.Concurrency.Locked

open Calls Function

/-!
# Items with a lock each

A world of items, each changed only by the thread that holds its lock, and of what they share.  What
such a thread has found out about its item stays true until it changes the item itself, so a call
that holds the lock is followed with pre- and postconditions on that one item, as if it ran alone.
Two things are asked of every call: each of its actions keeps what is true of an item at all times,
and when it gives the lock back the item is as it has to be at rest.
-/

structure World (Thread Key Item Shared : Type) where
  items : Key → Item
  holder : Key → Option Thread
  shared : Shared

/-- What holds of every item at all times, what holds of one whose lock is free, and what holds of
what they share. -/
structure Invariant (Item Shared : Type) where
  holds : Item → Prop
  rests : Item → Prop
  shares : Shared → Prop

section

variable {Thread Key Item Shared Failure Value : Type} [DecidableEq Key]

def lock (key : Key) : Program Thread (World Thread Key Item Shared) Unit :=
  Program.perform fun thread world =>
    match world.holder key with
    | some _ => []
    | none => [((), { world with holder := update world.holder key (some thread) })]

def unlock (key : Key) : Program Thread (World Thread Key Item Shared) Unit :=
  change fun world => { world with holder := update world.holder key none }

/-- Hold an item's lock during a call. -/
def locked (key : Key) (call : Call Thread (World Thread Key Item Shared) Failure Value) :
    Call Thread (World Thread Key Item Shared) Failure Value :=
  ExceptT.mk do
    lock key
    let result ← call.run
    unlock key
    return result

/-- An action on one item. -/
def onItem (key : Key) (act : Item → List (Value × Item)) :
    Program Thread (World Thread Key Item Shared) Value :=
  Program.perform fun _ world => (act (world.items key)).map fun answer =>
    (answer.1, { world with items := update world.items key answer.2 })

/-- A change of what the items share. -/
def putShared (effect : Shared → Shared) : Program Thread (World Thread Key Item Shared) Unit :=
  change fun world => { world with shared := effect world.shared }

/-- Look at one item. -/
def look (key : Key) (see : Item → Value) : Program Thread (World Thread Key Item Shared) Value :=
  onItem key fun item => [(see item, item)]

/-- Change one item. -/
def put (key : Key) (effect : Item → Item) : Program Thread (World Thread Key Item Shared) Unit :=
  onItem key fun item => [((), effect item)]

/-- Change one item, or fail and leave it as it is. -/
def mayPut (key : Key) (failure : Failure) (effect : Item → Item) :
    Call Thread (World Thread Key Item Shared) Failure Unit :=
  onItem key fun item => [(.ok (), effect item), (.error failure, item)]

end

section

variable {Thread Key Item Shared Failure Value Other : Type} (invariant : Invariant Item Shared)
  (meets : World Thread Key Item Shared → World Thread Key Item Shared → Prop)

structure Invariant.Kept (world : World Thread Key Item Shared) : Prop where
  holds : ∀ key, invariant.holds (world.items key)
  rests : ∀ key, world.holder key = none → invariant.rests (world.items key)
  shares : invariant.shares world.shared

/-- A thread leaves alone the items whose locks others hold. -/
def Invariant.contract : Contract Thread (World Thread Key Item Shared) where
  keeps := invariant.Kept
  may := fun thread before after => invariant.Kept after ∧ ∀ key other, other ≠ thread →
    before.holder key = some other → after.items key = before.items key ∧
    after.holder key = some other
  outside := fun _ _ => False
  idle := fun _ _ => True
  meets := meets

/-- From an item that satisfies the precondition, held by its thread, the program keeps the
contract, and ends with one that satisfies the postcondition. -/
def Does (key : Key) (pre : Item → Prop)
    (program : Program Thread (World Thread Key Item Shared) Value) (post : Value → Item → Prop) :
    Prop :=
  ∀ thread world, invariant.Kept world → world.holder key = some thread → pre (world.items key) →
    program.Safe (invariant.contract meets) thread
      (fun value final => final.holder key = some thread ∧ post value (final.items key)) world

/-- The postcondition of a call, which may fail. -/
def answers (post : Value → Item → Prop) (fails : Item → Prop) : Except Failure Value → Item → Prop
  | .ok value => post value
  | .error _ => fails

/-- The same of a call, which may fail. -/
def Runs (key : Key) (pre : Item → Prop)
    (call : Call Thread (World Thread Key Item Shared) Failure Value) (post : Value → Item → Prop)
    (fails : Item → Prop) : Prop :=
  Does invariant meets key pre call.run (answers post fails)

/-- The program of a thread that holds no lock keeps the contract, and what it returns is of this
kind. -/
def Serves (program : Program Thread (World Thread Key Item Shared) Value) (kind : Value → Prop) :
    Prop :=
  ∀ thread world, invariant.Kept world →
    program.Safe (invariant.contract meets) thread (fun value _ => kind value) world

/-- The same of a call, of whose failures nothing is said. -/
def Gives (call : Call Thread (World Thread Key Item Shared) Failure Value) (kind : Value → Prop) :
    Prop :=
  Serves invariant meets call.run fun result => ∀ value, result = .ok value → kind value

variable {invariant} {meets} {key : Key} {pre fails : Item → Prop} {post : Value → Item → Prop}
  {program : Program Thread (World Thread Key Item Shared) Value}
  {call : Call Thread (World Thread Key Item Shared) Failure Value}

/-- Others leave an item alone that a thread has locked. -/
theorem stays {thread : Thread} {world now : World Thread Key Item Shared}
    (relies : (invariant.contract meets).Rely thread world now)
    (mine : world.holder key = some thread)
    (known : pre (world.items key)) : now.holder key = some thread ∧ pre (now.items key) := by
  have stable : ∀ first second, (invariant.contract meets).Interferes thread first second →
      first.holder key = some thread ∧ pre (first.items key) →
        second.holder key = some thread ∧ pre (second.items key) := by
    rintro first second ⟨_, _, _, outside | ⟨other, different, may⟩⟩ ⟨mine, known⟩
    · exact outside.elim
    · rcases may.2 key thread different.symm mine with ⟨same, sameHolder⟩
      exact ⟨sameHolder, same ▸ known⟩
  exact relies.stable _ stable ⟨mine, known⟩

variable {value : Value} {failure : Failure} {known ends : Item → Prop} {last : Other → Item → Prop}
  {action : Thread → World Thread Key Item Shared → List (Value × World Thread Key Item Shared)}
  {see : World Thread Key Item Shared → Value} {effect : Shared → Shared}
    {done : Unit → Item → Prop}
  {rest : Value → Call Thread (World Thread Key Item Shared) Failure Other} {other : Other → Prop}

/-! ## Programs under a lock -/

namespace Does

theorem pure (holds : ∀ item, invariant.holds item → pre item → post value item) :
    Does invariant meets key pre (pure value) post :=
  fun _ _ kept mine known => ⟨mine, holds _ (kept.holds key) known⟩

theorem mono {weaker : Value → Item → Prop} (does : Does invariant meets key pre program post)
    (weakens : ∀ value item, invariant.holds item → post value item → weaker value item) :
    Does invariant meets key pre program weaker := by
  intro thread world kept mine known
  apply (does thread world kept mine known).mono kept
  exact fun value final keptFinal held => ⟨held.1, weakens value _ (keptFinal.holds key) held.2⟩

theorem weaken (does : Does invariant meets key pre program post)
    (implies : ∀ item, invariant.holds item → known item → pre item) :
    Does invariant meets key known program post :=
  fun thread world kept mine knows => does thread world kept mine (implies _ (kept.holds key) knows)

theorem given {fact : Prop} (follows : ∀ item, invariant.holds item → pre item → fact)
    (does : fact → Does invariant meets key pre program post) :
    Does invariant meets key pre program post :=
  fun thread world kept mine known => does (follows _ (kept.holds key) known) thread world kept mine
    known

theorem bind {rest : Value → Program Thread (World Thread Key Item Shared) Other}
    (does : Does invariant meets key pre program post)
    (goes : ∀ value, Does invariant meets key (post value) (rest value) last) :
    Does invariant meets key pre (program >>= rest) last := by
  intro thread world kept mine known
  apply (does thread world kept mine known).andThen kept
  exact fun value final keptFinal held => goes value thread final keptFinal held.1 held.2

/-- An action that leaves the other items and every lock alone. -/
theorem perform (step : ∀ thread world, invariant.Kept world → pre (world.items key) →
      Answers (fun answer after =>
      meets world after → after.holder = world.holder ∧
        (∀ other, other ≠ key → after.items other = world.items other) ∧
          invariant.shares after.shared ∧ invariant.holds (after.items key) ∧
          post answer (after.items key)) (action thread world)) :
    Does invariant meets key pre (Program.perform action) post := by
  refine fun thread world _ mine known =>
    Program.Safe.perform fun now relies kept answer after answered met => ?_
  have still := stays relies mine known
  rcases step thread now kept still.2 answer after answered met
    with ⟨holders, others, shares, holds, result⟩
  have keptAfter : invariant.Kept after := by
    refine ⟨fun other => ?_, fun other free => ?_, shares⟩
    · by_cases same : other = key
      · exact same ▸ holds
      · exact others other same ▸ kept.holds other
    · rw [holders] at free
      have different : other ≠ key := fun same => by simp [same, still.1] at free
      exact others other different ▸ kept.rests other free
  refine ⟨.inr ⟨keptAfter, fun other holder notMine held => ⟨?_, holders ▸ held⟩⟩, fun _ =>
    ⟨holders ▸ still.1, result⟩⟩
  exact others other fun same => notMine (Option.some.inj (held.symm.trans (same ▸ still.1)))

theorem onItem [DecidableEq Key] {act : Item → List (Value × Item)}
      (step : ∀ item, invariant.holds item → pre item →
      Answers (fun answer after => invariant.holds after ∧ post answer after) (act item)) :
    Does invariant meets key pre (Locked.onItem key act) post := by
  refine perform fun thread world kept known => .map fun outcome member _ => ?_
  have done := step _ (kept.holds key) known _ _ member
  refine ⟨rfl, fun other different => update_of_ne different _ _, kept.shares, ?_⟩
  simpa only [update_self] using done

theorem look [DecidableEq Key] {see : Item → Value}
    (goes : ∀ item, invariant.holds item → pre item → post (see item) item) :
    Does invariant meets key pre (Locked.look key see) post :=
  onItem fun _ holds known => .one ⟨holds, goes _ holds known⟩

theorem put [DecidableEq Key] {effect : Item → Item}
    (goes : ∀ item, invariant.holds item → pre item → invariant.holds (effect item) ∧ done ()
      (effect item)) :
    Does invariant meets key pre (Locked.put key effect) done :=
  onItem fun item holds known => .one (goes item holds known)

theorem putShared (goes : ∀ shared, invariant.shares shared → invariant.shares (effect shared)) :
    Does invariant meets key pre (Locked.putShared effect) fun _ => pre :=
  perform fun _ _ kept known => .one fun _ =>
    ⟨rfl, fun _ _ => rfl, goes _ kept.shares, kept.holds key, known⟩

theorem observe : Does invariant meets key pre (Calls.observe see) fun _ => pre :=
  perform fun _ _ kept known => .one fun _ =>
    ⟨rfl, fun _ _ => rfl, kept.shares, kept.holds key, known⟩

end Does

namespace Runs

theorem pure (holds : ∀ item, invariant.holds item → pre item → post value item) :
    Runs invariant meets key pre (pure value : Call Thread (World Thread Key Item Shared) Failure
      Value) post fails :=
  Does.pure holds

theorem throw (holds : ∀ item, invariant.holds item → pre item → fails item) :
    Runs invariant meets key pre (throw failure) post fails :=
  Does.pure holds

theorem bind (runs : Runs invariant meets key pre call post fails)
    (goes : ∀ value, Runs invariant meets key (post value) (rest value) last fails) :
    Runs invariant meets key pre (call >>= rest) last fails := by
  unfold Runs
  rw [ExceptT.run_bind]
  refine Does.bind runs fun result => ?_
  cases result with
  | ok value => exact goes value
  | error => exact Does.pure fun _ _ held => held

theorem onItem [DecidableEq Key] {act : Item → List (Except Failure Value × Item)}
    (step : ∀ item, invariant.holds item → pre item →
      Answers (fun answer after => invariant.holds after ∧ answers post fails answer after)
      (act item)) :
    Runs invariant meets key pre (Locked.onItem key act) post fails :=
  Does.onItem step

theorem always (does : Does invariant meets key pre program post) :
    Runs invariant meets key pre (always program : Call Thread (World Thread Key Item Shared)
      Failure Value) post fails :=
  Does.bind does fun _ => Does.pure fun _ _ held => held

variable {failed : Item → Prop}

theorem attempt (runs : Runs invariant meets key pre call post failed) :
    Runs invariant meets key pre (attempt call) (answers post failed) fails :=
  Does.bind runs fun _ => Does.pure fun _ _ held => held

theorem bestEffort (runs : Runs invariant meets key pre call (fun _ => fails) fails) :
    Does invariant meets key pre (bestEffort call) fun _ => fails := by
  refine Does.bind runs fun result => Does.pure fun item _ held => ?_
  cases result <;> exact held

theorem returning {result : Except Failure Value}
    (holds : ∀ item, pre item → answers post fails result item) :
    Runs invariant meets key pre (returning result) post fails := by
  cases result with
  | ok => exact .pure fun item _ => holds item
  | error => exact .throw fun item _ => holds item

theorem onError {cleanup : Program Thread (World Thread Key Item Shared) Unit}
    (runs : Runs invariant meets key pre call post failed)
    (cleans : Does invariant meets key failed cleanup fun _ => fails) :
    Runs invariant meets key pre (onError cleanup call) post fails := by
  refine runs.attempt.bind fun result => ?_
  cases result with
  | ok => exact .pure fun _ _ held => held
  | error => exact (always cleans).bind fun _ => .throw fun _ _ held => held

theorem mayFail (holds : ∀ item, invariant.holds item → known item → fails item) :
    Runs invariant meets key known (mayFail failure) (fun _ => known) fails :=
  Does.perform fun _ _ kept knows => .two
    (fun _ => ⟨rfl, fun _ _ => rfl, kept.shares, kept.holds key, knows⟩) fun _ =>
    ⟨rfl, fun _ _ => rfl, kept.shares, kept.holds key, holds _ (kept.holds key) knows⟩

theorem mayPut [DecidableEq Key] {effect : Item → Item}
      (goes : ∀ item, invariant.holds item → pre item → invariant.holds (effect item) ∧ done ()
      (effect item) ∧ fails item) :
    Runs invariant meets key pre (mayPut key failure effect) done fails := by
  refine onItem fun item holds known => ?_
  rcases goes item holds known with ⟨kept, isDone, failed⟩
  exact .two ⟨kept, isDone⟩ ⟨holds, failed⟩

end Runs

/-! ## Programs without a lock -/

namespace Serves

variable {kind : Value → Prop}

theorem pure (holds : kind value) : Serves invariant meets (pure value) kind :=
  fun _ _ _ => holds

theorem bind {rest : Value → Program Thread (World Thread Key Item Shared) Other}
    (serves : Serves invariant meets program kind)
    (goes : ∀ value, kind value → Serves invariant meets (rest value) other) :
    Serves invariant meets (program >>= rest) other := by
  intro thread world kept
  apply (serves thread world kept).andThen kept
  exact fun value final keptFinal held => goes value held thread final keptFinal

/-- An action that leaves alone every item whose lock is held. -/
theorem perform (step : ∀ thread world, invariant.Kept world → Answers (fun answer after =>
      meets world after → after.holder = world.holder ∧
        (∀ key, world.holder key ≠ none → after.items key = world.items key) ∧
          invariant.Kept after ∧ kind answer) (action thread world)) :
    Serves invariant meets (Program.perform action) kind := by
  refine fun thread world _ => Program.Safe.perform fun now _ kept answer after answered met => ?_
  rcases step thread now kept answer after answered met with ⟨holders, others, keptAfter, held⟩
  refine ⟨.inr ⟨keptAfter, fun key other _ holds =>
    ⟨others key (by simp [holds]), holders ▸ holds⟩⟩, fun _ => held⟩

theorem putShared (goes : ∀ shared, invariant.shares shared → invariant.shares (effect shared)) :
    Serves invariant meets (Locked.putShared effect) fun _ => True :=
  perform fun _ _ kept => .one fun _ =>
    ⟨rfl, fun _ _ => rfl, ⟨kept.holds, kept.rests, goes _ kept.shares⟩, trivial⟩

theorem observe : Serves invariant meets (Calls.observe see) fun _ => True :=
  perform fun _ _ kept => .one fun _ => ⟨rfl, fun _ _ => rfl, kept, trivial⟩

end Serves

namespace Gives

variable {kind : Value → Prop}

theorem throw : Gives invariant meets (throw failure) kind :=
  Serves.pure nofun

theorem bind (gives : Gives invariant meets call kind)
    (goes : ∀ value, kind value → Gives invariant meets (rest value) other) :
    Gives invariant meets (call >>= rest) other := by
  unfold Gives
  rw [ExceptT.run_bind]
  refine Serves.bind gives fun result held => ?_
  cases result with
  | ok value => exact goes value (held value rfl)
  | error => exact Serves.pure nofun

theorem always (serves : Serves invariant meets program kind) :
    Gives invariant meets (always program : Call Thread (World Thread Key Item Shared) Failure
      Value) kind :=
  Serves.bind serves fun _ held => Serves.pure fun _ same => Except.ok.inj same ▸ held

/-- A lock is taken of an item at rest, and given back of one that is at rest then. -/
theorem locked [DecidableEq Key]
    (runs : Runs invariant meets key invariant.rests call (fun value item => ends item ∧ kind value)
      ends)
    (rests : ∀ before after, meets before after → after.holder key = none → ends (after.items key) →
      invariant.rests (after.items key)) : Gives invariant meets (locked key call) kind := by
  intro thread world kept
  have taken : (lock key).Safe (invariant.contract meets) thread
      (fun _ final => final.holder key = some thread ∧ invariant.rests (final.items key))
          world := by
    refine Program.Safe.perform fun now _ keptNow => ?_
    split
    · exact .none
    rename_i free
    refine .one fun _ => ⟨.inr ⟨⟨keptNow.holds, fun other unheld => keptNow.rests other ?_,
      keptNow.shares⟩, ?_⟩, fun _ => ⟨update_self .., keptNow.rests key free⟩⟩
    · by_cases same : other = key
      · exact same ▸ free
      · simpa [update_of_ne same] using unheld
    · intro other holder _ held
      have different : other ≠ key := fun same => by simp [same, free] at held
      exact ⟨rfl, by simpa [update_of_ne different] using held⟩
  have given : ∀ world, world.holder key = some thread → ends (world.items key) →
      (unlock key).Safe (invariant.contract meets) thread
        (fun _ _ => True) world := by
    refine fun world mine resting => Program.Safe.perform fun now relies keptNow => .one fun met =>
      ?_
    have still := stays relies mine resting
    refine ⟨.inr ⟨⟨keptNow.holds, fun other unheld => ?_, keptNow.shares⟩,
      fun other holder notMine held => ?_⟩, fun _ => trivial⟩
    · by_cases same : other = key
      · exact same ▸ rests now _ met (update_self ..) still.2
      · exact keptNow.rests other (by simpa [update_of_ne same] using unheld)
    · have different : other ≠ key := fun same =>
        notMine (Option.some.inj (held.symm.trans (same ▸ still.1)))
      exact ⟨rfl, by simpa [update_of_ne different] using held⟩
  refine taken.andThen kept fun _ held keptHeld known => ?_
  refine (runs thread held keptHeld known.1 known.2).andThen keptHeld
    fun result final keptFinal ended => ?_
  cases result with
  | ok =>
    refine (given final ended.1 ended.2.1).andThen keptFinal fun _ _ _ _ other same => ?_
    exact Except.ok.inj same ▸ ended.2.2
  | error => exact (given final ended.1 ended.2).andThen keptFinal fun _ _ _ _ => nofun

end Gives

/-- A system of such programs, of which a crash leaves every item at rest. -/
theorem Invariant.holds_of {Request Event : Type} [DecidableEq Thread]
    {system : System Thread (World Thread Key Item Shared) Request Event}
    (happens : ∀ event world, system.event event world = none)
    (crashes : ∀ before after, invariant.Kept before → system.crash before = some after →
      invariant.Kept after)
    (serves : ∀ request world, invariant.Kept world → system.admits request world = true →
      Serves invariant meets (system.program request) fun _ => True) :
    (invariant.contract meets).Holds system where
  mayKeeps := fun _ _ _ _ _ may => may.1
  happens := fun event before after _ _ happened =>
    absurd (happened.symm.trans (happens event before)) (by simp)
  crashes := fun before after kept _ crashed =>
    ⟨crashes before after kept crashed, fun _ => trivial⟩
  serves := fun request thread world kept _ admitted => serves request world kept admitted thread
    world kept

end

end Dicer.Concurrency.Locked
