import Dicer.Concurrency.Safety

namespace Dicer.Concurrency

open Function

/-!
# Following one thread

That an operation returns is a statement about its thread: where it is in its program, and that its
next actions have answers.  Here a thread is followed from the request it was given, through
everything the others do in between, as long as the system does not crash.
-/

/-- A thread that has returned, or whose next action has an answer. -/
def Program.Ready {Thread World Result : Type} (thread : Thread) : Program Thread World Result →
    World → Prop
  | done _, _ => True
  | atomic action _, world => action thread world ≠ []

namespace System

variable {Thread World Request Event : Type} [DecidableEq Thread]
  (system : System Thread World Request Event)

/-- What a pool leads to by choices of some kind, in steps that each meet a condition on the worlds
around it. -/
inductive Leads (meets : World → World → Prop) (allows : Choice Thread Request Event → Prop)
    (pool : Pool Thread World) : Pool Thread World → Prop
  | refl : Leads meets allows pool pool
  | step {between after : Pool Thread World} (choice : Choice Thread Request Event)
      (allowed : allows choice) : Leads meets allows pool between → system.step choice between =
        some after → meets between.world after.world → Leads meets allows pool after

/-- What does not end the thread. -/
def Survives (choice : Choice Thread Request Event) : Prop := choice ≠ .crash

/-- What the others do. -/
def Others (thread : Thread) (choice : Choice Thread Request Event) : Prop :=
  Survives choice ∧ ∀ answer, choice ≠ .act thread answer

/-- The pool is one of a run in which the thread serves the request. -/
inductive Serves (meets : World → World → Prop) (start : World) (thread : Thread)
    (request : Request) (pool : Pool Thread World) : Prop
  | serves {before given : Pool Thread World} (reached : system.Reaches meets start before)
      (spawned : system.step (.spawn thread request) before = some given)
      (met : meets before.world given.world) (led : system.Leads meets Survives given pool)

/-- The thread returns, if it is let act again and again: it has returned, or its next action has an
answer whatever the others do first, and after that it returns. -/
inductive Returns (meets : World → World → Prop) (thread : Thread) : Pool Thread World → Prop
  | returned {pool : Pool Thread World} (previous : pool.threads thread = some (.done ())) :
    Returns meets thread pool
  | acts {pool : Pool Thread World}
      (ready : ∀ later, system.Leads meets (Others thread) pool later →
        ∃ program, later.threads thread = some program ∧ program.Ready thread later.world)
      (goes : ∀ later after answer, system.Leads meets (Others thread) pool later →
        system.step (.act thread answer) later = some after → meets later.world after.world →
          Returns meets thread after) : Returns meets thread pool

variable {system} {meets : World → World → Prop} {allows : Choice Thread Request Event → Prop}
  {start : World} {thread : Thread} {request : Request} {pool later : Pool Thread World}

theorem Leads.mono {weaker : Choice Thread Request Event → Prop}
    (led : system.Leads meets allows pool later)
    (weakens : ∀ choice, allows choice → weaker choice) : system.Leads meets weaker pool later := by
  induction led with
  | refl => exact .refl
  | step choice allowed _ stepped met ih =>
    exact .step choice (weakens choice allowed) ih stepped met

theorem Leads.trans {first : Pool Thread World} (led : system.Leads meets allows first pool)
    (further : system.Leads meets allows pool later) : system.Leads meets allows first later := by
  induction further with
  | refl => exact led
  | step choice allowed _ stepped met ih =>
    exact .step choice allowed ih stepped met

theorem Serves.leads (serves : system.Serves meets start thread request pool)
    (further : system.Leads meets Survives pool later) :
    system.Serves meets start thread request later := by
  cases serves with
  | serves reached spawned met led => exact .serves reached spawned met (led.trans further)

theorem Reaches.leads (reached : system.Reaches meets start pool)
    (led : system.Leads meets allows pool later) : system.Reaches meets start later := by
  induction led with
  | refl => exact reached
  | step choice _ _ stepped met ih => exact .step choice ih stepped met

theorem Serves.reaches (serves : system.Serves meets start thread request pool) :
    system.Reaches meets start pool := by
  cases serves with
  | serves reached spawned met led => exact (Reaches.step _ reached spawned met).leads led

theorem Leads.follow [DecidableRel meets] (choices : List (Choice Thread Request Event))
    (allowed : ∀ choice ∈ choices, allows choice) {first : Pool Thread World}
    (led : system.Leads meets allows first pool)
    (followed : system.follow meets choices pool = some later) :
    system.Leads meets allows first later := by
  induction choices generalizing pool with
  | nil =>
    cases followed
    exact led
  | cons choice rest ih =>
    simp only [System.follow] at followed
    split at followed
    · simp at followed
    rename_i between stepped
    split at followed
    · rename_i met
      have further : system.Leads meets allows first between :=
        .step choice (allowed choice (List.mem_cons_self ..)) led stepped met
      exact ih (fun other member => allowed other (List.mem_cons_of_mem _ member)) further followed
    · simp at followed

theorem follow_append [DecidableRel meets] (first second : List (Choice Thread Request Event))
    (pool : Pool Thread World) : system.follow meets (first ++ second) pool =
      (system.follow meets first pool).bind (system.follow meets second) := by
  induction first generalizing pool with
  | nil => rfl
  | cons choice rest ih =>
    simp only [List.cons_append, System.follow]
    split
    · rfl
    split
    · exact ih _
    · rfl

variable (system) in
/-- A schedule that can be evaluated shows what some run reaches in which a thread serves a
request. -/
theorem serves_of_schedule (meets : World → World → Prop) [DecidableRel meets] (start : World)
    (shows : World → Prop) [DecidablePred shows] (thread : Thread) (request : Request)
    (before rest : List (Choice Thread Request Event)) (survive : ∀ choice ∈ rest, Survives choice)
    (shown : (system.follow meets (before ++ .spawn thread request :: rest) (Pool.start start)).any
      (fun pool => decide (shows pool.world)) = true) :
    ∃ pool, system.Serves meets start thread request pool ∧ shows pool.world := by
  rcases (Option.any_eq_true _ _).mp shown with ⟨pool, followed, shows⟩
  rw [follow_append, Option.bind_eq_some_iff] at followed
  rcases followed with ⟨between, reached, followed⟩
  simp only [System.follow] at followed
  split at followed
  · simp at followed
  rename_i given spawned
  split at followed
  · rename_i met
    exact ⟨pool, .serves (Reaches.start.follow before reached) spawned met
      (Leads.refl.follow rest survive followed), of_decide_eq_true shows⟩
  · simp at followed

variable {program : Program Thread World Unit}

theorem step_others {choice : Choice Thread Request Event} (others : Others thread choice)
    (stepped : system.step choice pool = some later)
    (running : pool.threads thread = some program) : later.threads thread = some program := by
  cases system.step_cases stepped with
  | @spawn other _ unused _ =>
    have different : thread ≠ other := by
      rintro rfl
      simp [running] at unused
    exact (update_of_ne different ..).trans running
  | @act other index =>
    have different : thread ≠ other := by
      rintro rfl
      exact others.2 index rfl
    exact (update_of_ne different ..).trans running
  | happen => exact running
  | crash => exact absurd rfl others.1

theorem Leads.running (led : system.Leads meets (Others thread) pool later)
    (running : pool.threads thread = some program) :
    later.threads thread = some program := by
  induction led with
  | refl => exact running
  | step choice others _ stepped _ ih => exact step_others others stepped ih

/-- A thread that is never in want of an answer returns: what it has to do is finite. -/
theorem returns_of_ready (running : pool.threads thread = some program)
    (ready : ∀ later program, system.Leads meets Survives pool later →
      later.threads thread = some program → program.Ready thread later.world) :
      system.Returns meets thread pool := by
  induction program generalizing pool with
  | done => exact .returned running
  | atomic action next ih =>
    refine .acts (fun later led => ?_) (fun later after answer led stepped met => ?_)
    · exact ⟨_, led.running running, ready later _ (led.mono fun _ others => others.1)
        (led.running running)⟩
    have further : system.Leads meets Survives pool after :=
      .step _ (by simp [Survives]) (led.mono fun _ others => others.1) stepped met
    cases system.step_cases stepped with
    | act runs =>
      cases (led.running running).symm.trans runs
      exact ih _ (update_self ..) fun latest program ledOn =>
        ready latest program (further.trans ledOn)

end System

/-- Whatever the next action of a program answers, what is left of the program fits the world after
it. -/
def Program.Next {Thread World Result : Type} (thread : Thread)
    (fits : Program Thread World Result → World → Prop) : Program Thread World Result → World → Prop
  | done _, _ => True
  | atomic action next, world => ∀ answer after, (answer, after) ∈ action thread world →
    fits (next answer) after

namespace Program

variable {Thread World First Second : Type} (contract : Contract Thread World) (thread : Thread)
  (wakes : World → Prop)

/-- From this world on, whatever others do in between, an action of the program has an answer
whenever the world wakes its thread, and what it returns satisfies the postcondition. -/
def Prompt : Program Thread World First → (First → World → Prop) → World → Prop
  | done result, post, world => post result world
  | atomic action next, post, world =>
    ∀ now, contract.Rely thread world now → (wakes now → action thread now ≠ []) ∧
      ∀ answer after, (answer, after) ∈ action thread now → (next answer).Prompt post after

variable {contract thread wakes} {program : Program Thread World First} {world : World}

theorem Prompt.perform {action : Thread → World → List (First × World)}
    {post : First → World → Prop} (acts : ∀ now, contract.Rely thread world now →
      (wakes now → action thread now ≠ []) ∧ Answers post (action thread now)) :
    (perform action).Prompt contract thread wakes post world :=
  acts

theorem Prompt.andThen {rest : First → Program Thread World Second} {middle : First → World → Prop}
    {post : Second → World → Prop} (first : program.Prompt contract thread wakes middle world)
    (second : ∀ result final, middle result final →
      (rest result).Prompt contract thread wakes post final) :
    (program >>= rest).Prompt contract thread wakes post world := by
  induction program generalizing world with
  | done result => exact second result world first
  | atomic action next ih =>
    exact fun now relies => (first now relies).imp_right fun goes answer after answered =>
      ih answer (goes answer after answered)

theorem Prompt.andThenLifted {Failure : Type} {middle : First → World → Prop}
    {rest : First → ExceptT Failure (Program Thread World) Second}
    {post : Except Failure Second → World → Prop}
    (first : program.Prompt contract thread wakes middle world)
    (second : ∀ result final, middle result final →
      (rest result).run.Prompt contract thread wakes post final) :
    ((ExceptT.lift program : ExceptT Failure (Program Thread World) First) >>= rest).run.Prompt
      contract thread wakes post world := by
  rw [ExceptT.run_bind]
  refine .andThen ?_ fun _ _ goes => goes
  exact first.andThen second

end Program

namespace Contract
namespace Holds

variable {Thread World Request Event : Type} [DecidableEq Thread] {contract : Contract Thread World}
  {system : System Thread World Request Event} {thread : Thread} {request : Request}
  {invariant : Program Thread World Unit → World → Prop}

/-- A relation between where a thread is and the world, which each of its own actions keeps and
which others leave alone. -/
structure Tracks (contract : Contract Thread World) (thread : Thread)
    (invariant : Program Thread World Unit → World → Prop) : Prop where
  acts : ∀ program world, contract.keeps world → invariant program world →
    program.Next thread invariant world
  stable : ∀ program first second, contract.Interferes thread first second →
    invariant program first → invariant program second

variable (holds : contract.Holds system)
include holds

theorem tracked_step (tracks : Tracks contract thread invariant) {pool after : Pool Thread World}
    {program : Program Thread World Unit} (choice : Choice Thread Request Event)
    (survives : System.Survives choice)
    (sound : contract.Sound pool) (stepped : system.step choice pool = some after)
    (met : contract.meets pool.world after.world) (running : pool.threads thread = some program)
    (held : invariant program pool.world) :
    ∃ rest, after.threads thread = some rest ∧ invariant rest after.world := by
  have keptAfter := (holds.step choice sound stepped met).2.kept
  by_cases own : ∃ answer, choice = .act thread answer
  · rcases own with ⟨index, rfl⟩
    cases system.step_cases stepped with
    | act runs answered =>
      cases running.symm.trans runs
      exact ⟨_, update_self .., tracks.acts _ _ sound.kept held _ _ answered⟩
  · have others : System.Others thread choice := ⟨survives, fun answer same => own ⟨answer, same⟩⟩
    refine ⟨program, System.step_others others stepped running, ?_⟩
    cases system.step_cases stepped with
    | spawn => exact held
    | @act other index _ _ _ _ _ runs answered =>
      have different : other ≠ thread := fun same => own ⟨index, same ▸ rfl⟩
      rcases (sound.safe other _ runs pool.world .refl sound.kept _ _ answered met).1
        with unchanged | moved
      · exact unchanged.symm ▸ held
      · exact tracks.stable program _ _ ⟨sound.kept, keptAfter, met, .inr ⟨other, different, moved⟩⟩
          held
    | happen happened =>
      have outside := (holds.happens _ _ _ sound.kept met happened).1
      exact tracks.stable program _ _ ⟨sound.kept, keptAfter, met, .inl outside⟩ held
    | crash => exact absurd rfl survives

/-- Where the thread of a request is, in every run in which it serves it. -/
theorem tracked (tracks : Tracks contract thread invariant) {meets : World → World → Prop}
    {start : World} {pool : Pool Thread World}
    (stronger : ∀ before after, meets before after → contract.meets before after)
    (kept : contract.keeps start) (idle : ∀ thread, contract.idle thread start)
    (begins : ∀ world, contract.keeps world → contract.idle thread world →
      system.admits request world = true → invariant (system.program request) world)
      (serves : system.Serves meets start thread request pool) :
    ∃ program, pool.threads thread = some program ∧ invariant program pool.world := by
  cases serves with
  | serves reached spawned met led =>
    rename_i before given
    have reachedGiven : system.Reaches meets start given := .step _ reached spawned met
    induction led with
    | refl =>
      have sound := holds.reaches kept idle (reached.mono stronger)
      cases system.step_cases spawned with
      | spawn unused admitted =>
        exact ⟨_, update_self .., begins before.world sound.kept (sound.idle thread unused)
          admitted⟩
    | step choice survives led stepped met ih =>
      rcases ih with ⟨program, running, held⟩
      have sound := holds.reaches kept idle ((reachedGiven.leads led).mono stronger)
      exact holds.tracked_step tracks choice survives sound stepped (stronger _ _ met) running held

theorem survived_step {pool after : Pool Thread World} (choice : Choice Thread Request Event)
    (survives : System.Survives choice) (sound : contract.Sound pool)
    (stepped : system.step choice pool = some after)
    (met : contract.meets pool.world after.world) :
    after.world = pool.world ∨ (∃ thread, contract.may thread pool.world after.world) ∨
      contract.outside pool.world after.world := by
  cases system.step_cases stepped with
  | spawn => exact .inl rfl
  | act runs answered =>
    exact (sound.safe _ _ runs pool.world .refl sound.kept _ _ answered met).1.imp_right
      fun moved => .inl ⟨_, moved⟩
  | happen happened => exact .inr (.inr (holds.happens _ _ _ sound.kept met happened).1)
  | crash => exact absurd rfl survives

/-- What is so at some point of a run, and what every move then preserves, is so as long as there is
no crash. -/
theorem leads {meets : World → World → Prop} {start : World} {pool later : Pool Thread World}
    {property : World → Prop} (stronger : ∀ before after, meets before after →
      contract.meets before after)
    (kept : contract.keeps start) (idle : ∀ thread, contract.idle thread start)
    (preserves : ∀ before after, (∃ thread, contract.may thread before after) ∨
      contract.outside before after → property before → property after)
      (reached : system.Reaches meets start pool)
    (led : system.Leads meets System.Survives pool later) (initially : property pool.world)
    : property later.world := by
  induction led with
  | refl => exact initially
  | step choice survives led stepped met ih =>
    have sound := holds.reaches kept idle ((reached.leads led).mono stronger)
    rcases holds.survived_step choice survives sound stepped (stronger _ _ met) with same | moved
    · exact same ▸ ih
    · exact preserves _ _ moved ih

end Holds
end Contract
end Dicer.Concurrency
