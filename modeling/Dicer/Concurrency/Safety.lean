import Dicer.Concurrency.Pool
import Mathlib.Logic.Relation

namespace Dicer.Concurrency

open Function

/-!
# Proving threads safe one at a time

A contract says what a step of a thread may do to the world and what may happen by itself, together
with an invariant that all of it keeps.  A program is safe for its thread if, whatever others did
since its last action as far as the contract lets them, its next action is one the thread may do.
The programs of a system are proved safe one by one; `Contract.Holds.reaches` puts them together for
every interleaving, and `Contract.Holds.preserved` then derives further properties of all runs from
the contract alone, without looking at any program again.
-/

/-- What the threads of a world may count on from each other.  Only runs whose steps satisfy `meets`
are spoken of. -/
structure Contract (Thread World : Type) where
  keeps : World → Prop
  may : Thread → World → World → Prop
  outside : World → World → Prop
  idle : Thread → World → Prop
  meets : World → World → Prop

namespace Contract

variable {Thread World : Type} (contract : Contract Thread World)

/-- One step that is not the thread's own. -/
def Interferes (thread : Thread) (before after : World) : Prop :=
  contract.keeps before ∧ contract.keeps after ∧ contract.meets before after ∧
    (contract.outside before after ∨ ∃ other, other ≠ thread ∧ contract.may other before after)

/-- What may happen to the world while a thread does nothing. -/
def Rely (thread : Thread) : World → World → Prop :=
  Relation.ReflTransGen (contract.Interferes thread)

/-- A property that no single step of the others takes away survives all of them. -/
theorem Rely.stable {thread : Thread} {before after : World} {holds : World → Prop}
    (relies : contract.Rely thread before after)
    (stable : ∀ first second, contract.Interferes thread first second → holds first → holds second)
    (initially : holds before) : holds after := by
  induction relies with
  | refl => exact initially
  | tail _ interferes ih => exact stable _ _ interferes ih

end Contract

namespace Program

variable {Thread World First Second : Type} (contract : Contract Thread World) (thread : Thread)

/-- From this world on, every action of the program is one its thread may do, and what it returns
satisfies the postcondition in the world it returns in. -/
def Safe : Program Thread World First → (First → World → Prop) → World → Prop
  | done result, post, world => post result world
  | atomic action next, post, world =>
    ∀ now, contract.Rely thread world now → contract.keeps now →
      ∀ answer after, (answer, after) ∈ action thread now → contract.meets now after →
        (after = now ∨ contract.may thread now after) ∧
        (contract.keeps after → (next answer).Safe post after)

variable {contract thread} {program : Program Thread World First} {world : World}

theorem Safe.mono {post weaker : First → World → Prop}
    (safe : program.Safe contract thread post world) (kept : contract.keeps world)
    (weakens : ∀ result final, contract.keeps final → post result final → weaker result final) :
    program.Safe contract thread weaker world := by
  induction program generalizing world with
  | done result => exact weakens result world kept safe
  | atomic action next ih =>
    intro now relies keptNow answer after answered met
    rcases safe now relies keptNow answer after answered met with ⟨allowed, rest⟩
    exact ⟨allowed, fun keptAfter => ih answer (rest keptAfter) keptAfter⟩

theorem Safe.bind {rest : First → Program Thread World Second} {post : Second → World → Prop}
    (safe : program.Safe contract thread (fun result => (rest result).Safe contract thread post)
      world) :
    (program >>= rest).Safe contract thread post world := by
  induction program generalizing world with
  | done => exact safe
  | atomic action next ih =>
    intro now relies keptNow answer after answered met
    rcases safe now relies keptNow answer after answered met with ⟨allowed, restSafe⟩
    exact ⟨allowed, fun keptAfter => ih answer (restSafe keptAfter)⟩

theorem Safe.andThen {rest : First → Program Thread World Second} {middle : First → World → Prop}
    {post : Second → World → Prop} (kept : contract.keeps world)
    (first : program.Safe contract thread middle world)
    (second : ∀ result final, contract.keeps final → middle result final →
      (rest result).Safe contract thread post final) :
    (program >>= rest).Safe contract thread post world :=
  (first.mono kept second).bind

theorem Safe.andThenLifted {Failure : Type} {program : Program Thread World First}
    {rest : First → ExceptT Failure (Program Thread World) Second} {middle : First → World → Prop}
    {post : Except Failure Second → World → Prop} (kept : contract.keeps world)
    (first : program.Safe contract thread middle world)
    (second : ∀ result final, contract.keeps final → middle result final →
      (rest result).run.Safe contract thread post final) :
    ((ExceptT.lift program : ExceptT Failure (Program Thread World) First) >>= rest).run.Safe
      contract thread post world := by
  rw [ExceptT.run_bind]
  apply Safe.bind
  apply Safe.bind
  exact first.mono kept second

theorem Safe.perform {action : Thread → World → List (First × World)} {post : First → World → Prop}
    (safe : ∀ now, contract.Rely thread world now → contract.keeps now →
      Answers (fun answer after =>
      contract.meets now after →
        (after = now ∨ contract.may thread now after) ∧ (contract.keeps after → post answer after))
        (action thread now)) :
    (perform action).Safe contract thread post world :=
  safe

theorem Safe.also {action : Thread → World → List (First × World)}
    {post fact : First → World → Prop} (safe : (Program.perform action).Safe contract thread post
      world)
    (facts : ∀ now, contract.Rely thread world now → contract.keeps now →
      Answers fact (action thread now)) :
    (Program.perform action).Safe contract thread
      (fun answer after => post answer after ∧ fact answer after) world := by
  intro now relies kept answer after answered met
  refine (safe now relies kept answer after answered met).imp_right fun rest keptAfter => ?_
  exact ⟨rest keptAfter, facts now relies kept answer after answered⟩

/-- What others may do to the world before a thread's next action does not make it unsafe. -/
theorem Safe.rely {post : First → World → Prop} {world later : World}
    (relies : contract.Rely thread world later)
    (stablePost : ∀ result, program = done result → post result world → post result later)
    (safe : program.Safe contract thread post world) :
    program.Safe contract thread post later := by
  cases program with
  | done result => exact stablePost result rfl safe
  | atomic =>
    intro now reliesLater
    exact safe now (relies.trans reliesLater)

end Program

namespace Contract

variable {Thread World Request Event : Type} [DecidableEq Thread]

/-- A system that a contract is true of. -/
structure Holds (contract : Contract Thread World) (system : System Thread World Request Event) :
    Prop where
  mayKeeps : ∀ thread before after, contract.keeps before → contract.meets before after →
    contract.may thread before after → contract.keeps after
  happens : ∀ event before after, contract.keeps before → contract.meets before after →
    system.event event before = some after → contract.outside before after ∧ contract.keeps after
  idleMay : ∀ thread other before after, other ≠ thread → contract.keeps before →
    contract.may other before after → contract.idle thread before → contract.idle thread after := by
      exact fun _ _ _ _ _ _ _ _ => trivial
  idleOutside : ∀ thread before after, contract.keeps before → contract.outside before after →
    contract.idle thread before → contract.idle thread after := by
      exact fun _ _ _ _ _ _ => trivial
  crashes : ∀ before after, contract.keeps before → contract.meets before after →
    system.crash before = some after → contract.keeps after ∧ ∀ thread, contract.idle thread after
  serves : ∀ request thread world, contract.keeps world → contract.idle thread world →
    system.admits request world = true → (system.program request).Safe contract thread
    (fun _ _ => True) world

/-- What a run keeps true of a pool: its world's invariant, each thread's safety, and that the
threads not yet used hold nothing. -/
structure Sound (contract : Contract Thread World) (pool : Pool Thread World) : Prop where
  kept : contract.keeps pool.world
  safe : ∀ thread program, pool.threads thread = some program →
    program.Safe contract thread (fun _ _ => True) pool.world
  idle : ∀ thread, pool.threads thread = none → contract.idle thread pool.world

variable {contract : Contract Thread World} {system : System Thread World Request Event}
    {pool : Pool Thread World}

/-- One thread goes on to another program in another world, which leaves the other threads safe. -/
theorem Sound.advance {world : World} {thread : Thread}
    {program : Program Thread World Unit} (sound : contract.Sound pool)
    (kept : contract.keeps world)
    (safe : program.Safe contract thread (fun _ _ => True) world)
    (undisturbed : world = pool.world ∨ ∀ other, other ≠ thread →
        contract.Interferes other pool.world world ∧
        (contract.idle other pool.world → contract.idle other world)) :
    contract.Sound ⟨world, update pool.threads thread (some program)⟩ := by
  refine ⟨kept, ?_, ?_⟩
  · intro other running otherRuns
    by_cases same : other = thread
    · subst same
      simp only [update_self, Option.some.injEq] at otherRuns
      exact otherRuns ▸ safe
    · simp only [update_of_ne same] at otherRuns
      have otherSafe := sound.safe other running otherRuns
      rcases undisturbed with rfl | undisturbed
      · exact otherSafe
      · exact otherSafe.rely (.single (undisturbed other same).1) (fun _ _ _ => trivial)
  · intro other unused
    by_cases same : other = thread
    · subst same
      simp at unused
    simp only [update_of_ne same] at unused
    rcases undisturbed with rfl | undisturbed
    · exact sound.idle other unused
    · exact (undisturbed other same).2 (sound.idle other unused)

namespace Holds

/-- The world of a step comes from the world before by a thread's move, by an event, or by a
crash. -/
def Moves (contract : Contract Thread World) (system : System Thread World Request Event)
    (before after : World) : Prop :=
  after = before ∨ (∃ thread, contract.may thread before after) ∨ contract.outside before after ∨
    system.crash before = some after

variable (holds : contract.Holds system)
include holds

theorem act {world : World} {thread : Thread} {Answer : Type}
    {action : Thread → World → List (Answer × World)} {next : Answer → Program Thread World Unit}
    {answer : Answer}
    (sound : contract.Sound pool) (running : pool.threads thread = some (.atomic action next))
    (answered : (answer, world) ∈ action thread pool.world)
    (met : contract.meets pool.world world) :
    Moves contract system pool.world world ∧
      contract.Sound ⟨world, update pool.threads thread (some (next answer))⟩ := by
  rcases sound.safe thread _ running pool.world .refl sound.kept answer world answered met with
    ⟨unchanged | moved, safe⟩
  · subst unchanged
    exact ⟨.inl rfl, sound.advance sound.kept (safe sound.kept) (.inl rfl)⟩
  have kept := holds.mayKeeps thread _ _ sound.kept met moved
  refine ⟨.inr (.inl ⟨thread, moved⟩), sound.advance kept (safe kept) (.inr ?_)⟩
  intro other different
  exact ⟨⟨sound.kept, kept, met, .inr ⟨thread, different.symm, moved⟩⟩,
    holds.idleMay other thread _ _ different.symm sound.kept moved⟩

theorem step {pool after : Pool Thread World} (choice : Choice Thread Request Event)
    (sound : contract.Sound pool) (stepped : system.step choice pool = some after)
    (met : contract.meets pool.world after.world) :
    Moves contract system pool.world after.world ∧ contract.Sound after := by
  cases system.step_cases stepped with
  | spawn unused admitted =>
    have safe := holds.serves _ _ pool.world sound.kept (sound.idle _ unused) admitted
    exact ⟨.inl rfl, sound.advance sound.kept safe (.inl rfl)⟩
  | act running answered => exact holds.act sound running answered met
  | @happen event world happened =>
    rcases holds.happens event _ _ sound.kept met happened with ⟨outside, kept⟩
    refine ⟨.inr (.inr (.inl outside)), kept, ?_, ?_⟩
    · intro thread program running
      have interferes : contract.Interferes thread pool.world world :=
        ⟨sound.kept, kept, met, .inl outside⟩
      exact (sound.safe thread program running).rely (.single interferes) (fun _ _ _ => trivial)
    · intro thread idle
      exact holds.idleOutside thread _ _ sound.kept outside (sound.idle thread idle)
  | crash crashed =>
    rcases holds.crashes _ _ sound.kept met crashed with ⟨kept, idle⟩
    refine ⟨.inr (.inr (.inr crashed)), kept, ?_, fun thread _ => idle thread⟩
    intro thread program running
    simp [Pool.start] at running

/-- In every interleaving the invariant holds and every thread stays safe. -/
theorem reaches {start : World} (kept : contract.keeps start)
    (idle : ∀ thread, contract.idle thread start)
    (reached : system.Reaches contract.meets start pool)
    : contract.Sound pool := by
  induction reached with
  | start =>
    refine ⟨kept, ?_, fun thread _ => idle thread⟩
    intro thread program running
    simp [Pool.start] at running
  | step choice _ stepped met ih =>
    exact (holds.step choice ih stepped met).2

/-- What every move of the contract preserves holds throughout every run, here one whose steps meet
a stronger condition than the contract asks for. -/
theorem preserved {start : World} {meets : World → World → Prop} {property : World → Prop}
    (stronger : ∀ before after, meets before after → contract.meets before after)
    (kept : contract.keeps start)
    (idle : ∀ thread, contract.idle thread start) (initially : property start)
    (preserves : ∀ before after, contract.keeps before → contract.keeps after → meets before after →
      Moves contract system before after → property before → property after)
    (reached : system.Reaches meets start pool) : property pool.world := by
  induction reached with
  | start => exact initially
  | step choice reached stepped met ih =>
    have sound := holds.reaches kept idle (reached.mono stronger)
    have moved := holds.step choice sound stepped (stronger _ _ met)
    exact preserves _ _ sound.kept moved.2.kept met moved.1 ih

end Holds
end Contract
end Dicer.Concurrency
