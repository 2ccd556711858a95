import Mathlib.Logic.Function.Basic

namespace Dicer.Concurrency

/-!
# Programs made of atomic actions

A thread is the sequence of atomic actions it still has to perform on a shared world.  An action may
answer in several ways (a file operation that succeeds or fails), and it may have no answer at all
in the current world, in which case the thread waits: this is how a lock held by another thread
blocks.

Between two actions of one thread the other threads may do anything they can, so the size of the
actions is the whole content of a model written this way.
-/

/-- The answer of an action that has only one. -/
theorem lone {Answer : Type*} {answer only : Answer} (answered : answer ∈ [only]) : answer = only :=
  List.mem_singleton.mp answered

variable {First Second : Type*}

theorem sole {answer only : First} {after then_ : Second}
    (answered : (answer, after) ∈ [(only, then_)]) : answer = only ∧ after = then_ :=
  Prod.mk.inj (lone answered)

/-- The answer of an action that has two. -/
theorem either {answer one other : First} {after then_ else_ : Second}
    (answered : (answer, after) ∈ [(one, then_), (other, else_)]) :
    (answer = one ∧ after = then_) ∨ (answer = other ∧ after = else_) := by
  simpa only [List.mem_cons, Prod.mk.injEq, List.not_mem_nil, or_false] using answered

/-- The answer of an action that has three. -/
theorem oneOf {answer one other third : First} {after then_ else_ last : Second}
    (answered : (answer, after) ∈ [(one, then_), (other, else_), (third, last)]) :
    (answer = one ∧ after = then_) ∨ (answer = other ∧ after = else_) ∨
    (answer = third ∧ after = last) := by
  simpa only [List.mem_cons, Prod.mk.injEq, List.not_mem_nil, or_false] using answered

/-- Each answer of an action is as said, with the world it leaves. -/
def Answers (holds : First → Second → Prop) (outcomes : List (First × Second)) : Prop :=
  ∀ answer after, (answer, after) ∈ outcomes → holds answer after

namespace Answers

variable {holds : First → Second → Prop} {answer other third : First} {after then_ last : Second}
  {outcomes more : List (First × Second)}

theorem none : Answers holds [] := nofun

theorem cons (first : holds answer after) (rest : Answers holds outcomes) :
    Answers holds ((answer, after) :: outcomes) := by
  intro given left answered
  rcases List.mem_cons.mp answered with same | later
  · cases same
    exact first
  · exact rest given left later

theorem one (only : holds answer after) : Answers holds [(answer, after)] := cons only none

theorem two (first : holds answer after) (second : holds other then_) :
    Answers holds [(answer, after), (other, then_)] :=
  cons first (one second)

theorem three (first : holds answer after) (second : holds other then_) (rest : holds third last) :
    Answers holds [(answer, after), (other, then_), (third, last)] :=
  cons first (two second rest)

theorem map {Item : Type*} {items : List Item} {outcome : Item → First × Second}
    (each : ∀ item ∈ items, holds (outcome item).1 (outcome item).2) :
    Answers holds (items.map outcome) := by
  intro given left answered
  rcases List.mem_map.mp answered with ⟨item, member, same⟩
  have held := each item member
  rwa [same] at held

theorem append (first : Answers holds outcomes) (rest : Answers holds more) :
    Answers holds (outcomes ++ more) :=
  fun given left answered => (List.mem_append.mp answered).elim (first given left) (rest given left)

end Answers

/-- What a thread still has to do before it returns a result. -/
inductive Program (Thread World Result : Type) : Type 1
  | done (result : Result)
  | atomic {Answer : Type} (action : Thread → World → List (Answer × World))
      (next : Answer → Program Thread World Result)

namespace Program

variable {Thread World First Second : Type}

def bind : Program Thread World First → (First → Program Thread World Second) →
    Program Thread World Second
  | done result, rest => rest result
  | atomic action next, rest => atomic action fun answer => (next answer).bind rest

instance : Monad (Program Thread World) where
  pure := done
  bind := bind

@[simp] theorem pure_eq_done (result : First) :
    (pure result : Program Thread World First) = done result :=
  rfl

@[simp] theorem done_bind (result : First) (rest : First → Program Thread World Second) :
    (done result >>= rest) = rest result :=
  rfl

@[simp] theorem atomic_bind {Answer : Type} (action : Thread → World → List (Answer × World))
    (next : Answer → Program Thread World First) (rest : First → Program Thread World Second) :
    (atomic action next >>= rest) = atomic action fun answer => next answer >>= rest :=
  rfl

/-- The program of a single action. -/
def perform (action : Thread → World → List (First × World)) : Program Thread World First :=
  atomic action done

/-! ## Running a program alone -/

/-- The results and final worlds of a program whose actions nothing comes between. -/
def outcomes (thread : Thread) : Program Thread World First → World → List (First × World)
  | done result, world => [(result, world)]
  | atomic action next, world =>
    (action thread world).flatMap fun answer => (next answer.1).outcomes thread answer.2

variable {program : Program Thread World First} {Failure : Type}
  {rest : First → ExceptT Failure (Program Thread World) Second} {post : First → World → Prop}

theorem mem_outcomes_bind {thread : Thread} {rest : First → Program Thread World Second}
    {world final : World} {result : Second} :
    (result, final) ∈ (program >>= rest).outcomes thread world ↔
      ∃ middle between, (middle, between) ∈ program.outcomes thread world ∧
        (result, final) ∈ (rest middle).outcomes thread between := by
  induction program generalizing world with
  | done value =>
    simp only [done_bind, outcomes, List.mem_singleton, Prod.mk.injEq]
    constructor
    · intro member
      exact ⟨value, world, ⟨rfl, rfl⟩, member⟩
    · rintro ⟨middle, between, ⟨rfl, rfl⟩, member⟩
      exact member
  | atomic action next ih =>
    simp only [atomic_bind, outcomes, List.mem_flatMap, Prod.exists, ih]
    constructor
    · rintro ⟨answer, after, performed, middle, between, first, second⟩
      exact ⟨middle, between, ⟨answer, after, performed, first⟩, second⟩
    · rintro ⟨middle, between, ⟨answer, after, performed, first⟩, second⟩
      exact ⟨answer, after, performed, middle, between, first, second⟩

/-- A computation that may fail ends with its failure, or goes on with the rest. -/
theorem mem_outcomes_bindExcept {thread : Thread}
    {program : ExceptT Failure (Program Thread World) First} {world final : World}
    {result : Except Failure Second} :
    (result, final) ∈ (program >>= rest).run.outcomes thread world ↔
      (∃ failure, result = .error failure ∧ (.error failure, final) ∈ program.run.outcomes thread
        world) ∨ ∃ value between, (.ok value, between) ∈ program.run.outcomes thread world ∧
          (result, final) ∈ (rest value).run.outcomes thread between := by
  rw [ExceptT.run_bind, mem_outcomes_bind]
  constructor
  · rintro ⟨value | value, between, first, second⟩
    · simp only [pure_eq_done, outcomes, List.mem_singleton, Prod.mk.injEq] at second
      exact .inl ⟨value, second.1, second.2 ▸ first⟩
    · exact .inr ⟨value, between, first, second⟩
  · rintro (⟨failure, rfl, first⟩ | ⟨value, between, first, second⟩)
    · exact ⟨.error failure, final, first, List.mem_singleton.mpr rfl⟩
    · exact ⟨.ok value, between, first, second⟩

/-- A program that cannot fail goes on with the rest. -/
theorem mem_outcomes_lifted {thread : Thread} {world between final : World} {value : First}
    {result : Except Failure Second} (first : (value, between) ∈ program.outcomes thread world)
    (second : (result, final) ∈ (rest value).run.outcomes thread between) :
    (result, final) ∈ ((ExceptT.lift program : ExceptT Failure (Program Thread World) First) >>=
      rest).run.outcomes thread world :=
  mem_outcomes_bindExcept.mpr (.inr ⟨value, between,
    mem_outcomes_bind.mpr ⟨value, between, first, List.mem_singleton.mpr rfl⟩, second⟩)

@[simp] theorem outcomes_perform (thread : Thread)
    (action : Thread → World → List (First × World)) (world : World) :
    (perform action).outcomes thread world = action thread world := by
  simp [perform, outcomes]

/-- Whatever a program returns when nothing comes between its actions satisfies the
postcondition. -/
def Leads (thread : Thread) (program : Program Thread World First) (post : First → World → Prop)
    (world : World) : Prop :=
  ∀ result final, (result, final) ∈ program.outcomes thread world → post result final

variable {thread : Thread} {world : World}

theorem Leads.done {result : First} (holds : post result world) :
    (done result : Program Thread World First).Leads thread post world := by
  intro same final member
  cases lone member
  exact holds

theorem Leads.mono {weaker : First → World → Prop} (leads : program.Leads thread post world)
    (weakens : ∀ result final, post result final → weaker result final) :
    program.Leads thread weaker world :=
  fun result final member => weakens result final (leads result final member)

theorem Leads.perform {action : Thread → World → List (First × World)}
    (step : Answers post (action thread world)) :
    (Program.perform action).Leads thread post world := by
  intro answer after member
  exact step answer after (by simpa using member)

theorem Leads.acts {action : Thread → World → List (First × World)} {answer : First} {after : World}
    (only : action thread world = [(answer, after)]) (holds : post answer after) :
    (Program.perform action).Leads thread post world := by
  apply Leads.perform
  rw [only]
  intro same final member
  cases lone member
  exact holds

theorem Leads.answers {action : Thread → World → List (First × World)}
    (leads : (Program.perform action).Leads thread post world) {answer : First} {after : World}
    (answered : (answer, after) ∈ action thread world) : post answer after :=
  leads answer after (by simpa using answered)

theorem Leads.bind {rest : First → Program Thread World Second} {post : Second → World → Prop}
    (leads : program.Leads thread (fun result => (rest result).Leads thread post) world) :
    (program >>= rest).Leads thread post world := by
  intro result final member
  rcases mem_outcomes_bind.mp member with ⟨middle, between, first, second⟩
  exact leads middle between first result final second

variable {post : Except Failure Second → World → Prop}

theorem Leads.bindExcept {program : ExceptT Failure (Program Thread World) First}
    (leads : program.run.Leads thread (fun result after => match result with
      | .ok value => (rest value).run.Leads thread post after
      | .error failure => post (.error failure) after) world) :
      (program >>= rest).run.Leads thread post world := by
  intro result final member
  rcases mem_outcomes_bindExcept.mp member with ⟨failure, rfl, failed⟩ |
    ⟨value, between, first, second⟩
  · exact leads _ _ failed
  · exact leads _ _ first result final second

theorem Leads.lift {post : Except Failure First → World → Prop}
    (leads : program.Leads thread (fun result => post (.ok result)) world) :
    (ExceptT.lift program : ExceptT Failure (Program Thread World) First).run.Leads thread post
    world := by
  apply Leads.bind
  intro result final member
  exact Leads.done (leads result final member)

theorem Leads.lifted (leads : program.Leads thread
    (fun result => (rest result).run.Leads thread post) world) :
    ((ExceptT.lift program : ExceptT Failure (Program Thread World) First) >>= rest).run.Leads
    thread post
      world := by
  apply Leads.bindExcept
  apply Leads.lift
  exact leads

theorem Leads.map {wrap : First → Second} {program : ExceptT Failure (Program Thread World) First}
    (leads : program.run.Leads thread (fun result => post (wrap <$> result)) world) :
    (wrap <$> program).run.Leads thread post world := by
  apply Leads.bindExcept
  refine leads.mono fun result after holds => ?_
  cases result with
  | ok => exact Leads.done holds
  | error => exact holds

end Program
end Dicer.Concurrency
