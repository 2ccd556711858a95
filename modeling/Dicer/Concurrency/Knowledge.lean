import Dicer.Concurrency.Safety

namespace Dicer.Concurrency

/-!
# What a thread knows

A thread that holds a lock knows part of the world, because nobody else may change it.  Here this is
made a state of its own: a program is followed through what its thread knows, and only its single
actions are looked at in the world.  What is known has to be stable under what others may do, and
this is shown once.
-/

/-- The states of knowledge of a thread, and when the world is as each of them says. -/
structure Knowledge {Thread World : Type} (contract : Contract Thread World) (thread : Thread)
    (Known : Type) where
  knows : Known → World → Prop
  stable : ∀ known first second, contract.Interferes thread first second → knows known first →
    knows known second

namespace Program

variable {Thread World First Second Known : Type} {contract : Contract Thread World}
  {thread : Thread} {knowledge : Knowledge contract thread Known}

/-- Whatever the world is, as long as the thread knows this much of it, the program is safe, and
what it returns fits what the thread knows afterwards. -/
def Ensures (knowledge : Knowledge contract thread Known) (program : Program Thread World First)
    (post : First → Known → Prop) (known : Known) : Prop :=
  ∀ world, contract.keeps world → knowledge.knows known world → program.Safe contract thread
      (fun result final => ∃ later, knowledge.knows later final ∧ post result later) world

variable {post : First → Known → Prop} {known : Known} {program : Program Thread World First}

theorem Ensures.done {result : First} (holds : post result known)
    : (done result : Program Thread World First).Ensures knowledge post known :=
  fun _ _ knows => ⟨known, knows, holds⟩

theorem Ensures.mono {weaker : First → Known → Prop}
    (ensures : program.Ensures knowledge post known)
    (weakens : ∀ result later, post result later → weaker result later) :
    program.Ensures knowledge weaker known := by
  intro world kept knows
  apply (ensures world kept knows).mono kept
  rintro result final _ ⟨later, knowsLater, holds⟩
  exact ⟨later, knowsLater, weakens result later holds⟩

theorem Ensures.bind {rest : First → Program Thread World Second} {post : Second → Known → Prop}
    (ensures : program.Ensures knowledge (fun result => (rest result).Ensures knowledge post)
      known) :
    (program >>= rest).Ensures knowledge post known := by
  intro world kept knows
  apply (ensures world kept knows).andThen kept
  rintro result final keptFinal ⟨later, knowsLater, holds⟩
  exact holds final keptFinal knowsLater

variable {action : Thread → World → List (First × World)}

/-- An action is looked at in the world as it is when it is performed. -/
theorem Ensures.perform (step : ∀ now, contract.keeps now → knowledge.knows known now →
      Answers (fun answer after => contract.meets now after →
        (after = now ∨ contract.may thread now after) ∧
        (contract.keeps after → ∃ later, knowledge.knows later after ∧ post answer later))
        (action thread now)) :
    (perform action).Ensures knowledge post known := by
  intro world _ knows
  apply Safe.perform
  intro now relies keptNow answer after answered met
  have knowsNow := relies.stable contract (knowledge.stable known) knows
  exact step now keptNow knowsNow answer after answered met

theorem Ensures.given {fact : Prop} (follows : ∀ world, contract.keeps world →
    knowledge.knows known world → fact) (ensures : fact → program.Ensures knowledge post known) :
    program.Ensures knowledge post known :=
  fun world kept knows => ensures (follows world kept knows) world kept knows

variable {Failure : Type} {rest : First → ExceptT Failure (Program Thread World) Second}

theorem Ensures.bindExcept {program : ExceptT Failure (Program Thread World) First}
    {post : Except Failure Second → Known → Prop}
    (ensures : program.run.Ensures knowledge (fun result later => match result with
      | .ok value => (rest value).run.Ensures knowledge post later
      | .error failure => post (.error failure) later) known) :
    (program >>= rest).run.Ensures knowledge post known := by
  rw [ExceptT.run_bind]
  apply Ensures.bind
  apply ensures.mono
  intro result later holds
  cases result with
  | ok => exact holds
  | error => exact Ensures.done holds

theorem Ensures.lift {post : Except Failure First → Known → Prop}
    (ensures : program.Ensures knowledge (fun result => post (.ok result)) known) :
    (ExceptT.lift program : ExceptT Failure (Program Thread World) First).run.Ensures knowledge post
    known := by
  have asBind : (ExceptT.lift program : ExceptT Failure (Program Thread World) First).run =
      program >>= fun result => pure (.ok result) := rfl
  rw [asBind]
  apply Ensures.bind
  exact ensures.mono fun result later holds => Ensures.done holds

/-- Every action of the program, whoever performs it and whatever it answers, is one of these
steps. -/
def Within (allows : World → World → Prop) : Program Thread World First → Prop
  | done _ => True
  | atomic action next =>
    (∀ thread world answer after, (answer, after) ∈ action thread world → allows world after) ∧
      ∀ answer, (next answer).Within allows

namespace Within

variable {allows : World → World → Prop}

theorem perform (steps : ∀ thread world, Answers (fun _ => allows world) (action thread world)) :
    (Program.perform action).Within allows :=
  ⟨steps, fun _ => trivial⟩

theorem bind {rest : First → Program Thread World Second} (within : program.Within allows)
    (goes : ∀ result, (rest result).Within allows) : (program >>= rest).Within allows := by
  induction program with
  | done result => exact goes result
  | atomic action next ih => exact ⟨within.1, fun answer => ih answer (within.2 answer)⟩

theorem bindExcept {program : ExceptT Failure (Program Thread World) First}
    (within : program.run.Within allows) (goes : ∀ value, (rest value).run.Within allows) :
    (program >>= rest).run.Within allows := by
  rw [ExceptT.run_bind]
  refine within.bind ?_
  rintro (failure | value)
  · trivial
  · exact goes value

theorem lift (within : program.Within allows) :
    (ExceptT.lift program : ExceptT Failure (Program Thread World) First).run.Within allows :=
  within.bind fun _ => trivial

theorem mono {weaker : World → World → Prop} (within : program.Within allows)
    (weakens : ∀ before after, allows before after → weaker before after) :
    program.Within weaker := by
  induction program with
  | done => trivial
  | atomic action next ih =>
    exact ⟨fun thread world answer after answered =>
      weakens _ _ (within.1 thread world answer after answered), fun answer =>
        ih answer (within.2 answer)⟩

/-- What a thread knows and none of the steps takes away, it knows when the program returns. -/
theorem ensures (within : program.Within allows)
    (steps : ∀ now after, contract.keeps now → knowledge.knows known now → allows now after →
      (after = now ∨ contract.may thread now after) ∧
      (contract.keeps after → knowledge.knows known after))
    (returned : ∀ result, post result known) : program.Ensures knowledge post known := by
  induction program with
  | done result => exact Ensures.done (returned result)
  | atomic action next ih =>
    have performed : (Program.perform action).Ensures knowledge
        (fun answer => (next answer).Ensures knowledge post) known := by
      apply Ensures.perform
      intro now kept knows answer after answered _
      rcases steps now after kept knows (within.1 thread now answer after answered)
        with ⟨may, knowsAfter⟩
      exact ⟨may, fun keptAfter => ⟨known, knowsAfter keptAfter, ih answer (within.2 answer)⟩⟩
    exact performed.bind

end Within

/-- The same, found from how the program is put together. -/
class Stays (allows : World → World → Prop) (program : Program Thread World First) : Prop where
  within : program.Within allows

namespace Stays

variable {allows : World → World → Prop}

theorem perform (steps : ∀ thread world, Answers (fun _ => allows world) (action thread world)) :
    Stays allows (Program.perform action) :=
  ⟨.perform steps⟩

instance (result : First) : Stays allows (pure result : Program Thread World First) := ⟨trivial⟩

instance {rest : First → Program Thread World Second} [first : Stays allows program]
    [second : ∀ result, Stays allows (rest result)] : Stays allows (program >>= rest) :=
  ⟨first.within.bind fun result => (second result).within⟩

theorem bind {rest : First → Program Thread World Second} [Stays allows program]
    (goes : ∀ result, Stays allows (rest result)) : Stays allows (program >>= rest) :=
  inferInstance

instance {condition : Prop} [Decidable condition] {other : Program Thread World First}
    [whenTrue : Stays allows program] [whenFalse : Stays allows other] :
    Stays allows (if condition then program else other) := by
  split <;> assumption

variable {program other : ExceptT Failure (Program Thread World) First}

instance (value : First) : Stays allows
    (pure value : ExceptT Failure (Program Thread World) First).run := ⟨trivial⟩

instance (failure : Failure) : Stays allows
    (throw failure : ExceptT Failure (Program Thread World) First).run :=
  ⟨trivial⟩

instance [first : Stays allows program.run] [second : ∀ value, Stays allows (rest value).run] :
    Stays allows (program >>= rest).run :=
  ⟨Within.bindExcept first.within fun value => (second value).within⟩

theorem bindExcept [Stays allows program.run] (goes : ∀ value, Stays allows (rest value).run) :
    Stays allows (program >>= rest).run :=
  inferInstance

instance {program : Program Thread World First} [stays : Stays allows program] :
    Stays allows (ExceptT.lift program : ExceptT Failure (Program Thread World) First).run :=
  ⟨stays.within.lift⟩

instance {condition : Prop} [Decidable condition] [whenTrue : Stays allows program.run]
    [whenFalse : Stays allows other.run] :
    Stays allows (if condition then program else other).run := by
  split <;> assumption

end Stays

end Program
end Dicer.Concurrency
