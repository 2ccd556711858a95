import Dicer.Concurrency.Knowledge

namespace Dicer.Concurrency

/-!
# A record kept beside the world

What is to be said of a run may need more than the world holds, such as which calls are under way.
A program runs beside a record as it runs alone: its actions see and change the world and leave the
record alone.  Only what is added around it writes the record.
-/

namespace Program

variable {Thread World First Second Failure : Type} (Record : Type)

def beside : Program Thread World First → Program Thread (World × Record) First
  | done result => done result
  | atomic action next =>
    atomic (fun thread both => (action thread both.1).map fun answered =>
      (answered.1, (answered.2, both.2))) fun answer => (next answer).beside

theorem beside_bind (program : Program Thread World First)
    (rest : First → Program Thread World Second) :
    (program >>= rest).beside Record = program.beside Record >>= fun result =>
    (rest result).beside Record := by
  induction program with
  | done => rfl
  | atomic action next ih =>
    rw [atomic_bind, beside, beside, atomic_bind]
    congr 1
    funext answer
    exact ih answer

theorem beside_bindExcept (program : ExceptT Failure (Program Thread World) First)
    (rest : First → ExceptT Failure (Program Thread World) Second) :
    (program >>= rest).run.beside Record = program.run.beside Record >>= fun result =>
    match result with
      | .ok value => (rest value).run.beside Record
      | .error failure => done (.error failure) := by
  rw [ExceptT.run_bind, beside_bind]
  congr 1
  funext result
  cases result with
  | ok | error => rfl

variable {Record} {Known : Type} {contract : Contract Thread (World × Record)} {thread : Thread}
  {knowledge : Knowledge contract thread Known} {known : Known}

theorem Ensures.besidePerform {action : Thread → World → List (First × World)}
    {post : First → Known → Prop} (step : ∀ now record, contract.keeps (now, record) →
      knowledge.knows known (now, record) →
          Answers (fun answer after => ((after, record) = (now, record) ∨
          contract.may thread (now, record) (after, record)) ∧ ∃ later,
          knowledge.knows later (after, record) ∧ post answer later) (action thread now)) :
    ((Program.perform action).beside Record).Ensures knowledge post known := by
  refine Ensures.perform fun (now, record) kept knows => .map fun (answer, after) isGiven _ => ?_
  rcases step now record kept knows answer after isGiven with ⟨allowed, later⟩
  exact ⟨allowed, fun _ => later⟩

theorem Ensures.besideBind {program : Program Thread World First}
    {rest : First → Program Thread World Second} {post : Second → Known → Prop}
      (ensures : (program.beside Record).Ensures knowledge
      (fun result => ((rest result).beside Record).Ensures knowledge post) known) :
    ((program >>= rest).beside Record).Ensures knowledge post known := by
  rw [beside_bind]
  exact Ensures.bind ensures

theorem Ensures.besideBindExcept {program : ExceptT Failure (Program Thread World) First}
    {rest : First → ExceptT Failure (Program Thread World) Second}
    {post : Except Failure Second → Known → Prop}
    (ensures : (program.run.beside Record).Ensures knowledge (fun result later => match result with
      | .ok value => ((rest value).run.beside Record).Ensures knowledge post later
      | .error failure => post (.error failure) later) known) :
    ((program >>= rest).run.beside Record).Ensures knowledge post known := by
  rw [beside_bindExcept]
  apply Ensures.bind
  refine ensures.mono ?_
  intro result later holds
  cases result with
  | ok => exact holds
  | error => exact Ensures.done holds

end Program
end Dicer.Concurrency
