import Dicer.Concurrency.Calls

namespace Dicer.Concurrency.Program

/-!
# Programs cut short

A program whose actions nothing comes between may still not reach its end, because whoever runs it
dies.  What it leaves behind then is the world after some of its actions.  A program is followed
here through every world it passes, so that the same steps say what it returns and what any cut
leaves.
-/

variable {Thread World First Second : Type} {thread : Thread}

/-- The worlds a program can be cut short in: before its first action and after each of its
actions. -/
def passes (thread : Thread) : Program Thread World First → World → List World
  | done _, world => [world]
  | atomic action next, world =>
    world :: (action thread world).flatMap fun answer => (next answer.1).passes thread answer.2

/-- Every world the program passes is of this kind, and what it returns satisfies the
postcondition. -/
def Keeps (thread : Thread) (kind : World → Prop) : Program Thread World First →
    (First → World → Prop) → World → Prop
  | done result, post, world => kind world ∧ post result world
  | atomic action next, post, world =>
    kind world ∧ ∀ answer after, (answer, after) ∈ action thread world →
    (next answer).Keeps thread kind post after

namespace Keeps

variable {kind : World → Prop} {world : World} {program : Program Thread World First}
    {post : First → World → Prop}

theorem passed {cut : World} (keeps : program.Keeps thread kind post world)
    (passing : cut ∈ program.passes thread world) : kind cut := by
  induction program generalizing world with
  | done =>
    obtain rfl := lone passing
    exact keeps.1
  | atomic action next ih =>
    rcases List.mem_cons.mp passing with rfl | later
    · exact keeps.1
    · rcases List.mem_flatMap.mp later with ⟨answer, answered, goesOn⟩
      exact ih answer.1 (keeps.2 answer.1 answer.2 answered) goesOn

theorem leads (keeps : program.Keeps thread kind post world) : program.Leads thread post world := by
  induction program generalizing world with
  | done => exact Leads.done keeps.2
  | atomic action next ih =>
    intro result final member
    rcases List.mem_flatMap.mp member with ⟨answer, answered, goesOn⟩
    exact ih answer.1 (keeps.2 answer.1 answer.2 answered) result final goesOn

theorem perform {action : Thread → World → List (First × World)} (now : kind world)
    (step : Answers (fun answer after => kind after ∧ post answer after) (action thread world)) :
    (Program.perform action).Keeps thread kind post world :=
  ⟨now, step⟩

theorem bind {rest : First → Program Thread World Second} {post : Second → World → Prop}
    (keeps : program.Keeps thread kind (fun result => (rest result).Keeps thread kind post) world) :
    (program >>= rest).Keeps thread kind post world := by
  induction program generalizing world with
  | done => exact keeps.2
  | atomic action next ih =>
    exact ⟨keeps.1, fun answer after answered => ih answer (keeps.2 answer after answered)⟩

theorem mono {weaker : First → World → Prop} (keeps : program.Keeps thread kind post world)
    (weakens : ∀ result final, kind final → post result final → weaker result final) :
    program.Keeps thread kind weaker world := by
  induction program generalizing world with
  | done => exact ⟨keeps.1, weakens _ _ keeps.1 keeps.2⟩
  | atomic action next ih =>
    exact ⟨keeps.1, fun answer after answered => ih answer (keeps.2 answer after answered)⟩

theorem bindExcept {Failure : Type} {program : ExceptT Failure (Program Thread World) First}
    {rest : First → ExceptT Failure (Program Thread World) Second}
    {post : Except Failure Second → World → Prop}
    (keeps : program.run.Keeps thread kind (fun result after => match result with
      | .ok value => (rest value).run.Keeps thread kind post after
      | .error failure => post (.error failure) after) world) :
    (program >>= rest).run.Keeps thread kind post world := by
  rw [ExceptT.run_bind]
  apply bind
  apply keeps.mono
  intro result final now held
  cases result with
  | ok => exact held
  | error => exact ⟨now, held⟩

theorem lift {Failure : Type} {post : Except Failure First → World → Prop}
    (keeps : program.Keeps thread kind (fun result => post (.ok result)) world) :
    (ExceptT.lift program : ExceptT Failure (Program Thread World) First).run.Keeps thread kind post
    world := by
  apply bind
  apply keeps.mono
  intro result final now held
  exact ⟨now, held⟩

variable {Failure : Type} {failure : Failure}

theorem mayFail {post : Except Failure Unit → World → Prop} (now : kind world)
    (goes : post (.ok ()) world) (fails : post (.error failure) world) :
    (Calls.mayFail failure : Calls.Call Thread World Failure Unit).run.Keeps thread kind post
    world :=
  perform now (.two ⟨now, goes⟩ ⟨now, fails⟩)

theorem mayChange {effect : World → World} {post : Except Failure Unit → World → Prop}
    (now : kind world) (changes : kind (effect world)) (goes : post (.ok ()) (effect world))
    (fails : post (.error failure) world) :
    (Calls.mayChange failure effect : Calls.Call Thread World Failure Unit).run.Keeps thread kind
    post world :=
  perform now (.two ⟨changes, goes⟩ ⟨now, fails⟩)

theorem attempt {call : Calls.Call Thread World Failure First} {rest : Except Failure First →
      Calls.Call Thread World Failure Second} {post : Except Failure Second → World → Prop}
    (keeps : call.run.Keeps thread kind (fun result => (rest result).run.Keeps thread kind post)
      world) :
    (Calls.attempt call >>= rest).run.Keeps thread kind post world :=
  bindExcept (lift keeps)

theorem onError {cleanup : Program Thread World Unit} {call : Calls.Call Thread World Failure First}
    {post : Except Failure First → World → Prop}
    (keeps : call.run.Keeps thread kind (fun result after => match result with
      | .ok value => post (.ok value) after
      | .error failure => cleanup.Keeps thread kind (fun _ => post (.error failure)) after) world) :
    (Calls.onError cleanup call).run.Keeps thread kind post world := by
  apply attempt
  apply keeps.mono
  intro result final now held
  cases result with
  | ok => exact ⟨now, held⟩
  | error =>
    apply bindExcept
    apply lift
    apply held.mono
    intro _ last now failed
    exact ⟨now, failed⟩

end Keeps
end Dicer.Concurrency.Program
