import Dicer.Concurrency.Knowledge

namespace Dicer.Concurrency.Calls

/-!
# Calls that may fail

What a call on a system is made of, whatever its world is: looking at the world and changing it, a
step that may fail, going on after a failure, undoing what was done, and holding a lock from one end
to the other.  How these are put together does not depend on what the thread knows, so each has its
rule here.
-/

variable {Thread World Value Failure : Type}

/-- A computation of a thread that ends with a value or fails. -/
abbrev Call (Thread World Failure Value : Type) := ExceptT Failure (Program Thread World) Value

def observe (look : World → Value) : Program Thread World Value :=
  Program.perform fun _ world => [(look world, world)]

def change (effect : World → World) : Program Thread World Unit :=
  Program.perform fun _ world => [((), effect world)]

/-- A step that leaves the world as it is and may fail. -/
def mayFail (failure : Failure) : Call Thread World Failure Unit :=
  Program.perform fun _ world => [(.ok (), world), (.error failure, world)]

/-- A change of the world, or a failure that leaves it as it is. -/
def mayChange (failure : Failure) (effect : World → World) : Call Thread World Failure Unit :=
  Program.perform fun _ world => [(.ok (), effect world), (.error failure, world)]

def attempt (call : Call Thread World Failure Value) :
    Call Thread World Failure (Except Failure Value) :=
  ExceptT.lift call.run

def always (program : Program Thread World Value) : Call Thread World Failure Value :=
  ExceptT.lift program

def returning : Except Failure Value → Call Thread World Failure Value
  | .ok value => pure value
  | .error failure => throw failure

def whenever (condition : Bool) (call : Call Thread World Failure Unit) :
    Call Thread World Failure Unit :=
  if condition then call else pure ()

/-- A call whose failure is only logged. -/
def bestEffort (call : Call Thread World Failure Value) : Program Thread World Unit := do
  let _ ← call.run
  return ()

/-- Run the cleanup if the call fails, and fail as it did. -/
def onError (cleanup : Program Thread World Unit) (call : Call Thread World Failure Value) :
    Call Thread World Failure Value := do
  match ← attempt call with
  | .ok value => return value
  | .error failure =>
    always cleanup
    throw failure

/-- Run the program when the call returns, however it does. -/
def finally_ (finish : Program Thread World Unit) (call : Call Thread World Failure Value) :
    Call Thread World Failure Value := do
  let result ← attempt call
  always finish
  returning result

section

variable {contract : Contract Thread World} {thread : Thread} {Known : Type}
  {knowledge : Knowledge contract thread Known} {known : Known}

theorem observe_ensures {look : World → Value} {post : Value → Known → Prop}
    (looked : ∀ now, contract.keeps now → knowledge.knows known now →
      ∃ later, knowledge.knows later now ∧ post (look now) later) :
    (observe look).Ensures knowledge post known :=
  Program.Ensures.perform fun _ kept knows => .one fun _ => ⟨.inl rfl, fun _ => looked _ kept knows⟩

variable {effect : World → World} {failure : Failure} {call : Call Thread World Failure Value}
  {post : Except Failure Value → Known → Prop}

theorem change_ensures {post : Unit → Known → Prop}
    (changed : ∀ now, contract.keeps now → knowledge.knows known now →
      contract.may thread now (effect now) ∧ ∃ later, knowledge.knows later (effect now) ∧
      post () later) :
    (change effect).Ensures knowledge post known :=
  Program.Ensures.perform fun _ kept knows => .one fun _ =>
    ⟨.inr (changed _ kept knows).1, fun _ => (changed _ kept knows).2⟩

theorem mayFail_ensures {post : Except Failure Unit → Known → Prop} (goes : post (.ok ()) known)
    (fails : post (.error failure) known) :
    (mayFail failure : Call Thread World Failure Unit).run.Ensures knowledge post known :=
  Program.Ensures.perform fun _ _ knows => .two (fun _ => ⟨.inl rfl, fun _ => ⟨known, knows, goes⟩⟩)
    fun _ => ⟨.inl rfl, fun _ => ⟨known, knows, fails⟩⟩

theorem mayChange_ensures {post : Except Failure Unit → Known → Prop}
    (changed : ∀ now, contract.keeps now → knowledge.knows known now →
      contract.may thread now (effect now) ∧ ∃ later, knowledge.knows later (effect now) ∧
      post (.ok ()) later) (fails : post (.error failure) known) :
    (mayChange failure effect : Call Thread World Failure Unit).run.Ensures knowledge post
    known := by
  refine Program.Ensures.perform fun now kept knows => .two (fun _ => ?_) fun _ => ?_
  · exact ⟨.inr (changed _ kept knows).1, fun _ => (changed _ kept knows).2⟩
  · exact ⟨.inl rfl, fun _ => ⟨known, knows, fails⟩⟩

theorem attempt_ensures {post : Except Failure (Except Failure Value) → Known → Prop}
    (ensures : call.run.Ensures knowledge (fun result => post (.ok result)) known) :
    (attempt call).run.Ensures knowledge post known :=
  Program.Ensures.lift ensures

theorem always_ensures {program : Program Thread World Value}
    (ensures : program.Ensures knowledge (fun result => post (.ok result)) known) :
    (always program : Call Thread World Failure Value).run.Ensures knowledge post known :=
  Program.Ensures.lift ensures

theorem returning_ensures {result : Except Failure Value} (returned : post result known) :
    (returning result : Call Thread World Failure Value).run.Ensures knowledge post known := by
  cases result with
  | ok | error => exact Program.Ensures.done returned

theorem bestEffort_ensures {post : Unit → Known → Prop}
    (ensures : call.run.Ensures knowledge (fun _ => post ()) known) :
    (bestEffort call).Ensures knowledge post known := by
  apply Program.Ensures.bind
  exact ensures.mono fun _ _ holds => Program.Ensures.done holds

theorem finally_ensures {finish : Program Thread World Unit}
    (ensures : call.run.Ensures knowledge
      (fun result => finish.Ensures knowledge fun _ => post result) known) :
    (finally_ finish call).run.Ensures knowledge post known := by
  apply Program.Ensures.bindExcept
  apply attempt_ensures
  apply ensures.mono
  intro result later holds
  apply Program.Ensures.bindExcept
  apply always_ensures
  exact Program.Ensures.mono holds fun _ _ finished => returning_ensures finished

/-- Whatever the call returns, the thread knows afterwards what it knew before. -/
def Stays (knowledge : Knowledge contract thread Known) (call : Call Thread World Failure Value)
    (known : Known) : Prop :=
  ∀ post : Except Failure Value → Known → Prop, (∀ result, post result known) →
    call.run.Ensures knowledge post known

namespace Stays

variable {First Second : Type}

theorem bind {call : Call Thread World Failure First}
    {rest : First → Call Thread World Failure Second} (first : Stays knowledge call known)
    (second : ∀ value, Stays knowledge (rest value) known) :
    Stays knowledge (call >>= rest) known := by
  intro post goes
  apply Program.Ensures.bindExcept
  apply first
  intro result
  cases result with
  | ok value => exact second value post goes
  | error => exact goes _

theorem throw : Stays knowledge (MonadExcept.throw failure : Call Thread World Failure First)
    known :=
  fun _ goes => Program.Ensures.done (goes _)

theorem mayFail : Stays knowledge (Calls.mayFail failure) known :=
  fun _ goes => mayFail_ensures (goes _) (goes _)

theorem mayChange (changed : ∀ now, contract.keeps now → knowledge.knows known now →
      contract.may thread now (effect now) ∧ knowledge.knows known (effect now)) :
    Stays knowledge (Calls.mayChange failure effect) known := by
  intro post goes
  apply mayChange_ensures
  · intro now kept knows
    exact ⟨(changed now kept knows).1, known, (changed now kept knows).2, goes _⟩
  · exact goes _

theorem always {program : Program Thread World First}
    (stays : ∀ post : First → Known → Prop, (∀ value, post value known) →
      program.Ensures knowledge post known) :
    Stays knowledge (Calls.always program : Call Thread World Failure First) known :=
  fun _ goes => always_ensures (stays _ fun _ => goes _)

theorem observe {look : World → First} :
    Stays knowledge (Calls.always (Calls.observe look) : Call Thread World Failure First)
    known := by
  apply always
  intro post goes
  apply observe_ensures
  intro now _ knows
  exact ⟨known, knows, goes _⟩

end Stays

end

section

variable {thread : Thread} {world : World} {failure : Failure}
    {post : Except Failure Unit → World → Prop}

theorem leads_mayFail (goes : post (.ok ()) world) (fails : post (.error failure) world) :
    (mayFail failure : Call Thread World Failure Unit).run.Leads thread post world :=
  Program.Leads.perform (.two goes fails)

theorem leads_whenever {condition : Bool} {call : Call Thread World Failure Unit}
    (runs : condition = true → call.run.Leads thread post world)
    (skips : condition = false → post (.ok ()) world) :
    (whenever condition call).run.Leads thread post world := by
  cases condition with
  | true => exact runs rfl
  | false => exact .done (skips rfl)

end

end Dicer.Concurrency.Calls
