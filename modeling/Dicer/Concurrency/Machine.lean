namespace Dicer.Concurrency.Machine

/-!
# Machines

What several goroutines do may be written as one machine, whose actions are what they do between
them without another coming between.  Its runs are followed from a state it starts in, and may be
asked to meet a condition at each step.
-/

variable {State Action : Type}

section

variable (step : State → Action → Option State) (meets : State → Action → State → Bool)
    (start : State)

/-- The states that runs reach whose steps all meet a condition. -/
inductive Reached : State → Prop
  | start : Reached start
  | step {before after : State} {action : Action} (reached : Reached before)
      (stepped : step before action = some after) (met : meets before action after = true) :
      Reached after

/-- Follow a schedule. -/
def follow : List Action → State → Option State
  | [], state => some state
  | action :: rest, state =>
    match step state action with
    | some after => if meets state action after then follow rest after else none
    | none => none

end

variable {step : State → Action → Option State} {meets : State → Action → State → Bool}
    {start : State}

theorem Reached.follow {actions : List Action} {before after : State}
    (reached : Reached step meets start before)
    (followed : Machine.follow step meets actions before = some after) :
    Reached step meets start after := by
  induction actions generalizing before with
  | nil => exact Option.some.inj followed ▸ reached
  | cons action rest ih =>
    simp only [Machine.follow] at followed
    split at followed
    · rename_i next stepped
      split at followed
      · exact ih (reached.step stepped ‹_›) followed
      · simp at followed
    · simp at followed

end Dicer.Concurrency.Machine
