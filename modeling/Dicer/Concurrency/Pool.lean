import Dicer.Concurrency.Program

namespace Dicer.Concurrency

/-!
# Threads on one world

A system answers requests, each with a thread of its own, lets things happen that no thread does,
and may crash: a crash ends every thread and leaves the world as the next start finds it.  A run is
a list of choices of what comes next, so every interleaving is one, and a particular one can be
evaluated.
-/

/-- What can happen: how a request is served, what happens by itself, and what a crash leaves. -/
structure System (Thread World Request Event : Type) where
  program : Request → Program Thread World Unit
  admits : Request → World → Bool
  event : Event → World → Option World
  crash : World → Option World

structure Pool (Thread World : Type) where
  world : World
  threads : Thread → Option (Program Thread World Unit)

inductive Choice (Thread Request Event : Type)
  | spawn (thread : Thread) (request : Request)
  | act (thread : Thread) (answer : Nat)
  | happen (event : Event)
  | crash

/-- The thread a request is given. -/
def Choice.spawned {Thread Request Event : Type} : Choice Thread Request Event → Option Thread
  | .spawn thread _ => some thread
  | _ => none

namespace Pool

variable {Thread World : Type}

def start (world : World) : Pool Thread World where
  world := world
  threads := fun _ => none

/-- The thread has returned. -/
def isOver (pool : Pool Thread World) (thread : Thread) : Bool :=
  match pool.threads thread with
  | some (.done _) => true
  | _ => false

/-- The thread waits for something another has to do. -/
def isStuck (pool : Pool Thread World) (thread : Thread) : Bool :=
  match pool.threads thread with
  | some (.atomic action _) => (action thread pool.world).isEmpty
  | _ => false

end Pool

namespace System

variable {Thread World Request Event : Type} [DecidableEq Thread]
  (system : System Thread World Request Event)

/-- One step of a run.  A thread that has returned stays where it is, so no two requests share a
thread. -/
def step : Choice Thread Request Event → Pool Thread World → Option (Pool Thread World)
  | .spawn thread request, pool =>
    match pool.threads thread with
    | some _ => none
    | none =>
      if system.admits request pool.world then
        some { pool with
          threads := Function.update pool.threads thread (some (system.program request)) }
      else none
  | .act thread answer, pool =>
    match pool.threads thread with
    | some (.atomic action next) =>
      match (action thread pool.world)[answer]? with
      | some (value, world) =>
        some ⟨world, Function.update pool.threads thread (some (next value))⟩
      | none => none
    | _ => none
  | .happen event, pool =>
    (system.event event pool.world).map fun world => { pool with world := world }
  | .crash, pool => (system.crash pool.world).map Pool.start

/-- What a step does, by the choice it is made by. -/
inductive Stepped (pool : Pool Thread World) : Choice Thread Request Event → Pool Thread World →
    Prop
  | spawn {thread : Thread} {request : Request} (unused : pool.threads thread = none)
      (admitted : system.admits request pool.world = true) :
      Stepped pool (.spawn thread request)
        { pool with threads := Function.update pool.threads thread (some (system.program request)) }
  | act {thread : Thread} {index : Nat} {Answer : Type}
      {action : Thread → World → List (Answer × World)} {next : Answer → Program Thread World Unit}
      {value : Answer} {world : World}
      (running : pool.threads thread = some (.atomic action next))
      (answered : (value, world) ∈ action thread pool.world) :
      Stepped pool (.act thread index) ⟨world, Function.update pool.threads thread
      (some (next value))⟩
  | happen {event : Event} {world : World} (happened : system.event event pool.world = some world) :
      Stepped pool (.happen event) { pool with world := world }
  | crash {world : World} (crashed : system.crash pool.world = some world) :
    Stepped pool .crash (.start world)

theorem step_cases {choice : Choice Thread Request Event} {pool after : Pool Thread World}
    (stepped : system.step choice pool = some after) : system.Stepped pool choice after := by
  cases choice with
  | spawn thread =>
    simp only [step] at stepped
    cases unused : pool.threads thread with
    | some => simp [unused] at stepped
    | none =>
      simp only [unused, Option.ite_none_right_eq_some, Option.some.injEq] at stepped
      rcases stepped with ⟨admitted, rfl⟩
      exact .spawn unused admitted
  | act =>
    simp only [step] at stepped
    split at stepped
    case h_2 => nomatch stepped
    case h_1 running =>
      split at stepped
      case h_2 => nomatch stepped
      case h_1 answered => cases stepped; exact .act running (List.mem_of_getElem? answered)
  | happen =>
    rcases Option.map_eq_some_iff.mp stepped with ⟨world, happened, rfl⟩
    exact .happen happened
  | crash =>
    rcases Option.map_eq_some_iff.mp stepped with ⟨world, crashed, rfl⟩
    exact .crash crashed

/-- Follow a schedule, as long as each step meets a condition on the worlds around it. -/
def follow (meets : World → World → Prop) [DecidableRel meets] :
    List (Choice Thread Request Event) → Pool Thread World → Option (Pool Thread World)
  | [], pool => some pool
  | choice :: rest, pool =>
    match system.step choice pool with
    | none => none
    | some after => if meets pool.world after.world then follow meets rest after else none

/-- The pools of the runs from `start` each of whose steps meets a condition on the worlds around
it. -/
inductive Reaches (meets : World → World → Prop) (start : World) : Pool Thread World → Prop
  | start : Reaches meets start (Pool.start start)
  | step {pool after : Pool Thread World} (choice : Choice Thread Request Event) :
      Reaches meets start pool → system.step choice pool = some after →
        meets pool.world after.world → Reaches meets start after

variable {system} {meets : World → World → Prop} {pool : Pool Thread World}

theorem Reaches.mono {weaker : World → World → Prop} {start : World}
    (reached : system.Reaches meets start pool)
    (weakens : ∀ before after, meets before after → weaker before after) :
    system.Reaches weaker start pool := by
  induction reached with
  | start => exact .start
  | step choice _ stepped met ih =>
    exact .step choice ih stepped (weakens _ _ met)

theorem Reaches.follow [DecidableRel meets] {start : World} {after : Pool Thread World}
    (choices : List (Choice Thread Request Event)) (reached : system.Reaches meets start pool)
    (followed : system.follow meets choices pool = some after) :
    system.Reaches meets start after := by
  induction choices generalizing pool with
  | nil =>
    cases followed
    exact reached
  | cons choice rest ih =>
    simp only [System.follow] at followed
    split at followed
    · simp at followed
    rename_i between stepped
    split at followed
    · rename_i met
      exact ih (.step choice reached stepped met) followed
    · simp at followed

variable (system) in
/-- A schedule that can be evaluated shows what pool some run reaches. -/
theorem pool_of_schedule [DecidableRel meets] {start : World} {shows : Pool Thread World → Prop}
    [DecidablePred shows] (choices : List (Choice Thread Request Event))
    (shown : (system.follow meets choices (Pool.start start)).any
      (fun pool => decide (shows pool)) = true) :
    ∃ pool, system.Reaches meets start pool ∧ shows pool := by
  rcases (Option.any_eq_true _ _).mp shown with ⟨pool, followed, shows⟩
  exact ⟨pool, Reaches.start.follow choices followed, of_decide_eq_true shows⟩

variable (system) in
/-- What is known of every run that shows something holds of the run a schedule gives. -/
theorem known_of_schedule [DecidableRel meets] {start : World}
    {shows known : Pool Thread World → Prop} [DecidablePred shows]
    (choices : List (Choice Thread Request Event))
    (shown : (system.follow meets choices (Pool.start start)).any
      (fun pool => decide (shows pool)) = true)
    (known_of : ∀ {pool}, system.Reaches meets start pool → shows pool → known pool) :
    ∃ pool, system.Reaches meets start pool ∧ shows pool ∧ known pool := by
  rcases system.pool_of_schedule choices shown with ⟨pool, reached, shows⟩
  exact ⟨pool, reached, shows, known_of reached shows⟩

variable (system) in
/-- A schedule that can be evaluated shows what some run reaches. -/
theorem reaches_of_schedule (meets : World → World → Prop) [DecidableRel meets] (start : World)
    (shows : World → Prop) [DecidablePred shows] (choices : List (Choice Thread Request Event))
    (shown : (system.follow meets choices (Pool.start start)).any
      (fun pool => decide (shows pool.world)) = true) :
    ∃ pool, system.Reaches meets start pool ∧ shows pool.world :=
  system.pool_of_schedule choices shown

theorem follow_unused [DecidableRel meets] {thread : Thread}
    {choices : List (Choice Thread Request Event)} {after : Pool Thread World}
    (followed : system.follow meets choices pool = some after)
    (unspawned : thread ∉ choices.filterMap Choice.spawned) (unused : pool.threads thread = none) :
    after.threads thread = none := by
  induction choices generalizing pool with
  | nil =>
    cases followed
    exact unused
  | cons choice rest ih =>
    have restUnspawned : thread ∉ rest.filterMap Choice.spawned := fun member =>
      unspawned (List.mem_filterMap.mpr
        ((List.mem_filterMap.mp member).imp fun _ both => ⟨List.mem_cons_of_mem _ both.1, both.2⟩))
    simp only [System.follow] at followed
    split at followed
    · simp at followed
    rename_i between stepped
    split at followed
    case isFalse => simp at followed
    apply ih followed restUnspawned
    cases system.step_cases stepped with
    | @spawn spawned =>
      have different : thread ≠ spawned := fun same => unspawned (by simp [Choice.spawned, same])
      simpa [different] using unused
    | @act acting _ _ _ _ _ _ running =>
      have different : thread ≠ acting := fun same => by simp [← same, unused] at running
      simpa [different] using unused
    | happen => exact unused
    | crash => rfl

variable (system) in
/-- A schedule that can be evaluated shows what some run reaches when every request has been
served. -/
theorem quiet_of_schedule (meets : World → World → Prop) [DecidableRel meets] (start : World)
    (shows : World → Prop) [DecidablePred shows] (choices : List (Choice Thread Request Event))
    (shown : (system.follow meets choices (Pool.start start)).any
      (fun pool => decide (shows pool.world) && (choices.filterMap Choice.spawned).all
      pool.isOver) = true) :
    ∃ pool, system.Reaches meets start pool ∧ shows pool.world ∧
      ∀ thread, pool.threads thread ≠ none → pool.isOver thread = true := by
  rcases (Option.any_eq_true _ _).mp shown with ⟨pool, followed, shows⟩
  simp only [Bool.and_eq_true, decide_eq_true_eq, List.all_eq_true] at shows
  refine ⟨pool, Reaches.start.follow choices followed, shows.1, fun thread used => ?_⟩
  by_contra running
  exact used (follow_unused followed (fun spawned => running (shows.2 thread spawned)) rfl)

end System
end Dicer.Concurrency
