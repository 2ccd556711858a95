import Dicer.Instance.View

namespace Dicer.Instance

open Concurrency
open Program (Ensures)

/-!
# Waiting for a stop

A wait holds no lock.  What its thread knows is how far it is: its waiter's phase changes only by
its own steps, whatever the others do to the instance, and whoever tells the waiter of a stop leaves
the phase alone.
-/

/-- What a waiter was made with, and how far it is. -/
def Waiter.track (waiter : Waiter) : Spec × Bool × WaitPhase :=
  (waiter.spec, waiter.nextStop, waiter.phase)

/-- The waiters of a thread. -/
def World.tracks (world : World) (thread : Nat) : List (Spec × Bool × WaitPhase) :=
  (world.waiters.filter fun waiter => waiter.thread = thread).map Waiter.track

variable {waiter : Waiter}

namespace Waiter

variable (id : String)

theorem stir_thread (state : State) (waiter : Waiter) :
    (waiter.stir id state).thread = waiter.thread := by
  unfold stir
  split <;> rfl

theorem hear_thread (waiter : Waiter) : (waiter.hear id).thread = waiter.thread := by
  unfold hear
  split <;> rfl

theorem enter_thread (thread : Nat) (phase : WaitPhase) (waiter : Waiter) :
    (waiter.enter thread phase).thread = waiter.thread := by
  unfold enter
  split <;> rfl

theorem stir_track (state : State) (waiter : Waiter) :
    (waiter.stir id state).track = waiter.track := by
  unfold stir
  split <;> rfl

theorem hear_track (waiter : Waiter) : (waiter.hear id).track = waiter.track := by
  unfold hear
  split <;> rfl

theorem enter_of_ne {thread : Nat} (different : waiter.thread ≠ thread) (phase : WaitPhase) :
    waiter.enter thread phase = waiter := by
  simp [enter, different]

theorem enter_own {thread : Nat} (own : waiter.thread = thread) (phase : WaitPhase) :
    waiter.enter thread phase = { waiter with phase := phase } := by
  simp [enter, own]

end Waiter

variable {after : World}

namespace World

variable {world : World} {thread : Nat}

theorem mem_tracks (member : waiter ∈ world.waiters) (own : waiter.thread = thread) :
    waiter.track ∈ world.tracks thread :=
  List.mem_map_of_mem (List.mem_filter.mpr ⟨member, by simpa using own⟩)

theorem tracks_of_map {step : Waiter → Waiter} (stepped : after.waiters = world.waiters.map step)
    (threads : ∀ waiter, (step waiter).thread = waiter.thread)
    (tracks : ∀ waiter, waiter.thread = thread → (step waiter).track = waiter.track) :
    after.tracks thread = world.tracks thread := by
  have sameOwn : (fun waiter : Waiter => decide (waiter.thread = thread)) ∘ step =
      fun waiter => decide (waiter.thread = thread) := by
    funext waiter
    simp [threads]
  unfold World.tracks
  rw [stepped, List.filter_map, List.map_map, sameOwn]
  apply List.map_congr_left
  intro waiter member
  exact tracks waiter (by simpa using (List.mem_filter.mp member).2)

end World

/-- Where a thread is in its wait is up to itself. -/
theorem Move.tracks_kept {thread mover : Nat} {world : World} (move : Move mover world after)
    (different : mover ≠ thread) : after.tracks thread = world.tracks thread := by
  have entered : ∀ phase, (world.waits mover phase).tracks thread = world.tracks thread := by
    intro phase
    refine World.tracks_of_map rfl (Waiter.enter_thread mover phase) fun waiter own => ?_
    rw [Waiter.enter_of_ne (own.trans_ne (Ne.symm different))]
  cases move with
  | quiet alike => simp only [World.tracks, alike.waiters]
  | wrote id | statusRemoved id =>
    exact World.tracks_of_map rfl (Waiter.stir_thread id _) fun waiter _ => waiter.stir_track id _
  | notified id => exact World.tracks_of_map rfl (Waiter.hear_thread id) fun waiter _ => waiter.hear_track id
  | readWaiting | lookedWaiting | beganWaiting | returnedWaiting => exact entered _
  | madeWaiter => simp [World.tracks, World.newWaiter, different]
  | _ => rfl

theorem Idle.kept {thread mover : Nat} {world : World} (idle : Idle thread world)
    (move : Move mover world after) (different : mover ≠ thread) : Idle thread after where
  empty := idle.empty.kept move different
  unwaiting := by
    have none : world.tracks thread = [] := by simpa [World.tracks] using idle.unwaiting
    have noneNow := (move.tracks_kept different).trans none
    simpa [World.tracks] using noneNow

theorem Idle.happened {thread : Nat} {world : World} (idle : Idle thread world) {event : Event}
    (happened : world.happen event = some after) : Idle thread after where
  empty := idle.empty.happened happened
  unwaiting := by
    rcases World.happen_keeps happened with ⟨vmms, runs, status, rfl, _⟩
    exact idle.unwaiting

/-- How far a thread is that waits: the instances it looked up, and its waiter once it has one. -/
structure Wait where
  known : List String
  made : Option (Spec × Bool × WaitPhase)

structure Waits (thread : Nat) (wait : Wait) (world : World) : Prop where
  serving : world.stage = .serving
  known : ∀ id ∈ wait.known, id ∈ world.issued
  own : world.tracks thread = wait.made.toList

def whileWaiting (thread : Nat) : Knowledge contract thread Wait where
  knows := Waits thread
  stable := by
    rintro wait first second ⟨_, _, _, ⟨event, happened⟩ | ⟨other, different, move⟩⟩ waits
    · rcases World.happen_keeps happened with ⟨vmms, runs, status, rfl, _⟩
      exact { waits with }
    refine ⟨?_, fun id known => move.issued_mono (waits.known id known), ?_⟩
    · rcases move.stage_kept with same | ⟨loading, _⟩ | ⟨_, now⟩
      · exact same.trans waits.serving
      · simp [waits.serving] at loading
      · exact now
    · exact (move.tracks_kept different).trans waits.own

namespace Waits

variable {thread : Nat} {wait : Wait} {world : World} {spec : Spec} {nextStop : Bool}
    {phase : WaitPhase}

theorem track (waits : Waits thread wait world) (made : wait.made = some (spec, nextStop, phase))
    (member : waiter ∈ world.waiters) (own : waiter.thread = thread) :
    waiter.spec = spec ∧ waiter.nextStop = nextStop ∧ waiter.phase = phase := by
  have listed := World.mem_tracks member own
  rw [waits.own, made] at listed
  simpa [Waiter.track] using listed

theorem unique (waits : Waits thread wait world) {first second : Waiter}
    (firstMember : first ∈ world.waiters) (firstOwn : first.thread = thread)
    (secondMember : second ∈ world.waiters)
    (secondOwn : second.thread = thread) : first = second := by
  have few : (world.waiters.filter fun waiter => waiter.thread = thread).length ≤ 1 := by
    rw [← List.length_map (f := Waiter.track)]
    exact (congrArg List.length waits.own).trans_le (by cases wait.made <;> simp)
  have firstIn : first ∈ world.waiters.filter fun waiter => waiter.thread = thread := by
    simp [firstMember, firstOwn]
  have secondIn : second ∈ world.waiters.filter fun waiter => waiter.thread = thread := by
    simp [secondMember, secondOwn]
  cases listed : world.waiters.filter fun waiter => waiter.thread = thread with
  | nil => simp [listed] at firstIn
  | cons only rest =>
    rw [listed] at few firstIn secondIn
    obtain rfl : rest = [] := by simpa using few
    exact (List.mem_singleton.mp firstIn).trans (List.mem_singleton.mp secondIn).symm

theorem entered (waits : Waits thread wait world) (made : wait.made = some (spec, nextStop, phase))
    (next : WaitPhase) : Waits thread { wait with made := some (spec, nextStop, next) }
    (world.waits thread next) := by
  refine ⟨waits.serving, waits.known, ?_⟩
  have sameOwn : (fun waiter : Waiter => decide (waiter.thread = thread)) ∘ Waiter.enter thread
      next = fun waiter => decide (waiter.thread = thread) := by
    funext waiter
    simp [Waiter.enter_thread]
  have moved : (world.waits thread next).tracks thread =
      (world.tracks thread).map fun track => (track.1, track.2.1, next) := by
    unfold World.tracks World.waits
    rw [List.filter_map, List.map_map, sameOwn, List.map_map]
    apply List.map_congr_left
    intro waiter member
    have own : waiter.thread = thread := by simpa using (List.mem_filter.mp member).2
    simp [Waiter.enter_own own, Waiter.track]
  rw [moved, waits.own, made]
  rfl

end Waits

/-! ## The wait, step by step -/

section

variable {thread : Nat} {waiting : Wait} {spec : Spec} {nextStop : Bool} {phase : WaitPhase}

theorem storeInstance_waits {nameOrID : String} {post : Except Err Spec → Wait → Prop}
    (found : ∀ spec, post (.ok spec) { waiting with known := spec.id :: waiting.known })
    (missing : ∀ error, post (.error error) waiting) :
    (storeInstance nameOrID).run.Ensures (whileWaiting thread) post waiting := by
  refine Ensures.perform fun now sane waits => ?_
  split
  · rename_i spec looked
    refine .one fun _ => ⟨.inl rfl, fun _ => ⟨{ waiting with known := spec.id :: waiting.known },
      ⟨waits.serving, List.forall_mem_cons.mpr ⟨?_, waits.known⟩, waits.own⟩, found spec⟩⟩
    exact sane.filed.issued spec (sane.filed.coherent.lookup_eq_some.mp looked).1
  · exact .one fun _ => ⟨.inl rfl, fun _ => ⟨_, waits, missing _⟩⟩

variable {post : Unit → Wait → Prop}

theorem makeWaiter_waits (known : spec.id ∈ waiting.known) (unmade : waiting.made = none)
    (returned : post () { waiting with made := some (spec, nextStop, .made) }) :
    (makeWaiter spec nextStop).Ensures (whileWaiting thread) post waiting := by
  refine Ensures.perform fun now _ waits => .one fun _ =>
    ⟨.inr (.madeWaiter spec nextStop (waits.known _ known) waits.serving), fun _ =>
      ⟨_, ?_, returned⟩⟩
  refine ⟨waits.serving, waits.known, ?_⟩
  have none : now.tracks thread = [] := by rw [waits.own, unmade]; rfl
  simpa [World.tracks, World.newWaiter, Waiter.track] using none

theorem readStatusWaiting_waits {post : Status → Wait → Prop}
    (made : waiting.made = some (spec, false, .made))
    (up : ∀ status, status.state.isDown = false →
      post status { waiting with made := some (spec, false, .sawUp) })
    (down : ∀ status, status.state.isDown = true →
      post status { waiting with made := some (spec, false, .sawDown) }) :
    (readStatusWaiting spec.id).Ensures (whileWaiting thread) post waiting := by
  refine Ensures.perform fun now _ waits => .one fun _ =>
    ⟨.inr (.readWaiting spec.id ?_), fun _ => ⟨_, waits.entered made _, ?_⟩⟩
  · intro waiter member own
    rcases waits.track made member own with ⟨same, notNext, isMade⟩
    exact ⟨same ▸ rfl, isMade, notNext⟩
  · split
    · rename_i isDown
      exact down _ isDown
    · rename_i isUp
      exact up _ (by simpa using isUp)

theorem onStandbyWaiting_waits {post : Bool → Wait → Prop}
    (made : waiting.made = some (spec, nextStop, .sawDown))
    (frozen : post true { waiting with made := some (spec, nextStop, .sawFrozen) })
    (bare : post false { waiting with made := some (spec, nextStop, .sawStopped) }) :
    (onStandbyWaiting spec).Ensures (whileWaiting thread) post waiting := by
  refine Ensures.perform fun now _ waits => .one fun _ =>
    ⟨.inr (.lookedWaiting spec ?_), fun _ => ⟨_, waits.entered made _, ?_⟩⟩
  · intro waiter member own
    rcases waits.track made member own with ⟨same, _, sawDown⟩
    exact ⟨same, sawDown⟩
  · cases (now.dirs spec.name).standby.isSome with
    | true => exact frozen
    | false => exact bare

theorem returnStatus_waits (made : waiting.made = some (spec, nextStop, .sawStopped))
    (returned : post () { waiting with made := some (spec, nextStop, .returned) }) :
    returnStatus.Ensures (whileWaiting thread) post waiting := by
  refine Ensures.perform fun now _ waits => .one fun _ =>
    ⟨.inr (.returnedWaiting ?_), fun _ => ⟨_, waits.entered made _, returned⟩⟩
  exact fun waiter member own => .inr (waits.track made member own).2.2

theorem receive_waits (made : waiting.made = some (spec, nextStop, phase))
    (may : phase = .made ∧ nextStop = true ∨ phase ∈ [.sawUp, .sawFrozen])
    (returned : post () { waiting with made := some (spec, nextStop, .returned) }) :
    wait.receive.Ensures (whileWaiting thread) post waiting := by
  apply Ensures.bind
  refine Ensures.perform fun now _ waits => .one fun _ =>
    ⟨.inr (.beganWaiting ?_), fun _ => ⟨_, waits.entered made _, ?_⟩⟩
  · intro waiter member own
    rcases waits.track made member own with ⟨_, rfl, rfl⟩
    exact may
  refine Ensures.perform fun now _ waits => ?_
  split
  · rename_i told
    rcases List.any_eq_true.mp told with ⟨heard, heardMember, isHeard⟩
    have isHeard : heard.thread = thread ∧ heard.heard = true := by simpa using isHeard
    refine .one fun _ => ⟨.inr (.returnedWaiting ?_), fun _ => ⟨_, waits.entered rfl _, returned⟩⟩
    intro waiter member own
    exact .inl (waits.unique heardMember isHeard.1 member own ▸ isHeard.2)
  · exact .none

theorem wait_waits {post : Except Err Unit → Wait → Prop}
    (made : waiting.made = some (spec, nextStop, .made))
    (returned : post (.ok ()) { waiting with made := some (spec, nextStop, .returned) }) :
    (wait nextStop spec).run.Ensures (whileWaiting thread) post waiting := by
  cases nextStop with
  | true => exact always_ensures (receive_waits made (.inl ⟨rfl, rfl⟩) returned)
  | false =>
    apply Ensures.bindExcept
    apply always_ensures
    apply Ensures.bind
    refine readStatusWaiting_waits made (fun status up => ?_) (fun status down => ?_)
    · rw [if_neg (by simp [up])]
      refine Ensures.done ?_
      dsimp only
      rw [if_neg (by simp [up])]
      exact always_ensures (receive_waits rfl (.inr (by simp)) returned)
    · rw [if_pos down]
      apply Ensures.bind
      refine onStandbyWaiting_waits rfl ?_ ?_
      · refine Ensures.done ?_
        exact always_ensures (receive_waits rfl (.inr (by simp)) returned)
      refine Ensures.done ?_
      dsimp only
      rw [if_pos down]
      exact always_ensures (returnStatus_waits rfl returned)

theorem waitForStop_waits {nameOrID : String} {id : Option String}
    {post : Except Err Unit → Wait → Prop} (unmade : waiting.made = none)
    (returned : ∀ result later, post result later) :
    (waitForStop nameOrID id nextStop).run.Ensures (whileWaiting thread) post waiting := by
  apply Ensures.bindExcept
  refine storeInstance_waits (fun spec => ?_) (fun error => returned _ _)
  dsimp only
  split
  · exact throw_ensures (returned _ _)
  apply Ensures.bindExcept
  apply always_ensures
  refine makeWaiter_waits (by simp) unmade ?_
  exact wait_waits rfl (returned _ _)

end

end Dicer.Instance
