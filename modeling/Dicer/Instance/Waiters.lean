import Dicer.Concurrency.Serving
import Dicer.Instance.Runs

namespace Dicer.Instance

open Concurrency

/-!
# Waiters and who waits

What a move does to a waiter is said once here, whoever makes it.  And the thread that waits is
followed: what it has still to do is known from how far its waiter is, so whether it can go on is
known from the world alone.
-/

/-- What a wait has still to do, by whether its waiter is made and how far it is. -/
inductive Left (nameOrID : String) (id : Option String) (nextStop : Bool) :
    Option (Spec × Bool × WaitPhase) → Op Unit → Prop
  | begins : Left nameOrID id nextStop none
    ((waitForStop nameOrID id nextStop).run >>= fun _ => pure ())
  | refused : Left nameOrID id nextStop none (pure ())
  | makes (spec : Spec) : Left nameOrID id nextStop none
      ((do always (makeWaiter spec nextStop); wait nextStop spec : Call Unit).run >>= fun _ =>
      pure ())
  | made (spec : Spec) : Left nameOrID id nextStop (some (spec, nextStop, .made))
      ((wait nextStop spec).run >>= fun _ => pure ())
  | sawDown (spec : Spec) (status : Status) (down : status.state.isDown = true)
      (looks : nextStop = false) : Left nameOrID id nextStop (some (spec, nextStop, .sawDown))
        ((do
          let status ← always (do
            if ← onStandbyWaiting spec then return { status with state := .standby }
            else return status)
          if status.state.isDown then always returnStatus else always wait.receive : Call Unit).run
          >>=
          fun _ => pure ())
  | receives (spec : Spec) (phase : WaitPhase) (saw : phase ∈ [.sawUp, .sawFrozen]) :
      Left nameOrID id nextStop (some (spec, nextStop, phase))
      ((always wait.receive).run >>= fun _ => pure ())
  | sawStopped (spec : Spec) : Left nameOrID id nextStop (some (spec, nextStop, .sawStopped))
      ((always returnStatus).run >>= fun _ => pure ())
  | waiting (spec : Spec) : Left nameOrID id nextStop (some (spec, nextStop, .waiting))
      ((always receiveStop).run >>= fun _ => pure ())
  | returned (spec : Spec) : Left nameOrID id nextStop (some (spec, nextStop, .returned)) (pure ())

/-- Where a waiting thread is, as the world has it. -/
def Follows (thread : Nat) (nameOrID : String) (id : Option String) (nextStop : Bool)
    (program : Op Unit) (world : World) : Prop :=
  ∃ wait : Wait, Waits thread wait world ∧ Left nameOrID id nextStop wait.made program

theorem follows_tracks (thread : Nat) (nameOrID : String) (id : Option String)
    (nextStop : Bool) : Contract.Holds.Tracks contract thread (Follows thread nameOrID id nextStop)
    where
  acts := by
    rintro program world sane ⟨known, waits, left⟩
    generalize isMade : known.made = made at left
    cases left with
    | begins =>
      intro answer after answered
      dsimp only at answered
      split at answered
      · rename_i spec _
        cases lone answered
        refine ⟨known, waits, ?_⟩
        rw [isMade]
        dsimp only [Program.bind, bind, ExceptT.bindCont]
        split
        · exact .refused
        · exact .makes spec
      · cases lone answered
        exact ⟨known, waits, isMade ▸ .refused⟩
    | refused | returned => trivial
    | makes spec =>
      refine Answers.one
        ⟨{ known with made := some (spec, nextStop, .made) }, ⟨waits.serving, waits.known, ?_⟩,
        .made spec⟩
      have none : world.tracks thread = [] := by rw [waits.own, isMade]; rfl
      simpa [World.tracks, World.newWaiter, Waiter.track] using none
    | made spec =>
      cases nextStop with
      | true => exact Answers.one ⟨_, waits.entered isMade _, .waiting spec⟩
      | false =>
        refine Answers.one ⟨_, waits.entered isMade _, ?_⟩
        dsimp only [Program.bind, bind, ExceptT.bindCont]
        split
        · rename_i down
          exact .sawDown spec _ down rfl
        rename_i up
        show Left nameOrID id false _ ((if _ then always returnStatus
          else always wait.receive : Call Unit).run >>= fun _ => pure ())
        rw [if_neg up]
        exact .receives spec .sawUp (by simp)
    | sawDown spec status down =>
      refine Answers.one ⟨_, waits.entered isMade _, ?_⟩
      cases found : (world.dirs spec.name).standby.isSome with
      | true => exact .receives spec .sawFrozen (by simp)
      | false =>
        show Left nameOrID id nextStop _
          ((if status.state.isDown then always returnStatus
            else always wait.receive : Call Unit).run >>= fun _ => pure ())
        rw [if_pos down]
        exact .sawStopped spec
    | receives spec => exact Answers.one ⟨_, waits.entered isMade _, .waiting spec⟩
    | sawStopped spec => exact Answers.one ⟨_, waits.entered isMade _, .returned spec⟩
    | waiting spec =>
      show Answers _ (if _ then _ else _)
      split
      · exact Answers.one ⟨_, waits.entered isMade _, .returned spec⟩
      · exact Answers.none
  stable := by
    rintro program first second interferes ⟨known, waits, left⟩
    exact ⟨known, (whileWaiting thread).stable known first second interferes waits, left⟩

variable {nameOrID : String} {id : Option String} {nextStop : Bool}

/-- A wait that has not been told of a stop is the only one that cannot go on. -/
theorem Left.ready {program : Op Unit} {made : Option (Spec × Bool × WaitPhase)} {thread : Nat}
    {world : World} (left : Left nameOrID id nextStop made program)
      (told : ∀ spec, made = some (spec, nextStop, .waiting) → ∃ waiter ∈ world.waiters,
      waiter.thread = thread ∧ waiter.heard = true) : program.Ready thread world := by
  cases left with
  | begins =>
    show _ ≠ []
    dsimp only
    cases world.instances.lookup nameOrID <;> simp
  | refused | returned => trivial
  | makes | sawDown | receives | sawStopped => exact List.cons_ne_nil _ _
  | made => cases nextStop <;> exact List.cons_ne_nil _ _
  | waiting spec =>
    rcases told spec rfl with ⟨waiter, member, own, heard⟩
    have answers : (world.waiters.any fun waiter => waiter.thread = thread ∧ waiter.heard) = true :=
      List.any_eq_true.mpr ⟨waiter, member, by simp [own, heard]⟩
    show (if (world.waiters.any fun waiter => waiter.thread = thread ∧ waiter.heard) = true then
      [((), world.waits thread .returned)] else []) ≠ []
    rw [if_pos answers]
    exact List.cons_ne_nil _ _

theorem follows_of_serves {capacity : Capacity} {meets : World → World → Prop}
    {pool : Pool Nat World} {thread : Nat}
    (apart : ∀ before after, meets before after → NamesApart before after)
    (serves : (system capacity).Serves meets World.fresh thread (.wait nameOrID id nextStop) pool) :
    ∃ program, pool.threads thread = some program ∧ Follows thread nameOrID id nextStop program
    pool.world := by
  refine (holds capacity).tracked (follows_tracks thread nameOrID id nextStop) apart Sane.fresh
    Idle.fresh ?_ serves
  intro world sane idle admitted
  have serving : world.stage = .serving := by simpa [system, Request.admits] using admitted
  have unwaiting : world.tracks thread = [] := by simpa [World.tracks] using idle.unwaiting
  exact ⟨⟨[], none⟩, ⟨serving, by simp, unwaiting⟩, .begins⟩

section

variable {thread : Nat} {world after : World}

theorem Move.waiters_served (move : Move thread world after)
    (serving : ∀ waiter ∈ world.waiters, world.stage = .serving) (waiter : Waiter)
    (member : waiter ∈ after.waiters) : after.stage = .serving := by
  have wasServing : world.stage = .serving := by
    rcases move.waiter_advances member with ⟨before, wasThere, _⟩ | ⟨_, _, _, isServing, _⟩
    · exact serving before wasThere
    · exact isServing
  rcases move.stage_kept with same | ⟨loading, _⟩ | ⟨_, now⟩
  · exact same.trans wasServing
  · simp [wasServing] at loading
  · exact now

theorem Move.waiter_goes_on (move : Move thread world after) {waiter : Waiter}
    (member : waiter ∈ world.waiters) : ∃ later ∈ after.waiters,
    world.Advances thread waiter later := by
  rcases move.waiters_advance with ⟨step, advances, now⟩ | ⟨spec, nextStop, _, _, rfl⟩
  · exact ⟨step waiter, now ▸ List.mem_map_of_mem member, advances waiter member⟩
  · exact ⟨waiter, List.mem_cons_of_mem _ member, .stays⟩

end

end Dicer.Instance
