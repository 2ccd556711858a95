import Dicer.Instance.Waiters

namespace Dicer.Instance

open Concurrency

/-!
# Waits that end

Who waits for an instance to stop is told when it does, or when it is deleted, and then returns.  An
operation tells the waiters before it gives the instance's lock back, so whenever the lock is free
they have been told of what happened under it.

A waiter is made after the instance was looked up, and not under its lock, so the instance may be
gone by then.  Such a waiter is told of nothing.  It returns because it finds no status file, but
not if it waits for the next stop, and not if it finds a frozen guest in the directory of the name,
of another instance that has it by now.
-/

/-- A waiter for the next stop is made while the instance is there. -/
abbrev NextStopsDefined (_ after : World) : Prop :=
  ∀ waiter ∈ after.waiters, waiter.late = true → waiter.nextStop = false

/-- Who waits for an instance that was gone does not find the frozen guest of another. -/
abbrev LooksFindNone (_ after : World) : Prop :=
  ∀ waiter ∈ after.waiters, waiter.late = true → waiter.phase ≠ .sawFrozen

abbrev StopsHeard (before after : World) : Prop :=
  NamesApart before after ∧ FilesKept before after ∧ NextStopsDefined before after ∧
    LooksFindNone before after

/-- What is true of waiters, and of the instances they wait for, as long as no file operation
fails. -/
structure Tells (world : World) : Prop where
  unfaulted : world.faults = 0
  serving : ∀ waiter ∈ world.waiters, world.stage = .serving
  issued : ∀ waiter ∈ world.waiters, waiter.spec.id ∈ world.issued
  defined : ∀ id status, world.status id = some status → ∃ name, world.Names id name
  gone : ∀ waiter ∈ world.waiters, waiter.late = true → ∀ name, ¬ world.Names waiter.spec.id name
  late : ∀ waiter ∈ world.waiters, waiter.late = true →
    waiter.nextStop = false ∧ waiter.phase ∉ [.sawUp, .sawFrozen, .waiting]
  free : ∀ id, world.holds id = none → (world.standing id).told = true
  found : ∀ id hold, world.holds id = some hold → hold.found.told = true

section

variable {capacity : Capacity} {thread : Nat} {world after : World}

/-- A status file is of an instance that is defined: it is written for none that is not, and is gone
when an instance is deleted. -/
theorem Move.status_defined (move : Move thread world after) (sane : Sane world)
    (unfaulted : world.faults = 0) (defined : ∀ id status, world.status id = some status → ∃ name,
      world.Names id name)
    (id : String) (status : Status) (recorded : after.status id = some status) :
    ∃ name, after.Names id name := by
  have known : ∃ name, world.Names id name := by
    rcases move.recorded_before recorded with ⟨old, was⟩ | names
    · exact defined id old was
    · exact names
  rcases known with ⟨name, names⟩
  refine (move.names_after sane names).resolve_right ?_
  rintro ⟨same, missing | faulted⟩
  · rw [same, missing] at recorded
    simp at recorded
  · simp [unfaulted] at faulted

namespace Tells

theorem fresh : Tells World.fresh where
  unfaulted := rfl
  serving := by simp [World.fresh]
  issued := by simp [World.fresh]
  defined := by simp [World.fresh]
  gone := by simp [World.fresh]
  late := by simp [World.fresh]
  free := by
    intro id _
    rw [World.standing_told, World.told_iff]
    simp [World.fresh]
  found := by simp [World.fresh]

variable (tells : Tells world)
include tells

theorem late_moved (move : Move thread world after) (nextStops : NextStopsDefined world after)
    (looks : LooksFindNone world after) (waiter : Waiter) (member : waiter ∈ after.waiters)
    (late : waiter.late = true) : waiter.nextStop = false ∧
    waiter.phase ∉ [.sawUp, .sawFrozen, .waiting] := by
  refine ⟨nextStops waiter member late, ?_⟩
  rcases move.waiter_advances member with ⟨before, wasThere, advances⟩ |
    ⟨spec, nextStop, _, _, rfl, _⟩
  · have wasLate : before.late = true := advances.late ▸ late
    have was := tells.late before wasThere wasLate
    have unfound := looks waiter member late
    cases advances with
    | read =>
      have missing : world.status before.spec.id = none := by
        cases recorded : world.status before.spec.id with
        | none => rfl
        | some status =>
          rcases tells.defined _ status recorded with ⟨name, names⟩
          exact absurd names (tells.gone before wasThere wasLate name)
      simp [World.stateIn, missing, Status.stopped, State.isDown]
    | looked =>
      dsimp only at unfound ⊢
      split at unfound
      · exact absurd rfl unfound
      · rename_i bare
        simp [bare]
    | began own may =>
      rcases may with ⟨_, next⟩ | saw
      · simp [was.1] at next
      have notSeen := was.2
      simp only [List.mem_cons, List.not_mem_nil, or_false] at saw notSeen
      rcases saw with saw | saw <;> simp [saw] at notSeen
    | returned => simp
    | _ => exact was.2
  · simp [World.newWaiter]

theorem free_moved (sane : Sane world) (saneAfter : Sane after) (move : Move thread world after)
    (id : String) (free : after.holds id = none) : (after.standing id).told = true := by
  by_cases issued : id ∈ world.issued
  · cases move.lockMoves id with
    | free before =>
      refine move.told_kept ?_ sane saneAfter issued (tells.free id before)
      rintro hold ⟨held, _⟩
      simp [before] at held
    | takes purpose _ _ _ _ now => simp [now, World.took, World.setHold] at free
    | gives hold mine now _ fit =>
      subst now
      exact (fit tells.unfaulted).tells (tells.found id hold mine.1)
    | holds _ later _ now => simp [now] at free
  · rw [World.standing_told, World.told_iff]
    intro _ waiter member same
    rcases move.waiter_advances member with ⟨before, wasThere, advances⟩ |
      ⟨spec, nextStop, known, _, rfl, _⟩
    · rw [advances.spec] at same
      exact absurd (same ▸ tells.issued before wasThere) issued
    · exact absurd (same ▸ known) issued

theorem found_moved (move : Move thread world after) (id : String) (hold : Hold)
    (held : after.holds id = some hold) : hold.found.told = true := by
  rcases move.held_before held with ⟨purpose, rfl, _, before, _⟩ | ⟨old, before, continues⟩
  · exact tells.free id before
  · rw [continues.found]
    exact tells.found id old before

theorem moved (sane : Sane world) (saneAfter : Sane after) (kept : FilesKept world after)
    (nextStops : NextStopsDefined world after) (looks : LooksFindNone world after)
    (move : Move thread world after)
    : Tells after where
  unfaulted := kept.trans tells.unfaulted
  serving := move.waiters_served tells.serving
  issued := by
    intro waiter member
    apply move.issued_mono
    rcases move.waiter_advances member with ⟨before, wasThere, advances⟩ |
      ⟨spec, nextStop, known, _, rfl, _⟩
    · exact advances.spec ▸ tells.issued before wasThere
    · exact known
  defined := move.status_defined sane tells.unfaulted tells.defined
  gone := by
    intro waiter member late name names
    rcases move.waiter_advances member with ⟨before, wasThere, advances⟩ |
      ⟨spec, nextStop, known, _, rfl, rfl⟩
    · rw [advances.spec] at names
      rcases move.names_before (tells.issued before wasThere) names with ⟨oldName, namesBefore⟩
      exact tells.gone before wasThere (advances.late ▸ late) oldName namesBefore
    · rcases names with ⟨defined, isMember, same, _⟩
      have found : world.definition spec.id = some defined :=
        sane.filed.definition_eq.mpr ⟨isMember, same⟩
      simp [World.newWaiter, found] at late
  late := tells.late_moved move nextStops looks
  free := tells.free_moved sane saneAfter move
  found := tells.found_moved move

theorem happened {event : Event} (happened : world.happen event = some after) : Tells after := by
  rcases World.happen_keeps happened with ⟨vmms, runs, now, rfl, rfl | ⟨loading, rfl⟩⟩
  · exact { tells with }
  refine { tells with defined := by simp, free := fun id free => ?_ }
  -- Nobody waits before recovery.
  rw [World.standing_told, World.told_iff]
  intro _ waiter member
  simp [tells.serving waiter member] at loading

theorem crashed : Tells world.crash where
  unfaulted := tells.unfaulted
  serving := by simp [World.crash]
  issued := by simp [World.crash]
  defined := tells.defined
  gone := by simp [World.crash]
  late := by simp [World.crash]
  free := by
    intro id _
    rw [World.standing_told, World.told_iff]
    simp [World.crash]
  found := by simp [World.crash]

/-- Whoever waits for an instance that has come to rest, or is gone, has been told or came when it
was gone. -/
theorem ended (sane : Sane world) {waiter : Waiter} (member : waiter ∈ world.waiters)
    (free : world.holds waiter.spec.id = none) (ended : world.definition waiter.spec.id = none ∨
      (waiter.stirred = true ∧ world.atRest waiter.spec.id = true)) :
      waiter.heard = true ∨ waiter.late = true := by
  have rests : world.atRest waiter.spec.id = true := by
    rcases ended with gone | ⟨_, rests⟩
    · have missing : world.status waiter.spec.id = none := by
        cases recorded : world.status waiter.spec.id with
        | none => rfl
        | some status =>
          rcases tells.defined _ status recorded with ⟨_, spec, isMember, same, _⟩
          rw [sane.filed.definition_eq.mpr ⟨isMember, same⟩] at gone
          simp at gone
      simp [World.atRest, gone, World.stateIn, missing, Status.stopped, State.isDown]
    · exact rests
  have told := World.told_iff.mp (World.standing_told.mp (tells.free _ free) rests)
  cases late : waiter.late with
  | true => exact .inr rfl
  | false => exact .inl (told waiter member rfl late (ended.symm.imp_left And.left))

end Tells

/-- The thread's waiter was told of a stop, or came when the instance was gone. -/
def World.Informed (thread : Nat) (world : World) : Prop :=
  ∃ waiter ∈ world.waiters, waiter.thread = thread ∧ (waiter.heard = true ∨ waiter.late = true)

theorem informed_leads {meets : World → World → Prop} {pool later : Pool Nat World}
    (apart : ∀ before after, meets before after → NamesApart before after)
    (reached : (system capacity).Reaches meets World.fresh pool)
    (led : (system capacity).Leads meets System.Survives pool later)
    (informed : pool.world.Informed thread) : later.world.Informed thread := by
  have kept : ∀ before after, (∃ mover, Move mover before after) ∨
      (∃ event, before.happen event = some after) → World.Informed thread before →
          World.Informed thread after := by
    rintro before after (⟨mover, move⟩ | ⟨event, happened⟩) ⟨waiter, member, own, told⟩
    · rcases move.waiter_goes_on member with ⟨goesOn, isMember, advances⟩
      refine ⟨goesOn, isMember, advances.own.trans own, ?_⟩
      rw [advances.late]
      exact told.imp_left advances.heard_mono
    · rcases World.happen_keeps happened with ⟨vmms, runs, status, rfl, _⟩
      exact ⟨waiter, member, own, told⟩
  exact (holds capacity).leads apart Sane.fresh Idle.fresh kept reached led informed

theorem tells_of_run {pool : Pool Nat World}
    (reached : (system capacity).Reaches StopsHeard World.fresh pool) : Tells pool.world := by
  have preserved : Preserved StopsHeard Tells := by
    constructor
    · exact .fresh
    · rintro thread before after sane saneAfter ⟨_, kept, nextStops, looks⟩ move tells
      exact tells.moved sane saneAfter kept nextStops looks move
    · rintro event before after _ _ _ happened tells
      exact tells.happened happened
    · rintro before _ _ tells
      exact tells.crashed
  exact preserved.run (fun _ _ met => met.1) reached

/-- In runs in which no instance is named by an ID, no status write or removal fails, a waiter for
the next stop is made while the instance is there and none for an instance that was gone finds the
frozen guest of another: once the instance a wait is for has been deleted, or has come to rest after
it was up, the wait returns. -/
theorem wait_returns {pool : Pool Nat World} {nameOrID : String} {id : Option String}
    {nextStop : Bool} {waiter : Waiter}
    (serves : (system capacity).Serves StopsHeard World.fresh thread
      (.wait nameOrID id nextStop) pool)
    (member : waiter ∈ pool.world.waiters) (own : waiter.thread = thread)
    (free : pool.world.holds waiter.spec.id = none)
    (ended : pool.world.definition waiter.spec.id = none ∨
      (waiter.stirred = true ∧ pool.world.atRest waiter.spec.id = true)) :
    (system capacity).Returns StopsHeard thread pool := by
  have reached := serves.reaches
  have told := (tells_of_run reached).ended (sane_of_run (fun _ _ met => met.1) reached) member free
    ended
  rcases follows_of_serves (fun _ _ met => met.1) serves with ⟨program, running, _⟩
  refine System.returns_of_ready running fun later rest led isRest => ?_
  rcases informed_leads (fun _ _ met => met.1) reached led ⟨waiter, member, own, told⟩ with
    ⟨now, isMember, isOwn, toldNow⟩
  have servesLater := serves.leads led
  rcases follows_of_serves (fun _ _ met => met.1) servesLater with ⟨same, isSame, wait, waits, left⟩
  cases isRest.symm.trans isSame
  refine left.ready fun spec waiting => ⟨now, isMember, isOwn, ?_⟩
  refine toldNow.resolve_right fun late => ?_
  have phase := (waits.track waiting isMember isOwn).2.2
  have unlike := ((tells_of_run servesLater.reaches).late now isMember late).2
  simp [phase] at unlike

end

/-- An instance is made. -/
def madeOne : List (Choice Nat Request Event) :=
  [.spawn 0 .recover] ++ steps 0 2 ++ [.spawn 1 (.create (plainSpec "x1" "a"))] ++ steps 1 4

/-- The wait for it looks it up and begins to wait, and it is deleted. -/
def deletedAfter : List (Choice Nat Request Event) :=
  steps 2 3 ++ [.spawn 3 (.delete "a" false)] ++ steps 3 11

theorem wait_returns_deleted : ∃ pool : Pool Nat World, pool.world.definition "x1" = none ∧
    (system roomy).Returns StopsHeard 2 pool := by
  rcases (system roomy).serves_of_schedule StopsHeard World.fresh
    (fun world => (∃ waiter ∈ world.waiters, waiter.thread = 2 ∧ waiter.spec.id = "x1") ∧
      world.holds "x1" = none ∧ world.definition "x1" = none) 2 (.wait "a" none true) madeOne
      deletedAfter
    (by simp [deletedAfter, steps, System.Survives]) (by decide +kernel) with
    ⟨pool, serves, ⟨waiter, member, own, same⟩, free, gone⟩
  exact ⟨pool, gone, wait_returns serves member own (same ▸ free) (.inl (same ▸ gone))⟩

/-- The instance is deleted when the wait has looked it up and not made its waiter. -/
def deletedBetween : List (Choice Nat Request Event) :=
  madeOne ++ [.spawn 2 (.wait "a" none true)] ++ steps 2 1 ++ [.spawn 3 (.delete "a" false)] ++
    steps 3 11 ++ steps 2 2

theorem waits_when_deleted : ∃ pool : Pool Nat World,
    (system roomy).Reaches Unfaulted World.fresh pool ∧
      (pool.world.definition "x1" = none ∧ pool.world.holds "x1" = none ∧
        pool.world.waiters.map (fun waiter =>
          (waiter.thread, waiter.spec.id, waiter.phase, waiter.heard)) =
          [(2, "x1", .waiting, false)] ∧
        pool.isStuck 2 = true ∧ pool.isOver 0 = true ∧ pool.isOver 1 = true ∧
        pool.isOver 3 = true) :=
  (system roomy).pool_of_schedule deletedBetween (by decide +kernel)

end Dicer.Instance
