import Dicer.Concurrency.Knowledge
import Dicer.Instance.Sane

namespace Dicer.Instance

open Function Concurrency

/-!
# What the others leave alone

Nobody but its holder touches what an instance's lock protects: the instance's definition, its
status file, its frozen guest, its supervision.  What a thread knows with a lock is made of these,
and of facts that are never taken back, whoever moves.
-/

/-- The thread holds no lock. -/
def EmptyHanded (thread : Nat) (world : World) : Prop :=
  ∀ id hold, world.holds id = some hold → hold.thread ≠ thread

/-- The thread holds no lock and waits for nothing. -/
structure Idle (thread : Nat) (world : World) : Prop where
  empty : EmptyHanded thread world
  unwaiting : ∀ waiter ∈ world.waiters, waiter.thread ≠ thread

def contract : Contract Nat World where
  keeps := Sane
  may := Move
  outside := fun before after => ∃ event, before.happen event = some after
  idle := Idle
  meets := NamesApart

namespace Move

variable {thread : Nat} {world after : World} {hold : Hold}

/-- Whoever holds a lock has taken it itself. -/
theorem holder_kept (move : Move thread world after) {id : String}
    (held : after.holds id = some hold) (other : hold.thread ≠ thread) :
    ∃ before, world.holds id = some before ∧ before.thread = hold.thread := by
  rcases move.held_before held with ⟨purpose, rfl, _⟩ | ⟨before, wasHeld, continues⟩
  · exact absurd rfl other
  · exact ⟨before, wasHeld, continues.thread.symm⟩

section

variable {id : String} (move : Move thread world after)
    (unowned : ∀ hold, ¬ world.Mine thread id hold)

include unowned in
theorem other_lock {other : String} (mine : world.Mine thread other hold) : id ≠ other := by
  rintro rfl
  exact unowned hold mine

include move unowned in
theorem hold_kept (held : world.holds id = some hold) :
    ∃ later, after.holds id = some later ∧ later.Continues hold ∧ later.exited = hold.exited := by
  cases move.lockMoves id with
  | free before | takes _ before => simp [before] at held
  | gives _ mine => exact absurd mine (unowned _)
  | holds before later wasHeld now continues exits =>
    cases wasHeld.symm.trans held
    exact ⟨later, now, continues, exits.resolve_right (unowned _)⟩

include move unowned in
theorem status_kept : after.status id = world.status id :=
  (move.status_cases id).resolve_right fun ⟨hold, mine, _⟩ => unowned hold mine

include move unowned in
theorem definition_kept (sane : Sane world) (issued : id ∈ world.issued) (spec : Spec) :
    (spec ∈ after.instances.items ∧ spec.id = id) ↔
    (spec ∈ world.instances.items ∧ spec.id = id) := by
  constructor
  · rintro ⟨member, rfl⟩
    rcases move.defined_from member with same | ⟨_, fresh, _⟩ | ⟨_, _, _, hold, mine⟩
    · exact ⟨same, rfl⟩
    · simp [World.isFresh, issued] at fresh
    · exact absurd mine (unowned hold)
  · rintro ⟨member, rfl⟩
    rcases sane.filed.defined_to move member with same | ⟨hold, mine, _⟩
    · exact ⟨same, rfl⟩
    · exact absurd mine (unowned hold)

include move in
/-- Whether a frozen guest is in an instance's directory changes only under its lock. -/
theorem frozen_cases (sane : Sane world) {spec : Spec} (member : spec ∈ world.instances.items) :
    (after.dirs spec.name).standby.isSome = (world.dirs spec.name).standby.isSome ∨
      ∃ hold, world.Mine thread spec.id hold ∧ (hold.purpose.mayDiscard (world.stateIn spec.id) ∨
        hold.purpose ∈ [.delete, .removal, .forkDelete] ∨ (world.dirs spec.name).standby =
        none) := by
  have written : ∀ {owner : Spec} {dir : Dir}, owner ∈ world.instances.items →
      after.dirs = Function.update world.dirs owner.name dir →
      (after.dirs spec.name).standby.isSome = (world.dirs spec.name).standby.isSome ∨
          spec = owner := by
    intro owner dir ownerMember now
    by_cases sameName : spec.name = owner.name
    · exact .inr (sane.filed.coherent.eq_of_name member ownerMember sameName)
    · exact .inl (by rw [now, update_of_ne sameName])
  cases move with
  | quiet alike => exact .inl (alike.frozen spec.name)
  | discarded _ _ hold _ mine names may =>
    rcases names with ⟨owner, ownerMember, rfl, rfl⟩
    rcases written ownerMember rfl with kept | rfl
    · exact .inl kept
    · exact .inr ⟨hold, mine, .inl may⟩
  | put _ _ hold _ mine names _ _ bare =>
    rcases names with ⟨owner, ownerMember, rfl, rfl⟩
    rcases written ownerMember rfl with kept | rfl
    · exact .inl kept
    · exact .inr ⟨hold, mine, .inr (.inr bare)⟩
  | deleted _ hold mine goneMember purpose | emptied _ hold _ mine goneMember purpose =>
    rcases written goneMember rfl with kept | rfl
    · exact .inl kept
    · exact .inr ⟨hold, mine, .inr (.inl purpose)⟩
  | renamed old new hold mine oldMember _ free _ bare =>
    have notNew : spec.name ≠ new.name := (sane.filed.coherent.lookup_eq_none.mp free spec member).1
    by_cases same : spec.name = old.name
    · obtain rfl := sane.filed.coherent.eq_of_name member oldMember same
      exact .inr ⟨hold, mine, .inr (.inr bare)⟩
    · exact .inl (by simp [World.setDir, update_of_ne notNew, update_of_ne same])
  | _ => exact .inl rfl

include move unowned in
theorem frozen_kept (sane : Sane world) {spec : Spec} (member : spec ∈ world.instances.items)
    (same : spec.id = id) : (after.dirs spec.name).standby.isSome =
    (world.dirs spec.name).standby.isSome :=
  (move.frozen_cases sane member).resolve_right fun ⟨hold, mine, _⟩ => unowned hold (same ▸ mine)

end

end Move

namespace World

variable {world : World} {id : String}

theorem awaited_iff :
    world.awaited id = true ↔ world.restarts id ≠ none ∨ ∃ thread, (thread, id) ∈ world.claims := by
  simp [awaited, Option.isSome_iff_ne_none]

theorem told_iff : world.told id = true ↔ ∀ waiter ∈ world.waiters, waiter.spec.id = id →
    waiter.late = false → (waiter.stirred = true ∨ world.definition id = none) →
    waiter.heard = true := by
  simp only [told, List.all_eq_true]
  refine forall₂_congr fun waiter _ => ?_
  by_cases same : waiter.spec.id = id
  · cases waiter.late <;> cases waiter.stirred <;> cases world.definition id <;> simp [same]
  · simp [same]

theorem standing_told :
    (world.standing id).told = true ↔ (world.atRest id = true → world.told id = true) := by
  cases rests : world.atRest id <;> simp [standing, rests]

end World

theorem Waiter.stir_of_down {id : String} {waiter : Waiter} {state : State}
    (down : state.isDown = true) : waiter.stir id state = waiter := by
  simp [stir, down]

/-! ## What a move does to a waiter -/

/-- What a thread may make of a waiter. -/
inductive World.Advances (world : World) (thread : Nat) (waiter : Waiter) : Waiter → Prop
  | stays : world.Advances thread waiter waiter
  | stirred (hold : Hold) (mine : world.Mine thread waiter.spec.id hold) :
      world.Advances thread waiter { waiter with stirred := true }
  | heard (hold : Hold) (mine : world.Mine thread waiter.spec.id hold)
      (rests : hold.purpose.ends = true ∨ world.atRest waiter.spec.id = true ∨
        ((world.stateIn waiter.spec.id).isDown = true ∧ hold.found.state.isDown = false ∧
          hold.purpose ∈ [.exit, .unhealthy, .policyRestart, .recover]) ∨ 0 < world.faults) :
      world.Advances thread waiter { waiter with heard := true }
  | read (own : waiter.thread = thread) (made : waiter.phase = .made)
      (looks : waiter.nextStop = false) : world.Advances thread waiter
        { waiter with phase := if (world.stateIn waiter.spec.id).isDown then .sawDown else .sawUp }
  | looked (own : waiter.thread = thread) (sawDown : waiter.phase = .sawDown) :
      world.Advances thread waiter
        { waiter with phase := if (world.dirs waiter.spec.name).standby.isSome then .sawFrozen else .sawStopped }
  | began (own : waiter.thread = thread)
      (may : waiter.phase = .made ∧ waiter.nextStop = true ∨ waiter.phase ∈ [.sawUp, .sawFrozen]) :
      world.Advances thread waiter { waiter with phase := .waiting }
  | returned (own : waiter.thread = thread)
      (may : waiter.heard = true ∨ waiter.phase = .sawStopped) :
      world.Advances thread waiter { waiter with phase := .returned }

section

variable {thread : Nat} {world after : World}

namespace World.Advances

variable {waiter later : Waiter} (advances : world.Advances thread waiter later)
include advances

theorem spec : later.spec = waiter.spec := by
  cases advances <;> rfl

theorem late : later.late = waiter.late := by
  cases advances <;> rfl

theorem own : later.thread = waiter.thread := by
  cases advances <;> rfl

theorem heard_mono (heard : waiter.heard = true) : later.heard = true := by
  cases advances with
  | heard => rfl
  | _ => exact heard

end World.Advances

/-- A move takes every waiter further, or adds one that has just come. -/
theorem Move.waiters_advance (move : Move thread world after) :
    (∃ step : Waiter → Waiter, (∀ waiter ∈ world.waiters, world.Advances thread waiter
      (step waiter)) ∧ after.waiters = world.waiters.map step) ∨
    ∃ spec nextStop, spec.id ∈ world.issued ∧ world.stage = .serving ∧
      after = { world with waiters := world.newWaiter thread spec nextStop :: world.waiters } := by
  have stirs : ∀ {other hold} (state : State), world.Mine thread other hold → ∀ waiter : Waiter,
      world.Advances thread waiter (waiter.stir other state) := by
    intro other hold state mine waiter
    unfold Waiter.stir
    split
    · rename_i same
      exact .stirred hold (same.1 ▸ mine)
    · exact .stays
  have enters : ∀ {phase : WaitPhase} {waiter : Waiter},
      (waiter.thread = thread → world.Advances thread waiter { waiter with phase := phase }) →
      world.Advances thread waiter (waiter.enter thread phase) := by
    intro phase waiter advances
    unfold Waiter.enter
    split
    · rename_i own
      exact advances own
    · exact .stays
  cases move with
  | quiet alike => exact .inl ⟨id, fun _ _ => .stays, alike.waiters.trans (List.map_id _).symm⟩
  | wrote _ _ _ mine | statusRemoved _ _ _ mine =>
    exact .inl ⟨_, fun waiter _ => stirs _ mine waiter, rfl⟩
  | notified other hold mine rests =>
    refine .inl ⟨.hear other, fun waiter _ => ?_, rfl⟩
    unfold Waiter.hear
    split
    · rename_i same
      subst same
      exact .heard hold mine rests
    · exact .stays
  | readWaiting other own =>
    refine .inl ⟨_, fun waiter member => enters fun isOwn => ?_, rfl⟩
    rcases own waiter member isOwn with ⟨rfl, made, looks⟩
    exact .read isOwn made looks
  | lookedWaiting spec own =>
    refine .inl ⟨_, fun waiter member => enters fun isOwn => ?_, rfl⟩
    rcases own waiter member isOwn with ⟨rfl, sawDown⟩
    exact .looked isOwn sawDown
  | beganWaiting own =>
    exact .inl ⟨_, fun waiter member => enters fun isOwn => .began isOwn (own waiter member isOwn),
      rfl⟩
  | returnedWaiting own =>
    exact .inl ⟨_, fun waiter member => enters fun isOwn =>
      .returned isOwn (own waiter member isOwn), rfl⟩
  | madeWaiter spec nextStop known serving => exact .inr ⟨spec, nextStop, known, serving, rfl⟩
  | _ => exact .inl ⟨id, fun _ _ => .stays, (List.map_id _).symm⟩

/-- Whoever waits after a move waited before, or has just come. -/
theorem Move.waiter_advances (move : Move thread world after) {waiter : Waiter}
    (member : waiter ∈ after.waiters) : (∃ before ∈ world.waiters,
      world.Advances thread before waiter) ∨ ∃ spec nextStop, spec.id ∈ world.issued ∧
        world.stage = .serving ∧ waiter = world.newWaiter thread spec nextStop ∧
        after = { world with waiters := waiter :: world.waiters } := by
  rcases move.waiters_advance with ⟨step, advances, now⟩ | ⟨spec, nextStop, known, serving, rfl⟩
  · rw [now] at member
    rcases List.mem_map.mp member with ⟨before, wasThere, rfl⟩
    exact .inl ⟨before, wasThere, advances before wasThere⟩
  · rcases List.mem_cons.mp member with rfl | wasThere
    · exact .inr ⟨spec, nextStop, known, serving, rfl, rfl⟩
    · exact .inl ⟨waiter, wasThere, .stays⟩

end

namespace Move

variable {thread : Nat} {world after : World} {id : String}
  (move : Move thread world after) (unowned : ∀ hold, ¬ world.Mine thread id hold)

include move unowned in
/-- A restart that is to come is called off only under the instance's lock, or begins with it. -/
theorem awaited_kept (untaken : world.holds id = none → after.holds id = none)
    (awaited : world.awaited id = true) : after.awaited id = true := by
  rw [World.awaited_iff] at awaited ⊢
  cases move with
  | quiet alike => rwa [alike.restarts, alike.claims]
  | took other purpose free =>
    refine awaited.imp_right ?_
    rintro ⟨claimant, claim⟩
    have notOther : id ≠ other := by
      rintro rfl
      have taken := untaken free
      simp [World.holds_took] at taken
    refine ⟨claimant, ?_⟩
    simp only [World.took]
    split
    · exact List.mem_filter.mpr ⟨claim, by simp [notOther]⟩
    · exact claim
  | restartScheduled other _ mine | restartCancelled other _ mine =>
    have notOther : id ≠ other := other_lock unowned mine
    simpa only [update_of_ne notOther] using awaited
  | restartClaimed other =>
    by_cases same : id = other
    · exact .inr ⟨thread, by simp [same]⟩
    · simp only [update_of_ne same]
      exact awaited.imp_right (.imp fun _ => List.mem_cons_of_mem _)
  | _ => exact awaited

include move unowned in
theorem definition_same (sane : Sane world) (saneAfter : Sane after) (issued : id ∈ world.issued) :
    after.definition id = world.definition id := by
  refine Option.ext fun spec => ?_
  rw [saneAfter.filed.definition_eq, sane.filed.definition_eq]
  exact move.definition_kept unowned sane issued spec

include move unowned in
/-- Whether a locked instance is at rest, and who has heard of it, is up to the holder. -/
theorem told_kept (sane : Sane world) (saneAfter : Sane after) (issued : id ∈ world.issued)
    (told : (world.standing id).told = true) : (after.standing id).told = true := by
  have definition := move.definition_same unowned sane saneAfter issued
  have atRest : after.atRest id = world.atRest id := by
    simp only [World.atRest, World.stateIn, move.status_kept unowned, definition]
    cases known : world.definition id with
    | none => rfl
    | some =>
      have defined := sane.filed.definition_eq.mp known
      simp only [Option.all_some, ← Option.not_isSome, move.frozen_kept unowned sane defined.1
        defined.2]
  rw [World.standing_told] at told ⊢
  rw [atRest]
  intro rests
  have told := World.told_iff.mp (told rests)
  rw [World.told_iff, definition]
  intro waiter member same late due
  rcases move.waiter_advances member with ⟨before, wasThere, advances⟩ |
    ⟨spec, nextStop, _, _, rfl, _⟩
  · have was := told before wasThere (advances.spec ▸ same) (advances.late ▸ late)
    cases advances with
    | stirred hold mine => exact absurd (same ▸ mine) (unowned hold)
    | heard => rfl
    | _ => exact was due
  · -- One that has just come has seen no stir, since the instance is at rest, and is late if it is gone.
    have same : spec.id = id := same
    simp [World.newWaiter, same, rests] at late due
    simp [due] at late

end Move

end Dicer.Instance
