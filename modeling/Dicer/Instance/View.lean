import Dicer.Instance.Calls

namespace Dicer.Instance

open Function Concurrency
open Program (Ensures)

/-!
# What a thread knows of the world

A thread without a lock knows facts that nobody takes back.  A thread with an instance's lock knows,
beside these, what the lock protects, exactly as it is.  A view is what the lock shows, and an
operation under a lock is followed from view to view.
-/

/-- What a thread was told or made sure of: that the daemon serves, IDs it may lock, and, if it is
the one that recovers, the instances it has still to go through. -/
structure Facts where
  serving : Bool
  known : List String
  pending : Option (List Spec)

/-- The instances that recovery has still to go through. -/
structure World.Pending (world : World) (thread : Nat) (specs : List Spec) : Prop where
  stage : world.stage = .recovering thread
  defined : ∀ spec ∈ specs, ∃ name, world.Names spec.id name
  untouched : ∀ spec ∈ specs, spec.id ∉ world.recovered
  all : ∀ spec ∈ world.instances.items, spec.id ∈ specs.map Spec.id ∨ spec.id ∈ world.recovered

structure Facts.Stand (facts : Facts) (thread : Nat) (world : World) : Prop where
  serving : facts.serving = true → world.stage = .serving
  known : ∀ id ∈ facts.known, world.Ready id
  pending : ∀ specs, facts.pending = some specs → world.Pending thread specs

variable {spec : Spec} {event : Event}

namespace Move

variable {thread : Nat} {world after : World}

theorem defined_before (move : Move thread world after) (unserved : world.stage ≠ .serving)
    (member : spec ∈ after.instances.items) : ∃ old ∈ world.instances.items, old.id = spec.id := by
  rcases move.defined_from member with same | ⟨serving, _⟩ | ⟨old, oldMember, sameID, _⟩
  · exact ⟨spec, same, rfl⟩
  · exact absurd serving unserved
  · exact ⟨old, oldMember, sameID⟩

theorem defined_after (move : Move thread world after) (sane : Sane world)
    (unserved : world.stage ≠ .serving) {id : String} (untouched : id ∉ world.recovered)
    (defined : ∃ name, world.Names id name) : ∃ name, after.Names id name := by
  rcases defined with ⟨name, spec, member, rfl, rfl⟩
  rcases sane.filed.defined_to move member with same | ⟨hold, mine, ⟨new, newMember, sameID, _⟩ | _⟩
  · exact ⟨spec.name, spec, same, rfl, rfl⟩
  · exact ⟨new.name, new, newMember, sameID, rfl⟩
  · have settled := (sane.ready spec.id (.held hold mine.1)).2
    exact ((World.settled_iff.mp settled).elim unserved untouched).elim

end Move

namespace Facts.Stand

variable {facts : Facts} {thread mover : Nat} {world after : World}

theorem pending_kept {specs : List Spec} (pending : world.Pending thread specs) (sane : Sane world)
    (move : Move mover world after)
    (own : mover = thread → after.recovered = world.recovered ∧ after.stage = world.stage) :
    after.Pending thread specs := by
  have unserved : world.stage ≠ .serving := by simp [pending.stage]
  have stage : after.stage = world.stage := by
    rcases move.stage_kept with same | ⟨loading, _⟩ | ⟨recovering, _⟩
    · exact same
    · simp [pending.stage] at loading
    · rw [pending.stage] at recovering
      exact (own (Stage.recovering.inj recovering).symm).2
  have recovered : after.recovered = world.recovered := by
    rcases move.recovered_kept with same | ⟨recovering, _⟩
    · exact same
    · rw [pending.stage] at recovering
      exact (own (Stage.recovering.inj recovering).symm).1
  constructor
  · exact stage.trans pending.stage
  · intro spec member
    exact move.defined_after sane unserved (pending.untouched spec member)
      (pending.defined spec member)
  · rw [recovered]
    exact pending.untouched
  · rw [recovered]
    intro spec member
    rcases move.defined_before unserved member with ⟨old, oldMember, same⟩
    exact same ▸ pending.all old oldMember

/-- Facts stand whoever moves, except that a thread may end its own recovery. -/
theorem kept (stand : facts.Stand thread world) (sane : Sane world) (move : Move mover world after)
    (own : mover = thread → after.recovered = world.recovered ∧ after.stage = world.stage) :
    facts.Stand thread after where
  serving := by
    intro serves
    rcases move.stage_kept with same | ⟨loading, _⟩ | ⟨_, now⟩
    · exact same.trans (stand.serving serves)
    · simp [stand.serving serves] at loading
    · exact now
  known := fun id member => move.ready_mono (stand.known id member)
  pending := fun specs isPending => pending_kept (stand.pending specs isPending) sane move own

theorem happened (stand : facts.Stand thread world) (happened : world.happen event = some after) :
    facts.Stand thread after := by
  rcases World.happen_keeps happened with ⟨vmms, runs, status, rfl, _⟩
  refine ⟨stand.serving, stand.known, fun specs isPending => ?_⟩
  exact { stand.pending specs isPending with }

end Facts.Stand

variable {mover : Nat}

theorem EmptyHanded.kept {thread : Nat} {world after : World} (empty : EmptyHanded thread world)
    (move : Move mover world after) (different : mover ≠ thread) : EmptyHanded thread after := by
  rintro id hold held rfl
  rcases move.holder_kept held (Ne.symm different) with ⟨before, heldBefore, same⟩
  exact empty id before heldBefore same

theorem EmptyHanded.happened {thread : Nat} {world after : World} (empty : EmptyHanded thread world)
    (happened : world.happen event = some after) : EmptyHanded thread after := by
  rcases World.happen_keeps happened with ⟨vmms, runs, status, rfl, _⟩
  exact empty

/-- The thread holds no lock, and these facts stand. -/
structure Roams (thread : Nat) (facts : Facts) (world : World) : Prop where
  stand : facts.Stand thread world
  empty : EmptyHanded thread world

def withoutLock (thread : Nat) : Knowledge contract thread Facts where
  knows := Roams thread
  stable := by
    rintro facts first second ⟨sane, _, _, ⟨event, happened⟩ | ⟨other, different, move⟩⟩ roams
    · exact ⟨roams.stand.happened happened, roams.empty.happened happened⟩
    · exact ⟨roams.stand.kept sane move fun own => absurd own different,
        roams.empty.kept move different⟩

/-! ## With a lock -/

/-- What the holder of an instance's lock knows: what it took the lock for, how it found the
instance and the VMM whose exit it came about; whether a write or a removal has failed, and whether
it was refused admission when it was to replace a restart; the
instance's definition, status and supervision and whether a frozen guest of it is there; whether a
restart is to come, and whether nobody is left who has yet to hear that the instance is at rest. -/
structure View where
  purpose : Purpose
  found : Standing
  exited : Option Nat
  faulty : Bool
  refused : Bool
  spec : Option Spec
  status : Option Status
  supervised : Option Nat
  frozen : Bool
  awaited : Bool
  told : Bool

namespace View

/-- The status as its file has it. -/
def raw (view : View) : Status := view.status.getD .stopped

/-- The instance is stopped or has failed, and has no frozen guest. -/
def rests (view : View) : Bool :=
  view.raw.state.isDown && (view.spec.isNone || !view.frozen)

/-- What the holder knows once the instance is as it is in a later view.  Who had heard that it is
at rest has heard it still, as long as it was never anything else and is not gone; there is nothing
to hear if it is not at rest. -/
def become (view later : View) : View :=
  { later with
    told := !later.rests || (view.rests && view.told && (later.spec.isSome || view.spec.isNone)) }

/-- The status file is another. -/
def write (view : View) (status : Option Status) : View :=
  view.become { view with status := status }

/-- A write or a removal has failed. -/
def failed (view : View) : View := { view with faulty := true }

/-- The admission lock is given back. -/
def admitted (view : View) (result : Except Err Unit) : View :=
  { view with refused := !result.toBool && view.raw.state = .restarting &&
      view.purpose.replacesRestart || view.refused }

end View

structure View.Sees (view : View) (thread : Nat) (id : String) (facts : Facts) (world : World) :
    Prop where
  stand : facts.Stand thread world
  held : ∃ hold, world.Mine thread id hold ∧ hold.purpose = view.purpose ∧ hold.found = view.found ∧
    hold.exited = view.exited
  only : ∀ other hold, world.Mine thread other hold → other = id
  faulty : view.faulty = true → 0 < world.faults
  refused : view.refused = true → 0 < world.refusals
  spec : world.instances.lookup id = view.spec
  status : world.status id = view.status
  supervised : world.supervised id = view.supervised
  frozen : ∀ spec, view.spec = some spec → (world.dirs spec.name).standby.isSome = view.frozen
  awaited : view.awaited = true → world.awaited id = true
  told : view.told = true → (world.standing id).told = true

namespace View.Sees

variable {view : View} {thread : Nat} {id : String} {facts : Facts} {world after : World}
  (sees : view.Sees thread id facts world)
include sees

theorem ready (sane : Sane world) : world.Ready id := by
  rcases sees.held with ⟨hold, mine, _⟩
  exact sane.ready id (.held hold mine.1)

theorem stateIn : world.stateIn id = view.raw.state := by
  rw [World.stateIn, sees.status, View.raw]

/-- The definition it knows is there, and is the instance's. -/
theorem defined (sane : Sane world) (known : view.spec = some spec) : spec ∈ world.instances.items ∧
    spec.id = id :=
  (sane.filed.lookup_issued (sees.ready sane).1).mp (sees.spec.trans known)

theorem names (sane : Sane world) (known : view.spec = some spec) : world.Names id spec.name :=
  ⟨spec, (sees.defined sane known).1, (sees.defined sane known).2, rfl⟩

theorem definition (sane : Sane world) : world.definition id = view.spec :=
  (sane.filed.definition_issued (sees.ready sane).1).trans sees.spec

theorem bare (known : view.spec = some spec) (unfrozen : view.frozen = false)
    : (world.dirs spec.name).standby = none := by
  rw [← Option.not_isSome_iff_eq_none, sees.frozen spec known, unfrozen]
  simp

theorem atRest (sane : Sane world) : world.atRest id = view.rests := by
  rw [World.atRest, sees.stateIn, sees.definition sane, View.rests]
  cases known : view.spec with
  | none => simp
  | some spec => simp [← Option.not_isSome, sees.frozen spec known]

theorem kept (sane : Sane world) (saneAfter : Sane after) (move : Move mover world after)
    (different : mover ≠ thread) : view.Sees thread id facts after := by
  rcases sees.held with ⟨hold, mine, isPurpose, isFound, isExited⟩
  have unowned : ∀ hold, ¬ world.Mine mover id hold := by
    rintro other ⟨held, own⟩
    cases mine.1.symm.trans held
    exact different (own.symm.trans mine.2)
  rcases move.hold_kept unowned mine.1 with ⟨now, held, continues, exits⟩
  have issued := (sees.ready sane).1
  have lookup : after.instances.lookup id = world.instances.lookup id := by
    refine Option.ext fun spec => ?_
    rw [saneAfter.filed.lookup_issued (move.issued_mono issued), sane.filed.lookup_issued issued]
    exact move.definition_kept unowned sane issued spec
  constructor
  · exact sees.stand.kept sane move fun own => absurd own different
  · exact ⟨now, ⟨held, continues.thread.trans mine.2⟩, continues.purpose.trans isPurpose,
      continues.found.trans isFound, exits.trans isExited⟩
  · rintro other otherHold ⟨heldOther, own⟩
    rcases move.holder_kept heldOther (own ▸ Ne.symm different) with ⟨before, heldBefore, same⟩
    exact sees.only other before ⟨heldBefore, same.trans own⟩
  · exact fun failed => (sees.faulty failed).trans_le move.faults_le
  · exact fun refused => (sees.refused refused).trans_le move.refusals_le
  · exact lookup.trans sees.spec
  · exact (move.status_kept unowned).trans sees.status
  · exact (move.supervised_kept unowned).trans sees.supervised
  · intro spec known
    rw [move.frozen_kept unowned sane (sees.defined sane known).1 (sees.defined sane known).2]
    exact sees.frozen spec known
  · exact fun isAwaited => move.awaited_kept unowned (by simp [mine.1]) (sees.awaited isAwaited)
  · exact fun isTold => move.told_kept unowned sane saneAfter issued (sees.told isTold)

theorem happened (sane : Sane world) (happened : world.happen event = some after)
    : view.Sees thread id facts after := by
  have stand := sees.stand.happened happened
  rcases World.happen_keeps happened with ⟨vmms, runs, status, rfl, same⟩
  -- A host boots before the daemon takes its first lock.
  have same : status = world.status := by
    rcases sees.held with ⟨hold, mine, _⟩
    exact same.resolve_right fun booted => sane.loaded (.held hold mine.1) booted.1
  subst same
  exact { sees with stand := stand }

end View.Sees

def withLock (thread : Nat) (id : String) (facts : Facts) : Knowledge contract thread View where
  knows := fun view => view.Sees thread id facts
  stable := by
    rintro view first second ⟨sane, saneAfter, _, ⟨event, happened⟩ | ⟨other, different, move⟩⟩ sees
    · exact sees.happened sane happened
    · exact sees.kept sane saneAfter move different

/-! ## Own moves -/

/-- What a holder's moves on its instance leave alone, unless they are about just that. -/
def World.rest (world : World) :=
  (world.recovered, world.stage, world.restarts, world.claims, fun id =>
    (world.holds id).map Hold.bare)

theorem View.spec_known (view : View) : view.spec.isSome = true ∨ view.spec.isNone = true := by
  cases view.spec with
  | none => exact .inr rfl
  | some => exact .inl rfl

namespace View.Sees

variable {view later : View} {thread : Nat} {id : String} {facts : Facts} {world after : World}
  {status : Option Status} {supervised : Option Nat}

/-- A move of the holder on the instance. -/
theorem moved (sees : view.Sees thread id facts world) (sane : Sane world) (saneAfter : Sane after)
    (move : Move thread world after) {spec : Option Spec} {frozen : Bool}
    (rest : after.rest = world.rest)
    (waiters : (status.getD .stopped).state.isDown = true → after.waiters = world.waiters)
    (seesSpec : after.instances.lookup id = spec) (seesStatus : after.status id = status)
    (seesSupervised : after.supervised id = supervised)
    (seesFrozen : ∀ known, spec = some known → (after.dirs known.name).standby.isSome = frozen) :
    View.Sees (view.become { view with
      spec := spec, status := status, supervised := supervised, frozen := frozen }) thread id facts
          after := by
  simp only [World.rest, Prod.mk.injEq] at rest
  rcases rest with ⟨recovered, stage, restarts, claims, holds⟩
  have held : ∀ {other hold}, after.holds other = some hold →
      ∃ before, world.holds other = some before ∧ hold.bare = before.bare := by
    intro other hold isHeld
    have same := congrFun holds other
    simp only [isHeld, Option.map_some] at same
    rcases Option.map_eq_some_iff.mp same.symm with ⟨before, isBefore, bare⟩
    exact ⟨before, isBefore, bare.symm⟩
  have seen : View.Sees { view with
      spec := spec, status := status, supervised := supervised, frozen := frozen, told := false }
      thread id facts after := by
    constructor
    case stand => exact sees.stand.kept sane move fun _ => ⟨recovered, stage⟩
    case held =>
      rcases sees.held with ⟨hold, mine, isPurpose, isFound, isExited⟩
      have same := congrFun holds id
      simp only [mine.1, Option.map_some] at same
      rcases Option.map_eq_some_iff.mp same with ⟨now, isNow, bare⟩
      simp only [Hold.bare, Hold.mk.injEq] at bare
      exact ⟨now, ⟨isNow, bare.1.trans mine.2⟩, bare.2.1.trans isPurpose, bare.2.2.1.trans isFound,
        bare.2.2.2.2.2.2.2.trans isExited⟩
    case only =>
      rintro other hold ⟨isHeld, own⟩
      rcases held isHeld with ⟨before, isBefore, bare⟩
      have own : before.thread = thread :=
        (congrArg (fun hold : Hold => hold.thread) bare).symm.trans own
      exact sees.only other before ⟨isBefore, own⟩
    case faulty => exact fun failed => (sees.faulty failed).trans_le move.faults_le
    case refused => exact fun refused => (sees.refused refused).trans_le move.refusals_le
    case spec => exact seesSpec
    case status => exact seesStatus
    case supervised => exact seesSupervised
    case frozen => exact seesFrozen
    case awaited =>
      intro isAwaited
      have was := sees.awaited isAwaited
      simpa only [World.awaited, restarts, claims] using was
    case told => exact fun told => absurd told Bool.false_ne_true
  refine { seen with told := fun told => ?_ }
  rw [World.standing_told, seen.atRest saneAfter]
  intro rests
  have rests : View.rests { view with
    spec := spec, status := status, supervised := supervised, frozen := frozen } = true := rests
  simp only [View.become, rests, Bool.not_true, Bool.false_or, Bool.and_eq_true] at told
  rcases told with ⟨⟨restedBefore, toldBefore⟩, still⟩
  have heard := World.told_iff.mp
    (World.standing_told.mp (sees.told toldBefore) ((sees.atRest sane).trans restedBefore))
  rw [World.told_iff, waiters (Bool.and_eq_true_iff.mp rests).1, seen.definition saneAfter]
  intro waiter member same late due
  refine heard waiter member same late (due.imp_right fun gone => ?_)
  rw [sees.definition sane]
  have gone : spec = none := gone
  simpa [gone] using still

/-- A move that leaves it alone whether the instance is at rest. -/
theorem same (sees : View.Sees (view.become later) thread id facts world)
    (rests : later.rests = view.rests) (spec : later.spec.isSome = true ∨ view.spec.isNone = true)
    (told : later.told = view.told) :
    later.Sees thread id facts world := by
  refine { sees with told := fun isTold => sees.told ?_ }
  simp only [View.become, rests, ← told, isTold, Bool.and_true]
  rcases spec with defined | gone
  · cases view.rests <;> simp [defined]
  · cases view.rests <;> simp [gone]

variable (sees : view.Sees thread id facts world)
include sees

theorem supervising (sane : Sane world) (saneAfter : Sane after) (move : Move thread world after)
    (rest : after.rest = world.rest) (waiters : after.waiters = world.waiters)
    (instances : after.instances = world.instances) (status : after.status = world.status)
    (seesSupervised : after.supervised id = supervised)
    (frozen : ∀ name, (after.dirs name).standby.isSome = (world.dirs name).standby.isSome) :
    View.Sees { view with supervised := supervised } thread id facts after := by
  have seen := sees.moved sane saneAfter move rest (fun _ => waiters) (instances ▸ sees.spec)
    (status ▸ sees.status) seesSupervised
    (fun spec known => (frozen spec.name).trans (sees.frozen spec known))
  exact seen.same rfl view.spec_known rfl

/-- A quiet step is not seen. -/
theorem alike (sane : Sane world) (saneAfter : Sane after) (alike : world.Alike after)
    : view.Sees thread id facts after := by
  refine sees.supervising sane saneAfter (.quiet alike) ?_ alike.waiters alike.instances
    alike.status (alike.supervised ▸ sees.supervised) alike.frozen
  simp only [World.rest, alike.recovered, alike.stage, alike.restarts, alike.claims, alike.holds]

theorem wroteStatus (sane : Sane world) (saneAfter : Sane after) (move : Move thread world after)
    (written : after.status = Function.update world.status id status)
    (waiters : after.waiters = world.waiters.map (.stir id (status.getD .stopped).state))
    (rest : after.rest = world.rest) (instances : after.instances = world.instances)
    (supervised : after.supervised = world.supervised) (dirs : after.dirs = world.dirs) :
    View.Sees (view.write status) thread id facts after := by
  refine sees.moved sane saneAfter move rest ?_ (instances ▸ sees.spec) ?_
    (supervised ▸ sees.supervised) (dirs ▸ sees.frozen)
  · intro down
    rw [waiters]
    exact (List.map_congr_left fun waiter _ => Waiter.stir_of_down down).trans (List.map_id _)
  · rw [written, update_self]

theorem wroteDir (sane : Sane world) (saneAfter : Sane after) (move : Move thread world after)
    (known : view.spec = some spec) {dir : Dir}
    (dirs : after.dirs = Function.update world.dirs spec.name dir)
    (rest : after.rest = world.rest) (waiters : after.waiters = world.waiters)
    (instances : after.instances = world.instances) (status : after.status = world.status)
    (supervised : after.supervised = world.supervised) :
    View.Sees (view.become { view with frozen := dir.standby.isSome }) thread id facts after := by
  refine sees.moved sane saneAfter move rest (fun _ => waiters) (instances ▸ sees.spec)
    (status ▸ sees.status) (supervised ▸ sees.supervised) ?_
  intro other knownOther
  cases known.symm.trans knownOther
  rw [dirs, update_self]

theorem fails (faulty : 0 < world.faults) : view.failed.Sees thread id facts world :=
  { sees with faulty := fun _ => faulty }

end View.Sees

/-- With an instance's lock, from a view on. -/
abbrev Under {Value : Type} (thread : Nat) (id : String) (facts : Facts) (op : Op Value)
    (post : Value → View → Prop) (view : View) : Prop :=
  op.Ensures (withLock thread id facts) post view

/-- Without a lock, while these facts stand. -/
abbrev Free {Value : Type} (thread : Nat) (op : Op Value) (post : Value → Facts → Prop)
    (facts : Facts) : Prop :=
  op.Ensures (withoutLock thread) post facts

section

variable {Value Other : Type} {thread : Nat} {id : String} {facts : Facts} {view : View}
  {op : Op Value} {call : Call Value} {rest : Value → Call Other}

theorem calm_under [calm : Calm op] {post : Value → View → Prop}
    (returned : ∀ result, post result view) : Under thread id facts op post view := by
  refine calm.within.ensures (fun now after sane sees alike =>
    ⟨.inr (.quiet alike), fun saneAfter => ?_⟩) returned
  exact View.Sees.alike sees sane saneAfter alike

theorem calm_free [calm : Calm op] {post : Value → Facts → Prop}
    (returned : ∀ result, post result facts) : Free thread op post facts := by
  refine calm.within.ensures (fun now after sane roams alike => ⟨.inr (.quiet alike), fun _ => ?_⟩)
    returned
  have quiet : Move thread now after := .quiet alike
  refine ⟨roams.stand.kept sane quiet fun _ => ⟨alike.recovered, alike.stage⟩, ?_⟩
  intro id hold held
  have same := alike.holds id
  rw [held, Option.map_some] at same
  rcases Option.map_eq_some_iff.mp same.symm with ⟨before, wasHeld, bare⟩
  simp only [Hold.bare, Hold.mk.injEq] at bare
  exact bare.1 ▸ roams.empty id before wasHeld

theorem calm_then [Calm call.run] {post : Except Err Other → View → Prop}
    (failed : ∀ error, post (.error error) view)
    (goes : ∀ value, Under thread id facts (rest value).run post view) :
    Under thread id facts (call >>= rest).run post view := by
  refine Ensures.bindExcept (calm_under ?_)
  rintro (error | value)
  · exact failed error
  · exact goes value

theorem calm_then_free [Calm call.run] {post : Except Err Other → Facts → Prop}
    (failed : ∀ error, post (.error error) facts)
    (goes : ∀ value, Free thread (rest value).run post facts)
    : Free thread (call >>= rest).run post facts := by
  refine Ensures.bindExcept (calm_free ?_)
  rintro (error | value)
  · exact failed error
  · exact goes value

end

end Dicer.Instance
