import Dicer.Concurrency.Knowledge
import Dicer.Events.Moves

namespace Dicer.Events

open Concurrency
open Program (Ensures)

/-!
# Every program keeps to the moves

Only the writer has to know anything of the log: which event it has at hand, what it copied and has
not written yet, and, once the log is closed and drained, that no event can be dropped any more.
-/

/-- What the writer knows. -/
structure Desk where
  hand : Option Pending
  copied : Option (List Event × Nat)
  compacted : Bool
  isOpen : Bool
  whole : Bool
  drained : Bool

namespace Desk

/-- Nothing at hand, and whether the log is drained. -/
def free (drained : Bool) : Desk := ⟨none, none, false, false, false, drained⟩

structure Knows (desk : Desk) (thread : Nat) (world : World) : Prop where
  writes : Writes thread desk.hand world
  copied : ∀ copy ∈ desk.copied, Copied world copy.1 copy.2
  copiedAll : ∀ copy ∈ desk.copied, desk.drained = true → world.droppedThrough ≤ copy.2
  compacted : desk.compacted = true → Compacted world
  isOpen : desk.isOpen = true → world.isOpen = true
  whole : desk.whole = true → desk.drained = true → world.droppedThrough ≤ world.compactedThrough
  drained : desk.drained = true → world.closed = true ∧ world.writes = []

end Desk

/-- What a thread knows, if it is the writer. -/
def Knows (desk : Option Desk) (thread : Nat) (world : World) : Prop :=
  ∀ known ∈ desk, known.Knows thread world

variable {config : Config} {before after world : World} {desk : Desk} {thread other last : Nat}
  {event : Event} {events : List Event}

theorem Copied.keep (sane : Sane world) (copied : Copied world events last) :
    Copied (config.keep event world) events last := by
  refine { copied with covers := ?_, recorded := Nat.le_succ_of_le copied.recorded }
  rw [keep_all]
  refine copied.covers.extend ?_ length_past_le_keep _
  rw [sane.counted]
  exact Nat.add_le_add_left copied.recorded _

theorem Compacted.keep (sane : Sane world) (compacted : Compacted world) :
    Compacted (config.keep event world) := by
  refine { compacted with covers := ?_ }
  rw [keep_all]
  refine compacted.covers.extend ?_ length_past_le_keep _
  rw [sane.counted]
  exact Nat.add_le_add_left sane.compacted _

theorem Writes.same {hand known : Option Pending} (different : other ≠ thread)
    (writes : Writes thread known world) : ¬Writes other hand world := by
  intro others
  exact different (Option.some.inj (others.1.symm.trans writes.1))

namespace Desk.Knows

theorem keep (sane : Sane world) (knows : desk.Knows thread world) :
    desk.Knows thread (config.keep event world) :=
  { knows with
    copied := fun copy member => (knows.copied copy member).keep sane
    compacted := fun known => (knows.compacted known).keep sane }

theorem notDrained (knows : desk.Knows thread world) (notClosed : world.closed = false) :
    ¬desk.drained = true := by
  intro drained
  exact absurd ((knows.drained drained).1.symm.trans notClosed) (by decide)

theorem elsewhere (knows : desk.Knows thread before) (subscriptions : List Subscription)
    (closed : Bool) (stays : before.closed = true → closed = true) (kept : Option (List Event))
    (closes : List (List Err)) (heard : Nat → List Event) :
    desk.Knows thread { before with
      subscriptions := subscriptions, closed := closed, keptAtClose := kept, closes :=
          closes, heard := heard } :=
  { knows with
    copied := fun copy member => { knows.copied copy member with }
    compacted := fun known => { knows.compacted known with }
    drained := fun known => ⟨stays (knows.drained known).1, (knows.drained known).2⟩ }

end Desk.Knows

theorem Moved.knows (sane : Sane before) (different : other ≠ thread)
    (moved : Moved config other before after) (knows : desk.Knows thread before) :
    desk.Knows thread after := by
  have notWriter : ∀ hand, ¬Writes other hand before := fun hand => knows.writes.same different
  cases moved with
  | kept => exact knows.keep sane
  | queued event notClosed | dropped event notClosed =>
    have kept : desk.Knows thread (config.keep event before) := knows.keep sane
    exact { kept with
      copied := fun copy member => { kept.copied copy member with }
      copiedAll := fun _ _ drained => absurd drained (knows.notDrained notClosed)
      compacted := fun known => { kept.compacted known with }
      whole := fun _ drained => absurd drained (knows.notDrained notClosed)
      drained := fun drained => absurd drained (knows.notDrained notClosed) }
  | subscribed | returned | unsubscribed | received =>
    exact knows.elsewhere _ before.closed (fun closed => closed) _ _ _
  | closed => exact knows.elsewhere _ true (fun _ => rfl) _ _ _
  | began free => exact absurd (knows.writes.1.symm.trans free) (by simp)
  | took _ _ writes | skipped _ writes | wrote _ writes | spoilt _ _ writes | replaced _ _ writes
  | opened _ writes | shut writes | delayed _ writes | stopped _ writes => exact absurd writes (notWriter _)

/-- Time goes by. -/
def Elapsed (before after : World) : Prop :=
  ∃ time, after = { before with clock := before.clock + time }

theorem Elapsed.sane (elapsed : Elapsed before after) (sane : Sane before) : Sane after := by
  rcases elapsed with ⟨time, rfl⟩
  exact { sane with }

theorem Elapsed.knows (elapsed : Elapsed before after) (knows : desk.Knows thread before) :
    desk.Knows thread after := by
  rcases elapsed with ⟨time, rfl⟩
  exact { knows with
    copied := fun copy member => { knows.copied copy member with }
    compacted := fun known => { knows.compacted known with } }

def contract (config : Config) : Contract Nat World where
  keeps := Sane
  may := Moved config
  outside := Elapsed
  idle := fun _ _ => True
  meets := fun _ _ => True

def ownDesk (config : Config) (thread : Nat) :
    Knowledge (contract config) thread (Option Desk) where
  knows := fun desk => Knows desk thread
  stable := by
    rintro desk first second ⟨sane, _, _, elapsed | ⟨other, different, moved⟩⟩ knows known member
    · exact Elapsed.knows elapsed (knows known member)
    · exact Moved.knows sane different moved (knows known member)

/-! ## One rule for each action -/

section

variable {Value : Type} {post : Value → Option Desk → Prop} {place : Option Desk}

/-- A thread's program, from this much known on. -/
abbrev During (config : Config) (thread : Nat) (op : Op Value) (post : Value → Option Desk → Prop)
    (place : Option Desk) : Prop :=
  op.Ensures (ownDesk config thread) post place

theorem During.perform {action : Nat → World → List (Value × World)}
    (step : ∀ now, Sane now → Knows place thread now → Answers (fun answer after =>
      (after = now ∨ Moved config thread now after) ∧ ∃ later, Knows later thread after ∧
        post answer later) (action thread now)) :
    During config thread (Program.perform action) post place := by
  apply Ensures.perform
  intro now sane knows answer after answered _
  rcases step now sane knows answer after answered with ⟨allowed, later⟩
  exact ⟨allowed, fun _ => later⟩

theorem During.looks {look : World → Value}
    (seen : ∀ now, Sane now → Knows place thread now → ∃ later, Knows later thread now ∧
      post (look now) later) :
    During config thread (Program.perform fun _ world => [(look world, world)]) post place :=
  .perform fun now sane knows => .one ⟨.inl rfl, seen now sane knows⟩

/-- An action of a thread that is not the writer, or need not be. -/
theorem During.moves {action : Nat → World → List (Value × World)}
    (step : ∀ now, Answers (fun _ after => after = now ∨ Moved config thread now after)
      (action thread now))
    (done : ∀ answer, post answer none) :
    During config thread (Program.perform action) post none := by
  refine .perform fun now sane _ answer after answered => ?_
  have nothing : Knows none thread after := nofun
  exact ⟨step now answer after answered, none, nothing, done answer⟩

theorem look_during {look : World → Value} (done : ∀ answer, post answer place) :
    During config thread (Program.perform fun _ world => [(look world, world)]) post place :=
  During.looks fun _ _ knows => ⟨place, knows, done _⟩

theorem never_during : During config thread never post place :=
  fun _ _ _ _ _ _ answer => nomatch answer

theorem During.forget {op : Op Value} {less : Option Desk}
    (weaker : ∀ world, Knows place thread world → Knows less thread world)
    (during : During config thread op post less) : During config thread op post place :=
  fun world sane knows => during world sane (weaker world knows)

theorem Desk.Knows.some (knows : desk.Knows thread world) :
    Events.Knows (some desk) thread world := by
  intro known member
  cases member
  exact knows

theorem Desk.Knows.free {drained : Bool} (writes : Writes thread none world)
    (isDrained : drained = true → world.closed = true ∧ world.writes = []) :
    (Desk.free drained).Knows thread world where
  writes := writes
  copied := nofun
  copiedAll := nofun
  compacted := nofun
  isOpen := nofun
  whole := nofun
  drained := isDrained

theorem Desk.Knows.idle (writes : Writes thread none world) :
    (Desk.free false).Knows thread world :=
  Desk.Knows.free writes nofun

end

section

variable {drained : Bool} {post : Unit → Option Desk → Prop}

theorem startWriter_during (done : post () (some (Desk.free false))) :
    During config thread startWriter post none := by
  refine .perform fun now sane _ => ?_
  split
  · rename_i free
    have started := sane.started free
    have writes : Writes thread none { now with writer := some thread } :=
      ⟨rfl, started.1, started.2⟩
    exact .one ⟨.inr (.began free), _, (Desk.Knows.idle writes).some, done⟩
  · exact .none

theorem takePending_during {post : Option Pending → Option Desk → Prop}
    (takes : ∀ pending, post (some pending) (some { Desk.free false with hand := some pending }))
    (ends : post none (some (Desk.free true))) :
    During config thread takePending post (some (Desk.free false)) := by
  refine .perform fun now sane knows => ?_
  have writes : Writes thread none now := (knows _ rfl).writes
  split
  · rename_i pending rest waiting
    have taken : Writes thread (some pending) { now with writes := rest, hand := some pending } :=
      ⟨writes.1, writes.2.1, rfl⟩
    refine .one ⟨.inr (.took pending rest writes waiting), _, ?_, takes pending⟩
    exact .some ⟨taken, nofun, nofun, nofun, nofun, nofun, nofun⟩
  · rename_i empty
    split
    · rename_i isClosed
      exact .one ⟨.inl rfl, _, (Desk.Knows.free writes fun _ => ⟨isClosed, empty⟩).some, ends⟩
    · exact .none

theorem writePending_during {pending : Pending} (done : post () (some (Desk.free false))) :
    During config thread (writePending pending) post
      (some { Desk.free false with hand := some pending }) := by
  refine .perform fun now sane knows => ?_
  have writes : Writes thread (some pending) now := (knows _ rfl).writes
  have written {after : World} (moved : Moved config thread now after)
      (writer : after.writer = now.writer) (stopped : after.stopped = now.stopped)
      (empty : after.hand = none) :
      (after = now ∨ Moved config thread now after) ∧ ∃ later, Knows later thread after ∧
          post () later :=
    ⟨.inr moved, _, (Desk.Knows.idle ⟨writer.trans writes.1, stopped.trans writes.2.1, empty⟩).some,
      done⟩
  dsimp only
  split
  · rename_i needed
    exact .cons (written (.wrote pending writes needed.1 needed.2) rfl rfl rfl)
      (.three (written (.spoilt pending now.file writes) rfl rfl rfl)
        (written (.spoilt pending _ writes) rfl rfl rfl)
        (written (.spoilt pending _ writes) rfl rfl rfl))
  · rename_i needless
    exact .one (written (.skipped pending writes needless) rfl rfl rfl)

theorem keptEvents_during {post : List Event × Nat → Option Desk → Prop}
    (done : ∀ copy, post copy (some { Desk.free drained with copied := some copy })) :
    During config thread keptEvents post (some (Desk.free drained)) := by
  apply During.looks
  intro now sane knows
  refine ⟨_, ?_, done _⟩
  have writer := knows _ rfl
  have whole : (now.all.take (now.loaded + now.recorded)).drop now.past.length = now.events := by
    rw [← sane.counted, List.take_length]
    simp [World.all]
  have within : now.past.length ≤ now.loaded + now.recorded := by
    rw [← sane.counted]
    simp [World.all]
  have copied : Copied now now.events now.recorded :=
    ⟨⟨_, Nat.le_refl _, within, whole.symm⟩, Nat.le_refl _, sane.handled.trans sane.offered⟩
  refine .some { writer with copied := ?_, copiedAll := ?_ }
  · intro copy member
    cases member
    exact copied
  · intro copy member _
    cases member
    exact sane.dropped.trans sane.offered

theorem replaceFile_during {post : Except Err Unit → Option Desk → Prop}
    (done : post (.ok ()) (some { Desk.free drained with compacted := true, whole := true }))
    (fails : ∀ error, post (.error error) (some (Desk.free drained))) :
    During config thread (replaceFile events last).run post
      (some { Desk.free drained with copied := some (events, last) }) := by
  refine .perform fun now sane knows => ?_
  have writer := knows _ rfl
  have writes : Writes thread none now := writer.writes
  have copied : Copied now events last := writer.copied _ rfl
  refine .two ⟨.inr (.replaced events last writes copied), _, ?_, done⟩
    ⟨.inl rfl, _, (Desk.Knows.free writes writer.drained).some, fails _⟩
  refine .some ⟨writes, nofun, nofun, fun _ => ⟨?_, copied.handled⟩, nofun, fun _ =>
    writer.copiedAll _ rfl, writer.drained⟩
  rw [readable_map_some]
  exact copied.covers

theorem openFile_during {count : Nat} {post : Except Err Unit → Option Desk → Prop}
    (done : post (.ok ()) (some { Desk.free drained with isOpen := true, whole := true }))
    (fails : ∀ error, post (.error error) (some (Desk.free drained))) :
    During config thread (openFile count).run post
      (some { Desk.free drained with compacted := true, whole := true }) := by
  refine .perform fun now sane knows => ?_
  have writer := knows _ rfl
  have writes : Writes thread none now := writer.writes
  have shut : (Desk.free drained).Knows thread { now with isOpen := false } :=
    .free writes writer.drained
  refine .two ⟨.inr (.opened count writes (writer.compacted rfl)), _, ?_, done⟩
    ⟨.inr (.shut writes), _, shut.some, fails _⟩
  exact .some ⟨writes, nofun, nofun, nofun, fun _ => rfl, writer.whole, writer.drained⟩

theorem compact_during {post : Except Err Unit → Option Desk → Prop}
    (done : post (.ok ()) (some { Desk.free drained with isOpen := true, whole := true }))
    (fails : ∀ error, post (.error error) (some (Desk.free drained))) :
    During config thread compact.run post (some (Desk.free drained)) := by
  apply Ensures.bindExcept
  apply Ensures.lift
  apply keptEvents_during
  rintro ⟨events, last⟩
  apply Ensures.bindExcept
  apply replaceFile_during
  · exact openFile_during done fails
  · exact fails

theorem putOff_during {until_ : Nat} (done : post () (some (Desk.free false))) :
    During config thread (putOff until_) post (some (Desk.free false)) := by
  refine .perform fun now sane knows => ?_
  have writes : Writes thread none now := (knows _ rfl).writes
  have putOff : (Desk.free false).Knows thread { now with retryAt := until_ } := .idle writes
  exact .one ⟨.inr (.delayed until_ writes), _, putOff.some, done⟩

theorem knows_idle (knows : Knows (some { Desk.free false with isOpen := true, whole := true })
    thread world) : Knows (some (Desk.free false)) thread world :=
  (Desk.Knows.idle (knows _ rfl).writes).some

theorem tryCompact_during {rest : Op Unit}
    (done : During config thread rest post (some (Desk.free false))) :
    During config thread (tryCompact >>= fun _ => rest) post (some (Desk.free false)) := by
  apply Ensures.bind
  apply Ensures.bind
  apply look_during
  intro at_
  apply Ensures.bind
  apply look_during
  intro retryAt
  split
  · exact .done done
  apply Ensures.bind
  apply compact_during
  · exact .done (done.forget fun _ => knows_idle)
  · intro error
    exact putOff_during done

theorem stop_during {errors : List Err} {desk : Desk}
    (atEnd : desk.hand = none ∧ desk.drained = true)
    (whole : errors = [] → desk.isOpen = true ∧ desk.whole = true) (done : post () none) :
    During config thread (stop errors) post (some desk) := by
  refine .perform fun now sane knows => ?_
  have writer := knows _ rfl
  have writes : Writes thread none now := atEnd.1 ▸ writer.writes
  have drained := writer.drained atEnd.2
  have stopped : ∀ reported, (reported = [] → errors = []) →
      Moved config thread now { now with isOpen := false, stopped := some reported } := by
    intro reported none
    refine .stopped reported writes drained.1 drained.2 fun isNone => ?_
    have known := whole (none isNone)
    exact ⟨writer.isOpen known.1, writer.whole known.2 atEnd.2⟩
  have nothing (after : World) : Knows none thread after := nofun
  split
  · exact .two ⟨.inr (stopped errors id), none, nothing _, done⟩
      ⟨.inr (stopped _ (by simp)), none, nothing _, done⟩
  · exact .one ⟨.inr (stopped errors id), none, nothing _, done⟩

theorem fileIsOpen_during {post : Bool → Option Desk → Prop}
    (isOpen : post true (some { Desk.free drained with isOpen := true }))
    (isShut : post false (some (Desk.free drained))) :
    During config thread fileIsOpen post (some (Desk.free drained)) := by
  apply During.looks
  intro now sane knows
  have writer := knows _ rfl
  cases found : now.isOpen with
  | false => exact ⟨_, knows, isShut⟩
  | true =>
    refine ⟨_, ?_, isOpen⟩
    exact .some { writer with isOpen := fun _ => found }

theorem droppedSince_during {post : Bool → Option Desk → Prop}
    (lacking : post true (some { Desk.free drained with isOpen := true }))
    (whole : post false (some { Desk.free drained with isOpen := true, whole := true })) :
    During config thread droppedSince post (some { Desk.free drained with isOpen := true }) := by
  apply During.looks
  intro now sane knows
  have writer := knows _ rfl
  by_cases dropped : now.compactedThrough < now.droppedThrough
  · rw [decide_eq_true dropped]
    exact ⟨_, knows, lacking⟩
  rw [decide_eq_false dropped]
  refine ⟨_, ?_, whole⟩
  exact .some { writer with whole := fun _ _ => Nat.not_lt.mp dropped }

theorem compactAndStop_during : During config thread (do
    match ← compact.run with
    | .ok _ => stop []
    | .error error => stop [error]) (fun _ _ => True) (some (Desk.free true)) := by
  apply Ensures.bind
  apply compact_during
  · exact stop_during ⟨rfl, rfl⟩ (fun _ => ⟨rfl, rfl⟩) trivial
  · intro error
    exact stop_during ⟨rfl, rfl⟩ (by simp) trivial

theorem finish_during : During config thread finish (fun _ _ => True) (some (Desk.free true)) := by
  apply Ensures.bind
  apply Ensures.bind
  apply fileIsOpen_during
  · apply droppedSince_during
    · apply compactAndStop_during.forget
      intro world knows
      exact (Desk.Knows.free (knows _ rfl).writes (knows _ rfl).drained).some
    · exact stop_during ⟨rfl, rfl⟩ (fun _ => ⟨rfl, rfl⟩) trivial
  · exact .done compactAndStop_during

theorem needsCompacting_during {post : Bool → Option Desk → Prop}
    (done : ∀ answer, post answer (some (Desk.free false))) :
    During config thread (needsCompacting config) post (some (Desk.free false)) := by
  have rest : ∀ caughtUp, During config thread (do
      if ← fileIsOpen then
        if ← hasGrown config then return true else return caughtUp
      else return true) post (some (Desk.free false)) := by
    intro caughtUp
    apply Ensures.bind
    apply look_during
    intro isOpen
    cases isOpen with
    | false => exact Ensures.done (done _)
    | true =>
      apply Ensures.bind
      apply look_during
      intro grown
      cases grown with
      | false | true => exact Ensures.done (done _)
  apply Ensures.bind
  apply Ensures.bind
  apply look_during
  intro empty
  cases empty with
  | false => exact Ensures.done (rest _)
  | true => exact look_during rest

theorem writeLoop_during (rounds : Nat) :
    During config thread (writeLoop config rounds) (fun _ _ => True) (some (Desk.free false)) := by
  induction rounds with
  | zero => exact never_during
  | succ rounds ih =>
    apply Ensures.bind
    apply takePending_during
    · intro pending
      apply Ensures.bind
      apply writePending_during
      apply Ensures.bind
      apply needsCompacting_during
      intro needed
      cases needed with
      | false => exact ih
      | true => exact tryCompact_during ih
    · exact finish_during

/-! ## The other programs -/

theorem recordEvent_during (done : post () none) :
    During config thread (recordEvent config event) post none := by
  refine .moves (fun now answer after answered => ?_) fun _ => done
  rcases List.mem_map.mp answered with ⟨queued, member, isAfter⟩
  rcases Prod.mk.inj isAfter with ⟨_, rfl⟩
  refine .inr ?_
  simp only [Events.queued] at member
  split at member
  · rename_i isClosed
    rw [List.mem_singleton.mp member]
    exact .kept event isClosed
  · rename_i isNotClosed
    have notClosed : now.closed = false := Bool.eq_false_iff.mpr isNotClosed
    rcases List.mem_append.mp member with fits | full
    · split at fits
      · rw [List.mem_singleton.mp fits]
        exact .queued event notClosed
      · exact nomatch fits
    · split at full
      · rw [List.mem_singleton.mp full]
        exact .dropped event notClosed
      · exact nomatch full

theorem record_during : During config thread (record config event) (fun _ _ => True) none := by
  unfold record
  split
  · apply Ensures.bind
    apply look_during
    intro at_
    exact recordEvent_during trivial
  · exact recordEvent_during trivial

theorem hearNext_during {id : Nat} :
    During config thread (hearNext id) (fun _ _ => True) none := by
  refine .moves (fun now => ?_) fun _ => trivial
  unfold receive
  split
  · exact .none
  rename_i sub there
  split
  · rename_i event rest waits
    exact .one (.inr (.received id sub event rest there waits))
  · split
    · refine .one (.inl ?_)
      simp
    · exact .none

theorem follow_during {filter : Filter} :
    During config thread (follow filter) (fun _ _ => True) none :=
  .moves (fun _ => .one (.inr (.subscribed filter))) fun _ => trivial

theorem closeSubscription_during {id : Nat} : During config thread (closeSubscription id)
    (fun _ _ => True) none :=
  .moves (fun _ => .one (.inr (.unsubscribed id))) fun _ => trivial

theorem close_during : During config thread close (fun _ _ => True) none := by
  apply Ensures.bind
  refine During.moves (fun now => ?_) fun _ => During.moves (fun now => ?_) fun _ => trivial
  · split
    · exact .one (.inl rfl)
    rename_i isNotClosed
    exact .one (.inr (.closed (Bool.eq_false_iff.mpr isNotClosed)))
  · unfold awaitStopped
    split
    · rename_i errors stopped
      exact .one (.inr (.returned errors stopped))
    · exact .none

theorem program_during (request : Request) :
    During config thread ((system config).program request) (fun _ _ => True) none := by
  cases request with
  | record => exact record_during
  | subscribe => exact follow_during
  | closeSubscription => exact closeSubscription_during
  | receive => exact hearNext_during
  | close => exact close_during
  | write rounds =>
    apply Ensures.bind
    exact startWriter_during (writeLoop_during rounds)

end

theorem contract_holds (config : Config) : (contract config).Holds (system config) where
  mayKeeps := fun _ _ _ sane _ moved => moved.sane sane
  happens := by
    intro time before after sane _ happened
    have elapsed : Elapsed before after := ⟨time, (Option.some.inj happened).symm⟩
    exact ⟨elapsed, elapsed.sane sane⟩
  crashes := fun _ _ _ _ impossible => nomatch impossible
  serves := by
    intro request thread world sane _ _
    have nothing : Knows none thread world := nofun
    exact (program_during request world sane nothing).mono sane fun _ _ _ _ => trivial

theorem holds_of_run {clock : Nat} {file : List (Option Event)} {pool : Pool Nat World}
    {meets : World → World → Prop} {property : World → Prop}
    (initially : property (config.opened clock file))
    (moves : ∀ thread before after, Sane before → meets before after →
      Moved config thread before after → property before → property after)
    (elapses : ∀ before time, property before →
      property { before with clock := before.clock + time })
    (reached : (system config).Reaches meets (config.opened clock file) pool) :
    property pool.world := by
  refine (contract_holds config).preserved (fun _ _ _ => trivial) (sane_opened clock file)
    (fun _ => trivial) initially ?_ reached
  intro before after sane _ met step holds
  rcases step with rfl | ⟨thread, moved⟩ | ⟨time, rfl⟩ | crashed
  · exact holds
  · exact moves thread before after sane met moved holds
  · exact elapses before time holds
  · exact nomatch crashed

end Dicer.Events
