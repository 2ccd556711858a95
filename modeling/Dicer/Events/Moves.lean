import Dicer.Events.Writer

namespace Dicer.Events

open Function (update)

/-!
# What the threads do to a log

`World.all` is the log as if nothing were ever dropped from memory, and everything is said in its
terms: what waits for the writer are entries of it in order, those since the last one dropped are
all there, and while the file is open and nothing was dropped since it was compacted, it holds a
stretch of it that reaches up to what the writer has done with.
-/

section

variable {Entry : Type} {all entries : List Entry} {start later upTo : Nat} {entry : Entry}

/-- The entries of a list up to some number of them, from a place that is not after `start`. -/
def Covers (all : List Entry) (start upTo : Nat) (entries : List Entry) : Prop :=
  ∃ first, first ≤ start ∧ first ≤ upTo ∧ entries = (all.take upTo).drop first

theorem Covers.extend (covers : Covers all start upTo entries) (within : upTo ≤ all.length)
    (notBefore : start ≤ later) (more : List Entry) : Covers (all ++ more) later upTo entries := by
  rcases covers with ⟨first, fromStart, fromEnd, isEntries⟩
  refine ⟨first, fromStart.trans notBefore, fromEnd, ?_⟩
  rw [List.take_append_of_le_length within]
  exact isEntries

theorem Covers.next (covers : Covers all start upTo entries) (next : all[upTo]? = some entry) :
    Covers all start (upTo + 1) (entries ++ [entry]) := by
  rcases covers with ⟨first, fromStart, fromEnd, rfl⟩
  have within : upTo < all.length := (List.getElem?_eq_some_iff.mp next).1
  have reaches : first ≤ (all.take upTo).length := by
    rw [List.length_take]
    omega
  refine ⟨first, fromStart, by omega, ?_⟩
  rw [List.take_add_one, next, Option.toList_some, List.drop_append_of_le_length reaches]

theorem Covers.suffix (covers : Covers all start all.length entries) :
    all.drop start <:+ entries ∧ entries <:+ all := by
  rcases covers with ⟨first, fromStart, _, isEntries⟩
  rw [List.take_length] at isEntries
  subst isEntries
  refine ⟨?_, List.drop_suffix first all⟩
  have split : all.drop start = (all.drop first).drop (start - first) := by
    rw [List.drop_drop]
    congr 1
    omega
  rw [split]
  exact List.drop_suffix _ _

end

/-- What waits are events of the log by their numbers, in order, and none since the last one dropped
is missing. -/
structure Queue (all : List Event) (loaded handled dropped offered : Nat) (waiting : List Pending) :
    Prop where
  sorted : waiting.Pairwise fun first second => first.number < second.number
  numbered : ∀ pending ∈ waiting, handled < pending.number ∧ pending.number ≤ offered ∧
    all[loaded + pending.number - 1]? = some pending.event
  complete : ∀ number, handled < number → dropped < number → number ≤ offered →
    ∃ pending ∈ waiting, pending.number = number

namespace Queue

variable {all : List Event} {loaded handled dropped offered : Nat} {waiting rest : List Pending}
  {pending : Pending} {e : Event}

section

variable (queue : Queue all loaded handled dropped offered waiting)
include queue

theorem keep (within : loaded + offered ≤ all.length) :
    Queue (all ++ [e]) loaded handled dropped offered waiting := by
  refine { queue with numbered := ?_ }
  intro pending member
  rcases queue.numbered pending member with ⟨after, upTo, isEvent⟩
  refine ⟨after, upTo, ?_⟩
  rw [List.getElem?_append_left (by omega)]
  exact isEvent

theorem push (handledBefore : handled ≤ offered) (counted : all.length = loaded + offered) :
    Queue (all ++ [e]) loaded handled dropped (offered + 1) (waiting ++ [⟨offered + 1, e⟩]) := by
  have kept : Queue (all ++ [e]) loaded handled dropped offered waiting :=
    queue.keep (Nat.le_of_eq counted.symm)
  constructor
  · rw [List.pairwise_append]
    refine ⟨queue.sorted, List.pairwise_singleton _ _, ?_⟩
    intro first member second isNew
    obtain rfl := List.mem_singleton.mp isNew
    exact Nat.lt_succ_of_le (queue.numbered first member).2.1
  · intro pending member
    rcases List.mem_append.mp member with old | new
    · rcases kept.numbered pending old with ⟨after, upTo, isEvent⟩
      exact ⟨after, Nat.le_succ_of_le upTo, isEvent⟩
    obtain rfl := List.mem_singleton.mp new
    refine ⟨Nat.lt_succ_of_le handledBefore, Nat.le_refl _, ?_⟩
    simp [← counted, ← Nat.add_assoc]
  · intro number after undropped upTo
    by_cases isLast : number = offered + 1
    · exact ⟨_, List.mem_append_right _ List.mem_cons_self, isLast.symm⟩
    · rcases queue.complete number after undropped (by omega) with ⟨pending, member, isNumber⟩
      exact ⟨pending, List.mem_append_left _ member, isNumber⟩

theorem drop (counted : all.length = loaded + offered) :
    Queue (all ++ [e]) loaded handled (offered + 1) (offered + 1) waiting := by
  have kept : Queue (all ++ [e]) loaded handled dropped offered waiting :=
    queue.keep (Nat.le_of_eq counted.symm)
  refine ⟨queue.sorted, ?_, fun number _ undropped upTo => absurd undropped (by omega)⟩
  intro pending member
  rcases kept.numbered pending member with ⟨after, upTo, isEvent⟩
  exact ⟨after, Nat.le_succ_of_le upTo, isEvent⟩

end

theorem advance (queue : Queue all loaded handled dropped offered (pending :: rest)) :
    Queue all loaded pending.number dropped offered rest := by
  rcases List.pairwise_cons.mp queue.sorted with ⟨least, sorted⟩
  refine ⟨sorted, ?_, ?_⟩
  · intro other member
    exact ⟨least other member, (queue.numbered other (List.mem_cons_of_mem _ member)).2⟩
  intro number after undropped upTo
  have first := (queue.numbered pending List.mem_cons_self).1
  rcases queue.complete number (by omega) undropped upTo with ⟨other, member, isNumber⟩
  rcases List.mem_cons.mp member with rfl | inRest
  · omega
  · exact ⟨other, inRest, isNumber⟩

/-- If nothing was dropped since the file was compacted, the first that it lacks is the very
next. -/
theorem next (queue : Queue all loaded handled dropped offered (pending :: rest)) {compacted : Nat}
    (undropped : dropped ≤ compacted) (lacking : compacted < pending.number) :
    pending.number = max compacted handled + 1 := by
  have first := queue.numbered pending List.mem_cons_self
  by_contra notNext
  rcases queue.complete (max compacted handled + 1) (by omega) (by omega)
    (by omega) with ⟨other, member, isNumber⟩
  rcases List.mem_cons.mp member with rfl | inRest
  · exact notNext isNumber
  · have least := (List.pairwise_cons.mp queue.sorted).1 other inRest
    omega

theorem drained (queue : Queue all loaded handled dropped offered []) :
    offered ≤ max handled dropped := by
  by_contra more
  rcases queue.complete offered (by omega) (by omega) (Nat.le_refl _) with ⟨_, member, _⟩
  exact nomatch member

end Queue

/-! ## The moves -/

/-- The thread is the writer, has not stopped, and has this event at hand. -/
def Writes (thread : Nat) (hand : Option Pending) (world : World) : Prop :=
  world.writer = some thread ∧ world.stopped = none ∧ world.hand = hand

theorem Writes.started {thread : Nat} {hand : Option Pending} {world : World}
    (writes : Writes thread hand world) : world.writer ≠ none := by
  simp [writes.1]

/-- The events kept when as many were recorded as `last`, which is no fewer than the writer has done
with. -/
structure Copied (world : World) (events : List Event) (last : Nat) : Prop where
  covers : Covers world.all world.past.length (world.loaded + last) events
  recorded : last ≤ world.recorded
  handled : world.handled ≤ last

/-- The file as a compaction leaves it. -/
structure Compacted (world : World) : Prop where
  covers : Covers world.all world.past.length (world.loaded + world.compactedThrough)
    (readable world.file)
  handled : world.handled ≤ world.compactedThrough

/-- What a thread may do to a log in one action. -/
inductive Moved (config : Config) (thread : Nat) (world : World) : World → Prop
  | kept (event : Event) (isClosed : world.closed = true) :
    Moved config thread world (config.keep event world)
  | queued (event : Event) (notClosed : world.closed = false) :
      Moved config thread world { config.keep event world with
        offered := world.recorded + 1, writes := world.writes ++ [⟨world.recorded + 1, event⟩] }
  | dropped (event : Event) (notClosed : world.closed = false) :
      Moved config thread world { config.keep event world with
        offered := world.recorded + 1, droppedThrough := world.recorded + 1 }
  | subscribed (filter : Filter) :
      Moved config thread world { world with
        subscriptions := world.subscriptions ++ [Events.subscribed filter world]
        heard := update world.heard world.subscriptions.length (list filter world) }
  | unsubscribed (id : Nat) :
      Moved config thread world { world with
        subscriptions := world.subscriptions.modify id fun sub =>
          sub.end_ .closed world.all.length }
  | received (id : Nat) (sub : Subscription) (event : Event) (rest : List Event)
      (there : world.subscriptions[id]? = some sub) (waits : sub.events = event :: rest) :
      Moved config thread world { world with
        subscriptions := world.subscriptions.set id { sub with events := rest }
        heard := update world.heard id (world.heard id ++ [event]) }
  | closed (notClosed : world.closed = false) :
      Moved config thread world { world with
        closed := true
        keptAtClose := some world.events
        subscriptions := world.subscriptions.map fun sub => sub.end_ .closed world.all.length }
  | returned (errors : List Err) (isStopped : world.stopped = some errors) :
      Moved config thread world { world with closes := errors :: world.closes }
  | began (free : world.writer = none) :
    Moved config thread world { world with writer := some thread }
  | took (pending : Pending) (rest : List Pending) (writes : Writes thread none world)
      (waiting : world.writes = pending :: rest) :
      Moved config thread world { world with writes := rest, hand := some pending }
  | skipped (pending : Pending) (writes : Writes thread (some pending) world)
      (needless : ¬(world.compactedThrough < pending.number ∧ world.isOpen = true)) :
      Moved config thread world { world with hand := none, handled := pending.number }
  | wrote (pending : Pending) (writes : Writes thread (some pending) world)
      (lacking : world.compactedThrough < pending.number) (isOpen : world.isOpen = true) :
      Moved config thread world { world with
        hand := none
        handled := pending.number
        file := world.file ++ [some pending.event]
        written := world.written + 1 }
  | spoilt (pending : Pending) (file : List (Option Event))
      (writes : Writes thread (some pending) world) : Moved config thread world { world with
        hand := none
        handled := pending.number
        file := file
        isOpen := false }
  | replaced (events : List Event) (last : Nat) (writes : Writes thread none world)
      (copied : Copied world events last) :
      Moved config thread world { world with file := events.map some, compactedThrough := last }
  | opened (count : Nat) (writes : Writes thread none world) (compacted : Compacted world) :
      Moved config thread world { world with isOpen := true, written := count }
  | shut (writes : Writes thread none world) :
    Moved config thread world { world with isOpen := false }
  | delayed (until_ : Nat) (writes : Writes thread none world) :
      Moved config thread world { world with retryAt := until_ }
  | stopped (errors : List Err) (writes : Writes thread none world) (isClosed : world.closed = true)
      (drained : world.writes = [])
      (whole : errors = [] → world.isOpen = true ∧ world.droppedThrough ≤ world.compactedThrough) :
      Moved config thread world { world with isOpen := false, stopped := some errors }

structure Sane (world : World) : Prop where
  counted : world.all.length = world.loaded + world.recorded
  offered : world.offered ≤ world.recorded
  notClosed : world.closed = false → world.offered = world.recorded
  compacted : world.compactedThrough ≤ world.recorded
  handled : world.handled ≤ world.offered
  dropped : world.droppedThrough ≤ world.offered
  queue : Queue world.all world.loaded world.handled world.droppedThrough world.offered
    (world.hand.toList ++ world.writes)
  contents : world.isOpen = true → world.droppedThrough ≤ world.compactedThrough →
    Covers world.all world.past.length (world.loaded + max world.compactedThrough world.handled)
    (readable world.file)
  started : world.writer = none → world.stopped = none ∧ world.hand = none

variable {config : Config} {before after world : World} {thread : Nat} {event : Event}

theorem keep_all : (config.keep event world).all = world.all ++ [event] := by
  simp [Config.keep, Config.trim, World.all]

theorem length_past_le_keep : world.past.length ≤ (config.keep event world).past.length := by
  simp [Config.keep, Config.trim]

theorem readable_append (file : List (Option Event)) (event : Event) :
    readable (file ++ [some event]) = readable file ++ [event] := by
  simp [readable]

theorem readable_map_some (events : List Event) : readable (events.map some) = events := by
  simp [readable, List.filterMap_map]

/-- What the file holds stays a stretch of the log when an event is added to it. -/
theorem Sane.contents_keep (sane : Sane world) (isOpen : world.isOpen = true)
    (undropped : world.droppedThrough ≤ world.compactedThrough) :
    Covers (config.keep event world).all (config.keep event world).past.length
      (world.loaded + max world.compactedThrough world.handled) (readable world.file) := by
  rw [keep_all]
  refine (sane.contents isOpen undropped).extend ?_ length_past_le_keep _
  have counted := sane.counted
  have compacted := sane.compacted
  have handled := sane.handled
  have offered := sane.offered
  omega

theorem length_keep (sane : Sane world) :
    (config.keep event world).all.length = world.loaded + (world.recorded + 1) := by
  rw [keep_all, List.length_append, sane.counted]
  rfl

theorem Sane.kept (sane : Sane world) (isClosed : world.closed = true) :
    Sane (config.keep event world) := by
  refine { sane with
    counted := length_keep sane, offered := ?_, notClosed := ?_, compacted := ?_, queue := ?_
    contents := sane.contents_keep }
  · exact Nat.le_succ_of_le sane.offered
  · intro notClosed
    exact absurd (isClosed.symm.trans notClosed) (by decide)
  · exact Nat.le_succ_of_le sane.compacted
  · rw [keep_all]
    apply sane.queue.keep
    rw [sane.counted]
    exact Nat.add_le_add_left sane.offered _

theorem Sane.queued (sane : Sane world) (notClosed : world.closed = false) :
    Sane { config.keep event world with
      offered := world.recorded + 1, writes := world.writes ++ [⟨world.recorded + 1, event⟩] } := by
  have isOffered := sane.notClosed notClosed
  refine { sane with
    counted := length_keep sane, offered := Nat.le_refl _, notClosed := fun _ => rfl, compacted :=
      ?_
    handled := ?_, dropped := ?_, queue := ?_, contents := sane.contents_keep }
  · exact Nat.le_succ_of_le sane.compacted
  · exact Nat.le_succ_of_le (sane.handled.trans sane.offered)
  · exact Nat.le_succ_of_le (sane.dropped.trans sane.offered)
  · have pushed := sane.queue.push sane.handled (sane.counted.trans (by rw [isOffered]))
      (e := event)
    rw [isOffered, List.append_assoc] at pushed
    exact keep_all ▸ pushed

theorem Sane.droppedEvent (sane : Sane world) (notClosed : world.closed = false) :
    Sane { config.keep event world with
      offered := world.recorded + 1, droppedThrough := world.recorded + 1 } := by
  have isOffered := sane.notClosed notClosed
  refine { sane with
    counted := length_keep sane, offered := Nat.le_refl _, notClosed := fun _ => rfl, compacted :=
      ?_
    handled := ?_, dropped := Nat.le_refl _, queue := ?_, contents := ?_ }
  · exact Nat.le_succ_of_le sane.compacted
  · exact Nat.le_succ_of_le (sane.handled.trans sane.offered)
  · have dropped := sane.queue.drop (sane.counted.trans (by rw [isOffered])) (e := event)
    rw [isOffered] at dropped
    exact keep_all ▸ dropped
  · intro _ undropped
    exact absurd (undropped.trans sane.compacted) (Nat.not_succ_le_self _)

variable {pending : Pending}

/-- The writer is done with the event it has at hand, which is not written if the file has it. -/
theorem Sane.skipped (sane : Sane world) (writes : Writes thread (some pending) world)
    (needless : ¬(world.compactedThrough < pending.number ∧ world.isOpen = true)) :
    Sane { world with hand := none, handled := pending.number } := by
  have queue := sane.queue
  rw [writes.2.2] at queue
  refine { sane with
    handled := (queue.numbered pending List.mem_cons_self).2.1, queue := queue.advance, contents :=
      ?_
    started := fun free => absurd free writes.started }
  intro isOpen undropped
  have compacted : pending.number ≤ world.compactedThrough :=
    Nat.not_lt.mp fun lacking => needless ⟨lacking, isOpen⟩
  have covers := sane.contents isOpen undropped
  have after := (queue.numbered pending List.mem_cons_self).1
  rw [Nat.max_eq_left (by omega)] at covers ⊢
  exact covers

/-- The event the writer appends is the next of the log, if none was dropped since the file was
compacted. -/
theorem Sane.wrote (sane : Sane world) (writes : Writes thread (some pending) world)
    (lacking : world.compactedThrough < pending.number) :
    Sane { world with
      hand := none, handled := pending.number, file := world.file ++ [some pending.event]
      written := world.written + 1 } := by
  have queue := sane.queue
  rw [writes.2.2] at queue
  have numbered := queue.numbered pending List.mem_cons_self
  refine { sane with
    handled := numbered.2.1, queue := queue.advance, contents := ?_
    started := fun free => absurd free writes.started }
  intro isOpen undropped
  have isNext := queue.next undropped lacking
  have isEvent : world.all[world.loaded + max world.compactedThrough world.handled]? =
      some pending.event := by
    rw [← numbered.2.2, isNext]
    rfl
  rw [readable_append, Nat.max_eq_right (Nat.le_of_lt lacking), isNext]
  exact (sane.contents isOpen undropped).next isEvent

theorem Sane.spoilt (sane : Sane world) (writes : Writes thread (some pending) world)
    (file : List (Option Event)) : Sane { world with
      hand := none, handled := pending.number, file := file, isOpen := false } := by
  have queue := sane.queue
  rw [writes.2.2] at queue
  exact { sane with
    handled := (queue.numbered pending List.mem_cons_self).2.1, queue := queue.advance
    contents := nofun
    started := fun free => absurd free writes.started }

theorem Sane.replaced {events : List Event} {last : Nat} (sane : Sane world)
    (copied : Copied world events last) :
    Sane { world with file := events.map some, compactedThrough := last } := by
  refine { sane with compacted := copied.recorded, contents := ?_ }
  intro _ _
  rw [Nat.max_eq_left copied.handled, readable_map_some]
  exact copied.covers

theorem Sane.opened (sane : Sane world) (compacted : Compacted world) (count : Nat) :
    Sane { world with isOpen := true, written := count } := by
  refine { sane with contents := ?_ }
  intro _ _
  rw [Nat.max_eq_left compacted.handled]
  exact compacted.covers

theorem Moved.sane (moved : Moved config thread before after) (sane : Sane before) :
    Sane after := by
  cases moved with
  | kept event isClosed => exact sane.kept isClosed
  | queued event notClosed => exact sane.queued notClosed
  | dropped event notClosed => exact sane.droppedEvent notClosed
  | closed notClosed => exact { sane with notClosed := nofun }
  | began => exact { sane with started := nofun }
  | took pending rest writes waiting =>
    have queue := sane.queue
    rw [writes.2.2, waiting] at queue
    exact { sane with queue := queue, started := fun free => absurd free writes.started }
  | skipped pending writes needless => exact sane.skipped writes needless
  | wrote pending writes lacking => exact sane.wrote writes lacking
  | spoilt pending file writes => exact sane.spoilt writes file
  | replaced events last writes copied => exact sane.replaced copied
  | opened count writes compacted => exact sane.opened compacted count
  | shut => exact { sane with contents := nofun }
  | stopped errors writes =>
    exact { sane with
      contents := nofun
      started := fun free => absurd free writes.started }
  | _ => exact { sane with }

theorem sane_opened (clock : Nat) (file : List (Option Event)) :
    Sane (config.opened clock file) := by
  have nothing : ∀ number, 0 < number → ¬number ≤ 0 := fun number positive =>
    Nat.not_le.mpr positive
  constructor
  case queue => exact ⟨List.Pairwise.nil, by simp [Config.opened], fun number after _ upTo =>
    absurd upTo (nothing number after)⟩
  case contents =>
    intro _ _
    refine ⟨0, Nat.zero_le _, Nat.zero_le _, ?_⟩
    simp only [Config.opened, World.all, readable_map_some, Nat.max_self, Nat.add_zero,
      List.nil_append, List.take_length, List.drop_zero]
  all_goals simp [Config.opened, World.all]

end Dicer.Events
