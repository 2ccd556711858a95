import Dicer.Events.Conduct

namespace Dicer.Events

open Concurrency

/-!
# What a closed log leaves in its file

A log that closed without an error has a file that ends with the events it kept.  Whatever was
written late, written badly, skipped or dropped, the last compaction or the writer's own count puts
it right: the file is a stretch of the log that reaches to its end.
-/

variable {config : Config} {before after : World} {thread : Nat}

/-- No event is recorded once the log is closed. -/
def NoRecordAfterClose (before after : World) : Prop :=
  before.closed = true → after.recorded = before.recorded

instance : DecidableRel NoRecordAfterClose :=
  fun before after => inferInstanceAs (Decidable
    (before.closed = true → after.recorded = before.recorded))

/-- What holds of a log from its closing on. -/
structure Closing (world : World) : Prop where
  returned : ∀ errors ∈ world.closes, world.stopped = some errors
  kept : world.closed = true → world.keptAtClose = some world.events ∧
    world.offered = world.recorded
  saved : world.stopped = some [] → world.closed = true ∧
    Covers world.all world.past.length (world.loaded + world.recorded) (readable world.file)

/-- The file of a writer that stops well reaches to the last event it was offered. -/
theorem Sane.reaches_end {world : World} (sane : Sane world) (isOpen : world.isOpen = true)
    (undropped : world.droppedThrough ≤ world.compactedThrough) (done : world.hand = none)
    (drained : world.writes = []) (counted : world.offered = world.recorded) :
    Covers world.all world.past.length (world.loaded + world.recorded) (readable world.file) := by
  have queue := sane.queue
  rw [done, drained] at queue
  have reached : max world.compactedThrough world.handled = world.recorded := by
    have offered := queue.drained
    have compacted := sane.compacted
    have handled := sane.handled
    omega
  rw [← reached]
  exact sane.contents isOpen undropped

theorem Moved.closing (sane : Sane before) (met : NoRecordAfterClose before after)
    (moved : Moved config thread before after) (closing : Closing before) : Closing after := by
  have notSaved : before.closed = false → before.stopped ≠ some [] := by
    intro notClosed saved
    exact absurd ((closing.saved saved).1.symm.trans notClosed) (by decide)
  have running : ∀ {hand}, Writes thread hand before → before.stopped ≠ some [] := by
    intro hand writes saved
    exact nomatch writes.2.1.symm.trans saved
  cases moved with
  | kept event isClosed => exact absurd (met isClosed) (Nat.succ_ne_self _)
  | queued _ notClosed | dropped _ notClosed =>
    exact { closing with
      kept := fun isClosed => absurd (isClosed.symm.trans notClosed) (by decide)
      saved := fun saved => absurd saved (notSaved notClosed) }
  | closed notClosed =>
    exact { closing with
      kept := fun _ => ⟨rfl, sane.notClosed notClosed⟩
      saved := fun saved => absurd saved (notSaved notClosed) }
  | returned errors isStopped =>
    refine { closing with returned := ?_ }
    exact List.forall_mem_cons.mpr ⟨isStopped, closing.returned⟩
  | wrote _ writes | replaced _ _ writes | spoilt _ _ writes =>
    exact { closing with saved := fun saved => absurd saved (running writes) }
  | stopped errors writes isClosed drained whole =>
    refine { closing with returned := ?_, saved := ?_ }
    · intro returned member
      exact nomatch writes.2.1.symm.trans (closing.returned returned member)
    intro saved
    have open_ := whole (Option.some.inj saved)
    exact ⟨isClosed, sane.reaches_end open_.1 open_.2 writes.2.2 drained (closing.kept isClosed).2⟩
  | _ => exact { closing with }

/-- If closing a log returns no error, the events it kept are the last of those its file has, which
are events of the log in order, each once. -/
theorem closed_log_is_saved (config : Config) (clock : Nat) (file : List (Option Event))
    {pool : Pool Nat World} (reached : (system config).Reaches NoRecordAfterClose
      (config.opened clock file) pool)
    (returned : [] ∈ pool.world.closes) :
    ∃ kept, pool.world.keptAtClose = some kept ∧ kept <:+ readable pool.world.file ∧
      readable pool.world.file <:+ pool.world.all := by
  have sane : Sane pool.world :=
    holds_of_run (sane_opened clock file) (fun _ _ _ _ _ moved sane => moved.sane sane)
      (fun _ time sane => Elapsed.sane ⟨time, rfl⟩ sane) reached
  have closing : Closing pool.world := by
    refine holds_of_run ⟨nofun, nofun, nofun⟩
      (fun _ _ _ sane met moved closing => moved.closing sane met closing) ?_ reached
    exact fun _ _ closing => { closing with }
  rcases closing.saved (closing.returned [] returned) with ⟨isClosed, covers⟩
  rw [← sane.counted] at covers
  have isKept : pool.world.all.drop pool.world.past.length = pool.world.events :=
    by simp [World.all]
  have suffix := covers.suffix
  rw [isKept] at suffix
  exact ⟨pool.world.events, (closing.kept isClosed).1, suffix⟩

/-- An event of an image, at some time. -/
def pulled (time : Nat) : Event := ⟨time, .kindImage, "d1", "app:1", "pull", "", []⟩

/-- A log with room for one event to wait: the second is dropped, writing the first leaves part of a
line, rewriting the file fails once, the third is skipped, and closing puts all this right. -/
theorem closed_log_is_saved_after_failures : ∃ pool,
    (system ⟨2, 0, 1⟩).Reaches NoRecordAfterClose (Config.opened ⟨2, 0, 1⟩ 9 []) pool ∧
      ([] ∈ pool.world.closes ∧ readable pool.world.file = [pulled 2, pulled 3]) ∧
      ∃ kept, pool.world.keptAtClose = some kept ∧ kept <:+ readable pool.world.file ∧
        readable pool.world.file <:+ pool.world.all :=
  (system ⟨2, 0, 1⟩).known_of_schedule
    ([.spawn 0 (.record (pulled 1)), .act 0 0, .spawn 1 (.record (pulled 2)), .act 1 0,
      .spawn 2 (.write 5), .act 2 0, .act 2 0, .spawn 3 (.record (pulled 3)), .act 3 0, .act 2 2] ++
      List.replicate 5 (.act 2 0) ++ [.act 2 1] ++ List.replicate 8 (.act 2 0) ++
        [.spawn 4 .close, .act 4 0] ++
      List.replicate 6 (.act 2 0) ++ [.act 4 0]) (by decide +kernel) fun reached shown =>
    closed_log_is_saved _ 9 [] reached shown.1

/-- In every run the queue has what is yet to be written, in order and once, and an open file a
stretch of the log. -/
theorem log_stays_sane {clock : Nat} {file : List (Option Event)} {pool : Pool Nat World}
    (reached : (system config).Reaches (fun _ _ => True) (config.opened clock file) pool) :
    Sane pool.world :=
  ((contract_holds config).reaches (sane_opened clock file) (fun _ => trivial) reached).kept

/-- One event is written, the next was dropped, and the third waits. -/
theorem log_stays_sane_waiting : ∃ pool,
    (system ⟨2, 0, 1⟩).Reaches (fun _ _ => True) (Config.opened ⟨2, 0, 1⟩ 9 []) pool ∧
      (pool.world.file = [some (pulled 1)] ∧ pool.world.droppedThrough = 2 ∧
        pool.world.writes = [⟨3, pulled 3⟩]) ∧ Sane pool.world :=
  (system ⟨2, 0, 1⟩).known_of_schedule
    [.spawn 0 (.record (pulled 1)), .act 0 0, .spawn 1 (.record (pulled 2)), .act 1 0,
      .spawn 2 (.write 5), .act 2 0, .act 2 0, .spawn 3 (.record (pulled 3)), .act 3 0, .act 2 0]
    (by decide +kernel) fun reached _ => log_stays_sane reached

end Dicer.Events
