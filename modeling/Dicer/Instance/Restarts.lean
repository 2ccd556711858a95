import Dicer.Concurrency.Serving
import Dicer.Instance.Runs

namespace Dicer.Instance

open Concurrency

/-!
# Restarts to come

An instance that is Restarting waits for a restart the daemon has scheduled.  Whenever its lock is
free, one is pending, or has come due and is about to take the lock.

A start and a restore call a pending restart off before they know whether they can go on, and one
that is refused leaves the instance Restarting.  So this is of runs in which no start of a Restarting
instance is refused admission.  A restore, and a start that is to resume a frozen guest, may give up
before they ask for it, and do not come in when the instance is Restarting.  Every status write and
every removal of a directory succeeds: a stop and a delete call the restart off as well, and what
they do next may fail.
-/

/-- Nobody who may give up early takes the lock of an instance that is Restarting. -/
abbrev LeavesRestarts (before after : World) : Prop :=
  ∀ id ∈ before.issued, before.holds id = none → ∀ hold ∈ after.holds id,
    hold.purpose.givesUp hold.found = true → before.stateIn id ≠ .restarting

abbrev KeepsRestarts (before after : World) : Prop :=
  NamesApart before after ∧ FilesKept before after ∧ after.refusals = before.refusals ∧
    LeavesRestarts before after

/-- Who may give up early has the lock of an instance that is not Restarting. -/
def Replaces (world : World) : Prop :=
  ∀ id hold, world.holds id = some hold → hold.purpose.givesUp hold.found = true →
    world.stateIn id ≠ .restarting

theorem Purpose.replaces_of_givesUp {purpose : Purpose} {found : Standing}
    (gives : purpose.givesUp found = true) : purpose.replacesRestart = true := by
  cases purpose <;> simp_all [givesUp, replacesRestart]

section

variable {capacity : Capacity} {thread : Nat} {world after : World} {id : String}

theorem World.standing_awaited : (world.standing id).awaited = true ↔
    (world.stateIn id = .restarting → world.definition id ≠ none → world.awaited id = true) := by
  cases defined : world.definition id <;> by_cases restarting : world.stateIn id = .restarting <;>
    simp [World.standing, defined, restarting]

/-- An instance that is not Restarting is not made so by who starts or restores it. -/
theorem Move.not_restarting (move : Move thread world after) {hold : Hold}
    (held : world.holds id = some hold) (replaces : hold.purpose.replacesRestart = true)
    (was : world.stateIn id ≠ .restarting) : after.stateIn id ≠ .restarting := by
  rcases move.turns id with same | ⟨own, mine, turns⟩
  · exact same ▸ was
  cases mine.1.symm.trans held
  intro restarting
  rw [restarting] at turns
  cases turns with
  | stays _ _ active => simp [State.isActive] at active
  | ends _ down => simp [State.isDown] at down
  | restarts _ purpose =>
    cases is : hold.purpose <;> simp [is, Purpose.replacesRestart] at purpose replaces

theorem Replaces.moved (holds : Replaces world) (leaves : LeavesRestarts world after)
    (move : Move thread world after) : Replaces after := by
  intro id hold held replaces
  rcases move.held_before held with ⟨purpose, rfl, rfl, free, issued, _⟩ | ⟨old, was, continues⟩
  · exact leaves id issued free _ held replaces
  · rw [continues.purpose, continues.found] at replaces
    exact move.not_restarting was (Purpose.replaces_of_givesUp replaces)
      (holds id old was replaces)

theorem Upheld.awaited_moved (upheld : Upheld Standing.awaited world) (sane : Sane world)
    (saneAfter : Sane after) (unfaulted : world.faults = 0) (unrefused : world.refusals = 0)
    (replaces : Replaces world) (move : Move thread world after) :
    Upheld Standing.awaited after := by
  refine upheld.moved sane move ?_ ?_ ?_
  · intro id issued unowned untaken awaited
    rw [World.standing_awaited] at awaited ⊢
    rw [World.stateIn, move.status_kept unowned, move.definition_same unowned sane saneAfter issued]
    exact fun restarting defined => move.awaited_kept unowned untaken (awaited restarting defined)
  · rintro id hold mine rfl fit found
    rcases (fit unfaulted).awaits found with awaited | refused | replacing
    · exact awaited
    · simp [unrefused] at refused
    rw [World.standing_awaited]
    exact fun restarting => absurd restarting (replaces id hold mine.1 replacing)
  · intro id _ missing
    rw [World.standing_awaited, World.stateIn, missing]
    simp [Status.stopped]

theorem restarts_preserved : Preserved KeepsRestarts (fun world => world.faults = 0 ∧
    world.refusals = 0 ∧ Replaces world ∧ Upheld Standing.awaited world) := by
  constructor
  · exact ⟨rfl, rfl, by simp [Replaces, World.fresh], .fresh⟩
  · rintro thread before after sane saneAfter ⟨_, kept, admitted, leaves⟩ move
      ⟨unfaulted, unrefused, replaces, upheld⟩
    exact ⟨kept.trans unfaulted, admitted.trans unrefused, replaces.moved leaves move,
      upheld.awaited_moved sane saneAfter unfaulted unrefused replaces move⟩
  · rintro event before after sane _ ⟨_, kept, admitted, _⟩ happened
      ⟨unfaulted, unrefused, replaces, upheld⟩
    refine ⟨kept.trans unfaulted, admitted.trans unrefused, ?_, upheld.happened sane happened ?_⟩
    · rcases World.happen_keeps happened with ⟨vmms, runs, status, rfl, rfl | ⟨_, rfl⟩⟩
      · exact replaces
      · exact fun _ _ _ _ restarting => State.noConfusion restarting
    rcases World.happen_keeps happened with ⟨vmms, runs, status, rfl, _⟩
    rintro rfl id
    rfl
  · rintro before sane ⟨_, kept, admitted, _⟩ ⟨unfaulted, unrefused, _⟩
    exact ⟨kept.trans unfaulted, admitted.trans unrefused, by simp [Replaces, World.crash], .crashed before⟩

/-- In runs in which no instance is named by an ID, no status write or removal fails, no start of an
instance that is Restarting is refused admission and nobody comes to one who may give up before:
whenever the lock of an instance that is Restarting is free and no restart of it is about to begin,
a restart is pending.  And in every run, no step makes an instance Restarting while it is started or
restored, once it is not, as when the start or restore was admitted. -/
theorem restarting_has_restart {pool : Pool Nat World} {id : String} :
    ((system capacity).Reaches KeepsRestarts World.fresh pool → ∀ name, pool.world.Names id name →
      pool.world.settled id = true → pool.world.holds id = none →
      (∀ thread, (thread, id) ∉ pool.world.claims) → pool.world.stateIn id = .restarting →
      pool.world.restarts id ≠ none) ∧
    ((system capacity).Reaches NamesApart World.fresh pool → ∀ choice after,
      System.Survives choice → (system capacity).step choice pool = some after →
      NamesApart pool.world after.world → ∀ hold, pool.world.holds id = some hold →
      hold.purpose.replacesRestart = true → pool.world.stateIn id ≠ .restarting →
      after.world.stateIn id ≠ .restarting) := by
  refine ⟨fun reached name names settled free unclaimed restarting => ?_,
    fun reached choice after survives stepped apart hold held replaces was => ?_⟩
  · have sane := sane_of_run (fun _ _ met => met.1) reached
    have upheld := (restarts_preserved.run (fun _ _ met => met.1) reached).2.2.2
    have awaited := World.standing_awaited.mp (upheld.free id name free names settled) restarting
    rcases names with ⟨spec, member, same, _⟩
    have defined : pool.world.definition id ≠ none := by
      rw [sane.filed.definition_eq.mpr ⟨member, same⟩]
      simp
    refine (World.awaited_iff.mp (awaited defined)).resolve_right ?_
    rintro ⟨thread, claim⟩
    exact unclaimed thread claim
  · have sound := (holds capacity).reaches Sane.fresh Idle.fresh reached
    rcases (holds capacity).survived_step choice survives sound stepped apart with
      same | ⟨thread, move⟩ | ⟨event, happened⟩
    · exact same ▸ was
    · exact move.not_restarting held replaces was
    · rcases World.happen_keeps happened with ⟨vmms, runs, status, isAfter, rfl | ⟨_, rfl⟩⟩
      · exact isAfter ▸ was
      · exact fun restarting => State.noConfusion (isAfter ▸ restarting)

end

/-- A host with room for one instance at a time. -/
def narrow : Capacity := ⟨true, 8, ⟨1, 1⟩⟩

/-- Of two instances, the one that is restarted is started, its VMM exits, and the exit is
handled. -/
def exitedOnce : List (Choice Nat Request Event) :=
  [.spawn 0 .recover] ++ steps 0 2 ++ [.spawn 1 (.create (restartedSpec "x1" "a"))] ++ steps 1 4 ++
    [.spawn 2 (.create (plainSpec "w1" "w"))] ++ steps 2 4 ++ [.spawn 3 (.start "a")] ++
    steps 3 30 ++
    [.happen (.vmmExits 1), .spawn 4 (.exit (restartedSpec "x1" "a") 1)] ++ steps 4 11

/-- It is started before its restart is due, and exits again. -/
def exitedTwice : List (Choice Nat Request Event) :=
  exitedOnce ++ [.spawn 5 (.start "a")] ++ steps 5 28 ++
    [.happen (.vmmExits 3), .spawn 6 (.exit (restartedSpec "x1" "a") 3)] ++ steps 6 11

theorem restarting_has_restart_exited : ∃ pool : Pool Nat World,
    (pool.world.boots.length = 2 ∧ pool.world.stateIn "x1" = .restarting) ∧
      pool.world.restarts "x1" ≠ none := by
  rcases (system narrow).reaches_of_schedule KeepsRestarts World.fresh
      (fun world => world.Names "x1" "a" ∧ world.settled "x1" = true ∧ world.holds "x1" = none ∧
        world.claims = [] ∧ world.boots.length = 2 ∧ world.stateIn "x1" = .restarting)
      exitedTwice (by decide +kernel) with
    ⟨pool, reached, names, settled, free, unclaimed, booted, restarting⟩
  exact ⟨pool, ⟨booted, restarting⟩,
    restarting_has_restart.1 reached _ names settled free (by simp [unclaimed]) restarting⟩

/-- Before the restart is due, the other instance takes the room there is, and a start of the one
that is Restarting is not admitted. -/
def startRefused : List (Choice Nat Request Event) :=
  exitedOnce ++ [.spawn 5 (.start "w")] ++ steps 5 29 ++ [.spawn 6 (.start "a")] ++ steps 6 12

theorem restarting_without_restart : ∃ pool : Pool Nat World,
    (system narrow).Reaches Unfaulted World.fresh pool ∧
    pool.world.Names "x1" "a" ∧ pool.world.stage = .serving ∧ pool.world.holds "x1" = none ∧
      pool.world.claims = [] ∧ pool.world.stateIn "x1" = .restarting ∧
      pool.world.restarts "x1" = none :=
  (system narrow).pool_of_schedule startRefused (by decide +kernel)

end Dicer.Instance
