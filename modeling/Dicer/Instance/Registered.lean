import Dicer.Instance.Runs

namespace Dicer.Instance

open Function Concurrency

/-!
# Active instances and registered VMMs

The status file and the map of supervised VMMs are changed at different times, by many operations.
Whenever an instance's lock is free they agree: it is Running or Paused exactly if a VMM is
registered for it.  A VMM that has exited and is still registered is still watched, so the handling
of its exit is to come.

This is of runs in which every status write and every removal of a directory succeeds.  A crash
takes nothing away from it, for the instances recovery has come to.
-/

/-- A registered VMM is watched for its exit, or the holder of the lock is handling it. -/
structure Watchful (world : World) : Prop where
  watched : ∀ id pid, world.supervised id = some pid → (id, pid) ∈ world.watchers ∨
    ∃ hold, world.holds id = some hold ∧ hold.exited = some pid

namespace Watchful

variable {thread : Nat} {world after : World}

theorem frame (watchful : Watchful world) (supervised : after.supervised = world.supervised)
    (watchers : after.watchers = world.watchers)
    (exited : ∀ id hold pid, world.holds id = some hold → hold.exited = some pid →
      world.supervised id = some pid → ∃ later, after.holds id = some later ∧
      later.exited = some pid) : Watchful after where
  watched := by
    intro id pid isSupervised
    rw [supervised] at isSupervised
    rw [watchers]
    refine (watchful.watched id pid isSupervised).imp_right ?_
    rintro ⟨hold, held, hasExited⟩
    exact exited id hold pid held hasExited isSupervised

theorem moved (watchful : Watchful world) (move : Move thread world after) : Watchful after := by
  have elsewhere : ∀ {id other : String} {pid : Nat} (note : Hold → Hold), id ≠ other →
      (∃ hold, world.holds id = some hold ∧ hold.exited = some pid) →
      ∃ hold, (world.noteHold other note).holds id = some hold ∧ hold.exited = some pid := by
    rintro id other pid note different ⟨hold, held, exited⟩
    exact ⟨hold, by rw [World.holds_noteHold, if_neg different, held], exited⟩
  cases move with
  | quiet alike =>
    refine watchful.frame alike.supervised alike.watchers fun id hold pid held exited _ => ?_
    have same := alike.holds id
    rw [held, Option.map_some] at same
    rcases Option.map_eq_some_iff.mp same with ⟨later, heldNow, isBare⟩
    exact ⟨later, heldNow, (congrArg Hold.exited isBare).trans exited⟩
  | took other purpose free =>
    refine watchful.frame rfl rfl fun id hold pid held exited _ =>
      ⟨hold, (update_of_ne ?_ ..).trans held, exited⟩
    rintro rfl
    exact nomatch free.symm.trans held
  | released other _ mine _ handled =>
    refine watchful.frame rfl rfl fun id hold pid held exited supervised =>
      ⟨hold, (update_of_ne ?_ ..).trans held, exited⟩
    rintro rfl
    cases mine.1.symm.trans held
    exact handled pid exited supervised
  | supervised =>
    refine ⟨fun id registered supervised => ?_⟩
    rcases update_eq_some_iff.mp supervised with ⟨rfl, rfl⟩ | ⟨different, was⟩
    · exact .inl List.mem_cons_self
    · exact (watchful.watched id registered was).imp (List.mem_cons_of_mem _)
        (elsewhere _ different)
  | forgot =>
    refine ⟨fun id registered supervised => ?_⟩
    rcases update_none_eq_some_iff.mp supervised with ⟨different, was⟩
    exact (watchful.watched id registered was).imp_right (elsewhere _ different)
  | checkedExit other hold pid mine first =>
    refine ⟨fun id registered supervised => ?_⟩
    have supervised : world.supervised id = some registered := supervised
    by_cases same : id = other
    · subst same
      rcases watchful.watched id registered supervised with watched | ⟨held, isHeld, exited⟩
      · by_cases isPid : registered = pid
        · subst isPid
          refine .inr ⟨{ hold with exited := some registered }, ?_, rfl⟩
          rw [World.holds_noteHold, if_pos rfl, mine.1]
          rfl
        · exact .inl (List.mem_filter.mpr ⟨watched, by simp [isPid]⟩)
      · -- Its handler looks only once.
        cases mine.1.symm.trans isHeld
        simp [first] at exited
    · refine (watchful.watched id registered supervised).imp (fun watched => ?_) (elsewhere _ same)
      exact List.mem_filter.mpr ⟨watched, by simp [same]⟩
  | _ => exact watchful.frame rfl rfl fun _ hold _ held exited _ => ⟨hold, held, exited⟩

end Watchful

section

variable {capacity : Capacity} {thread : Nat} {world after : World}

theorem World.standing_supervised {id : String} : (world.standing id).supervised = true ↔
    ((world.stateIn id).isActive = true → world.supervised id ≠ none) := by
  cases active : (world.stateIn id).isActive <;>
    simp [World.standing, active, Option.isSome_iff_ne_none]

theorem Upheld.supervised_moved (upheld : Upheld Standing.supervised world) (sane : Sane world)
    (unfaulted : world.faults = 0) (move : Move thread world after) :
    Upheld Standing.supervised after := by
  refine upheld.moved sane move ?_ ?_ ?_
  · intro id _ unowned _ supervised
    rw [World.standing_supervised] at supervised ⊢
    rw [World.stateIn, move.status_kept unowned, move.supervised_kept unowned]
    exact supervised
  · rintro id hold mine rfl fit found
    exact (fit unfaulted).supervises found
  · intro id _ missing
    rw [World.standing_supervised, World.stateIn, missing]
    simp [Status.stopped, State.isActive]

/-- In runs in which no instance is named by an ID and no status write or removal fails: whenever
the lock of an instance is free, the instance is active exactly if a VMM is registered for it, and
if that VMM has exited, its exit is still to be handled. -/
theorem active_iff_registered {pool : Pool Nat World} {id name : String}
    (reached : (system capacity).Reaches Unfaulted World.fresh pool)
    (names : pool.world.Names id name) (settled : pool.world.settled id = true)
    (free : pool.world.holds id = none) :
    ((pool.world.stateIn id).isActive = true ↔ pool.world.supervised id ≠ none) ∧
      ∀ spec pid, spec.id = id → pool.world.supervised id = some pid →
        pool.world.isLive pid = false → (Request.exit spec pid).admits pool.world = true := by
  have preserved : Preserved Unfaulted
      (fun world => world.faults = 0 ∧ Upheld Standing.supervised world ∧ Watchful world) := by
    constructor
    · exact ⟨rfl, .fresh, ⟨by simp [World.fresh]⟩⟩
    · rintro thread before after sane _ ⟨_, kept⟩ move ⟨unfaulted, upheld, watchful⟩
      exact ⟨kept.trans unfaulted, upheld.supervised_moved sane unfaulted move, watchful.moved move⟩
    · rintro event before after sane _ ⟨_, kept⟩ happened ⟨unfaulted, upheld, watchful⟩
      refine ⟨kept.trans unfaulted, upheld.happened sane happened ?_, ?_⟩
      · rcases World.happen_keeps happened with ⟨vmms, runs, status, rfl, _⟩
        rintro rfl id
        rfl
      · rcases World.happen_keeps happened with ⟨vmms, runs, status, rfl, _⟩
        exact watchful.frame rfl rfl fun _ hold _ held exited _ => ⟨hold, held, exited⟩
    · rintro before sane ⟨_, kept⟩ ⟨unfaulted, _, _⟩
      exact ⟨kept.trans unfaulted, .crashed before, ⟨by simp [World.crash]⟩⟩
  have sane := sane_of_run (fun _ _ met => met.1) reached
  rcases preserved.run (fun _ _ met => met.1) reached with ⟨_, upheld, watchful⟩
  refine ⟨⟨World.standing_supervised.mp (upheld.free id name free names settled), ?_⟩, ?_⟩
  · exact fun registered => sane.registered id registered free
  rintro spec pid rfl supervised _
  rcases watchful.watched spec.id pid supervised with watched | ⟨hold, held, _⟩
  · exact List.contains_iff_mem.mpr watched
  · simp [free] at held

end

/-- An instance is made and started, and its VMM exits. -/
def startedThenExited : List (Choice Nat Request Event) :=
  [.spawn 0 .recover] ++ steps 0 2 ++ [.spawn 1 (.create (plainSpec "x1" "a"))] ++ steps 1 4 ++
    [.spawn 2 (.start "a")] ++ steps 2 27 ++ [.happen (.vmmExits 1)]

theorem active_iff_registered_started : ∃ pool : Pool Nat World,
    pool.world.isLive 1 = false ∧ (pool.world.stateIn "x1").isActive = true ∧
      (Request.exit (plainSpec "x1" "a") 1).admits pool.world = true := by
  rcases (system roomy).reaches_of_schedule Unfaulted World.fresh
    (fun world => world.Names "x1" "a" ∧ world.settled "x1" = true ∧ world.holds "x1" = none ∧
      world.supervised "x1" = some 1 ∧ world.isLive 1 = false) startedThenExited (by decide +kernel)
          with
    ⟨pool, reached, names, settled, free, supervised, gone⟩
  have registered := active_iff_registered reached names settled free
  exact ⟨pool, gone, registered.1.mpr (by simp [supervised]), registered.2 _ 1 rfl supervised gone⟩

/-- The daemon's invariant holds in every run in which no instance is named by an ID. -/
theorem daemon_stays_sane {pool : Pool Nat World}
    (reached : (system capacity).Reaches NamesApart World.fresh pool) : Sane pool.world :=
  sane_of_run (fun _ _ => id) reached

theorem daemon_stays_sane_started : ∃ pool : Pool Nat World,
    (system roomy).Reaches NamesApart World.fresh pool ∧ pool.world.supervised "x1" = some 1 ∧
    Sane pool.world :=
  (system roomy).known_of_schedule startedThenExited (by decide +kernel) fun reached _ =>
    daemon_stays_sane reached

/-- A stop looks up an instance, which is deleted while the stop waits for its lock, and another is
named by its ID and started.  The stop goes on with that one, without its lock. -/
def stoppedByAnothersID : List (Choice Nat Request Event) :=
  [.spawn 0 .recover] ++ steps 0 2 ++ [.spawn 1 (.create (plainSpec "x1" "a"))] ++ steps 1 4 ++
    [.spawn 2 (.stop "a")] ++ steps 2 1 ++ [.spawn 3 (.delete "a" false)] ++ steps 3 11 ++
    [.spawn 4 (.create (plainSpec "z1" "x1"))] ++ steps 4 4 ++ [.spawn 5 (.start "x1")] ++
      steps 5 27 ++ steps 2 9

theorem registered_while_stopping : ∃ pool : Pool Nat World,
    (system roomy).Reaches (fun before after => FilesKept before after ∧ after.epoch = before.epoch)
    World.fresh pool ∧
    pool.world.Names "z1" "x1" ∧ pool.world.stage = .serving ∧ pool.world.holds "z1" = none ∧
      ¬ ((pool.world.stateIn "z1").isActive = true ↔ pool.world.supervised "z1" ≠ none) :=
  (system roomy).pool_of_schedule stoppedByAnothersID (by decide +kernel)

end Dicer.Instance
