import Dicer.Instance.Runs

namespace Dicer.Instance

open FileStore Concurrency

/-!
# Instances a user has stopped

An instance with a policy to restart it unless stopped stays down once a user has stopped it, in
this daemon and in later ones, until a user asks for it to run or the policy changes.  What keeps it
down across daemons is a flag in its definition.

The flag is written where a failure is only logged, a definition is replaced as a whole by one that
was read earlier, and a start on boot goes by a list that was read earlier.  What is shown here is
of runs in which the flag is written, is not replaced, and the list has what is stored.  The first
run of a fork is left out too: it may be stopped before it has begun.
-/

namespace State

/-- The instance is down, or is being stopped. -/
def isHalted (state : State) : Bool := state.isDown || state = .stopping

end State

/-- A stop that returns has recorded that a user stopped the instance. -/
abbrev StopsRecorded (before after : World) : Prop :=
  ∀ id ∈ after.halted, id ∉ before.halted → ∀ spec ∈ after.instances.items, spec.id = id →
    spec.stoppedByUser = true

/-- An update does not take back that a user stopped the instance. -/
abbrev UpdatesKeepStop (before after : World) : Prop :=
  ∀ old ∈ before.instances.items, ∀ new ∈ after.instances.items, new.id = old.id →
    (∃ hold ∈ before.holds old.id, hold.purpose = .update) → old.stoppedByUser = true →
    new.stoppedByUser = true

/-- The definition a start on boot goes by. -/
def Purpose.listed : Purpose → Option Spec
  | .bootStart listed => some listed
  | _ => none

/-- A start on boot that takes the lock of an instance goes by the definition that is stored. -/
abbrev ListsCurrent (before after : World) : Prop :=
  ∀ id ∈ before.halted, before.holds id = none → ∀ hold ∈ after.holds id,
    ∀ spec ∈ hold.purpose.listed, spec.id = id ∧ spec ∈ before.instances.items

/-- No fork comes to run that was stopped before. -/
abbrev ForksUnstopped (before after : World) : Prop :=
  ∀ id ∈ before.halted, before.holds id = none → ∀ hold ∈ after.holds id, hold.purpose ≠ .fork

/-- No step loses the flag of a stopped instance or goes by an older definition. -/
abbrev KeepsStop (before after : World) : Prop :=
  NamesApart before after ∧ StopsRecorded before after ∧ UpdatesKeepStop before after ∧
    ListsCurrent before after ∧ ForksUnstopped before after

/-- The lock of a stopped instance is held for this. -/
def Purpose.leavesHalted (purpose : Purpose) : Bool :=
  !purpose.launches || purpose = .policyRestart

/-- What is true of the instances a user has stopped. -/
structure Halts (world : World) : Prop where
  issued : ∀ id ∈ world.halted, id ∈ world.issued
  state : ∀ id ∈ world.halted, (world.stateIn id).isHalted = true
  found : ∀ id ∈ world.halted, ∀ hold, world.holds id = some hold →
    hold.purpose = .stop ∨ (hold.purpose.leavesHalted = true ∧ hold.found.state.isHalted = true)
  flagged : ∀ id ∈ world.halted, ∀ spec ∈ world.instances.items, spec.id = id →
    spec.restart.mode = .unlessStopped ∧ spec.stoppedByUser = true

/-- Who holds the lock of a stopped instance leaves it stopped. -/
theorem Hold.Turns.halted {hold : Hold} {old new : State} (turns : hold.Turns old new)
    (wasHalted : old.isHalted = true) (found : hold.purpose = .stop ∨
      (hold.purpose.leavesHalted = true ∧ hold.found.state.isHalted = true)) :
    new.isHalted = true := by
  cases turns with
  | starts launches _ policy =>
    rcases found with stop | ⟨leaves, _⟩
    · simp [stop, Purpose.launches] at launches
    · have restarts : hold.purpose = .policyRestart :=
        by simpa [Purpose.leavesHalted, launches] using leaves
      simp [policy restarts, State.isHalted, State.isDown] at wasHalted
  | runs starting => simp [starting, State.isHalted, State.isDown] at wasHalted
  | stays new was =>
    cases old <;> simp [State.isActive, State.isHalted, State.isDown] at was wasHalted
  | stops | removes => rfl
  | ends new down => simp [State.isHalted, down]
  | restarts foundUp purpose =>
    rcases found with stop | ⟨_, halted⟩
    · simp [stop] at purpose
    rcases foundUp with active | restarting
    · cases state : hold.found.state <;>
        simp [state, State.isActive, State.isHalted, State.isDown] at active halted
    · simp [restarting, State.isHalted, State.isDown] at halted

section

variable {capacity : Capacity} {thread : Nat} {world after : World}

/-- An instance counts as stopped from when its stop noted it, and until a user asks for it to
run. -/
theorem Move.halted_before (move : Move thread world after) {id : String}
    (halted : id ∈ after.halted) : id ∈ world.halted ∨ ∃ hold, world.Mine thread id hold ∧
      hold.purpose = .stop ∧ (world.stateIn id).isDown = true ∧
      after = { world with halted := id :: world.halted } ∧
      ∃ spec ∈ world.instances.items, spec.id = id ∧ spec.restart.mode = .unlessStopped := by
  cases move with
  | quiet alike => exact .inl (alike.halted ▸ halted)
  | took =>
    simp only [World.took] at halted
    split at halted
    · exact .inl (List.mem_of_mem_filter halted)
    · exact .inl halted
  | updated =>
    simp only [World.haltedUnder] at halted
    split at halted
    · exact .inl halted
    · exact .inl (List.mem_of_mem_filter halted)
  | haltNoted other hold mine purpose down policy =>
    rcases List.mem_cons.mp halted with rfl | before
    · exact .inr ⟨hold, mine, purpose, down, rfl, policy⟩
    · exact .inl before
  | _ => exact .inl halted

namespace Halts

theorem fresh : Halts World.fresh := by
  constructor <;> simp [World.fresh]

variable (halts : Halts world)
include halts

theorem state_moved (move : Move thread world after) (id : String) (halted : id ∈ after.halted)
    : (after.stateIn id).isHalted = true := by
  rcases move.halted_before halted with before | ⟨hold, _, _, down, now, _⟩
  · rcases move.turns id with same | ⟨hold, mine, turns⟩
    · rw [same]
      exact halts.state id before
    · exact turns.halted (halts.state id before) (halts.found id before hold mine.1)
  · rw [now]
    show (world.stateIn id).isHalted = true
    simp [State.isHalted, down]

theorem found_moved (lists : ListsCurrent world after) (unforked : ForksUnstopped world after)
    (move : Move thread world after) (id : String) (halted : id ∈ after.halted) (hold : Hold)
    (held : after.holds id = some hold) :
    hold.purpose = .stop ∨ (hold.purpose.leavesHalted = true ∧ hold.found.state.isHalted =
      true) := by
  rcases move.halted_before halted with before | ⟨stopping, mine, purpose, _, now, _⟩
  · rcases move.held_before held with ⟨purpose, rfl, rfl, free, _⟩ | ⟨old, was, continues⟩
    · have notFork := unforked id before free _ held
      have notBoot : ∀ listed, purpose ≠ .bootStart listed := by
        rintro ⟨spec, starts⟩ rfl
        rcases lists id before free _ held spec rfl with ⟨same, member⟩
        rcases halts.flagged id before spec member same with ⟨mode, flag⟩
        simp [RestartPolicy.startsOnBoot, mode, flag] at starts
      refine .inr ⟨?_, halts.state id before⟩
      have unasked : purpose.userStarts = false := by
        by_contra asked
        simp [World.took, Bool.eq_true_of_not_eq_false asked] at halted
      show purpose.leavesHalted = true
      cases purpose <;> simp [Purpose.userStarts] at unasked <;>
        simp [Purpose.leavesHalted, Purpose.launches, Hold.taken] at notFork notBoot ⊢
    · rw [continues.purpose, continues.found]
      exact halts.found id before old was
  · subst now
    cases mine.1.symm.trans held
    exact .inl purpose

theorem flagged_moved (sane : Sane world) (recorded : StopsRecorded world after)
    (keeps : UpdatesKeepStop world after) (move : Move thread world after) (id : String)
    (halted : id ∈ after.halted) (spec : Spec)
    (member : spec ∈ after.instances.items) (same : spec.id = id) :
    spec.restart.mode = .unlessStopped ∧ spec.stoppedByUser = true := by
  by_cases before : id ∈ world.halted
  · cases move with
    | quiet alike => exact halts.flagged id before spec (alike.instances ▸ member) same
    | created made _ _ _ fresh =>
      rcases Definitions.mem_put.mp member with rfl | ⟨old, _⟩
      · simp [World.isFresh, same, halts.issued id before] at fresh
      · exact halts.flagged id before spec old same
    | updated old new hold mine oldMember sameID sameName flag =>
      rcases Definitions.mem_put.mp member with rfl | ⟨kept, _⟩
      · rcases halts.flagged id before old oldMember (sameID.symm.trans same) with ⟨_, wasFlagged⟩
        have mode : spec.restart.mode = .unlessStopped := by
          by_contra other
          simp [World.haltedUnder, other, same] at halted
        refine ⟨mode, ?_⟩
        have held : world.holds old.id = some hold := sameID ▸ mine.1
        -- Only an update may write a definition it read before the stop.
        rcases flag with kept | update | ⟨set, _⟩ | ⟨launches, notPolicy⟩
        · exact kept.trans wasFlagged
        · exact keeps old oldMember spec member sameID ⟨hold, held, update⟩ wasFlagged
        · exact set
        · rcases halts.found id before hold (same ▸ mine.1) with stop | ⟨leaves, _⟩
          · simp [stop, Purpose.launches] at launches
          · simp [Purpose.leavesHalted, launches, notPolicy] at leaves
      · exact halts.flagged id before spec kept same
    | renamed old new _ _ oldMember isSame =>
      rcases Definitions.mem_rename.mp member with rfl | ⟨kept, _⟩
      · rw [isSame] at same ⊢
        exact halts.flagged id before old oldMember same
      · exact halts.flagged id before spec kept same
    | deleted => exact halts.flagged id before spec (Definitions.mem_delete.mp member).1 same
    | _ => exact halts.flagged id before spec member same
  · refine ⟨?_, recorded id halted before spec member same⟩
    rcases move.halted_before halted with wasHalted | ⟨_, _, _, _, now, policy⟩
    · exact absurd wasHalted before
    subst now
    rcases policy with ⟨stopped, stoppedMember, sameID, mode⟩
    rw [sane.filed.coherent.ids spec member stopped stoppedMember (same.trans sameID.symm)]
    exact mode

theorem moved (sane : Sane world) (recorded : StopsRecorded world after)
    (keeps : UpdatesKeepStop world after) (lists : ListsCurrent world after)
    (unforked : ForksUnstopped world after) (move : Move thread world after)
    : Halts after where
  issued := by
    intro id halted
    apply move.issued_mono
    rcases move.halted_before halted with before | ⟨hold, mine, _⟩
    · exact halts.issued id before
    · exact (sane.ready id (.held hold mine.1)).1
  state := halts.state_moved move
  found := halts.found_moved lists unforked move
  flagged := halts.flagged_moved sane recorded keeps move

theorem happened {event : Event} (happened : world.happen event = some after) : Halts after := by
  rcases World.happen_keeps happened with ⟨vmms, runs, now, rfl, rfl | ⟨_, rfl⟩⟩
  · exact { halts with }
  · exact { halts with state := fun _ _ => rfl }

theorem crashed : Halts world.crash where
  issued := halts.issued
  state := halts.state
  found := by simp [World.crash]
  flagged := halts.flagged

end Halts

/-- In runs in which no instance is named by an ID, a stop that returns has recorded that the user
stopped the instance, no update takes this back, a start on boot goes by the definition that is
stored, and no fork is stopped before it runs: an instance a user has stopped is down or being
stopped, for as long as its policy is to restart it unless stopped and no user asks for it to
run. -/
theorem stopped_stays_down {pool : Pool Nat World} {id : String}
    (reached : (system capacity).Reaches KeepsStop World.fresh pool)
    (halted : id ∈ pool.world.halted) : (pool.world.stateIn id).isHalted = true := by
  have preserved : Preserved KeepsStop Halts := by
    constructor
    · exact .fresh
    · rintro thread before after sane _ ⟨_, recorded, keeps, lists, unforked⟩ move halts
      exact halts.moved sane recorded keeps lists unforked move
    · rintro event before after _ _ _ happened halts
      exact halts.happened happened
    · rintro before _ _ halts
      exact halts.crashed
  exact (preserved.run (fun _ _ met => met.1) reached).state id halted

end

/-- An instance that is restarted unless it was stopped. -/
def unlessStoppedSpec (id name : String) : Spec :=
    { plainSpec id name with restart := ⟨.unlessStopped, 0⟩ }

/-- Two instances are made and one is stopped; the daemon ends, and the next one starts on boot the
other, and goes by a list without the first. -/
def stoppedOnce : List (Choice Nat Request Event) :=
  [.spawn 0 .recover] ++ steps 0 2 ++ [.spawn 1 (.create (unlessStoppedSpec "x1" "a"))] ++
    steps 1 4 ++ [.spawn 2 (.create (unlessStoppedSpec "w1" "w"))] ++ steps 2 4 ++
    [.spawn 3 (.stop "a")] ++ steps 3 11 ++ [.crash, .spawn 4 .recover] ++ steps 4 10 ++
    [.spawn 5 .startOnBoot] ++ steps 5 16

theorem stopped_stays_down_once : ∃ pool : Pool Nat World,
    (pool.world.halted = ["x1"] ∧ pool.world.stateIn "w1" = .starting) ∧
      (pool.world.stateIn "x1").isHalted = true := by
  rcases (system roomy).reaches_of_schedule KeepsStop World.fresh
    (fun world => world.halted = ["x1"] ∧ world.stateIn "w1" = .starting)
    stoppedOnce (by decide +kernel) with ⟨pool, reached, shown⟩
  exact ⟨pool, shown, stopped_stays_down reached (by simp [shown.1])⟩

/-- An update has read the definition when the instance is stopped, and writes it back with another
time to standby; the next daemon starts the instance on boot. -/
def stopTakenBack : List (Choice Nat Request Event) :=
  [.spawn 0 .recover] ++ steps 0 2 ++ [.spawn 1 (.create (unlessStoppedSpec "x1" "a"))] ++
    steps 1 4 ++ [.spawn 2 (.update { unlessStoppedSpec "x1" "a" with standbyAfter := 60 }),
    .spawn 3 (.stop "a")] ++
    steps 3 11 ++ steps 2 7 ++ [.crash, .spawn 4 .recover] ++ steps 4 6 ++
      [.spawn 5 .startOnBoot] ++ steps 5 14

theorem stopped_started_on_boot : ∃ pool : Pool Nat World,
    (system roomy).Reaches NamesApart World.fresh pool ∧ pool.world.halted = ["x1"] ∧
      (∀ spec ∈ pool.world.instances.items, spec.restart.mode = .unlessStopped) ∧
      pool.world.stateIn "x1" = .starting ∧
      (pool.world.holds "x1").any (fun hold => hold.purpose.listed.isSome) = true :=
  (system roomy).pool_of_schedule stopTakenBack (by decide +kernel)

end Dicer.Instance
