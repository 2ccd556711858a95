import Dicer.Instance.Moves

namespace Dicer.Instance

open FileStore Function

/-!
# What every move keeps

The definitions are in step with their IDs.  The daemon's memory is of instances that recovery has
come to.  And whenever an instance's lock is free, a VMM is registered for the instance only if its
status file says that it is active.
-/

structure Filed (world : World) : Prop where
  coherent : world.instances.Coherent
  issued : ∀ spec ∈ world.instances.items, spec.id ∈ world.issued
  apart : ∀ spec ∈ world.instances.items, spec.name ∉ world.issued
  taken : ∀ snapshot ∈ world.snapshots.items, snapshot.spec.id ∈ world.issued
  snapshots : world.snapshots.Indexed

/-- The daemon's memory has something of the instance. -/
inductive World.Mentions (world : World) (id : String) : Prop
  | held (hold : Hold) (isHeld : world.holds id = some hold)
  | supervised (pid : Nat) (isSupervised : world.supervised id = some pid)
  | watched (pid : Nat) (isWatched : (id, pid) ∈ world.watchers)
  | restarts (pending : Nat) (due : world.restarts id = some pending)
  | removal (listed : id ∈ world.removals)

/-- The ID was given out, and recovery has come to its instance. -/
def World.Ready (world : World) (id : String) : Prop := id ∈ world.issued ∧ world.settled id = true

/-- The invariant of the daemon in runs in which no instance is named by an ID that was given
out. -/
structure Sane (world : World) : Prop where
  filed : Filed world
  ready : ∀ id, world.Mentions id → world.Ready id
  loading : world.stage = .loading → world.recovered = []
  recovering : ∀ id hold, world.holds id = some hold → hold.purpose = .recover →
    world.stage = .recovering hold.thread
  recorded : ∀ id status, world.status id = some status → id ∈ world.issued ∧
    status.state ≠ .standby
  registered : ∀ id, world.supervised id ≠ none → world.holds id = none →
    (world.stateIn id).isActive = true

variable {id : String}

/-! ## Facts that nobody takes back -/

theorem World.settled_iff {world : World} :
    world.settled id = true ↔ world.stage = .serving ∨ id ∈ world.recovered := by
  simp [settled]

namespace Move

variable {thread : Nat} {world after : World} (move : Move thread world after)
include move

theorem faults_le : world.faults ≤ after.faults := by
  cases move with
  | quiet alike => exact alike.faults
  | statusRemoved _ _ _ _ _ more | discarded _ _ _ _ _ _ _ more | emptied _ _ _ _ _ _ more =>
    exact more
  | _ => exact Nat.le_refl _

theorem refusals_le : world.refusals ≤ after.refusals := by
  cases move with
  | quiet alike => exact alike.refusals.ge
  | leftAdmission _ more => exact more
  | _ => exact Nat.le_refl _

theorem issued_mono (issued : id ∈ world.issued) : id ∈ after.issued := by
  cases move with
  | quiet alike => exact alike.issued ▸ issued
  | created => exact List.mem_cons_of_mem _ issued
  | _ => exact issued

/-- The daemon serves from some time on, and a stage of recovery is its thread's. -/
theorem stage_kept : after.stage = world.stage ∨
      (world.stage = .loading ∧ after.stage = .recovering thread) ∨
      (world.stage = .recovering thread ∧ after.stage = .serving) := by
  cases move with
  | quiet alike => exact .inl alike.stage
  | beganRecovery loading => exact .inr (.inl ⟨loading, rfl⟩)
  | served recovering => exact .inr (.inr ⟨recovering, rfl⟩)
  | _ => exact .inl rfl

theorem recovered_kept : after.recovered = world.recovered ∨
      (world.stage = .recovering thread ∧ ∃ id, after.recovered = id :: world.recovered) := by
  cases move with
  | quiet alike => exact .inl alike.recovered
  | took id purpose _ _ _ recovering =>
    by_cases recovers : purpose = .recover
    · exact .inr ⟨recovering recovers, id, by simp [World.took, recovers]⟩
    · exact .inl (by simp [World.took, World.setHold, recovers])
  | _ => exact .inl rfl

theorem settled_mono (settled : world.settled id = true) : after.settled id = true := by
  rw [World.settled_iff] at settled ⊢
  rcases settled with serving | recovered
  · rcases move.stage_kept with same | ⟨loading, _⟩ | ⟨_, now⟩
    · exact .inl (same.trans serving)
    · simp [serving] at loading
    · exact .inl now
  · rcases move.recovered_kept with same | ⟨_, other, same⟩
    · exact .inr (same ▸ recovered)
    · exact .inr (same ▸ List.mem_cons_of_mem _ recovered)

theorem ready_mono (ready : world.Ready id) : after.Ready id :=
  ⟨move.issued_mono ready.1, move.settled_mono ready.2⟩

/-- A definition was there before, is of an instance that has just been made, or replaces another
under its lock. -/
theorem defined_from {spec : Spec} (member : spec ∈ after.instances.items) :
    spec ∈ world.instances.items ∨ (world.stage = .serving ∧ world.isFresh spec.id = true ∧
      spec.id ∈ after.issued) ∨
    ∃ old ∈ world.instances.items, old.id = spec.id ∧ ∃ hold, world.Mine thread spec.id hold := by
  cases move with
  | quiet alike => exact .inl (alike.instances ▸ member)
  | created made _ serving _ fresh =>
    rcases Definitions.mem_put.mp member with rfl | ⟨old, _⟩
    · exact .inr (.inl ⟨serving, fresh, List.mem_cons_self⟩)
    · exact .inl old
  | updated old new hold mine oldMember sameID =>
    rcases Definitions.mem_put.mp member with rfl | ⟨same, _⟩
    · exact .inr (.inr ⟨old, oldMember, sameID.symm, hold, mine⟩)
    · exact .inl same
  | renamed old new hold mine oldMember isSame =>
    rcases Definitions.mem_rename.mp member with rfl | ⟨same, _⟩
    · have sameID : old.id = spec.id := by rw [isSame]
      exact .inr (.inr ⟨old, oldMember, sameID, hold, sameID ▸ mine⟩)
    · exact .inl same
  | deleted => exact .inl (Definitions.mem_delete.mp member).1
  | _ => exact .inl member

theorem status_cases (id : String) : after.status id = world.status id ∨ ∃ hold,
    world.Mine thread id hold ∧ ((∃ status, after.status id = some status ∧
      hold.Turns (world.stateIn id) status.state ∧
      ((∃ old, world.status id = some old) ∨ ∃ name, world.Names id name)) ∨
    (after.status id = none ∧
      ((hold.purpose.launches = true ∧ world.stateIn id = .starting) ∨
      hold.purpose.ends = true))) := by
  cases move with
  | quiet alike => exact .inl (congrFun alike.status id)
  | wrote other hold status mine known turns =>
    by_cases same : id = other
    · subst same
      exact .inr ⟨hold, mine, .inl ⟨status, update_self .., turns, known⟩⟩
    · exact .inl (update_of_ne same ..)
  | statusRemoved other hold _ mine may =>
    by_cases same : id = other
    · subst same
      exact .inr ⟨hold, mine, .inr ⟨update_self .., may⟩⟩
    · exact .inl (update_of_ne same ..)
  | _ => exact .inl rfl

theorem supervised_kept (unowned : ∀ hold, ¬ world.Mine thread id hold) :
    after.supervised id = world.supervised id := by
  have elsewhere : ∀ {other hold}, world.Mine thread other hold → id ≠ other := by
    rintro other hold mine rfl
    exact unowned hold mine
  cases move with
  | quiet alike => exact congrFun alike.supervised id
  | supervised _ _ _ mine | forgot _ _ mine => exact update_of_ne (elsewhere mine) ..
  | _ => rfl

end Move

namespace Filed

variable {world : World}

/-- A lookup of an ID that was given out finds the instance with that ID, and nothing else. -/
theorem lookup_issued (filed : Filed world) (issued : id ∈ world.issued) {spec : Spec} :
    world.instances.lookup id = some spec ↔ spec ∈ world.instances.items ∧ spec.id = id := by
  rw [filed.coherent.lookup_eq_some]
  constructor
  · rintro ⟨member, named | identified⟩
    · have sameName : spec.name = id := named
      exact absurd (sameName ▸ issued) (filed.apart spec member)
    · exact ⟨member, identified⟩
  · rintro ⟨member, identified⟩
    exact ⟨member, .inr identified⟩

theorem definition_eq (filed : Filed world) {spec : Spec} :
    world.definition id = some spec ↔ spec ∈ world.instances.items ∧ spec.id = id :=
  find?_key_iff filed.coherent.nodup_ids

theorem definition_issued (filed : Filed world) (issued : id ∈ world.issued) :
    world.definition id = world.instances.lookup id :=
  Option.ext fun _ => by rw [filed.definition_eq, filed.lookup_issued issued]

/-- The definitions, the snapshots and the IDs given out are all the invariant of the store is
about. -/
theorem frame (filed : Filed world) {after : World} (instances : after.instances = world.instances)
    (issued : after.issued = world.issued) (snapshots : after.snapshots = world.snapshots) :
    Filed after := by
  constructor
  · exact instances ▸ filed.coherent
  · rw [instances, issued]
    exact filed.issued
  · rw [instances, issued]
    exact filed.apart
  · rw [snapshots, issued]
    exact filed.taken
  · exact snapshots ▸ filed.snapshots

section

variable (filed : Filed world) {thread : Nat} {after : World} (move : Move thread world after)
include filed move

theorem defined_to {spec : Spec} (member : spec ∈ world.instances.items) :
    spec ∈ after.instances.items ∨ ∃ hold, world.Mine thread spec.id hold ∧
      ((∃ new ∈ after.instances.items, new.id = spec.id ∧
          (new.name = spec.name ∨ hold.purpose = .rename ∧ (world.stateIn spec.id).isDown = true ∧
          (world.dirs spec.name).standby = none)) ∨
        (hold.purpose ∈ [.delete, .removal, .forkDelete] ∧ after.status = world.status ∧
          (world.status spec.id = none ∨ 0 < world.faults))) := by
  have unlike : ∀ {name : String}, world.instances.lookup name = none → spec.name ≠ name :=
    fun free => (filed.coherent.lookup_eq_none.mp free spec member).1
  cases move with
  | quiet alike => exact .inl (alike.instances ▸ member)
  | created made _ _ free => exact .inl (Definitions.mem_put.mpr (.inr ⟨member, unlike free⟩))
  | updated old new hold mine oldMember sameID sameName =>
    by_cases same : spec.name = new.name
    · obtain rfl := filed.coherent.eq_of_name member oldMember (same.trans sameName)
      exact .inr ⟨hold, sameID ▸ mine, .inl
        ⟨new, Definitions.mem_put.mpr (.inl rfl), sameID, .inl sameName⟩⟩
    · exact .inl (Definitions.mem_put.mpr (.inr ⟨member, same⟩))
  | renamed old new hold mine oldMember isSame free down bare purpose =>
    by_cases same : spec.name = old.name
    · obtain rfl := filed.coherent.eq_of_name member oldMember same
      exact .inr ⟨hold, mine, .inl ⟨new, Definitions.mem_rename.mpr (.inl rfl), by rw [isSame],
        .inr ⟨purpose, down, bare⟩⟩⟩
    · exact .inl (Definitions.mem_rename.mpr (.inr ⟨member, same, unlike free⟩))
  | deleted gone hold mine goneMember purpose cleared =>
    by_cases same : spec.name = gone.name
    · obtain rfl := filed.coherent.eq_of_name member goneMember same
      exact .inr ⟨hold, mine, .inr ⟨purpose, rfl, cleared⟩⟩
    · exact .inl (Definitions.mem_delete.mpr ⟨member, same⟩)
  | _ => exact .inl member

theorem moved (apart : NamesApart world after) : Filed after := by
  have issued : ∀ spec ∈ after.instances.items, spec.id ∈ after.issued := by
    intro spec member
    rcases move.defined_from member with old | ⟨_, _, issued⟩ | ⟨old, isOld, same, _⟩
    · exact move.issued_mono (filed.issued spec old)
    · exact issued
    · exact same ▸ move.issued_mono (filed.issued old isOld)
  cases move with
  | quiet alike => exact filed.frame alike.instances alike.issued alike.snapshots
  | created spec _ _ free fresh =>
    simp only [World.isFresh, Bool.and_eq_true, bne_iff_ne, Bool.not_eq_true', List.contains_eq_mem,
      decide_eq_false_iff_not, Option.isNone_iff_eq_none] at fresh
    rcases fresh with ⟨⟨identified, _⟩, unresolved⟩
    have ownName : spec.name ≠ spec.id := by
      intro same
      exact apart spec (Definitions.mem_put.mpr (.inl rfl)) (same ▸ List.mem_cons_self)
    exact ⟨filed.coherent.create identified ownName free unresolved, issued, apart,
      fun snapshot member => List.mem_cons_of_mem _ (filed.taken snapshot member), filed.snapshots⟩
  | updated old spec _ _ member sameID sameName =>
    exact ⟨filed.coherent.replace member sameName sameID, issued, apart, filed.taken,
      filed.snapshots⟩
  | renamed old spec _ _ member same free =>
    have isMember : spec ∈ (world.instances.rename old spec).items :=
      Definitions.mem_rename.mpr (.inl rfl)
    have ownName : spec.name ≠ spec.id := by
      intro isID
      exact apart spec isMember (isID ▸ issued spec isMember)
    have sameID : spec.id = old.id := by rw [same]
    exact ⟨filed.coherent.rename member sameID ownName free, issued, apart, filed.taken,
      filed.snapshots⟩
  | deleted spec _ _ member => exact ⟨filed.coherent.delete member, issued, apart, filed.taken, filed.snapshots⟩
  | changedSnapshots snapshots taken indexed =>
    exact { filed with taken, snapshots := indexed }
  | _ => exact filed.frame rfl rfl rfl

end

end Filed

/-! ## The daemon's memory and the status files -/

namespace Move

variable {thread : Nat} {world after : World}

/-- The memory comes to have something of an instance only when its lock is taken. -/
theorem mentions_before (move : Move thread world after) (mentions : after.Mentions id) :
    world.Mentions id ∨ ∃ purpose, after = world.took thread id purpose ∧ id ∈ world.issued ∧
      (purpose ≠ .recover → world.settled id = true) := by
  cases mentions with
  | held hold held =>
    rcases move.held_before held with ⟨purpose, _, now, _, issued, settled, _⟩ |
      ⟨before, wasHeld, _⟩
    · exact .inr ⟨purpose, now, issued, settled⟩
    · exact .inl (.held before wasHeld)
  | supervised pid supervised =>
    left
    by_cases owned : ∃ hold, world.Mine thread id hold
    · rcases owned with ⟨hold, mine⟩
      exact .held hold mine.1
    · exact .supervised pid ((move.supervised_kept (not_exists.mp owned)).symm.trans supervised)
  | watched pid watched =>
    left
    cases move with
    | quiet alike => exact .watched pid (alike.watchers ▸ watched)
    | supervised other hold _ mine =>
      rcases List.mem_cons.mp watched with same | old
      · exact (Prod.mk.inj same).1 ▸ .held hold mine.1
      · exact .watched pid old
    | checkedExit => exact .watched pid (List.mem_of_mem_filter watched)
    | _ => exact .watched pid watched
  | restarts pending due =>
    left
    cases move with
    | quiet alike => exact .restarts pending (alike.restarts ▸ due)
    | restartScheduled other hold mine | restartCancelled other hold mine =>
      by_cases same : id = other
      · exact same ▸ .held hold mine.1
      · exact .restarts pending ((update_of_ne same ..).symm.trans due)
    | restartClaimed other _ wasDue =>
      by_cases same : id = other
      · exact same ▸ .restarts _ wasDue
      · exact .restarts pending ((update_of_ne same ..).symm.trans due)
    | _ => exact .restarts pending due
  | removal listed =>
    left
    cases move with
    | quiet alike => exact .removal (alike.removals ▸ listed)
    | removalScheduled other hold mine =>
      rcases List.mem_cons.mp listed with same | old
      · exact same ▸ .held hold mine.1
      · exact .removal old
    | _ => exact .removal listed

/-- The state in an instance's status file is as it was, or the holder of its lock changed it. -/
theorem turns (move : Move thread world after) (id : String) : after.stateIn id = world.stateIn id ∨
    ∃ hold, world.Mine thread id hold ∧ hold.Turns (world.stateIn id) (after.stateIn id) := by
  rcases move.status_cases id with same | ⟨hold, mine, ⟨status, now, turns, _⟩ | ⟨missing, may⟩⟩
  · exact .inl (by rw [World.stateIn, same, World.stateIn])
  · exact .inr ⟨hold, mine, by simpa [World.stateIn, now] using turns⟩
  · exact .inr ⟨hold, mine, by simpa [World.stateIn, missing, Status.stopped] using Hold.Turns.removes may⟩

/-- A status file is written anew only for an instance that is defined. -/
theorem recorded_before (move : Move thread world after) {status : Status}
    (recorded : after.status id = some status) : (∃ old, world.status id = some old) ∨ ∃ name,
    world.Names id name := by
  rcases move.status_cases id with same | ⟨_, _, ⟨_, _, _, known⟩ | ⟨missing, _⟩⟩
  · exact .inl ⟨status, same.symm.trans recorded⟩
  · exact known
  · exact nomatch missing.symm.trans recorded

end Move

theorem Hold.Turns.awake {hold : Hold} {old new : State} (turns : hold.Turns old new) :
    new ≠ .standby := by
  rintro rfl
  cases turns with
  | stays _ _ active => simp [State.isActive] at active
  | ends _ down => simp [State.isDown] at down

namespace Sane

variable {thread : Nat} {world after : World} (sane : Sane world)
include sane

theorem loaded (mentions : world.Mentions id) : world.stage ≠ .loading := by
  intro loading
  have settled := (sane.ready id mentions).2
  simp [World.settled_iff, loading, sane.loading loading] at settled

theorem ready_moved (move : Move thread world after) (mentions : after.Mentions id) :
    after.Ready id := by
  rcases move.mentions_before mentions with before | ⟨purpose, rfl, issued, settled⟩
  · exact move.ready_mono (sane.ready id before)
  refine ⟨issued, ?_⟩
  by_cases recovers : purpose = .recover
  · exact World.settled_iff.mpr (.inr (by simp [World.took, recovers]))
  · exact move.settled_mono (settled recovers)

theorem recovering_moved (move : Move thread world after) {hold : Hold}
    (held : after.holds id = some hold) (recovers : hold.purpose = .recover) :
    after.stage = .recovering hold.thread := by
  rcases move.held_before held with ⟨purpose, rfl, rfl, _, _, _, recovering⟩ |
    ⟨old, before, continues⟩
  · exact recovering recovers
  have was := sane.recovering id old before (continues.purpose ▸ recovers)
  rw [continues.thread, ← was]
  cases move with
  | quiet alike => exact alike.stage
  | beganRecovery loading => exact absurd loading (sane.loaded (.held old before))
  | served _ _ previous => exact absurd (continues.purpose ▸ recovers) (previous id old before)
  | _ => rfl

theorem recorded_moved (move : Move thread world after) {status : Status}
    (recorded : after.status id = some status) : id ∈ after.issued ∧ status.state ≠ .standby := by
  constructor
  · apply move.issued_mono
    rcases move.recorded_before recorded with ⟨old, was⟩ | ⟨name, spec, member, rfl, _⟩
    · exact (sane.recorded id old was).1
    · exact sane.filed.issued spec member
  · have now : after.stateIn id = status.state := by rw [World.stateIn, recorded, Option.getD_some]
    rw [← now]
    rcases move.turns id with same | ⟨hold, _, turns⟩
    · rw [same]
      cases was : world.status id with
      | none => simp [World.stateIn, was, Status.stopped]
      | some old => simpa [World.stateIn, was] using (sane.recorded id old was).2
    · exact turns.awake

theorem registered_moved (move : Move thread world after) (supervised : after.supervised id ≠ none)
    (free : after.holds id = none) : (after.stateIn id).isActive = true := by
  cases move.lockMoves id with
  | free before =>
    have unowned : ∀ hold, ¬ world.Mine thread id hold := fun hold mine =>
      nomatch before.symm.trans mine.1
    rcases move.turns id with same | ⟨hold, mine, _⟩
    · rw [same]
      exact sane.registered id (move.supervised_kept unowned ▸ supervised) before
    · exact absurd mine (unowned hold)
  | takes purpose _ _ _ _ now => simp [now, World.took, World.setHold] at free
  | gives hold mine now registered =>
    subst now
    exact registered supervised
  | holds _ _ _ now => simp [now] at free

theorem moved (apart : NamesApart world after) (move : Move thread world after) : Sane after where
  filed := sane.filed.moved move apart
  ready := fun _ mentions => sane.ready_moved move mentions
  loading := by
    intro loading
    rcases move.stage_kept with same | ⟨_, now⟩ | ⟨_, now⟩
    · rcases move.recovered_kept with kept | ⟨recovering, _⟩
      · exact kept.trans (sane.loading (same ▸ loading))
      · simp [same, recovering] at loading
    · simp [now] at loading
    · simp [now] at loading
  recovering := fun _ _ held recovers => sane.recovering_moved move held recovers
  recorded := fun _ _ recorded => sane.recorded_moved move recorded
  registered := fun _ supervised free => sane.registered_moved move supervised free

end Sane

/-- What happens by itself ends VMMs and lets guests run, and a host boots before recovery. -/
theorem World.happen_keeps {world after : World} {event : Event}
    (happened : world.happen event = some after) :
      ∃ vmms runs status, after = { world with vmms := vmms, runs := runs, status := status } ∧
      (status = world.status ∨ (world.stage = .loading ∧ status = fun _ => none)) := by
  cases event with
  | vmmExits =>
    cases happened
    exact ⟨_, _, _, rfl, .inl rfl⟩
  | guestRuns =>
    simp only [World.happen] at happened
    split at happened
    · split at happened
      · cases happened
        exact ⟨_, _, _, rfl, .inl rfl⟩
      · simp at happened
    · simp at happened
  | hostBoots =>
    simp only [World.happen, Option.ite_none_right_eq_some, Option.some.injEq] at happened
    rcases happened with ⟨loading, rfl⟩
    exact ⟨_, _, _, rfl, .inr ⟨loading, rfl⟩⟩

namespace Sane

variable {world : World}

theorem happened (sane : Sane world) {event : Event} {after : World}
    (happened : world.happen event = some after) : Sane after := by
  rcases World.happen_keeps happened with ⟨vmms, runs, status, rfl, same⟩
  have mentioned : ∀ {id}, World.Mentions
      { world with vmms := vmms, runs := runs, status := status } id → world.Mentions id := by
    intro id mentions
    cases mentions with
    | held hold held => exact .held hold held
    | supervised pid supervised => exact .supervised pid supervised
    | watched pid watched => exact .watched pid watched
    | restarts pending due => exact .restarts pending due
    | removal listed => exact .removal listed
  refine ⟨sane.filed.frame rfl rfl rfl, fun id mentions => sane.ready id (mentioned mentions),
    sane.loading, sane.recovering, ?_, ?_⟩
  · rcases same with rfl | ⟨_, rfl⟩
    · exact sane.recorded
    · simp
  · intro id supervised free
    rcases same with rfl | ⟨loading, _⟩
    · exact sane.registered id supervised free
    -- Before recovery nothing is registered.
    rcases Option.ne_none_iff_exists'.mp supervised with ⟨pid, isSupervised⟩
    exact absurd loading (sane.loaded (.supervised pid isSupervised))

theorem crashed (sane : Sane world) : Sane world.crash where
  filed := sane.filed.frame rfl rfl rfl
  ready := by
    intro id mentions
    cases mentions <;> simp_all [World.crash]
  loading := fun _ => rfl
  recovering := by simp [World.crash]
  recorded := sane.recorded
  registered := by simp [World.crash]

theorem fresh : Sane World.fresh where
  filed := by
    refine ⟨Definitions.coherent_empty, ?_, ?_, ?_, Definitions.indexed_empty⟩ <;>
      simp [World.fresh, Definitions.empty]
  ready := by
    intro id mentions
    cases mentions <;> simp_all [World.fresh]
  loading := fun _ => rfl
  recovering := by simp [World.fresh]
  recorded := by simp [World.fresh]
  registered := by simp [World.fresh]

end Sane

end Dicer.Instance
