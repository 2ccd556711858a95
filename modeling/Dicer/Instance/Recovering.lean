import Dicer.Instance.Changing

namespace Dicer.Instance

open Concurrency
open Program (Ensures)

/-!
# Ends nobody asked for, step by step

What the daemon does of its own accord: about a VMM that exited, an instance that is unhealthy, a
restart that came due, and, when it starts, about every instance the last daemon left.
-/

section

variable {capacity : Capacity} {thread : Nat} {id : String} {facts : Facts} {view later : View}
  {spec current : Spec} {pid : Nat}

theorem ended_leaves {status : Status} {exit : Exit} (same : spec.id = id)
    (unsupervised : view.supervised = none) (known : view.spec ≠ none ∨ view.status ≠ none)
    (purpose : view.purpose ∈ [.exit, .unhealthy, .policyRestart, .recover])
    (found : view.found.state.isActive = true ∨ view.found.state = .restarting) :
    Leaves thread id facts (always (ended spec status exit)) view :=
  always_ensures (ended_under same known purpose found fun _ isOver => .ofOver isOver unsupervised)

/-- The definition that an end is handled by is the instance's, or was. -/
theorem currentOr_under {post : Spec → View → Prop} (same : spec.id = id)
    (read : ∀ current : Spec, current.id = id → post current view) :
    Under thread id facts (currentOr spec) post view := by
  apply Ensures.bind
  rw [same]
  apply storeInstance_under
  · exact fun current _ sameID => Ensures.done (read current sameID)
  · exact fun _ _ => Ensures.done (read spec same)

theorem handleExit_fine (known : spec.id ∈ facts.known) :
    Fine thread (handleExit spec pid) facts := by
  apply always_then
  refine calm_free fun _ => ?_
  refine locked_left known (by simp) (fun _ => trivial) fun view found purpose => ?_
  apply always_then
  refine vmmAtExit_under found.exited ?_
  split
  · rename_i other
    have inOrder : view.InOrder := found.inOrder (by simp [purpose]) (by simp [purpose])
    refine return_ensures { inOrder with exited := ?_ }
    rintro came ⟨rfl⟩
    exact other
  rename_i isSupervised
  have active := found.active (by simp [not_not.mp isSupervised])
  apply always_then
  refine forget_under ?_
  apply always_then
  refine currentOr_under rfl fun current same => ?_
  apply always_then
  refine calm_under fun status => ?_
  apply always_then
  refine calm_under fun exit => ?_
  refine ended_leaves same rfl (.inr ?_) ?_ (.inl ?_)
  · exact View.recorded_of_up (State.up_of_active active).2.2
  · simp [purpose]
  · exact found.state ▸ active

theorem handleUnhealthy_fine {verdict : String} (known : spec.id ∈ facts.known) :
    Fine thread (handleUnhealthy spec pid verdict) facts := by
  refine locked_fine known (by simp) fun view found purpose inOrder => ?_
  apply always_then
  refine vmmOf_under ?_
  split
  · exact return_ensures inOrder
  rename_i isSupervised
  have active := found.active (by simp [not_not.mp isSupervised])
  apply always_then
  refine currentOr_under rfl fun current same => ?_
  apply always_then
  refine calm_under fun status => ?_
  split
  · exact return_ensures inOrder
  apply always_then
  refine calm_under fun ranFor => ?_
  dsimp only
  split
  · exact return_ensures inOrder
  apply always_then
  rw [same]
  refine stopVMM_under ?_
  refine ended_leaves same rfl (.inr ?_) ?_ (.inl ?_)
  · exact View.recorded_of_up (State.up_of_active active).2.2
  · simp [purpose]
  · exact found.state ▸ active

theorem View.reported_restarting (restarting : view.raw.state = .restarting) :
    view.reported = view.raw := by
  simp [View.reported, restarting, State.isDown]

theorem restart_fine {pending : Nat} (known : id ∈ facts.known) :
    Fine thread (restart capacity id pending) facts := by
  apply always_then
  refine claimRestart_free fun claimed => ?_
  cases claimed with
  | false => exact return_ensures trivial
  | true =>
    refine locked_left known (by simp) (fun _ => trivial) fun view found purpose => ?_
    refine storeInstance_then (fun spec isKnown same => ?_) fun _ gone =>
      found.inOrder (by simp [purpose]) fun _ => .inr gone
    apply always_then
    refine statusOf_under isKnown same rfl ?_
    split
    · rename_i other
      refine return_ensures (found.inOrder (by simp [purpose]) fun _ => .inl fun restarting => ?_)
      exact other (View.reported_restarting restarting ▸ restarting)
    rename_i isRestarting
    have restarting : view.raw.state = .restarting := by
      have isRestarting := not_not.mp isRestarting
      rwa [View.reported_awake (by simp [isRestarting])] at isRestarting
    have unsupervised : view.supervised = none := found.unsupervised (by rw [restarting]; rfl)
    have defined : view.spec ≠ none := by simp [isKnown]
    have ends : ∀ error, ∀ later : View, later.supervised = none → later.spec ≠ none →
        later.purpose = view.purpose → later.found = view.found →
        Leaves thread id facts (always (ended spec view.reported
          ⟨none, some ("restart: " ++ Err.message error)⟩))
          later := by
      intro error later unsupervised defined isPurpose isFound
      refine ended_leaves same unsupervised (.inl defined) (by simp [isPurpose, purpose]) (.inr ?_)
      rw [isFound, found.state, restarting]
    apply attempt_then
    apply Ensures.bindExcept
    refine admitInstance_plain found.toPlain same (by simp [purpose, Purpose.launches])
      (fun _ => restarting) ?_ ?_ ?_
    · intro admitted launch starting sameSpec
      refine boot_under launch starting same (sameSpec.trans isKnown) rfl ?_ ?_ ?_
      · simp [launch.purpose, purpose, Purpose.boots]
      · exact fun later inOrder => return_ensures inOrder
      · exact fun error later launch => ends _ _ launch.unsupervised launch.defined launch.purpose
          launch.found
    all_goals exact fun error => ends _ _ unsupervised defined rfl rfl

theorem startInstancesOnBoot_fine (specs : List Spec)
    (known : ∀ spec ∈ specs, spec.id ∈ facts.known) :
    Fine thread (startInstancesOnBoot capacity specs) facts := by
  induction specs with
  | nil => exact return_ensures trivial
  | cons spec rest others =>
    have others := others fun spec member => known spec (List.mem_cons_of_mem _ member)
    unfold startInstancesOnBoot
    split
    · apply always_then
      refine calm_free fun status => ?_
      split
      · apply attempt_then
        refine locked_left (known spec List.mem_cons_self) (by simp)
          (fun _ => others) fun view found purpose => ?_
        exact startLocked_leaves found rfl (.inr ⟨_, purpose⟩)
      · exact others
    · exact others

theorem startOnBoot_fine (serving : facts.serving = true) :
    Fine thread (startOnBoot capacity) facts := by
  apply always_then
  refine storeInstances_free serving fun specs => startInstancesOnBoot_fine specs fun spec member =>
    ?_
  exact List.mem_append_left _ (List.mem_map_of_mem member)

/-! ## Recovery -/

/-- An instance as recovery finds it: nothing is supervised yet. -/
structure View.Recovers (view : View) : Prop where
  found : view.AsFound
  purpose : view.purpose = .recover
  unsupervised : view.supervised = none
  defined : view.spec ≠ none

theorem View.Recovers.fail_under {cause : Err} (recovers : view.Recovers) :
    Under thread id facts (fail id cause) (fun _ later => later.InOrder) view := by
  refine Instance.fail_under (.inl recovers.defined) ?_ fun later isOver =>
    .ofOver isOver recovers.unsupervised
  exact fun hold isPurpose _ => .ends _ rfl (.inr (by simp [isPurpose, recovers.purpose]))

theorem recoverLive_under (recovers : view.Recovers) (same : spec.id = id) :
    Under thread id facts (recoverLive spec view.raw) (fun _ later => later.InOrder) view := by
  subst same
  apply Ensures.bind
  refine calm_under fun live => ?_
  split
  · rename_i pid active
    apply Ensures.bind
    refine calm_under fun _ => ?_
    exact supervise_under (.active active (by simp) recovers.found.exited)
  · rename_i active
    apply Ensures.bind
    refine calm_under fun exit => ?_
    refine ended_under rfl (.inl recovers.defined) (by simp [recovers.purpose]) (.inl ?_)
      fun _ isOver => .ofOver isOver recovers.unsupervised
    exact recovers.found.state ▸ active
  · apply Ensures.bind
    exact calm_under fun _ => recovers.fail_under
  · exact recovers.fail_under

theorem recoverFound_leaves (recovers : view.Recovers) (same : spec.id = id) :
    Leaves thread id facts (do
      let status ← always (statusOf spec)
      match status.state with
      | .stopped | .failed | .standby => return ()
      | .restarting => always (scheduleRestart spec.id)
      | _ => always (recoverLive spec status) : Call Unit) view := by
  have rests : view.raw.state.isActive = false → view.raw.state ≠ .restarting → view.InOrder :=
    fun inactive not => .unsupervised recovers.unsupervised
      (.inr ⟨inactive, fun restarting => absurd restarting not, fun told _ =>
      recovers.found.tells told⟩)
  apply always_then
  refine statusOf_under_stale same ?_ fun down => ?_
  · split
    · rename_i stopped
      exact return_ensures (rests (by simp [stopped, State.isActive]) (by simp [stopped]))
    · rename_i failed
      exact return_ensures (rests (by simp [failed, State.isActive]) (by simp [failed]))
    · rename_i standby
      exact return_ensures (rests (by simp [standby, State.isActive]) (by simp [standby]))
    · rename_i restarting
      apply always_ensures
      rw [same]
      refine scheduleRestart_under (.unsupervised recovers.unsupervised
        (.inr ⟨?_, fun _ => rfl, ?_⟩))
      · show view.raw.state.isActive = false
        rw [restarting]
        rfl
      · exact fun told _ => recovers.found.tells told
    · exact always_ensures (recoverLive_under recovers same)
  · exact return_ensures (rests (State.inactive_of_down down).1 (State.inactive_of_down down).2)

theorem World.Pending.recovered {world : World} {rest : List Spec}
    (pending : world.Pending thread (spec :: rest)) (apart : spec.id ∉ rest.map Spec.id) :
    (world.took thread spec.id .recover).Pending thread rest where
  stage := pending.stage
  defined := fun other member => pending.defined other (List.mem_cons_of_mem _ member)
  untouched := by
    intro other member recovered
    rcases List.mem_cons.mp recovered with same | old
    · exact apart (same ▸ List.mem_map_of_mem member)
    · exact pending.untouched other (List.mem_cons_of_mem _ member) old
  all := by
    intro other member
    rcases pending.all other member with listed | old
    · rcases List.mem_cons.mp listed with same | listed
      · exact .inr (same ▸ List.mem_cons_self)
      · exact .inl listed
    · exact .inr (List.mem_cons_of_mem _ old)

theorem recoverInstance_free {rest : List Spec} {post : Except Err Unit → Facts → Prop}
    (pending : facts.pending = some (spec :: rest)) (apart : spec.id ∉ rest.map Spec.id)
    (returned : ∀ result, post result { facts with pending := some rest }) :
    Free thread (recoverInstance spec).run post facts := by
  intro world sane roams
  refine locked_safe { facts with pending := some rest } View.Recovers sane ?_ fun view recovers =>
    (recoverFound_leaves recovers rfl).mono fun result later inOrder => ⟨inOrder, returned _⟩
  refine Program.Safe.perform fun now relies saneNow => ?_
  have roamsNow := relies.stable contract ((withoutLock thread).stable facts) roams
  have stand := roamsNow.stand
  have pendingNow := stand.pending _ pending
  rcases pendingNow.defined spec List.mem_cons_self with ⟨name, defined, member, same, _⟩
  have issued : spec.id ∈ now.issued := same ▸ saneNow.filed.issued defined member
  have unsettled : now.settled spec.id ≠ true := by
    rw [Ne, World.settled_iff]
    rintro (serving | recovered)
    · simp [pendingNow.stage] at serving
    · exact pendingNow.untouched spec List.mem_cons_self recovered
  split
  · exact .none
  rename_i free
  have move : Move thread now (now.took thread spec.id .recover) :=
    .took spec.id .recover free issued (by simp) (fun _ => pendingNow.stage)
  have standAfter : Facts.Stand { facts with pending := some rest } thread
      (now.took thread spec.id .recover) := by
    refine ⟨stand.serving, fun id known => move.ready_mono (stand.known id known), ?_⟩
    rintro specs ⟨rfl⟩
    exact pendingNow.recovered apart
  refine .one fun _ =>
    ⟨.inr move, fun _ => ⟨_, roamsNow.took_sees standAfter, saneNow.asFound issued free, rfl, ?_,
      ?_⟩⟩
  · show now.supervised spec.id = none
    by_contra supervised
    rcases Option.ne_none_iff_exists'.mp supervised with ⟨pid, isSupervised⟩
    exact unsettled (saneNow.ready spec.id (.supervised pid isSupervised)).2
  · show now.instances.lookup spec.id ≠ none
    rw [(saneNow.filed.lookup_issued issued).mpr ⟨member, same⟩]
    simp

theorem recoverInstances_free (specs : List Spec) {post : Except Err Unit → Facts → Prop}
    (pending : facts.pending = some specs) (apart : (specs.map Spec.id).Nodup)
    (recovered : ∀ later, later.pending = some [] → post (.ok ()) later)
    (failed : ∀ error later, post (.error error) later) :
    Free thread (recoverInstances specs).run post facts := by
  induction specs generalizing facts with
  | nil => exact return_ensures (recovered facts pending)
  | cons spec rest others =>
    rw [List.map_cons, List.nodup_cons] at apart
    apply Ensures.bindExcept
    refine recoverInstance_free pending apart.1 ?_
    rintro (error | _)
    · exact failed _ _
    · exact others rfl apart.2

theorem recover_fine : Fine thread recover facts := by
  apply always_then
  refine Free.perform fun now sane roams => ?_
  split
  rotate_left
  · exact Answers.none
  rename_i loading
  have move : Move thread now { now with stage := .recovering thread } := .beganRecovery loading
  have sorted : ∀ spec, spec ∈ now.sorted ↔ spec ∈ now.instances.items :=
    fun spec => List.mem_insertionSort _
  refine Answers.one ⟨.inr move, fun _ =>
    ⟨⟨false, facts.known, some now.sorted⟩, ⟨⟨by simp, ?_, ?_⟩, roams.empty⟩, ?_⟩⟩
  · exact fun id known => move.ready_mono (roams.stand.known id known)
  · rintro specs ⟨rfl⟩
    refine ⟨rfl, ?_, ?_, ?_⟩
    · exact fun spec member => ⟨spec.name, spec, (sorted spec).mp member, rfl, rfl⟩
    · simp [sane.loading loading]
    · exact fun spec member => .inl (List.mem_map_of_mem ((sorted spec).mpr member))
  -- Nothing is left to go through, so the daemon serves.
  apply Ensures.bindExcept
  refine recoverInstances_free now.sorted rfl ?_ ?_ (fun error later => trivial)
  · exact ((List.perm_insertionSort _ _).map Spec.id).nodup_iff.mpr sane.filed.coherent.nodup_ids
  intro later pending
  apply always_ensures
  refine Free.perform fun last saneLast roamsLast => ?_
  have none' := roamsLast.stand.pending [] pending
  have move : Move thread last { last with stage := .serving } := by
    refine .served none'.stage ?_ ?_
    · exact fun spec member => (none'.all spec member).resolve_left (by simp)
    intro id hold held isRecovery
    have stage := saneLast.recovering id hold held isRecovery
    rw [none'.stage] at stage
    exact roamsLast.empty id hold held (Stage.recovering.inj stage).symm
  refine Answers.one ⟨.inr move, fun _ =>
    ⟨⟨false, later.known, none⟩, ⟨⟨by simp, ?_, by simp⟩, roamsLast.empty⟩, trivial⟩⟩
  exact fun id known => move.ready_mono (roamsLast.stand.known id known)

end

end Dicer.Instance
