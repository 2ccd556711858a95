import Dicer.Instance.Rules

namespace Dicer.Instance

open Concurrency

/-!
# Taking a lock and giving it back

A thread that takes an instance's lock comes to see what the lock protects, and has to leave the
instance in order before it gives the lock back.  So a call made under a lock is, for a thread
without one, a single call after which the facts it knew stand.
-/

section

variable {thread : Nat} {id : String} {view later : View} {facts : Facts}

/-- The instance may be left as it is, and, unless a write or a removal has failed, it is left as it
has to be. -/
structure View.InOrder (view : View) : Prop where
  registered : view.supervised ≠ none → view.raw.state.isActive = true
  exited : ∀ pid, view.exited = some pid → view.supervised ≠ some pid
  supervises : view.faulty = false → view.found.supervised = true ∨ view.purpose = .recover →
    view.raw.state.isActive = true → view.supervised ≠ none
  awaits : view.faulty = false → view.found.awaited = true ∨ view.purpose = .recover →
    view.raw.state = .restarting → view.spec ≠ none → view.awaited = true ∨ view.refused = true ∨
      view.purpose.givesUp view.found = true
  tells : view.faulty = false → view.found.told = true → view.rests = true → view.told = true

theorem State.up_of_active {state : State} (active : state.isActive = true) :
    state.isDown = false ∧ state ≠ .restarting ∧ state ≠ .stopped := by
  cases state <;> simp_all [State.isDown, State.isActive]

namespace View.InOrder

theorem unsupervised (unsupervised : view.supervised = none)
    (handled : view.faulty = true ∨ (view.raw.state.isActive = false ∧
      (view.raw.state = .restarting → view.awaited = true) ∧
      (view.found.told = true → view.rests = true → view.told = true))) : view.InOrder where
  registered := fun isSupervised => absurd unsupervised isSupervised
  exited := fun pid _ => by simp [unsupervised]
  supervises := by
    intro unfaulted _ active
    rcases handled with faulty | ⟨inactive, _⟩
    · simp [unfaulted] at faulty
    · simp [inactive] at active
  awaits := by
    intro unfaulted _ restarting _
    rcases handled with faulty | ⟨_, awaits, _⟩
    · simp [unfaulted] at faulty
    · exact .inl (awaits restarting)
  tells := by
    intro unfaulted
    rcases handled with faulty | ⟨_, _, tells⟩
    · simp [unfaulted] at faulty
    · exact tells

theorem ofOver (isOver : view.Over later) (unsupervised : view.supervised = none) : later.InOrder :=
  .unsupervised (isOver.supervised.trans unsupervised)
    (isOver.handled.imp_right fun handled => ⟨handled.1, handled.2.1, fun _ => handled.2.2⟩)

theorem active (active : view.raw.state.isActive = true) (supervised : view.supervised ≠ none)
    (exited : view.exited = none) : view.InOrder where
  registered := fun _ => active
  exited := fun pid isExited => by simp [exited] at isExited
  supervises := fun _ _ _ => supervised
  awaits := fun _ _ restarting => absurd restarting (State.up_of_active active).2.1
  tells := by
    intro _ _ rests
    simp [View.rests, State.up_of_active active] at rests

theorem failed (inOrder : view.InOrder) : view.failed.InOrder where
  registered := inOrder.registered
  exited := inOrder.exited
  supervises := nofun
  awaits := nofun
  tells := nofun

theorem admitted (inOrder : view.InOrder) (result : Except Err Unit) :
    (view.admitted result).InOrder :=
  { inOrder with awaits := fun unfaulted found restarting defined =>
      (inOrder.awaits unfaulted found restarting defined).imp_right fun turned =>
        turned.imp_left fun refused => by simp [View.admitted, refused] }

/-- Who gives up without having asked for admission, after it called a restart off. -/
theorem gaveUp (inOrder : view.InOrder) (gives : view.purpose.givesUp view.found = true) :
    View.InOrder { view with awaited := false } :=
  { inOrder with awaits := fun _ _ _ _ => .inr (.inr gives) }

/-- Who is refused, after it called a restart off. -/
theorem refused (inOrder : view.InOrder) (replaces : view.purpose.replacesRestart = true)
    (error : Err) : (View.admitted { view with awaited := false } (.error error)).InOrder := by
  refine { inOrder with awaits := fun _ _ restarting _ => .inr (.inl ?_) }
  have restarting : (View.raw { view with awaited := false }).state = .restarting := restarting
  simp [View.admitted, Except.toBool, replaces, restarting]

end View.InOrder

/-- The holder did not come about an exit, and what is supervised is active. -/
structure View.Plain (view : View) : Prop where
  exited : view.exited = none
  active : view.supervised ≠ none → view.raw.state.isActive = true

/-- The holder has done nothing it would have to see to. -/
structure View.AsFound (view : View) : Prop extends view.Plain where
  state : view.found.state = view.raw.state
  frozen : view.frozen = true → view.found.frozen = true
  supervises : view.found.supervised = true → view.raw.state.isActive = true →
    view.supervised ≠ none
  awaits : view.purpose ≠ .policyRestart → view.found.awaited = true →
    view.raw.state = .restarting → view.spec ≠ none → view.awaited = true
  tells : view.found.told = true → view.told = true

namespace View.AsFound

/-- An instance that was only looked at is left in order.  Recovery and a restart that came due have
more to see to. -/
theorem inOrder (found : view.AsFound) (recovers : view.purpose ≠ .recover)
    (claims : view.purpose = .policyRestart → view.raw.state ≠ .restarting ∨ view.spec = none) :
    view.InOrder where
  registered := found.active
  exited := fun pid exited => by simp [found.exited] at exited
  supervises := fun _ was => found.supervises (was.resolve_right recovers)
  awaits := by
    intro _ was restarting defined
    refine .inl (found.awaits (fun isClaim => ?_) (was.resolve_right recovers) restarting defined)
    exact (claims isClaim).elim (fun not => not restarting) defined
  tells := fun _ told _ => found.tells told

theorem redefined {current : Spec} (found : view.AsFound) (known : view.spec = some current)
    (spec : Spec) : View.AsFound { view with spec := some spec } :=
  { found with awaits := fun claim was restarting _ =>
      found.awaits claim was restarting (by simp [known]) }

end View.AsFound

theorem View.Plain.unsupervised (found : view.Plain) (inactive : view.raw.state.isActive = false) :
    view.supervised = none := by
  by_contra supervised
  simp [found.active supervised] at inactive

/-! ## The lock -/

/-- What who takes an instance's lock comes to see. -/
def World.seenTaking (world : World) (thread : Nat) (id : String) (purpose : Purpose) : View where
  purpose := purpose
  found := world.standing id
  exited := none
  faulty := false
  refused := false
  spec := world.instances.lookup id
  status := world.status id
  supervised := world.supervised id
  frozen := (world.instances.lookup id).any fun spec => (world.dirs spec.name).standby.isSome
  awaited := (world.took thread id purpose).awaited id
  told := (world.standing id).told

variable {world : World} {purpose : Purpose}

theorem Roams.took_sees (roams : Roams thread facts world) {after : Facts}
    (stand : after.Stand thread (world.took thread id purpose)) :
    (world.seenTaking thread id purpose).Sees thread id after (world.took thread id purpose) where
  stand := stand
  held := ⟨_, ⟨world.holds_took thread id purpose, rfl⟩, rfl, rfl, rfl⟩
  only := by
    rintro other hold ⟨held, own⟩
    by_contra different
    rw [World.took, World.setHold] at held
    simp only [Function.update_of_ne different] at held
    exact roams.empty other hold held own
  faulty := by simp [World.seenTaking]
  refused := by simp [World.seenTaking]
  spec := rfl
  status := rfl
  supervised := rfl
  frozen := by
    intro spec known
    have known : world.instances.lookup id = some spec := known
    simp [World.seenTaking, World.took, World.setHold, known]
  awaited := fun isAwaited => isAwaited
  told := fun told => told

theorem Sane.asFound (sane : Sane world) (issued : id ∈ world.issued)
    (free : world.holds id = none) : (world.seenTaking thread id purpose).AsFound where
  exited := rfl
  state := rfl
  active := fun isSupervised => sane.registered id isSupervised free
  frozen := by simp [World.seenTaking, World.standing, sane.filed.definition_issued issued]
  supervises := by
    intro found active
    have active : (world.stateIn id).isActive = true := active
    have found : (!(world.stateIn id).isActive || (world.supervised id).isSome) = true := found
    rw [active, Bool.not_true, Bool.false_or] at found
    exact Option.isSome_iff_ne_none.mp found
  awaits := by
    intro notPolicy found restarting defined
    have notPolicy : purpose ≠ .policyRestart := notPolicy
    have restarting : world.stateIn id = .restarting := restarting
    have isDefined : (world.definition id).isNone = false := by
      rw [← Bool.not_eq_true, Option.isNone_iff_eq_none, sane.filed.definition_issued issued]
      exact defined
    have found : (decide (world.stateIn id ≠ .restarting) || (world.definition id).isNone ||
      world.awaited id) =
      true := found
    simpa [restarting, isDefined, World.seenTaking, World.awaited, World.took, World.setHold,
      notPolicy] using found
  tells := fun told => told

/-- Who has left the instance in order may give its lock back. -/
theorem View.Sees.releases (sees : view.Sees thread id facts world) (sane : Sane world)
    (inOrder : view.InOrder) : Move thread world (world.setHold id none) := by
  rcases sees.held with ⟨hold, mine, isPurpose, isFound, isExited⟩
  refine .released id hold mine ?_ ?_ fun unfaulted => ?_
  · rw [sees.supervised, sees.stateIn]
    exact inOrder.registered
  · rw [sees.supervised, isExited]
    exact inOrder.exited
  have unfaulted : view.faulty = false := by
    rw [← Bool.not_eq_true]
    exact fun faulty => absurd (sees.faulty faulty) (by simp [unfaulted])
  constructor
  · rw [isFound, isPurpose]
    intro found
    show (!(world.stateIn id).isActive || (world.supervised id).isSome) = true
    rw [sees.stateIn, sees.supervised]
    cases active : view.raw.state.isActive with
    | false => rfl
    | true => simpa using Option.isSome_iff_ne_none.mpr (inOrder.supervises unfaulted found active)
  · rw [isFound, isPurpose]
    intro found
    have standing : (world.standing id).awaited =
        (decide (view.raw.state ≠ .restarting) || view.spec.isNone || world.awaited id) := by
      rw [← sees.stateIn, ← sees.definition sane]
      rfl
    rw [standing]
    by_cases restarting : view.raw.state = .restarting
    · cases known : view.spec with
      | none => exact .inl (by simp)
      | some =>
        refine (inOrder.awaits unfaulted found restarting (by simp [known])).imp
          (fun isAwaited => ?_) (.imp_left sees.refused)
        rw [sees.awaited isAwaited, Bool.or_true]
    · exact .inl (by simp [restarting])
  · rw [isFound]
    intro found
    rw [World.standing_told, sees.atRest sane]
    intro rests
    have told := sees.told (inOrder.tells unfaulted found rests)
    rw [World.standing_told, sees.atRest sane] at told
    exact told rests

theorem View.Sees.released (sees : view.Sees thread id facts world) (sane : Sane world)
    (inOrder : view.InOrder) : Roams thread facts (world.setHold id none) where
  stand := sees.stand.kept sane (sees.releases sane inOrder) fun _ => ⟨rfl, rfl⟩
  empty := by
    intro other hold held own
    have held : Function.update world.holds id none other = some hold := held
    by_cases same : other = id
    · simp [same] at held
    · rw [Function.update_of_ne same] at held
      exact same (sees.only other hold ⟨held, own⟩)

variable {Value : Type} {call : Call Value} {post : Except Err Value → Facts → Prop}

/-- A call under a lock: what the lock shows is what the call goes by, and it leaves the instance in
order. -/
theorem locked_safe (facts : Facts) (shown : View → Prop) (sane : Sane world)
    (takes : (lock id purpose).Safe contract thread
      (fun _ after => ∃ view : View, view.Sees thread id facts after ∧ shown view) world)
    (body : ∀ view, shown view → Under thread id facts call.run
      (fun result later => later.InOrder ∧ post result facts) view) :
    (locked id purpose call).run.Safe contract thread
      (fun result final => ∃ facts, Roams thread facts final ∧ post result facts) world := by
  apply Program.Safe.andThenLifted sane takes
  rintro _ taken saneTaken ⟨view, sees, isShown⟩
  apply Program.Safe.andThenLifted saneTaken (body view isShown taken saneTaken sees)
  rintro result ending saneEnding ⟨later, seesLater, inOrder, holds⟩
  have gives : (unlock id).Safe contract thread (fun _ final => Roams thread facts final)
      ending := by
    refine Program.Safe.perform fun now relies saneNow => .one fun _ => ?_
    have seesNow := relies.stable contract ((withLock thread id facts).stable later) seesLater
    exact ⟨.inr (seesNow.releases saneNow inOrder), fun _ => seesNow.released saneNow inOrder⟩
  apply Program.Safe.andThenLifted saneEnding gives
  intro _ final _ roams
  cases result with
  | ok | error => exact ⟨facts, roams, holds⟩

theorem locked_free (known : id ∈ facts.known) (serves : purpose ≠ .recover)
    (body : ∀ view : View, view.AsFound → view.purpose = purpose →
      Under thread id facts call.run (fun result later => later.InOrder ∧ post result facts) view) :
    Free thread (locked id purpose call).run post facts := by
  intro world sane roams
  refine locked_safe facts (fun view => view.AsFound ∧ view.purpose = purpose) sane ?_
    fun view shown => body view shown.1 shown.2
  refine Program.Safe.perform fun now relies saneNow => ?_
  have roamsNow := relies.stable contract ((withoutLock thread).stable facts) roams
  rcases roamsNow.stand.known id known with ⟨issued, settled⟩
  split
  · exact .none
  rename_i free
  have move : Move thread now (now.took thread id purpose) :=
    .took id purpose free issued (fun _ => settled) (fun isRecovery => absurd isRecovery serves)
  have stand : facts.Stand thread (now.took thread id purpose) := by
    refine roamsNow.stand.kept saneNow move fun _ => ⟨?_, rfl⟩
    simp [World.took, World.setHold, serves]
  exact .one fun _ => ⟨.inr move, fun _ =>
    ⟨_, roamsNow.took_sees stand, saneNow.asFound issued free, rfl⟩⟩

theorem locked_left (known : id ∈ facts.known) (serves : purpose ≠ .recover)
    (returned : ∀ result, post result facts)
      (body : ∀ view : View, view.AsFound → view.purpose = purpose → Under thread id facts call.run
      (fun _ later => later.InOrder) view) :
    Free thread (locked id purpose call).run post facts :=
  locked_free known serves fun view found isPurpose =>
    (body view found isPurpose).mono fun result _ inOrder => ⟨inOrder, returned result⟩

end

end Dicer.Instance
