import Dicer.Sizing.Guests

namespace Dicer.Sizing

open Concurrency Concurrency.Calls
open Concurrency.Locked (Does Runs Serves Gives)
open Instance (Spec Status State Resources Capacity)

/-!
# An instance holds what its guest may have

Whatever becomes of a resize, the instance goes on holding the larger of what it held and what was
asked for until its VMM accepted the new sizes, and a guest is frozen with what its instance held at
the time.  So what a VMM was started with, was restored with or was last asked for is never more
than its instance holds.  The invariant is one of each instance alone, and every operation keeps it
at every step, so that a crash finds it too.
-/

theorem fits_trans {first second third : Resources} (below : first.fits second = true)
    (above : second.fits third = true) : first.fits third = true := by
  simp only [Instance.Resources.fits, Bool.and_eq_true, decide_eq_true_eq] at *
  exact ⟨below.1.trans above.1, below.2.trans above.2⟩

theorem fits_larger (held want : Resources) :
    held.fits (Instance.larger held want) = true ∧ want.fits (Instance.larger held want) =
    true := by
  simp [Instance.Resources.fits, Instance.larger]

def Guest.Fits (guest : Guest) (limit : Resources) : Prop :=
  guest.asked.fits limit = true ∧ guest.has.fits limit = true

theorem Guest.Fits.mono {guest : Guest} {limit larger : Resources} (fits : guest.Fits limit)
    (below : limit.fits larger = true) : guest.Fits larger :=
  ⟨fits_trans fits.1 below, fits_trans fits.2 below⟩

def Frozen.Fits (frozen : Frozen) : Prop := frozen.has.fits frozen.need = true

/-- The instance holds what its guest may have, and so will one its frozen guest is resumed in. -/
structure Machine.Covered (machine : Machine) : Prop where
  guest : machine.status.state.isActive = true → ∀ guest, machine.guest = some guest →
    guest.Fits machine.held
  standby : ∀ frozen, machine.standby = some frozen → frozen.Fits

def covering : Locked.Invariant Machine Shared where
  holds := Machine.Covered
  rests := fun _ => True
  shares := fun shared => ∀ snapshot ∈ shared.snapshots, snapshot.frozen.Fits

/-- Nothing is asked of the steps of a run. -/
def Anyhow (_ _ : World) : Prop := True

instance : DecidableRel Anyhow := fun _ _ => isTrue trivial

/-- The definition has its guest boot with the memory it says. -/
def Whole (spec : Spec) : Prop :=
  spec.effectiveHypervisorType = .firecracker → Hypervisor.mib ∣ spec.memoryBytes

instance (spec : Spec) : Decidable (Whole spec) := inferInstanceAs (Decidable (_ → _))

/-- Every stored definition is so when a step is taken. -/
def Evenly (before _ : World) : Prop :=
  ∀ id ∈ before.shared.instances, Whole (before.items id).spec

instance : DecidableRel Evenly := fun _ _ => List.decidableBAll _ _

variable {Value : Type}

/-- A call of the holder of an instance's lock, after whose failure nothing need be known. -/
abbrev Goes (id : String) (pre : Machine → Prop) (call : Call Value)
    (post : Value → Machine → Prop) :
    Prop :=
  Runs covering Evenly id pre call post fun _ => True

abbrev GoesOp (id : String) (pre : Machine → Prop) (op : Op Value) (post : Value → Machine → Prop) :
    Prop :=
  Does covering Evenly id pre op post

/-- The instance is not active, so whatever guest there is, nothing is asked of it. -/
def Idle (machine : Machine) : Prop := machine.status.state.isActive = false

def Anything (_ : Value) (_ : Machine) : Prop := True

variable {machine : Machine}

theorem Machine.Covered.idle (idle : Idle machine)
    (standby : ∀ frozen, machine.standby = some frozen → frozen.Fits) : machine.Covered :=
  ⟨fun active => absurd (idle.symm.trans active) (by simp), standby⟩

theorem Machine.Covered.record (covered : machine.Covered) {status : Status}
    (idle : status.state.isActive = false) : (machine.record status).Covered :=
  .idle idle covered.standby

section

variable {id : String} {known : Machine → Prop} {capacity : Capacity}

theorem goes_definition : Goes id known (definition id) fun spec machine =>
    known machine ∧ Whole spec := by
  refine Does.perform fun _ world kept held => .one fun even =>
    ⟨rfl, fun _ _ => rfl, kept.shares, kept.holds id, ?_⟩
  dsimp only
  split
  next stored => exact ⟨held, even id stored⟩
  next => trivial

theorem goes_statusOf :
    Goes id known (always (statusOf id)) fun status machine => known machine ∧
    status = machine.reported :=
  .always (.look fun _ _ held => ⟨held, rfl⟩)

theorem goes_mayFail {failure : Failure} : Goes id known (mayFail failure) fun _ => known :=
  .mayFail fun _ _ _ => trivial

theorem goes_allocated (others : List String) (total : Resources) :
    GoesOp id known (allocated others total) fun _ => known := by
  induction others generalizing total with
  | nil => exact .pure fun _ _ held => held
  | cons other rest ih => exact Does.observe.bind fun held => ih _

theorem goes_checkRoom (need : Resources) : Goes id known (checkRoom capacity id need) fun _ =>
    known := by
  unfold checkRoom whenever
  split
  · refine (Runs.always Does.observe).bind fun others =>
      (Runs.always (goes_allocated others _)).bind fun total => ?_
    split
    · exact .pure fun _ _ held => held
    · exact .throw fun _ _ _ => trivial
  · exact .pure fun _ _ held => held

theorem goes_transitionWith {target : State} {update : Status → Status}
    {post : Unit → Machine → Prop} (goes : ∀ machine, machine.Covered → known machine →
      (machine.record (update { machine.reported with state := target, stateError := "" })).Covered ∧
        post () (machine.record (update { machine.reported with state := target, stateError := "" }))) :
    Goes id known (transitionWith id target update) post := by
  refine goes_statusOf.bind fun status => ?_
  split
  · exact .throw fun _ _ _ => trivial
  refine .always (.put fun machine covered held => ?_)
  rw [held.2]
  exact goes machine covered held.1

theorem goes_admitInstance (need : Resources) :
    Goes id known (admitInstance capacity id need) fun _ => Idle := by
  refine goes_definition.bind fun _ => (goes_checkRoom need).bind fun _ =>
    goes_mayFail.bind fun _ => ?_
  exact goes_transitionWith fun machine covered _ => ⟨covered.record rfl, rfl⟩

theorem goes_removeRuntimeDir : Goes id known (removeRuntimeDir id) Anything :=
  .mayPut fun _ covered _ => ⟨covered.record rfl, trivial, trivial⟩

theorem does_removeRuntimeDir : GoesOp id known (bestEffort (removeRuntimeDir id)) Anything :=
  Runs.bestEffort goes_removeRuntimeDir

theorem goes_discardStandby (keeps : ∀ machine : Machine, known machine →
    known { machine with standby := none }) : Goes id known (discardStandby id) fun _ => known :=
  .mayPut fun machine covered held => ⟨⟨covered.guest, nofun⟩, keeps machine held, trivial⟩

theorem goes_launch (resources : Resources) :
    Goes id Idle (launch id resources) fun _ machine => Idle machine ∧
    machine.guest = some (.launched resources) :=
  .mayPut fun _ covered idle => ⟨.idle idle covered.standby, ⟨idle, rfl⟩, trivial⟩

theorem does_recordRunning {held resources : Resources} (fits : resources.fits held = true) :
    GoesOp id (fun machine => machine.guest = some (.launched resources))
    (recordRunning id held) Anything := by
  refine .put fun machine covered launched => ⟨⟨fun _ guest found => ?_, covered.standby⟩, trivial⟩
  cases launched.symm.trans found
  exact ⟨fits, fits⟩

theorem does_terminate : GoesOp id known (terminate id) Anything :=
  .put fun _ covered _ => ⟨⟨nofun, covered.standby⟩, trivial⟩

theorem does_fail : GoesOp id known (fail id) Anything :=
  .put fun _ covered _ => ⟨covered.record rfl, trivial⟩

theorem does_ended : GoesOp id known (ended id) Anything := by
  refine .onItem fun machine covered _ => .map fun state member => ⟨covered.record ?_, trivial⟩
  simp only [List.mem_cons, List.not_mem_nil, or_false] at member
  rcases member with rfl | rfl | rfl <;> rfl

theorem boots_fitting {spec : Spec} {vm : Hypervisor.VM}
    (configured : Hypervisor.configure spec = .ok vm) :
    (⟨spec.vcpus, vm.bootBytes⟩ : Resources).fits spec.resources = true ↔ Whole spec := by
  simp only [Instance.Resources.fits, Bool.and_eq_true, decide_eq_true_eq]
  exact (and_iff_right le_rfl).trans (Hypervisor.bootBytes_le configured)

theorem goes_boot {spec : Spec} (whole : Whole spec) : Goes id Idle (boot id spec) Anything := by
  refine goes_mayFail.bind fun _ => (goes_discardStandby fun _ idle => idle).bind fun _ => ?_
  refine .onError (goes_mayFail.bind fun _ => ?_) does_removeRuntimeDir
  split
  next => exact .throw fun _ _ _ => trivial
  next vm configured =>
    refine (goes_launch _).bind fun _ => .always ?_
    exact (does_recordRunning ((boots_fitting configured).mpr whole)).weaken
      fun _ _ launched => launched.2

variable {frozen : Frozen}

theorem goes_restore (fits : frozen.Fits) (onStandby : Bool) :
    Goes id Idle (restore id frozen onStandby) Anything := by
  let launched (machine : Machine) : Prop := machine.guest = some (.launched frozen.has)
  have discarded : Goes id launched (whenever onStandby (always (bestEffort (discardStandby id))))
      fun _ => launched := by
    unfold whenever
    split
    · refine .always (Runs.bestEffort (.mayPut fun machine covered held =>
        ⟨⟨covered.guest, nofun⟩, held, held⟩))
    · exact .pure fun _ _ held => held
  have resumed : Goes id launched (do
      mayFail (.host "resume vm")
      whenever onStandby (always (bestEffort (discardStandby id)))
      mayFail (.host "call the guest's agent")
      always (recordRunning id frozen.need)) Anything :=
    goes_mayFail.bind fun _ => discarded.bind fun _ => goes_mayFail.bind fun _ =>
      .always (does_recordRunning fits)
  refine .onError (goes_mayFail.bind fun _ => (goes_launch _).bind fun _ => ?_)
    does_removeRuntimeDir
  exact .onError (resumed.weaken fun _ _ held => held.2) does_terminate

theorem goes_orFail {call : Call Unit} (goes : Goes id known call Anything) :
    Goes id known (orFail id call) Anything :=
  .onError goes does_fail

theorem goes_resume (fits : frozen.Fits) (onStandby : Bool) :
    Goes id known (resume capacity id frozen onStandby) Anything :=
  goes_mayFail.bind fun _ => (goes_admitInstance _).bind fun _ =>
    goes_orFail (goes_restore fits onStandby)

/-! ## Operations -/

/-- A request is served, and what it returns is of this kind. -/
abbrev Offers {Value : Type} (call : Call Value) (kind : Value → Prop) :
    Prop := Gives covering Evenly call kind

theorem offers_locked {Value : Type} {call : Call Value} {kind : Value → Prop}
    (goes : Goes id (fun _ => True) call fun value _ => kind value) :
    Offers (Locked.locked id call) kind := by
  have runs : Goes id (fun _ => True) call fun value _ => True ∧ kind value :=
    goes.mono fun result _ _ held => by cases result <;> first | exact ⟨trivial, held⟩ | trivial
  exact .locked runs fun _ _ _ _ _ => trivial

theorem goes_startLocked : Goes id known (startLocked capacity id) Anything := by
  refine goes_definition.bind fun spec => .given (fun _ _ held => held.2) fun whole =>
    goes_statusOf.bind fun status => ?_
  split
  · exact .throw fun _ _ _ => trivial
  have seen : Goes id (fun machine => (known machine ∧ Whole spec) ∧ status = machine.reported)
      (always (Locked.look id Machine.standby)) fun standby _ => ∀ frozen, standby = some frozen →
          frozen.Fits :=
    .always (.look fun _ covered _ => covered.standby)
  refine seen.bind fun standby => .given (fun _ _ fits => fits) fun fits => ?_
  cases standby with
  | some frozen => exact goes_resume (fits frozen rfl) true
  | none => exact (goes_admitInstance _).bind fun _ => goes_orFail (goes_boot whole)

theorem offers_update (updated : Spec) : Offers (update id updated) fun _ => True := by
  refine offers_locked (goes_definition.bind fun _ => goes_statusOf.bind fun _ => ?_)
  split_ifs
  · exact .throw fun _ _ _ => trivial
  · exact .mayPut fun _ covered _ => ⟨⟨covered.guest, covered.standby⟩, trivial, trivial⟩
  · exact .throw fun _ _ _ => trivial

theorem offers_stop : Offers (stop id) fun _ => True := by
  refine offers_locked (goes_statusOf.bind fun status => ?_)
  have discarded : Goes id (fun machine => True ∧ status = machine.reported)
      (discardStandby id) Anything :=
    .mayPut fun _ covered _ => ⟨⟨covered.guest, nofun⟩, trivial, trivial⟩
  have stopping : Goes id (Anything ()) (transitionWith id .stopping fun status => status)
      Anything :=
    goes_transitionWith fun _ covered _ => ⟨covered.record rfl, trivial⟩
  refine discarded.bind fun _ => ?_
  split
  · exact .pure fun _ _ held => held
  · exact .pure fun _ _ held => held
  · exact stopping.bind fun _ => (Runs.always does_terminate).bind fun _ => goes_removeRuntimeDir

theorem offers_delete (force : Bool) : Offers (delete id force) fun _ => True := by
  refine offers_locked (goes_statusOf.bind fun status => ?_)
  split
  · exact .throw fun _ _ _ => trivial
  · refine (Runs.always does_terminate).bind fun _ => (Runs.always does_removeRuntimeDir).bind
      fun _ => ?_
    exact .always (.putShared fun _ shares => shares)

theorem Machine.reported_of_active (active : machine.reported.state.isActive = true) :
    machine.reported = machine.status := by
  unfold Machine.reported at active ⊢
  split
  · rename_i frozen
    rw [if_pos frozen] at active
    simp [Instance.State.isActive] at active
  · rfl

theorem Machine.held_of_active (active : machine.status.state.isActive = true) :
    machine.held = ⟨machine.status.vcpus, machine.status.memoryBytes⟩ := by
  simp [Machine.held, Instance.Status.heldResources, Instance.State.holdsResources, active]

theorem Machine.Covered.recordActive (covered : machine.Covered)
    (active : machine.reported.state.isActive = true) (target : State) :
    (machine.record { machine.reported with state := target, stateError := "" }).Covered := by
  have same := Machine.reported_of_active active
  rw [same] at active ⊢
  refine ⟨fun activeAfter guest found => ?_, covered.standby⟩
  rw [Machine.held_of_active activeAfter]
  exact Machine.held_of_active active ▸ covered.guest active guest found

theorem offers_setPaused {source : State} (active : source.isActive = true) (target : State) :
    Offers (setPaused id source target) fun _ => True := by
  refine offers_locked (goes_statusOf.bind fun status => ?_)
  split
  · exact .throw fun _ _ _ => trivial
  rename_i same
  refine goes_mayFail.bind fun _ => goes_transitionWith fun machine covered held => ⟨?_, trivial⟩
  exact covered.recordActive (by rw [← held.2, not_not.mp same]; exact active) target

/-- A guest is frozen with no more than is recorded for it. -/
theorem goes_freeze : Goes id known (freeze id) fun frozen _ => frozen.Fits := by
  refine goes_statusOf.bind fun status => ?_
  split
  · exact .throw fun _ _ _ => trivial
  rename_i active
  simp only [Bool.not_eq_true', Bool.not_eq_false] at active
  have seen : Goes id (fun machine => known machine ∧ status = machine.reported)
      (always (Locked.look id Machine.guest)) fun found _ => ∀ guest, found = some guest →
          guest.has.fits ⟨status.vcpus, status.memoryBytes⟩ = true := by
    refine .always (.look fun machine covered held guest found => ?_)
    have same := Machine.reported_of_active (held.2 ▸ active)
    rw [held.2, same] at active ⊢
    exact Machine.held_of_active active ▸ (covered.guest active guest found).2
  refine goes_mayFail.bind fun _ => seen.bind fun found => ?_
  cases found with
  | none => exact .throw fun _ _ _ => trivial
  | some guest => exact .pure fun _ _ fits => fits guest rfl

theorem offers_standby : Offers (standby id) fun _ => True := by
  have discarded : Goes id (fun _ => True) (discardStandby id) Anything :=
    .mayPut fun _ covered _ => ⟨⟨covered.guest, nofun⟩, trivial, trivial⟩
  refine offers_locked (discarded.bind fun _ => goes_freeze.bind fun frozen => ?_)
  refine .given (fun _ _ fits => fits) fun fits => ?_
  have placed : Goes id (Anything ()) (Locked.mayPut id (.host "put standby in place")
      fun machine : Machine =>
      { machine with standby := some frozen }) Anything := by
    refine .mayPut fun machine covered _ =>
      ⟨⟨covered.guest, fun other found => ?_⟩, trivial, trivial⟩
    exact Option.some.inj found ▸ fits
  have orFailed : Goes id (Anything ()) (orFail id _) Anything := goes_orFail placed
  exact (Runs.always does_terminate).bind fun _ => orFailed.bind fun _ => goes_removeRuntimeDir

variable (name : String)

theorem offers_createSnapshot : Offers (createSnapshot id name) fun _ => True := by
  refine (offers_locked goes_freeze).bind fun frozen fits =>
    .always (.putShared fun shared shares => ?_)
  exact List.forall_mem_cons.mpr ⟨fits, shares⟩

theorem offers_storeSnapshot : Offers (storeSnapshot name) fun snapshot =>
    snapshot.frozen.Fits := by
  refine .perform fun _ world kept => .one fun _ =>
    ⟨rfl, fun _ _ => rfl, kept, fun snapshot found => ?_⟩
  dsimp only at found
  split at found
  · rename_i _ isFound
    exact Except.ok.inj found ▸ kept.shares _ (List.mem_of_find?_eq_some isFound)
  · exact absurd found (by simp)

theorem offers_restoreSnapshot : Offers (restoreSnapshot capacity name) fun _ => True := by
  refine (offers_storeSnapshot name).bind fun snapshot fits =>
    offers_locked (goes_statusOf.bind fun status => ?_)
  split
  · exact .throw fun _ _ _ => trivial
  · exact goes_resume fits false

variable (spec : Spec)

theorem serves_create : Serves covering Evenly (create id spec) fun _ => True := by
  refine .perform fun _ world kept => ?_
  split
  · rename_i free
    refine .one fun _ => ⟨rfl, fun key held =>
      Function.update_of_ne (fun same : key = id => held (same ▸ free.2)) _ _,
        ⟨fun key => ?_, fun _ _ => trivial, kept.shares⟩, trivial⟩
    by_cases same : key = id
    · simp only [same, Function.update_self]
      exact .idle rfl nofun
    · simp only [Function.update_of_ne same]
      exact kept.holds key
  · exact .none

theorem offers_fork (fits : frozen.Fits) : Offers (fork capacity id spec frozen) fun _ => True :=
  (Gives.always (serves_create spec)).bind fun _ _ => offers_locked (goes_resume fits false)

theorem offers_handleEnd : Offers (handleEnd id) fun _ => True :=
  offers_locked (.always (does_terminate.bind fun _ => does_ended))

theorem offers_restart : Offers (restart capacity id) fun _ => True := by
  refine offers_locked (goes_definition.bind fun spec =>
      .given (fun _ _ held => held.2) fun whole =>
    goes_statusOf.bind fun status => ?_)
  split
  · exact .pure fun _ _ _ => trivial
  · exact .onError ((goes_admitInstance _).bind fun _ => goes_boot whole) does_ended

theorem offers_recoverInstance : Offers (recoverInstance id) fun _ => True := by
  refine offers_locked (goes_statusOf.bind fun status => ?_)
  split
  case h_1 | h_2 | h_3 | h_4 => exact .pure fun _ _ _ => trivial
  case h_5 | h_6 =>
    refine goes_mayFail.attempt.bind fun attached => ?_
    cases attached with
    | ok => exact .pure fun _ _ _ => trivial
    | error => exact .always does_ended
  case h_7 => exact (Runs.always does_terminate).bind fun _ => .always does_fail

/-! ## Resizing -/

/-- The instance is running and holds this much, and this is true of its guest. -/
def Sized (held : Resources) (about : Guest → Prop) (machine : Machine) : Prop :=
  machine.status.state = .running ∧ machine.held = held ∧ ∀ guest, machine.guest = some guest →
    about guest

theorem goes_reserve {held need : Resources} {about : Guest → Prop}
    (fits : ∀ guest, about guest → guest.Fits need) :
    Goes id (Sized held about) (reserve capacity id need) fun _ => Sized need about := by
  refine (goes_checkRoom need).bind fun _ => goes_transitionWith fun machine covered sized => ?_
  exact ⟨⟨fun _ guest found => fits guest (sized.2.2 guest found), covered.standby⟩, rfl, rfl,
    sized.2.2⟩

/-- What is left by a call on a VMM that accepts a size, fails, or refuses it if it may. -/
structure Asked (limit : Resources) (refuses : Bool) (before after : Guest → Prop)
    (result : Except Failure Unit) (machine : Machine) : Prop where
  accepted : result = .ok () → Sized limit after machine
  refused : result = .error .refused → refuses = true ∧ Sized limit before machine

/-- The VMM is asked for a size that differs. -/
theorem does_askVMM {limit held want : Resources} {ask : Ask} {refuses differs : Bool}
    {accept : Guest → Guest} (below : held.fits limit = true) (above : want.fits limit = true)
    (accepts : ∀ guest : Guest, guest.Fits held → (accept guest).Fits want)
    (same : differs = false → held = want) :
    GoesOp id (Sized limit fun guest => guest.Fits held)
      (whenever differs (askVMM id ask refuses accept)).run
      (Asked limit refuses (fun guest => guest.Fits held) fun guest => guest.Fits want) := by
  cases differs with
  | false => exact .pure fun _ _ sized => ⟨fun _ => same rfl ▸ sized, nofun⟩
  | true =>
    show GoesOp id _ (askVMM id ask refuses accept).run _
    unfold askVMM
    refine .onItem fun machine covered sized => ?_
    split
    · exact .one ⟨covered, nofun, nofun⟩
    rename_i guest found
    have noted : Guest.Fits { guest with asks := ask :: guest.asks } held := sized.2.2 guest found
    have within := noted.mono below
    have accepted := accepts _ noted
    have acceptedWithin := accepted.mono above
    -- The status stays as it is, so that what is left fits what the instance holds.
    have keeps : ∀ other : Guest, other.Fits limit →
        ({ machine with guest := some other } : Machine).Covered :=
      fun other fitting => ⟨fun _ _ same => Option.some.inj same ▸ sized.2.1 ▸ fitting,
        covered.standby⟩
    have holds : ∀ (other : Guest) (about : Guest → Prop), about other →
        Sized limit about { machine with guest := some other } :=
      fun other about held => ⟨sized.1, sized.2.1, fun _ same => Option.some.inj same ▸ held⟩
    intro answer left answered
    simp only [Guest.failed, List.map_cons, List.map_nil, List.cons_append, List.mem_cons,
      List.mem_append, List.mem_ite_nil_right, List.not_mem_nil, or_false,
      Prod.mk.injEq] at answered
    rcases answered with ⟨rfl, rfl⟩ | ⟨mayRefuse, rfl, rfl⟩ | ⟨rfl, rfl⟩ | ⟨rfl, rfl⟩
    · exact ⟨keeps _ acceptedWithin, fun _ => holds _ _ accepted, nofun⟩
    · exact ⟨keeps _ within, nofun, fun _ => ⟨mayRefuse, holds _ _ noted⟩⟩
    · exact ⟨keeps _ ⟨acceptedWithin.1, within.2⟩, nofun, nofun⟩
    · exact ⟨keeps _ acceptedWithin, nofun, nofun⟩

/-- Memory goes first, so only a call after which nothing has changed is refused. -/
theorem does_resizeVM (held want : Resources) :
    GoesOp id (Sized (Instance.larger held want) fun guest => guest.Fits held)
      (resizeVM id held want).run (Asked (Instance.larger held want) true
      (fun guest => guest.Fits held) fun guest => guest.Fits want) := by
  let limit := Instance.larger held want
  let between : Resources := ⟨held.vcpus, want.memoryBytes⟩
  have betweenFits : between.fits limit = true :=
    by simp [between, limit, Instance.Resources.fits, Instance.larger]
  have memory : GoesOp id (Sized limit fun guest => guest.Fits held)
      (whenever (want.memoryBytes ≠ held.memoryBytes) (resizeVMMemory id want.memoryBytes)).run
      (Asked limit true (fun guest => guest.Fits held) fun guest => guest.Fits between) := by
    refine does_askVMM (fits_larger held want).1 betweenFits (fun guest fits => ?_) fun same =>
      by simp_all [between]
    simp only [Guest.Fits, Instance.Resources.fits, Bool.and_eq_true, decide_eq_true_eq] at fits
    simp [Guest.Fits, Guest.acceptMemory, Instance.Resources.fits, between, fits]
  have vcpus : GoesOp id (Sized limit fun guest => guest.Fits between)
      (whenever (want.vcpus ≠ held.vcpus) (resizeVMCPU id want.vcpus)).run
      (Asked limit false (fun guest => guest.Fits between) fun guest => guest.Fits want) := by
    refine does_askVMM betweenFits (fits_larger held want).2 (fun guest fits => ?_) fun same => by
      simp [between, ← show want.vcpus = held.vcpus by simpa using same]
    simp only [Guest.Fits, Instance.Resources.fits, Bool.and_eq_true, decide_eq_true_eq] at fits
    simp [Guest.Fits, Guest.acceptVCPUs, Instance.Resources.fits, between, fits]
  unfold resizeVM
  rw [ExceptT.run_bind]
  refine memory.bind fun result => ?_
  cases result with
  | ok =>
    refine (vcpus.weaken fun _ _ asked => asked.accepted rfl).mono fun result _ _ asked =>
      ⟨asked.accepted, ?_⟩
    exact fun refused => absurd (asked.refused refused).1 (by simp)
  | error => exact .pure fun _ _ asked => ⟨nofun, asked.refused⟩

theorem goes_storeUpdateInstance : Goes id known (storeUpdateInstance id spec) Anything :=
  .mayPut fun _ covered _ => ⟨⟨covered.guest, covered.standby⟩, trivial, trivial⟩

theorem goes_resizeHeld (held want : Resources) :
    Goes id (Sized held fun guest => guest.Fits held) (resizeHeld capacity id spec held want)
    Anything := by
  have asked : Goes id (Sized (Instance.larger held want) fun guest => guest.Fits held)
      (attempt (resizeVM id held want)) _ := (does_resizeVM held want).bind fun _ =>
      .pure fun _ _ held => held
  have reserved : ∀ need : Resources, Goes id
      (Sized (Instance.larger held want) fun guest => guest.Fits need)
          (reserve capacity id need) fun _ => Sized need fun guest => guest.Fits need :=
    fun need => goes_reserve fun _ fits => fits
  refine (goes_reserve fun guest fits => fits.mono (fits_larger held want).1).bind fun _ => ?_
  refine asked.bind fun result => ?_
  split
  · refine .bind (.weaken (reserved held) fun _ _ asked => (asked.refused rfl).2) fun _ => ?_
    exact .throw fun _ _ _ => trivial
  · exact (goes_storeUpdateInstance _).bind fun _ => .throw fun _ _ _ => trivial
  have stored : Goes id (Sized (Instance.larger held want) fun guest => guest.Fits want)
      (storeUpdateInstance id { spec with vcpus := want.vcpus, memoryBytes := want.memoryBytes })
      fun _ => Sized (Instance.larger held want) fun guest => guest.Fits want :=
    .mayPut fun _ covered sized => ⟨⟨covered.guest, covered.standby⟩, sized, trivial⟩
  refine .bind (stored.weaken fun _ _ asked => asked.accepted rfl) fun _ => (reserved want).mono ?_
  exact fun result _ _ _ => by cases result <;> trivial

theorem goes_capability {failure : Failure} (condition : Bool) :
    Goes id known (whenever condition (mayFail failure)) fun _ => known := by
  unfold whenever
  split
  · exact goes_mayFail
  · exact .pure fun _ _ held => held

theorem goes_resizeLocked (want : Resources) :
    Goes id known (resizeLocked capacity id want) Anything := by
  refine goes_definition.bind fun spec => goes_statusOf.bind fun status => ?_
  split
  · exact .throw fun _ _ _ => trivial
  rename_i running
  have checked : Goes id (fun machine => (known machine ∧ Whole spec) ∧ status = machine.reported)
      (returning (checkResize spec status.heldResources want)) fun _ machine =>
        (known machine ∧ Whole spec) ∧ status = machine.reported :=
    .returning fun machine held => by
      cases checkResize spec status.heldResources want <;> first | exact held | trivial
  unfold resizeFrom
  refine checked.bind fun _ => ?_
  split
  · exact .pure fun _ _ _ => trivial
  refine goes_mayFail.bind fun _ => (goes_capability _).bind fun _ =>
    (goes_capability _).bind fun _ => ?_
  refine .weaken (goes_resizeHeld spec status.heldResources want) fun machine covered held => ?_
  have active : machine.reported.state.isActive = true := by
    rw [← held.2, not_not.mp running]
    rfl
  have same : status = machine.status := held.2.trans (Machine.reported_of_active active)
  rw [same] at running ⊢
  refine ⟨not_not.mp running, rfl, covered.guest ?_⟩
  rw [not_not.mp running]
  rfl

theorem offers_resizeInstance (vcpus memoryBytes : Option Nat) :
    Offers (resizeInstance capacity id vcpus memoryBytes) fun _ => True := by
  unfold resizeInstance
  split
  · exact .throw
  have read : Offers (definition id) fun _ => True :=
    fun thread world kept => (Serves.observe thread world kept).mono kept fun _ _ _ _ _ _ => trivial
  refine read.bind fun spec _ => ?_
  dsimp only
  split
  · exact .throw
  · exact offers_locked (goes_resizeLocked _)

theorem offers_request (request : Request) : Offers (request.call capacity) fun _ => True := by
  cases request with
  | create id spec => exact .always (serves_create spec)
  | update id updated => exact offers_update updated
  | start => exact offers_locked goes_startLocked
  | stop => exact offers_stop
  | delete id force => exact offers_delete force
  | pause => exact offers_setPaused rfl .paused
  | unpause => exact offers_setPaused rfl .running
  | standby => exact offers_standby
  | createSnapshot id name => exact offers_createSnapshot name
  | restoreSnapshot name => exact offers_restoreSnapshot name
  | forkSnapshot name id spec => exact (offers_storeSnapshot name).bind fun _ fits => offers_fork spec fits
  | forkInstance source id spec => exact (offers_locked goes_freeze).bind fun _ fits => offers_fork spec fits
  | resize id vcpus memoryBytes => exact offers_resizeInstance vcpus memoryBytes
  | ended => exact offers_handleEnd
  | restart => exact offers_restart
  | recover => exact offers_recoverInstance

theorem covering_holds (capacity : Capacity) :
    (covering.contract Evenly).Holds (system capacity) := by
  refine covering.holds_of (fun event => nomatch event) ?_ fun request world _ _ => ?_
  · intro before after kept crashed
    cases crashed
    exact ⟨kept.holds, fun _ _ => trivial, kept.shares⟩
  · exact .bind (offers_request request) fun _ _ => .pure trivial

end

/-! ## Calls that nothing comes between -/

section

variable {Value : Type} {start : World} {machine : Machine} {id : String} {thread : Nat}

/-- The world with this machine for the instance. -/
def hosting (start : World) (id : String) (machine : Machine) : World :=
  { start with items := Function.update start.items id machine }

theorem hosting_self (start : World) (id : String) : hosting start id (start.items id) = start := by
  simp only [hosting, Function.update_eq_self]

theorem leads_onItem {act : Machine → List (Value × Machine)} {post : Value → World → Prop}
    (step : Answers (fun result after => post result (hosting start id after)) (act machine)) :
    (Locked.onItem id act).Leads thread post (hosting start id machine) := by
  refine .perform (.map fun outcome member => ?_)
  simp only [hosting, Function.update_self, Function.update_idem] at member ⊢
  exact step _ _ member

theorem leads_mayPut {failure : Failure} {effect : Machine → Machine}
    {post : Except Failure Unit → World → Prop}
    (goes : post (.ok ()) (hosting start id (effect machine)))
    (fails : post (.error failure) (hosting start id machine)) :
    (Locked.mayPut id failure effect : Call Unit).run.Leads thread post
      (hosting start id machine) := by
  unfold Locked.mayPut
  exact leads_onItem (.two goes fails)

/-- A boot that returns leaves the instance running, with a guest that fits what is held if and only
if the definition has it boot with the memory it says. -/
theorem boot_returns (spec : Spec) : (boot id spec).run.Leads thread (fun result after =>
    result = .ok () → (after.items id).status.state = .running ∧ ∃ guest,
      (after.items id).guest = some guest ∧
      (guest.asked.fits (after.items id).status.heldResources = true ↔ Whole spec))
    (hosting start id machine) := by
  refine .bindExcept (leads_mayFail (.bindExcept (leads_mayPut ?_ nofun)) nofun)
  refine .lifted (.bindExcept (leads_mayFail ?_ (.lifted fun _ _ _ => .done nofun)))
  dsimp only
  split
  next => exact .done (.lifted fun _ _ _ => .done nofun)
  next vm configured =>
    refine .bindExcept (leads_mayPut ?_ (.lifted fun _ _ _ => .done nofun))
    refine .lift ?_
    unfold recordRunning Locked.put
    refine leads_onItem (.one (.done fun _ => ?_))
    simp only [hosting, Function.update_self]
    exact ⟨rfl, _, rfl, boots_fitting configured⟩

end

/-- An instance with one vCPU and one byte of memory, which can be given more. -/
def smallSpec (maxVCPUs maxMemoryBytes : Nat) : Spec :=
  { (default : Spec) with
    name := "a", imageRef := "image", vcpus := 1, memoryBytes := 1, diskBytes := 1
    maxVCPUs := maxVCPUs, maxMemoryBytes := maxMemoryBytes }

/-- A host on which every instance has room. -/
def roomy : Capacity := ⟨false, 0, .zero⟩

/-- A thread goes on by so many steps, none of which fails. -/
def steps (thread count : Nat) : List (Choice Nat Request Empty) :=
    List.replicate count (.act thread 0)

def started (spec : Spec) : List (Choice Nat Request Empty) :=
  [.spawn 0 (.create "x" spec)] ++ steps 0 1 ++ [.spawn 1 (.start "x")] ++ steps 1 14

/-- An instance is to get another byte of memory, which its VMM fails at. -/
def growingFailed : List (Choice Nat Request Empty) :=
  started (smallSpec 0 2) ++ [.spawn 2 (.resize "x" none (some 2))] ++ steps 2 8 ++ [.act 2 2] ++
    steps 2 2

end Dicer.Sizing
