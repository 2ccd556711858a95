import Dicer.Instance.Runs

namespace Dicer.Instance

open FileStore Concurrency
open Program (Ensures Stays)

/-!
# Every stored definition is valid

A definition is validated when an instance is created, forked or updated.  A rename, a resize and
the mark that a user stopped the instance write definitions that are not, each made from one that
was read from the store.  What is asked of them is only that a definition read was a stored one,
which no other operation can spoil: a definition that was valid stays valid, whether or not it is
still the stored one.

A lookup may also find the zero definition, by an ID whose name is no longer filed.  That one has no
name, and no definition without a name is ever written.
-/

/-- The handler of a resize refuses a size of zero. -/
def Request.accepted : Request → Bool
  | resize _ want => 0 < want.vcpus && 0 < want.memoryBytes
  | _ => true

/-- The daemon behind its API. -/
def api (capacity : Capacity) : System Nat World Request Event :=
  { system capacity with admits := fun request world => request.accepted && request.admits world }

variable {spec : Spec} {want : Resources} {name : String} {held : Resources}

namespace Spec

theorem validate_eq_ok : spec.validate = .ok () ↔
    Naming.validate spec.name = .ok () ∧ Naming.validateHostname spec.hostname = .ok () ∧
      spec.validateFields = .ok () ∧ validatePorts [] spec.ports = .ok () ∧
      validateMounts spec.mounts = .ok () := by
  simp only [validate, bind_eq_ok]
  constructor
  · rintro ⟨_, named, _, hosted, _, fields, _, rest⟩
    exact ⟨named, hosted, fields, rest⟩
  · rintro ⟨named, hosted, fields, rest⟩
    exact ⟨(), named, (), hosted, (), fields, (), rest⟩

section

variable (valid : spec.validate = .ok ())
include valid

theorem validate_marked (stopped : Bool) :
    ({ spec with stoppedByUser := stopped } : Spec).validate = .ok () :=
  valid

theorem validate_renamed (named : Naming.validate name = .ok ())
    : ({ spec with name := name } : Spec).validate = .ok () :=
  validate_eq_ok.mpr ⟨named, (validate_eq_ok.mp valid).2⟩

/-- A resize compares with what is held, but it keeps to the maximums of the definition. -/
theorem validate_resized (allowed : checkResize spec held want = .ok ()) (vcpus : 0 < want.vcpus)
    (memory : 0 < want.memoryBytes) :
    ({ spec with vcpus := want.vcpus, memoryBytes := want.memoryBytes } : Spec).validate = .ok
    () := by
  rcases validate_eq_ok.mp valid with ⟨named, hosted, fields, rest⟩
  simp only [checkResize, ite_throw_eq_ok] at allowed
  rcases allowed with ⟨_, fitsVCPUs, _, fitsMemory, _⟩
  refine validate_eq_ok.mpr ⟨named, hosted, ?_, rest⟩
  simp only [validateFields, ite_throw_eq_ok] at fields ⊢
  rcases fields with ⟨image, _, _, disk, _, _, others⟩
  exact ⟨image, vcpus.ne', memory.ne', disk, fun above => fitsVCPUs above.symm,
    fun above => fitsMemory above.symm, others⟩

theorem name_of_validate : spec.name ≠ "" := by
  intro nameless
  have named := (validate_eq_ok.mp valid).1
  rw [nameless] at named
  exact absurd named (by decide)

end

/-- A definition as a lookup gives it, and what may be written in place of it: valid, or with
neither name nor ID. -/
def Fileable (spec : Spec) : Prop := spec.validate = .ok () ∨ spec.name = "" ∧ spec.id = ""

end Spec

/-! ## What every step keeps -/

/-- Every stored definition is valid, and none is found by an empty name or ID. -/
structure Kept (world : World) : Prop where
  valid : ∀ spec ∈ world.instances.items, spec.validate = .ok ()
  nameless : world.instances.namesByID "" = none

namespace Kept

variable {world after : World} (kept : Kept world)
include kept

theorem ofSame (same : after.instances = world.instances) : Kept after :=
  ⟨same ▸ kept.valid, same ▸ kept.nameless⟩

theorem named (found : world.instances.named name = some spec) : spec.validate = .ok () :=
  kept.valid spec (Definitions.named_mem found).1

theorem lookup {nameOrID : String} (found : world.instances.lookup nameOrID = some spec) :
    spec.Fileable := by
  unfold Definitions.lookup at found
  split at found
  · rename_i item isNamed
    exact .inl (Option.some.inj found ▸ kept.named isNamed)
  split at found
  · rename_i name filed
    cases isNamed : world.instances.named name with
    | some =>
      rw [isNamed] at found
      exact .inl (Option.some.inj found ▸ kept.named isNamed)
    | none =>
      rw [isNamed] at found
      exact .inr (Option.some.inj found ▸ ⟨rfl, rfl⟩)
  · simp at found

theorem lookup_nameless : world.instances.lookup "" = none := by
  have unnamed : world.instances.named "" = none :=
    Definitions.named_eq_none.mpr fun spec member => Spec.name_of_validate (kept.valid spec member)
  simp only [Definitions.lookup, unnamed, kept.nameless]

theorem refused {Value : Type} {result : Value} : Answers (fun _ after => Kept after ∧ True)
    [(result, world)] :=
  .one ⟨kept, trivial⟩

theorem put (valid : spec.validate = .ok ())
    (written : after.instances = world.instances.put spec) : Kept after := by
  refine ⟨?_, ?_⟩
  · rw [written]
    exact Definitions.forall_mem_put valid fun other member _ => kept.valid other member
  · rw [written]
    simp only [Definitions.put]
    split
    · exact kept.nameless
    rename_i identified
    rw [Function.update_of_ne (Ne.symm identified)]
    exact kept.nameless

theorem rename {old : Spec} (valid : spec.validate = .ok ())
    (written : after.instances = world.instances.rename old spec) : Kept after := by
  have fewer : Kept { world with instances := { world.instances with
      items := world.instances.items.filter fun other => Named.name other ≠ Named.name old } } :=
    ⟨fun other member => kept.valid other (List.mem_filter.mp member).1, kept.nameless⟩
  exact fewer.put valid written

theorem delete (written : after.instances = world.instances.delete spec) : Kept after := by
  refine ⟨?_, ?_⟩
  · rw [written]
    exact fun other member => kept.valid other (Definitions.mem_delete.mp member).1
  rw [written]
  simp only [Definitions.delete, Function.update_apply]
  split
  · rfl
  · exact kept.nameless

end Kept

def filing : Contract Nat World where
  keeps := Kept
  may := fun _ _ after => Kept after
  outside := fun _ _ => True
  idle := fun _ _ => True
  meets := fun _ _ => True

/-- Nothing is known of the world but that its definitions are valid. -/
def knowing (thread : Nat) : Knowledge filing thread Unit :=
    ⟨fun _ _ => True, fun _ _ _ _ _ => trivial⟩

/-- Whatever comes between its actions, the program keeps every stored definition valid, and what it
returns is of this kind. -/
def Files {Value : Type} (op : Op Value) (kind : Value → Prop) : Prop :=
  ∀ thread, op.Ensures (knowing thread) (fun value _ => kind value) ()

/-- The same of a call that returns. -/
def Sound {Value : Type} (call : Call Value) (kind : Value → Prop) : Prop :=
  Files call.run fun result => ∀ value, result = .ok value → kind value

/-- The same of a call, whatever it returns. -/
abbrev Keeps {Value : Type} (call : Call Value) : Prop := Sound call fun _ => True

/-- The definitions are left alone. -/
def World.Defines (world after : World) : Prop := after.instances = world.instances

/-- The program leaves the definitions alone. -/
abbrev Quiet {Value : Type} (op : Op Value) : Prop := Stays World.Defines op

section

variable {Value Other : Type} {kind : Value → Prop} {other : Other → Prop} {op : Op Value}
  {call : Call Value} {rest : Value → Call Other} {action : Nat → World → List (Value × World)}
    {id : String} {purpose : Purpose}

variable {spec : Spec} {nameOrID address : String} {pid retries restarts pending : Nat}
  {nextStop : Bool} {status : Status} {target : State} {capacity : Capacity} {frozen : FrozenGuest}
    {need : Resources}

instance (priority := low) [calm : Calm op] : Quiet op :=
  ⟨calm.within.mono fun _ _ alike => alike.instances⟩

theorem Quiet.change {effect : Nat → World → World}
    (same : ∀ thread (world : World), (effect thread world).instances = world.instances) :
    Quiet (change effect) :=
  Stays.perform fun thread world => .one (same thread world)

/-- A result that is only passed on. -/
instance (result : Except Err Value) : Quiet (locked.liftExcept result).run := by
  cases result <;> exact ⟨trivial⟩

/-! ## Actions -/

instance : Quiet (unlock id) := .change fun _ _ => rfl
instance (result : Except Err Unit) : Quiet (leaveAdmission spec result) := .change fun _ _ => rfl
instance : Quiet (supervise id pid) := .change fun _ _ => rfl
instance : Quiet (forget id) := .change fun _ _ => rfl
instance : Quiet (scheduleRestart id) := .change fun _ _ => rfl
instance : Quiet (cancelRestart id) := .change fun _ _ => rfl
instance : Quiet (notifyWaiters id) := .change fun _ _ => rfl
instance : Quiet (makeWaiter spec nextStop) := .change fun _ _ => rfl
instance : Quiet returnStatus := .change fun _ _ => rfl
instance : Quiet beginWaiting := .change fun _ _ => rfl
instance : Quiet (scheduleRemoval spec) := .change fun _ _ => by split <;> rfl
instance : Quiet (noteStopped spec) := .change fun _ _ => by split <;> rfl
instance : Quiet (vmmAtExit id pid) := .perform fun _ _ => .one rfl
instance : Quiet (readStatusWaiting id) := .perform fun _ _ => .one rfl
instance : Quiet (onStandbyWaiting spec) := .perform fun _ _ => .one rfl
instance : Quiet (writeStatus id status).run := .perform fun _ _ => .two rfl rfl

instance : Quiet (removeRuntimeDir id).run :=
  .perform fun _ _ => .three rfl rfl rfl

instance : Quiet (discardStandby spec).run :=
  .perform fun _ _ => .three rfl rfl rfl

instance : Quiet (lock id purpose) := by
  refine Stays.perform fun _ _ => ?_
  split
  · exact .none
  · exact .one rfl

instance : Quiet (putStandby spec).run := by
  refine Stays.perform fun _ _ => ?_
  dsimp only
  split
  · exact .two rfl rfl
  · exact .one rfl

instance : Quiet (claimRestart id pending) := by
  refine Stays.perform fun _ _ => ?_
  split <;> exact .one rfl

instance : Quiet receiveStop := by
  refine Stays.perform fun _ _ => ?_
  split
  · exact .one rfl
  · exact .none

instance : Quiet (storeSnapshot nameOrID).run := by
  refine Stays.perform fun _ _ => ?_
  split <;> exact .one rfl

instance (snapshot : Snapshot) : Quiet (storeCreateSnapshot snapshot).run := by
  refine Stays.perform fun _ _ => ?_
  split
  · exact .one rfl
  split
  · exact .one rfl
  exact writeDefinition_answers rfl fun _ => rfl

instance : Quiet (storeDeleteSnapshot nameOrID).run := by
  refine Stays.perform fun _ _ => ?_
  split
  · exact .one rfl
  · exact .two rfl rfl

-- An operation has more steps than the search for an instance is given by default.
set_option synthInstance.maxSize 1000

theorem quiet_locked (quiet : Quiet call.run) : Quiet (locked id purpose call).run := by
  unfold locked
  infer_instance

instance [quiet : Quiet call.run] : Quiet (locked id purpose call).run := quiet_locked quiet

instance : Quiet (transition spec target).run := by
  unfold transition transitionWith
  infer_instance

instance (cause : Err) : Quiet (fail id cause) := by
  refine .bind fun status => .bind fun _ => .bind fun found => ?_
  cases found <;> infer_instance

instance {call : Call Unit} [Quiet call.run] : Quiet (admitting spec call).run := by
  refine .bindExcept fun _ => .bindExcept fun result => .bindExcept fun _ => ?_
  cases result <;> infer_instance

instance : Quiet (admitInstance capacity spec need).run := by
  unfold admitInstance transitionWith
  infer_instance

instance : Quiet (reserve capacity spec need).run := by
  unfold reserve transitionWith
  infer_instance

instance (held : Resources) : Quiet (recordRunning id pid held restarts).run := by
  unfold recordRunning
  infer_instance

instance : Quiet (launchBooting spec restarts).run := by
  unfold launchBooting
  infer_instance

instance : Quiet (boot spec restarts).run := by
  unfold boot
  infer_instance

instance : Quiet (letRun spec frozen pid).run := by
  unfold letRun
  split <;> infer_instance

instance : Quiet (launchRestored spec frozen).run := by
  unfold launchRestored
  infer_instance

instance : Quiet (restore spec frozen).run := by
  unfold restore withOverlayDisk
  cases frozen.overlay <;> infer_instance

instance : Quiet (stopVMM id) := by
  refine .bind fun found => ?_
  cases found <;> infer_instance

instance (prev : Status) (exit : Exit) : Quiet (ended spec prev exit) := by
  unfold ended
  infer_instance

instance : Quiet (currentOr spec) := by
  refine .bind fun found => ?_
  cases found <;> infer_instance

instance : Quiet (pause nameOrID).run := by
  unfold pause setPaused
  infer_instance

instance : Quiet (unpause nameOrID).run := by
  unfold unpause setPaused
  infer_instance

instance :
    Quiet (freezeGuest spec status pid address retries).run := by
  refine .bindExcept fun _ => .bindExcept fun _ => .bindExcept fun _ => .bindExcept fun put => ?_
  cases put <;> infer_instance

instance :
    Quiet (standbyActive spec status address retries).run := by
  have returned : ∀ frozen : Except Err Unit, Quiet (match frozen with
      | .ok _ => pure ()
      | .error error => throw error : Call Unit).run := by
    rintro (error | _) <;> infer_instance
  unfold standbyActive
  infer_instance

instance (idleFor : Nat) : Quiet (standby nameOrID address idleFor retries).run := by
  refine .bindExcept fun spec => quiet_locked (.bindExcept fun spec => .bindExcept fun status => ?_)
  split
  · infer_instance
  · refine .bindExcept fun found => ?_
    cases found <;> infer_instance

instance : Quiet (writeSnapshot id address retries).run := by
  refine quiet_locked (.bindExcept fun spec => .bindExcept fun status => ?_)
  dsimp only
  split
  case h_1 | h_2 | h_5 => infer_instance
  case h_3 | h_4 =>
    refine .bindExcept fun found => ?_
    cases found <;> infer_instance

instance (name : String) :
    Quiet (createSnapshot nameOrID name id address retries).run := by
  refine .bindExcept fun spec => .bindExcept fun _ => .bindExcept fun found => ?_
  cases found <;> infer_instance

instance : Quiet (deleteSnapshot nameOrID).run := by
  unfold deleteSnapshot
  infer_instance

instance : Quiet (handleExit spec pid).run := by
  unfold handleExit
  infer_instance

instance (verdict : String) : Quiet (handleUnhealthy spec pid verdict).run := by
  unfold handleUnhealthy
  infer_instance

instance : Quiet (restart capacity id pending).run := by
  refine .bindExcept fun claimed => ?_
  split
  · refine quiet_locked (.bindExcept fun spec => .bindExcept fun status => ?_)
    split
    · infer_instance
    · refine .bindExcept fun restarted => ?_
      cases restarted <;> infer_instance
  · infer_instance

instance : Quiet (recoverInstance spec).run := by
  refine quiet_locked (.bindExcept fun status => ?_)
  split
  case h_1 | h_2 | h_3 | h_4 => infer_instance
  case h_5 =>
    refine ⟨(show Quiet _ from .bind fun found => ?_).within.lift⟩
    rcases found with _ | pid <;> rcases status.state.isActive with _ | _ <;> infer_instance

instance (specs : List Spec) : Quiet (recoverInstances specs).run := by
  induction specs with
  | nil => exact inferInstanceAs (Quiet (pure () : Call Unit).run)
  | cons spec rest ih => exact .bindExcept fun _ => ih

instance : Quiet recover.run := by
  have claimed : Quiet (Program.perform fun thread (world : World) =>
      if world.stage = .loading then [(world.sorted, { world with stage := .recovering thread })]
          else []) := by
    refine Stays.perform fun _ _ => ?_
    split
    · exact .one rfl
    · exact .none
  have served : Quiet (change fun _ world => { world with stage := .serving }) := .change fun _ _ =>
    rfl
  unfold recover
  infer_instance

instance (id : Option String) : Quiet (waitForStop nameOrID id nextStop).run := by
  unfold waitForStop wait wait.receive
  infer_instance

/-! ## Programs that keep the definitions valid -/

namespace Files

theorem mono {weaker : Value → Prop} (files : Files op kind)
    (weakens : ∀ value, kind value → weaker value) : Files op weaker :=
  fun thread => (files thread).mono fun value _ => weakens value

theorem quiet [quiet : Quiet op] : Files op fun _ => True :=
  fun _ => quiet.within.ensures (fun _ _ kept _ same => ⟨.inr (kept.ofSame same), fun _ => trivial⟩)
    fun _ => trivial

theorem perform (step : ∀ thread world, Kept world →
      Answers (fun answer after => Kept after ∧ kind answer) (action thread world)) :
    Files (Program.perform action) kind := by
  refine fun thread => Ensures.perform fun now kept _ answer after answered _ => ?_
  have held := step thread now kept answer after answered
  exact ⟨.inr held.1, fun _ => ⟨(), trivial, held.2⟩⟩

theorem bind {rest : Value → Op Other} (files : Files op kind)
    (goes : ∀ value, kind value → Files (rest value) other) : Files (op >>= rest) other := by
  intro thread
  apply Ensures.bind
  exact (files thread).mono fun value _ held => goes value held thread

end Files

namespace Sound

theorem of (files : Files call.run fun _ => True) : Keeps call :=
  files.mono fun _ _ _ _ => trivial

theorem quiet [Quiet call.run] : Keeps call := of .quiet

theorem pure {value : Value} (held : kind value) : Sound (pure value : Call Value) kind :=
  fun _ => Ensures.done fun _ same => Except.ok.inj same ▸ held

theorem throw {error : Err} : Sound (throw error : Call Value) kind :=
  fun _ => Ensures.done nofun

theorem bind (sound : Sound call kind) (goes : ∀ value, kind value → Sound (rest value) other)
    : Sound (call >>= rest) other := by
  intro thread
  apply Ensures.bindExcept
  apply (sound thread).mono
  intro result _ held
  cases result with
  | ok value => exact goes value (held value rfl) thread
  | error => exact nofun

theorem after [Quiet call.run] (goes : ∀ value, Sound (rest value) other) :
    Sound (call >>= rest) other :=
  quiet.bind fun value _ => goes value

theorem always (files : Files op kind) : Sound (always op) kind :=
  fun thread => always_ensures ((files thread).mono fun _ _ held _ same =>
    (Except.ok.inj same) ▸ held)

theorem attempt (sound : Sound call kind) :
    Sound (attempt call) fun result => ∀ value, result = .ok value → kind value :=
  fun thread => attempt_ensures ((sound thread).mono fun _ _ held _ same =>
    Except.ok.inj same ▸ held)

/-- Only what is checked matters of a check on data. -/
theorem checked {result : Except Err Unit} {rest : Unit → Call Other}
    (goes : result = .ok () → Sound (rest ()) other) : Sound (checked result >>= rest) other := by
  intro thread
  exact checked_then (fun _ => nofun) fun passes => goes passes thread

theorem bestEffort {call : Call Unit} (sound : Keeps call) : Files (bestEffort call) fun _ =>
    True :=
  fun thread => bestEffort_ensures ((sound thread).mono fun _ _ _ => trivial)

theorem locked (sound : Sound call kind) : Sound (locked id purpose call) kind := by
  refine .after fun _ => sound.attempt.bind fun result held => .after fun _ => ?_
  cases result with
  | ok value => exact .pure (held value rfl)
  | error => exact .throw

end Sound

theorem sound_storeInstance (nameOrID : String) : Sound (storeInstance nameOrID) Spec.Fileable := by
  refine Files.perform fun thread world kept => ?_
  split
  · rename_i spec found
    refine .one ⟨kept, fun value same => ?_⟩
    obtain rfl := Except.ok.inj same
    exact kept.lookup found
  · exact .one ⟨kept, fun _ same => absurd same (by simp)⟩

/-- A definition in place of another is valid, or there is no other. -/
theorem sound_storeUpdateInstance (fileable : spec.Fileable) :
    Keeps (storeUpdateInstance spec) := by
  refine .of (Files.perform fun thread world kept => ?_)
  split
  · exact kept.refused
  rename_i found
  have valid : spec.validate = .ok () := by
    refine fileable.resolve_right fun nameless => ?_
    rw [nameless.1, kept.lookup_nameless] at found
    simp at found
  exact writeDefinition_answers ⟨kept.put valid rfl, trivial⟩ fun _ => ⟨kept, trivial⟩

theorem sound_storeCreateInstance (valid : spec.validate = .ok ()) (forks : Bool) :
    Keeps (storeCreateInstance spec forks) := by
  refine .of (Files.perform fun thread world kept => ?_)
  split
  · exact kept.refused
  split
  · exact kept.refused
  split
  · exact .none
  exact writeDefinition_answers ⟨kept.put valid rfl, trivial⟩ fun _ => ⟨kept, trivial⟩

/-- The store checks the new name. -/
theorem sound_storeRenameInstance {current : Spec} (fileable : current.Fileable) (name : String) :
    Keeps (storeRenameInstance current.id { current with name := name }) := by
  refine .of (Files.perform fun thread world kept => ?_)
  split
  · exact kept.refused
  rename_i found
  have valid : current.validate = .ok () := by
    refine fileable.resolve_right fun nameless => ?_
    rw [nameless.2, kept.lookup_nameless] at found
    simp at found
  split
  · exact kept.refused
  · exact kept.refused
  rename_i named
  split
  · exact kept.refused
  split
  · exact kept.refused
  split
  · exact kept.refused
  exact .two ⟨kept.rename (Spec.validate_renamed valid named) rfl, trivial⟩ ⟨kept, trivial⟩

theorem sound_storeDeleteInstance (nameOrID : String) : Keeps (storeDeleteInstance nameOrID) := by
  refine .of (Files.perform fun thread world kept => ?_)
  split
  · exact kept.refused
  exact .three ⟨kept.delete rfl, trivial⟩ ⟨kept.ofSame rfl, trivial⟩ ⟨kept.ofSame rfl, trivial⟩

theorem Spec.Fileable.marked (fileable : spec.Fileable) (stopped : Bool) :
    Spec.Fileable { spec with stoppedByUser := stopped } :=
  fileable.imp (fun valid => Spec.validate_marked valid stopped) fun nameless => nameless

theorem files_setStoppedByUser (id : String) (stopped : Bool) :
    Files (setStoppedByUser id stopped) fun _ => True := by
  refine Sound.bestEffort ((sound_storeInstance id).bind fun current fileable => ?_)
  unfold whenever
  split
  · exact sound_storeUpdateInstance (fileable.marked stopped)
  · exact .pure trivial

section

variable {capacity : Capacity}

theorem sound_create (spec : Spec) : Keeps (create capacity spec) := by
  refine .checked fun valid => .after fun _ => .after fun _ => .after fun _ => ?_
  exact sound_storeCreateInstance valid false

theorem sound_update (updated : Spec) : Keeps (update capacity updated) := by
  refine .locked ((sound_storeInstance _).bind fun current _ => ?_)
  split
  · exact .throw
  · refine .after fun status => .checked fun valid => .after fun _ => .after fun _ => ?_
    exact sound_storeUpdateInstance (.inl valid)

theorem sound_rename (nameOrID newName : String) : Keeps (rename nameOrID newName) := by
  refine .after fun spec => .locked ((sound_storeInstance _).bind fun current fileable =>
    .after fun status => ?_)
  split
  · exact .throw
  split
  · exact .quiet
  · exact sound_storeRenameInstance fileable _

theorem sound_resume (spec : Spec) (frozen : FrozenGuest) :
    Keeps (resume capacity spec frozen) := by
  refine .after fun _ => .after fun _ => (Sound.always (files_setStoppedByUser _ _)).bind fun _ _ =>
    ?_
  refine .after fun started => ?_
  cases started <;> exact .quiet

theorem sound_resumeStandby (spec : Spec) : Keeps (resumeStandby capacity spec) :=
  .after fun _ => sound_resume spec _

theorem sound_startLocked (spec : Spec) : Keeps (startLocked capacity spec) := by
  refine .after fun spec => .after fun status => ?_
  split
  · exact .throw
  refine .after fun _ => .after fun frozen => ?_
  split
  · exact sound_resumeStandby spec
  · refine .after fun _ => (Sound.always (files_setStoppedByUser _ _)).bind fun _ _ =>
      .after fun booted => ?_
    cases booted <;> exact .quiet

variable (nameOrID : String)

theorem sound_stop : Keeps (stop nameOrID) := by
  refine .after fun spec => .locked (.after fun spec => .after fun _ => ?_)
  refine (Sound.always (files_setStoppedByUser _ _)).bind fun _ _ => .after fun status =>
    .after fun _ => ?_
  split <;> exact .quiet

theorem sound_deleteFor (purpose : Purpose) (id : String) (force : Bool) :
    Keeps (deleteFor purpose id force) := by
  refine .locked (.after fun spec => .after fun status => ?_)
  split
  · exact .throw
  · refine .after fun _ => .after fun _ => .after fun _ => ?_
    exact (sound_storeDeleteInstance _).bind fun _ _ => .quiet

theorem sound_resizeHeld (fileable : spec.Fileable) (allowed : checkResize spec held want = .ok ())
    (vcpus : 0 < want.vcpus) (memory : 0 < want.memoryBytes) :
    Keeps (resizeHeld capacity spec held want) := by
  have written : Keeps (storeUpdateInstance
      { spec with vcpus := want.vcpus, memoryBytes := want.memoryBytes }) :=
    sound_storeUpdateInstance (fileable.imp
      (fun valid => Spec.validate_resized valid allowed vcpus memory) id)
  refine .after fun _ => .after fun resized => ?_
  cases resized with
  | ok => exact written.bind fun _ _ => .quiet
  | error =>
    dsimp only
    split
    · exact .quiet
    · exact written.bind fun _ _ => .throw

theorem sound_resize (vcpus : 0 < want.vcpus) (memory : 0 < want.memoryBytes) :
    Keeps (resize capacity nameOrID want) := by
  refine .after fun spec => .locked ((sound_storeInstance _).bind fun spec fileable =>
    .after fun status => ?_)
  split
  · exact .throw
  split
  · exact .throw
  rename_i allowed
  split
  · exact .quiet
  · exact .after fun _ => .after fun _ => sound_resizeHeld fileable allowed vcpus memory

theorem sound_restoreSnapshot : Keeps (restoreSnapshot capacity nameOrID) := by
  refine .after fun snapshot => .locked (.after fun spec => .after fun status => ?_)
  split
  · exact .throw
  split
  · exact .throw
  refine .after fun _ => ?_
  split
  · unfold restoreMemory
    split
    · exact .throw
    · exact .after fun _ => sound_resume _ _
  · unfold restoreDisk
    exact .quiet

theorem sound_wake (id : String) : Keeps (wake capacity id) := by
  refine .locked (.after fun spec => .after fun status => ?_)
  split
  · exact .quiet
  refine .after fun frozen => ?_
  split
  · exact sound_resumeStandby spec
  · exact .throw

theorem sound_runFork (spec : Spec) (frozen : FrozenGuest) :
    Keeps (runFork capacity spec frozen) := by
  unfold runFork
  split
  · exact .quiet
  · exact .locked ((sound_resume _ _).bind fun _ _ => .quiet)

theorem sound_fork (valid : spec.validate = .ok ()) (frozen : FrozenGuest) :
    Keeps (fork capacity spec frozen) := by
  refine (sound_storeCreateInstance valid true).bind fun _ _ => ?_
  refine (sound_runFork spec frozen).attempt.bind fun result _ => ?_
  cases result with
  | ok => exact .quiet
  | error => exact (Sound.always (sound_deleteFor _ _ _).bestEffort).bind fun _ _ => .quiet

theorem sound_forkSnapshot (spec : Spec) : Keeps (forkSnapshot capacity nameOrID spec) :=
  .after fun _ => .checked fun valid => .after fun _ => sound_fork valid _

theorem sound_forkInstance (source : String) (spec : Spec) (address : String) (retries : Nat) :
    Keeps (forkInstance capacity source spec address retries) := by
  refine .after fun _ => .checked fun valid => .after fun _ => .after fun _ => .after fun _ =>
    .after fun _ => ?_
  exact sound_fork valid _

theorem sound_startInstancesOnBoot (specs : List Spec) :
    Keeps (startInstancesOnBoot capacity specs) := by
  induction specs with
  | nil => exact .pure trivial
  | cons spec rest ih =>
    unfold startInstancesOnBoot
    split
    · refine .after fun status => ?_
      split
      · exact (sound_startLocked spec).locked.attempt.bind fun _ _ => ih
      · exact ih
    · exact ih

theorem sound_request {request : Request} (accepted : request.accepted = true) :
    Keeps (request.call capacity) := by
  cases request with
  | create spec => exact sound_create spec
  | update spec => exact sound_update spec
  | rename => exact sound_rename _ _
  | delete => exact .after fun _ => sound_deleteFor _ _ _
  | start => exact .after fun _ => (sound_startLocked _).locked
  | stop => exact sound_stop _
  | resize =>
    simp only [Request.accepted, Bool.and_eq_true, decide_eq_true_eq] at accepted
    exact sound_resize _ accepted.1 accepted.2
  | restoreSnapshot => exact sound_restoreSnapshot _
  | forkSnapshot => exact sound_forkSnapshot _ _
  | forkInstance => exact sound_forkInstance _ _ _ _
  | startOnBoot => exact .after fun specs => sound_startInstancesOnBoot specs
  | wake id => exact sound_wake id
  | removal => exact sound_deleteFor _ _ _
  | pause | unpause | standby | createSnapshot | deleteSnapshot | createVolume | deleteVolume | wait | exit
  | unhealthy | restart | recover =>
    unfold Request.call
    exact .quiet

theorem filing_holds (capacity : Capacity) : filing.Holds (api capacity) where
  mayKeeps := fun _ _ _ _ _ kept => kept
  happens := by
    intro event before after kept _ happened
    rcases World.happen_keeps happened with ⟨vmms, runs, status, rfl, _⟩
    exact ⟨trivial, kept.ofSame rfl⟩
  crashes := by
    intro before after kept _ crashed
    cases crashed
    exact ⟨kept.ofSame rfl, fun _ => trivial⟩
  serves := by
    intro request thread world kept _ admitted
    have accepted : request.accepted = true := (Bool.and_eq_true_iff.mp admitted).1
    have served : Files ((request.call capacity).run >>= fun _ => pure ()) fun _ => True :=
      Files.bind (sound_request accepted) fun _ _ => .quiet
    exact (served thread world kept trivial).mono kept fun _ _ _ _ => trivial

/-- In every interleaving of requests the API accepts, with crashes anywhere, every stored
definition is valid. -/
theorem stored_definitions_are_valid (capacity : Capacity) (pool : Pool Nat World)
    (reached : (api capacity).Reaches (fun _ _ => True) World.fresh pool) :
    ∀ spec ∈ pool.world.instances.items, spec.validate = .ok () :=
  have fresh : Kept World.fresh := ⟨by simp [World.fresh, Definitions.empty], rfl⟩
  ((filing_holds capacity).reaches fresh (fun _ => trivial) reached).kept.valid

/-- An instance is created and stopped, which marks its definition. -/
def createdThenStopped : List (Choice Nat Request Event) :=
  [.spawn 0 .recover] ++ steps 0 2 ++ [.spawn 1 (.create (plainSpec "x1" "a"))] ++ steps 1 4 ++
    [.spawn 2 (.stop "a")] ++ steps 2 6

theorem stored_definitions_are_valid_when_marked : ∃ pool : Pool Nat World,
    (pool.world.instances.named "a").any (fun spec => spec.stoppedByUser) = true ∧
      ∀ spec ∈ pool.world.instances.items, spec.validate = .ok () := by
  rcases (api roomy).reaches_of_schedule (fun _ _ => True) World.fresh
    (fun world => (world.instances.named "a").any (fun spec => spec.stoppedByUser) = true)
    createdThenStopped (by decide +kernel) with ⟨pool, reached, marked⟩
  exact ⟨pool, marked, stored_definitions_are_valid roomy pool reached⟩

end

end

end Dicer.Instance
