import Dicer.Instance.Interference

namespace Dicer.Instance

open Function Concurrency
open Program (Ensures Stays)

/-!
# Calls, whatever is known

How a program is put together does not depend on what its thread knows, and neither does a calm
program, which takes quiet steps only: it may answer anything, and the thread knows afterwards what
it knew before.
-/

section

variable {terms : Contract Nat World} {thread : Nat} {Known Value Other : Type}
  {knowledge : Knowledge terms thread Known} {known : Known}

variable {post : Except Err Value → Known → Prop}

theorem throw_ensures {error : Err}
    (thrown : post (.error error) known) :
    (throw error : Call Value).run.Ensures knowledge post known :=
  Ensures.done thrown

theorem return_ensures {value : Value}
    (returned : post (.ok value) known) :
    (pure value : Call Value).run.Ensures knowledge post known :=
  Ensures.done returned

variable {call : Call Value}

theorem always_then {op : Op Value} {rest : Value → Call Other}
    {post : Except Err Other → Known → Prop}
    (ensures : op.Ensures knowledge (fun result => (rest result).run.Ensures knowledge post)
      known) :
    (always op >>= rest).run.Ensures knowledge post known :=
  Ensures.bindExcept (always_ensures ensures)

theorem attempt_then {rest : Except Err Value → Call Other} {post : Except Err Other → Known → Prop}
    (ensures : call.run.Ensures knowledge (fun result => (rest result).run.Ensures knowledge post)
      known) :
    (attempt call >>= rest).run.Ensures knowledge post known :=
  Ensures.bindExcept (attempt_ensures ensures)

theorem onError_ensures {cleanup : Op Unit}
    (ensures : call.run.Ensures knowledge (fun result later => match result with
      | .ok value => post (.ok value) later
      | .error error => cleanup.Ensures knowledge (fun _ => post (.error error)) later) known) :
    (onError cleanup call).run.Ensures knowledge post known := by
  apply attempt_then
  apply ensures.mono
  intro result later holds
  cases result with
  | ok => exact Ensures.done holds
  | error => exact always_then (Ensures.mono holds fun _ _ failed => Ensures.done failed)

theorem checked_then {result : Except Err Unit} {rest : Unit → Call Other}
    {post : Except Err Other → Known → Prop} (failed : ∀ error, post (.error error) known)
    (goes : result = .ok () → (rest ()).run.Ensures knowledge post known) :
    (checked result >>= rest).run.Ensures knowledge post known := by
  apply Ensures.bindExcept
  cases result with
  | ok => exact Ensures.done (goes rfl)
  | error error => exact Ensures.done (failed error)

end

namespace World.Alike

theorem refl (world : World) : world.Alike world := ⟨rfl, le_rfl⟩

theorem setDir {world : World} {name : String} {dir : Dir}
    (same : dir.standby.isSome = (world.dirs name).standby.isSome) :
    world.Alike (world.setDir name dir) := by
  refine ⟨?_, le_rfl⟩
  simp only [World.core, World.setDir, Core.mk.injEq, true_and, and_true]
  funext other
  by_cases isName : other = name
  · rw [isName, update_self, same]
  · rw [update_of_ne isName]

theorem noteHold (world : World) (id : String) {note : Hold → Hold}
    (same : ∀ hold, (note hold).bare = hold.bare) : world.Alike (world.noteHold id note) := by
  refine ⟨?_, le_rfl⟩
  simp only [World.core, World.noteHold, World.setHold, Core.mk.injEq, true_and, and_true]
  funext other
  by_cases isID : other = id
  · rw [isID, update_self, Option.map_map]
    exact congrArg (Option.map · (world.holds id)) (funext same)
  · rw [update_of_ne isID]

theorem fault {world : World} : world.Alike world.fault := ⟨rfl, Nat.le_succ _⟩

end World.Alike

/-! ## Calm programs -/

/-- The program takes quiet steps only. -/
abbrev Calm {Value : Type} (op : Op Value) : Prop := Stays World.Alike op

section

variable {Value : Type} {allows : World → World → Prop} {op : Op Value} {call : Call Value}

instance [Stays allows op] : Stays allows (always op : Call Value).run := by
  unfold always
  infer_instance

instance [Stays allows call.run] : Stays allows (attempt call).run := by
  unfold attempt
  infer_instance

instance {call : Call Unit} [Stays allows call.run] : Stays allows (bestEffort call) := by
  unfold bestEffort
  infer_instance

instance {condition : Bool} {call : Call Unit} [Stays allows call.run] :
    Stays allows (whenever condition call).run := by
  unfold whenever
  infer_instance

instance {cleanup : Op Unit} [Stays allows call.run] [Stays allows cleanup] :
    Stays allows (onError cleanup call).run := by
  refine .bindExcept fun result => ?_
  cases result <;> infer_instance

instance (result : Except Err Unit) : Stays allows (checked result).run := by
  cases result <;> exact ⟨trivial⟩

instance (look : World → Value) : Calm (observe look) := .perform fun _ _ => .one (.refl _)

instance (message : String) : Calm (hostCall message).run := .perform fun _ _ => .two (.refl _)
    (.refl _)

theorem calm_mayFail {message : String} {effect : Nat → World → World}
    (quiet : ∀ thread (world : World), world.Alike (effect thread world)) :
    Calm (mayFail message effect).run :=
  .perform fun thread world => .two (quiet thread world) (.refl _)

theorem calm_change {effect : Nat → World → World}
    (quiet : ∀ thread (world : World), world.Alike (effect thread world)) : Calm (change effect) :=
  .perform fun thread world => .one (quiet thread world)

instance : Calm elapsed := .perform fun _ _ => .two (.refl _) (.refl _)

instance : Calm readExit := .perform fun _ _ => .two (.refl _) (.refl _)

end

variable {spec other : Spec} {pid retries : Nat} {id nameOrID : String} {status : Status}
  {kind : Exclusive} {others : List Spec} {mounts : List Mount} {capacity : Capacity}
    {source : Option Disk} {running : Bool}

instance : Calm (readStatus id) := inferInstanceAs (Calm (observe _))

instance : Calm storeInstances := inferInstanceAs (Calm (observe _))

instance : Calm (onStandby spec) := inferInstanceAs (Calm (observe _))

instance : Calm (overlayDisk spec) := inferInstanceAs (Calm (observe _))

instance : Calm (vmmOf id) := inferInstanceAs (Calm (observe _))

instance : Calm (storeInstance nameOrID).run := by
  refine .perform fun _ _ => ?_
  split <;> exact .one (.refl _)

instance : Calm (storeVolume nameOrID).run := by
  refine .perform fun _ _ => ?_
  split <;> exact .one (.refl _)

instance : Calm (resolveMounts mounts).run := by
  induction mounts with
  | nil => exact ⟨trivial⟩
  | cons mount rest resolved =>
    unfold resolveMounts
    infer_instance

instance : Calm (checkMounts mounts).run := by
  induction mounts with
  | nil => exact ⟨trivial⟩
  | cons mount rest checked =>
    have found : Calm (do
        match ← attempt (storeVolume mount.source) with
        | .ok _ => return ()
        | .error error => throw (.invalidArgument error.message) : Call Unit).run := by
      refine .bindExcept fun volume => ?_
      cases volume <;> infer_instance
    unfold checkMounts
    infer_instance

instance : Calm (checkCanStart capacity spec).run := by
  unfold checkCanStart
  infer_instance

instance (current updated : Spec) (state : State) :
    Calm (checkCanUpdate current updated state).run := by
  unfold checkCanUpdate
  split
  · infer_instance
  split
  · infer_instance
  refine .bindExcept fun disk => ?_
  cases disk <;> infer_instance

instance : Calm (connect status).run := by
  unfold connect
  split <;> infer_instance

instance {read : Op Status} {look : Op Bool} {allows : World → World → Prop} [Stays allows read]
    [Stays allows look] : Stays allows (reported read look) := by
  unfold reported
  infer_instance

instance : Calm (statusOf spec) := by
  unfold statusOf
  infer_instance

instance (volume : Volume) : Calm (storeCreateVolume volume).run := by
  refine .perform fun _ _ => ?_
  split
  · exact .one (.refl _)
  split
  · exact .one (.refl _)
  split
  · exact .none
  · exact .two ⟨rfl, le_rfl⟩ (.refl _)

instance : Calm (storeDeleteVolume nameOrID).run := by
  refine .perform fun _ _ => ?_
  split
  · exact .one (.refl _)
  split
  · exact .one (.refl _)
  split
  · exact .one (.refl _)
  · exact .two ⟨rfl, le_rfl⟩ (.refl _)

variable (world : World)

theorem World.Alike.writeOverlay (thread : Nat) (name : String) (disk : Disk) :
    world.Alike (world.writeOverlay thread name disk) := by
  have wrote : world.Alike (world.setDir name { world.dirs name with overlay := some disk }) :=
    .setDir rfl
  exact ⟨wrote.core, le_rfl⟩

instance : Calm (createOverlayDisk spec).run :=
  calm_mayFail fun thread world => .writeOverlay world thread _ _

instance : Calm (growOverlayDisk spec).run := by
  refine .perform fun thread world => ?_
  split
  · exact .one (.refl _)
  split
  · exact .one (.refl _)
  · exact .two (.writeOverlay world thread _ _) (.refl _)

instance : Calm (ensureOverlayDisk spec).run := by
  refine .bindExcept fun found => ?_
  cases found <;> infer_instance

instance : Calm (copyOverlayDisk source spec).run := by
  refine .perform fun thread world => ?_
  split
  · exact .one (.refl _)
  · exact .two (.writeOverlay world thread _ _) (.refl _)

instance : Calm (copyToResume source spec).run := by
  refine .perform fun thread world => ?_
  split
  · exact .one (.refl _)
  rename_i disk
  have wrote := World.Alike.writeOverlay world thread spec.name
    (world.newDisk disk.bytes disk.ancestry)
  have noted := World.Alike.noteHold
    (world.writeOverlay thread spec.name (world.newDisk disk.bytes disk.ancestry)) spec.id
    (fun hold => (rfl : Hold.bare { hold with copied := true } = hold.bare))
  exact .two ⟨noted.core.trans wrote.core, le_rfl⟩ (.refl _)

instance : Calm (removeKeptDisk spec) := by
  have removes : Calm (mayFail "remove kept disk" fun _ world =>
      world.setDir spec.name { world.dirs spec.name with kept := none }).run :=
        calm_mayFail fun _ _ => .setDir rfl
  unfold removeKeptDisk
  infer_instance

instance : Calm (keepOverlayDisk spec).run := by
  refine .perform fun _ _ => ?_
  dsimp only
  split
  · exact .one (.refl _)
  · exact .one (.refl _)
  · exact .two (.setDir rfl) (.refl _)

instance : Calm (restoreKeptDisk spec) := by
  refine .perform fun _ _ => ?_
  dsimp only
  split
  · exact .one (.refl _)
  · exact .two (.setDir rfl) (.refl _)

instance : Calm (readStandby spec).run := by
  refine .perform fun _ _ => ?_
  split
  · exact .one (.refl _)
  · exact .two (.refl _) (.refl _)

instance : Calm (removeStaged spec).run :=
  .perform fun _ _ => .three (.setDir rfl) (.refl _) (.setDir rfl)

instance (snapshot : Snapshot) : Calm (writeStandby spec snapshot).run := by
  refine calm_mayFail fun thread world => ?_
  split
  · exact .refl _
  rename_i mark _
  have staged : world.Alike (world.setDir spec.name
    { world.dirs spec.name with staged := some ⟨snapshot, mark, world.next, false⟩ }) := .setDir rfl
  exact ⟨staged.core, le_rfl⟩

theorem World.Alike.launch (spec : Spec) (disk : Nat) (running : Bool) :
    world.Alike (world.launch spec disk running) := by
  have noted := World.Alike.noteHold world spec.id
    (fun hold => (rfl : Hold.bare { hold with launched := some world.next } = hold.bare))
  exact ⟨noted.core, le_rfl⟩

instance : Calm (startVM spec).run := by
  refine .perform fun _ world => ?_
  split
  · exact .one (.refl _)
  rename_i disk _
  exact .two ⟨(World.Alike.launch world spec disk.inode true).core, le_rfl⟩ (.refl _)

instance : Calm (restoreVM spec).run := by
  refine .perform fun _ world => ?_
  split
  · exact .one (.refl _)
  · exact .two (.launch world spec _ _) (.refl _)

theorem calm_askVMM {message : String} {pid : Nat} {effect : World → World}
    (quiet : ∀ world : World, world.Alike (effect world)) :
    Calm (askVMM message pid effect).run := by
  refine .perform fun _ world => ?_
  split
  · exact .three (quiet world) (.refl _) (quiet world)
  · exact .one (.refl _)

theorem World.Alike.resume (id : String) (pid : Nat) : world.Alike (world.resume id pid) := by
  have noted := World.Alike.noteHold (world.setRunning pid true) id
    (fun hold => (rfl : Hold.bare { hold with frozen := none } = hold.bare))
  exact ⟨noted.core, le_rfl⟩

instance : Calm (pauseVM pid).run := calm_askVMM fun _ => ⟨rfl, le_rfl⟩

instance : Calm (resumeVM id pid).run :=
  calm_askVMM fun world => .resume world id pid

instance : Calm (thawVM spec pid).run := by
  refine calm_askVMM fun world => ?_
  have resumed := World.Alike.resume world spec.id pid
  unfold World.thaw
  split
  · rename_i frozen vmm standby _
    have thawed : (world.resume spec.id pid).Alike ((world.resume spec.id pid).setDir spec.name
        { world.dirs spec.name with standby := some { frozen with resumed := true } }) := by
      refine .setDir ?_
      show _ = (world.dirs spec.name).standby.isSome
      rw [standby]
      rfl
    exact ⟨thawed.core.trans resumed.core, le_rfl⟩
  · exact resumed

instance : Calm (writeVMState id pid) := by
  refine .perform fun _ world => .append ?_ (.two (.refl _) (.refl _))
  split
  · split
    · exact .none
    · exact .one (.noteHold world id fun _ => rfl)
  · exact .none

instance : Calm (terminate id pid) := by
  refine calm_change fun _ world => ?_
  refine ⟨(World.Alike.noteHold (world.endVmm pid) id fun hold => ?_).core, le_rfl⟩
  split <;> rfl

instance : Calm (trySnapshotVM id pid running).run := by
  refine .bindExcept fun _ => .bindExcept fun wrote => ?_
  cases wrote <;> infer_instance

instance : Calm (snapshotVM id pid running retries).run := by
  induction retries with
  | zero =>
    refine .bindExcept fun tried => ?_
    cases tried <;> infer_instance
  | succ retries again =>
    refine .bindExcept ?_
    rintro ((_ | _) | _) <;> infer_instance

instance : Calm (writeMemorySnapshot spec status retries).run := by
  refine .bindExcept fun pid => .bindExcept fun _ => .bindExcept fun _ => .bindExcept fun copied =>
    .bindExcept fun _ => ?_
  cases copied <;> infer_instance

instance : Calm resizeVM := .perform fun _ _ => .three (.refl _) (.refl _) (.refl _)

instance : Calm (awaitExit pid) := by
  refine .perform fun _ _ => ?_
  split
  · exact .none
  · exact .one (.refl _)

instance (made : Option Disk) : Calm (endFork spec made) :=
  calm_change fun _ _ => ⟨rfl, le_rfl⟩

instance : Calm (attached status) := by
  have attaches : ∀ pid, Calm (attach pid) := fun pid => inferInstanceAs (Calm (observe _))
  unfold attached
  split <;> infer_instance

instance : Calm (resumeLeftPaused id status pid) := by
  unfold resumeLeftPaused
  infer_instance

theorem calm_noteAdmission {Value : Type} {look : World → Value}
    {note : World → Admission → Admission} :
    Calm (Program.perform fun _ world => [(look world, world.noteAdmission (note world))]) :=
  .perform fun _ _ => .one ⟨rfl, le_rfl⟩

instance : Calm (instancesToCount spec) := calm_noteAdmission

instance : Calm (countStatus other) := calm_noteAdmission

instance : Calm (instancesToCompare kind spec) := calm_noteAdmission

instance : Calm (compareStatus kind spec other) := calm_noteAdmission

instance : Calm (compareStandby kind spec other) := calm_noteAdmission

instance (total : Resources) : Calm (allocated others total) := by
  induction others generalizing total with
  | nil => exact ⟨trivial⟩
  | cons other rest ih => exact .bind fun _ => ih _

instance (need : Resources) : Calm (checkRoom capacity spec need).run := by
  unfold checkRoom
  infer_instance

instance : Calm (comparedStatus kind spec other) := by
  unfold comparedStatus
  infer_instance

instance : Calm (checkPortsAgainst spec others).run := by
  induction others with
  | nil => exact ⟨trivial⟩
  | cons other rest ih =>
    refine .bindExcept fun status => ?_
    cases clashingPort spec other <;> infer_instance

instance : Calm (checkPorts spec).run := by
  unfold checkPorts
  infer_instance

instance : Calm (checkVolumesAgainst spec others).run := by
  induction others with
  | nil => exact ⟨trivial⟩
  | cons other rest ih =>
    refine .bindExcept fun status => ?_
    cases clashingVolume spec other <;> infer_instance

instance : Calm (checkVolumes spec).run := by
  unfold checkVolumes
  infer_instance

instance : Calm (enterAdmission spec) := by
  refine .perform fun _ _ => ?_
  split
  · exact .none
  · exact .one ⟨rfl, le_rfl⟩

end Dicer.Instance
