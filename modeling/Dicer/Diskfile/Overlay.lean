import Dicer.Concurrency.Cut
import Dicer.Errors

namespace Dicer.Diskfile

open Concurrency
open Program (Keeps)
open Concurrency.Calls (mayFail mayChange attempt onError bestEffort)

/-!
# Overlay disks

An overlay disk is a file with an ext4 filesystem in it.  It is made at the first start of its
instance, formatted beside its path and renamed into place, and grown at a later one if the
definition asks for more: the file first, and then, by `resize2fs`, the filesystem to fill it.
Whether a disk has to grow is judged by the length of its file alone, so a call that ends between
the two steps is not noticed by the next.

Calls come one after another, since a start holds its instance's lock.  Each may fail at any of its
steps, be cut short by a crash, or lose a command it runs to a cancelled context.
-/

/-- A disk file and the filesystem in it, by their sizes.  A file that is not formatted holds
none. -/
structure Disk where
  file : Nat
  filesystem : Nat
  deriving DecidableEq, Repr

/-- What the path holds, and the file that is being made beside it. -/
structure World where
  disk : Option Disk
  unfinished : Option Disk
  deriving DecidableEq, Repr

/-- What may happen to a disk that is being grown, besides the failures every step may have. -/
structure Hazards where
  /-- `resize2fs` may be killed once it has grown the filesystem. -/
  kills : Bool
  /-- Giving a file back the size it had may fail. -/
  sticks : Bool
  /-- The daemon may crash while a file is larger than its filesystem. -/
  crashes : Bool
  deriving DecidableEq, Repr

abbrev Call := Calls.Call Unit World Err

namespace Disk

def truncate (size : Nat) (disk : Disk) : Disk := { disk with file := size }

def fill (disk : Disk) : Disk := { disk with filesystem := disk.file }

end Disk

namespace World

def onDisk (effect : Disk → Disk) (world : World) : World :=
    { world with disk := world.disk.map effect }

def onUnfinished (effect : Disk → Disk) (world : World) : World :=
  { world with unfinished := world.unfinished.map effect }

def withUnfinished (file : Option Disk) (world : World) : World := { world with unfinished := file }

def install (world : World) : World := ⟨world.unfinished, none⟩

end World

/-- A format that succeeds fills the file; one that fails or is killed may have done nothing or all
of it. -/
def mke2fs : Call Unit :=
  Program.perform fun _ world =>
    [(.ok (), world.onUnfinished .fill), (.error (.host "format disk"), world),
      (.error (.host "format disk"), world.onUnfinished .fill)]

def create (size : Nat) : Call Unit := do
  mayFail (.host "create disk directory")
  mayChange (.host "create disk file") (World.withUnfinished (some ⟨0, 0⟩))
  onError (bestEffort (mayChange (Err.host "remove disk file") (World.withUnfinished none))) do
    mayChange (.host "allocate disk") (World.onUnfinished (.truncate size))
    mayFail (.host "close disk file")
    mke2fs
    mayChange (.host "install disk") World.install

section

variable (hazards : Hazards)

/-- The length of the file. -/
def stat : Call Nat :=
  Program.perform fun _ world =>
    match world.disk with
    | some disk => [(.ok disk.file, world), (.error (.host "stat"), world)]
    | none => [(.error (.host "stat"), world)]

/-- Success makes the filesystem fill the file.  A run that fails leaves it as it was; one that is
killed may have grown it. -/
def resize2fs : Call Unit :=
  Program.perform fun _ world =>
    [(.ok (), world.onDisk .fill), (.error (.host "grow filesystem"), world)] ++
      if hazards.kills then [(.error (.host "grow filesystem"), world.onDisk .fill)] else []

/-- Give the file back the size it had. -/
def restoreSize (size : Nat) : Call Unit :=
  Program.perform fun _ world =>
    (.ok (), world.onDisk (.truncate size)) ::
      if hazards.sticks then [(.error (.host "restore disk file size"), world)] else []

def growExt4 (size : Nat) : Call Unit := do
  let info ← stat
  if size ≤ info then return ()
  else
    mayFail (.host "check disk")
    mayChange (.host "grow disk file") (World.onDisk (.truncate size))
    match ← attempt (resize2fs hazards) with
    | .ok _ => return ()
    | .error failure =>
      match ← attempt (restoreSize hazards info) with
      | .ok _ => throw failure
      | .error stuck => throw (.host (failure.message ++ "\n" ++ stuck.message))

/-- Whether there is a disk, as far as that can be found out. -/
def exists_ : Call Bool :=
  Program.perform fun _ world => [(.ok world.disk.isSome, world), (.ok false, world)]

def ensureOverlayDisk (size : Nat) : Call Unit := do
  if ← exists_ then growExt4 hazards size else create size

/-- No file is larger than its filesystem. -/
def World.filled (world : World) : Bool := world.disk.all fun disk => disk.file ≤ disk.filesystem

/-- What a sequence of calls can leave, each returned from or cut short. -/
inductive Reached : World → Prop
  | start : Reached ⟨none, none⟩
  | returned {before after : World} {result : Except Err Unit} (size : Nat)
      (reached : Reached before) (returns : (result, after) ∈
      (ensureOverlayDisk hazards size).run.outcomes () before) : Reached after
  | crashed {before after : World} (size : Nat) (reached : Reached before)
      (cut : after ∈ (ensureOverlayDisk hazards size).run.passes () before)
      (may : hazards.crashes = true ∨ after.filled = true) : Reached after

end

variable {world : World} {hazards : Hazards}

/-! ## Calls that nothing comes between -/

namespace World

/-- No filesystem is larger than the file that holds it. -/
def Sound (world : World) : Prop := ∀ disk, world.disk = some disk → disk.filesystem ≤ disk.file

/-- Every filesystem fills its file. -/
def Settled (world : World) : Prop := ∀ disk, world.disk = some disk → disk.filesystem = disk.file

theorem Settled.sound (settled : world.Settled) : world.Sound :=
  fun disk there => (settled disk there).le

theorem Settled.ofDisk {after : World} (settled : world.Settled) (same : after.disk = world.disk) :
    after.Settled :=
  fun disk there => settled disk (same ▸ there)

theorem Sound.settled (sound : world.Sound) (filled : world.filled = true) : world.Settled := by
  intro disk there
  simp only [World.filled, there, Option.all_some, decide_eq_true_eq] at filled
  exact Nat.le_antisymm (sound disk there) filled

theorem settled_filled {disk : Disk} (there : world.disk = some disk)
    (same : disk.filesystem = disk.file) :
    world.Settled := by
  intro other isOther
  cases there.symm.trans isOther
  exact same

end World

/-- What a call is to leave: a disk that is settled, and if it succeeds one that is large enough. -/
def Provides (size : Nat) (result : Except Err Unit) (after : World) : Prop :=
  after.Settled ∧ (result = .ok () → ∃ disk, after.disk = some disk ∧ size ≤ disk.filesystem)

theorem Provides.failed {size : Nat} {failure : Err} {after : World} (settled : after.Settled) :
    Provides size (.error failure) after :=
  ⟨settled, nofun⟩

theorem create_keeps (size : Nat) (settled : world.Settled) :
    (create size).run.Keeps () World.Sound (Provides size) world := by
  -- until it is renamed, only the file beside the path changes
  have beside : ∀ unfinished, World.Settled ⟨world.disk, unfinished⟩ := fun _ => settled.ofDisk rfl
  have sound : ∀ unfinished, World.Sound ⟨world.disk, unfinished⟩ := fun _ => (beside _).sound
  have failed : ∀ failure unfinished, (bestEffort (mayChange (Err.host "remove disk file")
      (World.withUnfinished none))).Keeps () World.Sound (fun _ => Provides size (.error failure))
        ⟨world.disk, unfinished⟩ := by
    intro failure unfinished
    apply Keeps.bind
    exact Keeps.mayChange (sound _) (sound _) ⟨sound _, .failed (beside _)⟩
      ⟨sound _, .failed (beside _)⟩
  apply Keeps.bindExcept
  refine Keeps.mayFail (sound _) ?_ (.failed (beside _))
  apply Keeps.bindExcept
  refine Keeps.mayChange (sound _) (sound _) ?_ (.failed (beside _))
  apply Keeps.onError
  apply Keeps.bindExcept
  refine Keeps.mayChange (sound _) (sound _) ?_ (failed _ _)
  apply Keeps.bindExcept
  refine Keeps.mayFail (sound _) ?_ (failed _ _)
  apply Keeps.bindExcept
  refine Keeps.perform (sound _) (Answers.three ⟨sound _, ?_⟩ ⟨sound _, failed _ _⟩
    ⟨sound _, failed _ _⟩)
  have full : World.Settled ⟨some ⟨size, size⟩, none⟩ := World.settled_filled rfl rfl
  exact Keeps.mayChange (sound _) full.sound ⟨full, fun _ => ⟨_, rfl, le_rfl⟩⟩ (failed _ _)

section

variable (kills : hazards.kills = false) (sticks : hazards.sticks = false)
include kills sticks

theorem growExt4_keeps (size : Nat) (settled : world.Settled)
    : (growExt4 hazards size).run.Keeps () World.Sound (Provides size) world := by
  refine Keeps.bindExcept (Keeps.perform settled.sound ?_)
  cases there : world.disk with
  | none => exact Answers.one ⟨settled.sound, .failed settled⟩
  | some disk =>
    refine Answers.two ⟨settled.sound, ?_⟩ ⟨settled.sound, .failed settled⟩
    have fills : disk.filesystem = disk.file := settled disk there
    dsimp only
    split
    · rename_i enough
      exact ⟨settled.sound, settled, fun _ => ⟨disk, there, fills ▸ enough⟩⟩
    rename_i less
    have grown : (world.onDisk (.truncate size)).disk = some ⟨size, disk.filesystem⟩ := by
      simp [World.onDisk, there, Disk.truncate]
    have grownSound : (world.onDisk (.truncate size)).Sound := by
      intro other isOther
      cases grown.symm.trans isOther
      show disk.filesystem ≤ size
      omega
    apply Keeps.bindExcept
    refine Keeps.mayFail settled.sound ?_ (.failed settled)
    apply Keeps.bindExcept
    refine Keeps.mayChange settled.sound grownSound ?_ (.failed settled)
    refine Keeps.attempt (Keeps.perform grownSound ?_)
    simp only [kills, Bool.false_eq_true, if_false, List.append_nil]
    refine Answers.two ?_ ⟨grownSound, ?_⟩
    · have full : ((world.onDisk (.truncate size)).onDisk .fill).disk = some ⟨size, size⟩ := by
        simp [World.onDisk, there, Disk.truncate, Disk.fill]
      have whole := World.settled_filled full rfl
      exact ⟨whole.sound, whole.sound, whole, fun _ => ⟨_, full, le_rfl⟩⟩
    · refine Keeps.attempt (Keeps.perform grownSound ?_)
      simp only [sticks, Bool.false_eq_true, if_false]
      have back : ((world.onDisk (.truncate size)).onDisk (.truncate disk.file)).disk =
          some disk := by
        simp [World.onDisk, there, Disk.truncate]
      have whole := World.settled_filled back fills
      exact Answers.one ⟨whole.sound, whole.sound, .failed whole⟩

theorem ensureOverlayDisk_keeps (size : Nat) (settled : world.Settled)
    : (ensureOverlayDisk hazards size).run.Keeps () World.Sound (Provides size) world := by
  refine Keeps.bindExcept (Keeps.perform settled.sound ?_)
  refine Answers.two ⟨settled.sound, ?_⟩ ⟨settled.sound, create_keeps size settled⟩
  dsimp only
  split
  · exact growExt4_keeps kills sticks size settled
  · exact create_keeps size settled

theorem Reached.settled (crashes : hazards.crashes = false) (reached : Reached hazards world) :
    world.Settled := by
  induction reached with
  | start => exact nofun
  | returned size _ returns ih => exact ((ensureOverlayDisk_keeps kills sticks size ih).leads _ _ returns).1
  | crashed size _ cut may ih =>
    have filled := may.resolve_left (by simp [crashes])
    exact ((ensureOverlayDisk_keeps kills sticks size ih).passed cut).settled filled

end

/-- As long as growing a disk is not cut short between its file and its filesystem, and what a
failure grew is given back, a call that succeeds leaves a filesystem of at least the size asked for,
and no filesystem outgrows its file. -/
theorem overlay_disk_is_large_enough (hazards : Hazards) (kills : hazards.kills = false)
    (sticks : hazards.sticks = false) (crashes : hazards.crashes = false) (world : World)
    (reached : Reached hazards world) :
    world.Sound ∧ ∀ size after, (.ok (), after) ∈ (ensureOverlayDisk hazards size).run.outcomes
      () world → ∃ disk, after.disk = some disk ∧ size ≤ disk.filesystem := by
  have settled := reached.settled kills sticks crashes
  refine ⟨settled.sound, ?_⟩
  intro size after returns
  exact ((ensureOverlayDisk_keeps kills sticks size settled).leads _ _ returns).2 rfl

/-- Nothing comes between a disk's file and its filesystem. -/
def Hazards.none : Hazards := ⟨false, false, false⟩

/-- Everything the host may do. -/
def Hazards.any : Hazards := ⟨true, true, true⟩

theorem reached_first (hazards : Hazards) : Reached hazards ⟨some ⟨1, 1⟩, none⟩ := by
  have returns : (Except.ok (), (⟨some ⟨1, 1⟩, none⟩ : World)) ∈
      (ensureOverlayDisk .none 1).run.outcomes () ⟨none, none⟩ := by decide +kernel
  exact .returned 1 .start returns

theorem overlay_disk_is_large_enough_once_made : (⟨some ⟨1, 1⟩, none⟩ : World).Sound ∧
      ∃ disk : Disk, some (⟨2, 2⟩ : Disk) = some disk ∧ 2 ≤ disk.filesystem :=
  have holds := overlay_disk_is_large_enough .none rfl rfl rfl _ (reached_first _)
  ⟨holds.1, holds.2 2 ⟨some ⟨2, 2⟩, none⟩ (by decide +kernel)⟩

/-- A crash after the file was grown leaves a disk the next call takes for large enough; and a
`resize2fs` killed when it had grown the filesystem leaves one that no longer fits the file, once
that has its size back. -/
theorem growing_disk_is_cut_short :
    (∃ world disk, Reached .any world ∧ (.ok (), world) ∈ (ensureOverlayDisk .any 2).run.outcomes
        () world ∧ world.disk = some disk ∧ disk.filesystem < 2) ∧
      ∃ world, Reached .any world ∧ ¬ world.Sound := by
  constructor
  · refine ⟨⟨some ⟨2, 1⟩, none⟩, ⟨2, 1⟩, ?_, by decide +kernel, rfl, by decide⟩
    exact .crashed 2 (reached_first _) (by decide +kernel) (.inl rfl)
  have returns : (Except.error (Err.host "grow filesystem"), (⟨some ⟨1, 2⟩, none⟩ : World)) ∈
      (ensureOverlayDisk .any 2).run.outcomes () ⟨some ⟨1, 1⟩, none⟩ := by decide +kernel
  refine ⟨⟨some ⟨1, 2⟩, none⟩, .returned 2 (reached_first _) returns, ?_⟩
  intro sound
  exact absurd (sound _ rfl) (by decide)

end Dicer.Diskfile
