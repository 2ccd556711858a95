import Dicer.Images.Sharing

namespace Dicer.Images

open Concurrency

/-!
# Images and their disks

A removal takes an image out of the index and deletes its files later, and in between a pull may
load the image from those files.  As long as no `loadOrPull` of an image is between finding it
missing and putting it in the index while a removal of it has files to delete, every image in the
index has its disk.
-/

variable {before after world : World} {thread : Nat} {digest : String}

/-- No thread loads an image whose files are about to be deleted. -/
def LoadsApart (world : World) : Prop :=
  ∀ removal ∈ world.removing, ∀ entry ∈ world.loads.entries, entry.2.digest = removal.2 →
    entry.2.stage = .stored

instance : DecidablePred LoadsApart := fun _ => by unfold LoadsApart; infer_instance

theorem LoadsApart.stored (apart : LoadsApart world) {removal : Nat × String}
    (removing : removal ∈ world.removing) {load : Load}
    (loading : world.loads.lookup thread = some load) (same : load.digest = removal.2) :
    load.stage = .stored :=
  apart removal removing _ (AList.mem_lookup_iff.mp loading) same

/-- Every image in the index and every image about to be put there has its disk, and none that is
being removed is in the index. -/
structure OnDisk (world : World) : Prop where
  apart : LoadsApart world
  index : ∀ image ∈ world.images, world.hasDisk image.digest = true
  ready : ∀ thread load, world.loads.lookup thread = some load → load.stage = .ready →
    world.hasDisk load.digest = true
  gone : ∀ removal ∈ world.removing, world.image removal.2 = none

namespace World

theorem hasDisk_setFiles_of_ne {other : String} (files : Option Files)
    (different : other ≠ digest) : (world.setFiles digest files).hasDisk other = world.hasDisk
    other := by
  simp [hasDisk, setFiles, different]

theorem hasDisk_setFiles {files : Files} (kept : world.hasDisk digest = true → files.disk = true)
    {other : String} (disk : world.hasDisk other = true) :
    (world.setFiles digest (some files)).hasDisk other = true := by
  by_cases same : other = digest
  · subst same
    simpa [hasDisk, setFiles] using kept disk
  · rwa [hasDisk_setFiles_of_ne _ same]

theorem image_without_eq_none {removal : String}
    (absent : removal = digest ∨ world.image digest = none) :
    (world.without thread removal).image digest = none := by
  rw [image_eq_none]
  intro image member
  rcases List.mem_filter.mp member with ⟨isImage, kept⟩
  rcases absent with rfl | absent
  · simpa using kept
  · exact image_eq_none.mp absent image isImage

end World

theorem OnDisk.setFiles (onDisk : OnDisk world) {files : Files}
    (kept : world.hasDisk digest = true → files.disk = true) :
    OnDisk (world.setFiles digest (some files)) :=
  { onDisk with
    index := fun image member => World.hasDisk_setFiles kept (onDisk.index image member)
    ready := fun thread load loading isReady => World.hasDisk_setFiles kept
      (onDisk.ready thread load loading isReady) }

theorem OnDisk.clear (onDisk : OnDisk world) (absent : world.image digest = none)
    (unready : ∀ thread load, world.loads.lookup thread = some load → load.digest = digest →
      load.stage ≠ .ready) :
    OnDisk (world.setFiles digest none) :=
  { onDisk with
    index := by
      intro image member
      rw [World.hasDisk_setFiles_of_ne _ (World.image_eq_none.mp absent image member)]
      exact onDisk.index image member
    ready := by
      intro thread load loading isReady
      have different : load.digest ≠ digest := fun same => unready thread load loading same isReady
      rw [World.hasDisk_setFiles_of_ne _ different]
      exact onDisk.ready thread load loading isReady }

theorem OnDisk.setLoad (onDisk : OnDisk world) {load : Option Load}
    (ready : load.elim True fun own => own.stage = .ready → world.hasDisk own.digest = true)
    (apart : LoadsApart (world.setLoad thread load)) : OnDisk (world.setLoad thread load) :=
  { onDisk with
    apart := apart
    ready := ByThread.forall_set ready fun other _ => onDisk.ready other }

theorem OnDisk.drop (onDisk : OnDisk world) (removal : String)
    (apart : LoadsApart (world.without thread removal)) :
    OnDisk (world.without thread removal) where
  apart := apart
  index := fun image member => onDisk.index image (List.mem_filter.mp member).1
  ready := onDisk.ready
  gone := by
    exact List.forall_mem_cons.mpr ⟨World.image_without_eq_none (.inl rfl),
      fun other old => World.image_without_eq_none (.inr (onDisk.gone other old))⟩

theorem Moved.onDisk (sane : Sane before) (apart : LoadsApart after)
    (moved : Moved thread before after) (onDisk : OnDisk before) : OnDisk after := by
  cases moved with
  | created image isReady =>
    have stored : OnDisk (before.setLoad thread (some ⟨image.digest, .stored⟩)) :=
      onDisk.setLoad (by simp) apart
    refine { stored with index := ?_, gone := ?_ }
    · rw [List.forall_mem_append, List.forall_mem_singleton]
      exact ⟨onDisk.index, onDisk.ready thread _ isReady rfl⟩
    · intro removal removing
      refine World.image_append_eq_none (onDisk.gone removal removing) fun same => ?_
      have isStored := onDisk.apart.stored removing isReady same
      simp at isStored
  | used digest at_ =>
    refine { onDisk with index := ?_, gone := ?_ }
    · intro image member
      have isDigest : image.digest ∈ before.images.map Image.digest := by
        rw [← World.digests_recordUse before digest at_]
        exact List.mem_map.mpr ⟨image, member, rfl⟩
      rcases List.mem_map.mp isDigest with ⟨other, isOther, same⟩
      have disk := onDisk.index other isOther
      rw [same] at disk
      exact disk
    · exact fun removal removing => World.recordUse_image_eq_none.mpr (onDisk.gone removal removing)
  | dropped digest => exact { onDisk.drop digest apart with }
  | collected image => exact { onDisk.drop image.digest apart with }
  | saved digest image files there =>
    exact onDisk.setFiles fun disk => by simpa [World.hasDisk, there] using disk
  | prepared digest =>
    refine onDisk.setFiles fun disk => ?_
    cases files : before.files digest with
    | none => simp [World.hasDisk, files] at disk
    | some => simpa [World.hasDisk, files] using disk
  | packed => exact (onDisk.setFiles fun _ => rfl).setLoad (by simp [World.hasDisk, World.setFiles]) apart
  | packedPartly => exact onDisk.setFiles fun _ => rfl
  | discarded digest missing =>
    refine (onDisk.clear (sane.loaded.absent thread _ missing (by simp)) ?_).setLoad (by simp) apart
    intro other load loading same
    obtain rfl := sane.loaded.unique sane.shared loading missing same
    cases loading.symm.trans missing
    simp
  | deleted digest removing =>
    have cleared : OnDisk (before.setFiles digest none) := by
      refine onDisk.clear (onDisk.gone _ removing) fun other load loading same => ?_
      simp [onDisk.apart.stored removing loading same]
    exact { cleared with
      apart := apart
      gone := fun removal member => onDisk.gone removal (List.mem_of_mem_erase member) }
  | missed => exact onDisk.setLoad (by simp) apart
  | hit id resolved =>
    have stored : OnDisk (before.setLoad thread (some ⟨resolved.digest, .stored⟩)) :=
      onDisk.setLoad (by simp) apart
    exact { stored with }
  | readied digest missing disk => exact onDisk.setLoad (by simpa using disk) apart
  | finished =>
    have idle : OnDisk (before.setLoad thread none) := onDisk.setLoad (by simp) apart
    exact { idle with }
  | _ => exact { onDisk with }

/-- However pulls and removals interleave, every image in the index has its disk, as long as none is
loaded whose files are about to be deleted. -/
theorem images_have_disks (parse : String → Except Err Ref) (slots : Nat) {pool : Pool Nat World}
    (reached : (system parse).Reaches (fun _ after => LoadsApart after) (World.fresh slots) pool) :
    ∀ image ∈ pool.world.images, pool.world.hasDisk image.digest = true := by
  have onDisk : OnDisk pool.world := by
    refine holds_of_run ?_ (fun _ _ _ sane _ apart moved holds => moved.onDisk sane apart holds) ?_
      reached
    · constructor <;> simp [World.fresh, LoadsApart]
    · intro event before _ _ holds
      cases event <;> exact { holds with }
  exact onDisk.index

/-- An image is pulled, pruned, and pulled again. -/
theorem images_have_disks_pulled_again : ∃ pool,
    (system tagged).Reaches (fun _ after => LoadsApart after) (World.fresh 1) pool ∧
      (pool.world.images.map Image.digest = ["d1"] ∧ pool.world.byHand = 1) ∧
        ∀ image ∈ pool.world.images, pool.world.hasDisk image.digest = true :=
  (system tagged).known_of_schedule
    ([.spawn 0 (.pull "app:1" (.ok "d1") 1), .act 0 0, .act 0 0, .spawn 1 (.run 0 5)] ++
      List.replicate 16 (.act 1 0) ++ [.act 0 0, .act 0 0, .spawn 2 (.prune [])] ++
      List.replicate 5 (.act 2 0) ++
      [.spawn 3 (.pull "app:1" (.ok "d1") 1), .act 3 0, .act 3 0, .spawn 4 (.run 1 5)] ++
      List.replicate 16 (.act 4 0)) (by decide +kernel) fun reached _ =>
        images_have_disks tagged 1 reached

/-- A prune takes an image out of the index; a pull loads it again from its files, which the prune
then deletes. All calls have returned, and the image in the index has no disk. -/
theorem image_without_disk : ∃ pool, (system tagged).Reaches (fun _ _ => True)
      (World.fresh 1) pool ∧ (∃ image ∈ pool.world.images, pool.world.hasDisk image.digest =
        false) ∧ ∀ thread, pool.threads thread ≠ none → pool.isOver thread = true :=
  (system tagged).quiet_of_schedule (fun _ _ => True) (World.fresh 1)
    (fun world => ∃ image ∈ world.images, world.hasDisk image.digest = false)
    ([.spawn 0 (.pull "app:1" (.ok "d1") 1), .act 0 0, .act 0 0, .spawn 1 (.run 0 5)] ++
      List.replicate 16 (.act 1 0) ++ [.act 0 0, .act 0 0, .spawn 2 (.prune []), .act 2 0, .act 2 0,
        .spawn 3 (.pull "app:1" (.ok "d1") 1), .act 3 0, .act 3 0, .spawn 4 (.run 1 5)] ++
      List.replicate 11 (.act 4 0) ++ [.act 3 0, .act 3 0, .act 2 0, .act 2 0, .act 2 0])
        (by decide +kernel)

end Dicer.Images
