import Dicer.FileStore.Store

namespace Dicer.FileStore

open Networks (Network)
open Instance (Spec Snapshot Volume Mount)

/-!
# References to kernels, networks and volumes

A definition refers to its kernel, its network and its volumes by name or by ID, and is stored only
if what it refers to is there.  What is referred to by its name cannot be deleted.  The scans before
a deletion do not look for its ID, so a reference by ID may be left without anything to refer to:
`references_resolve` says for every sequence of calls when one is.
-/

namespace Definitions

variable {Item : Type} [Named Item] {definitions : Definitions Item} {nameOrID : String}

theorem lookup_isSome [Inhabited Item] : (definitions.lookup nameOrID).isSome = true ↔
      (definitions.named nameOrID).isSome = true ∨ (definitions.namesByID nameOrID).isSome =
      true := by
  unfold lookup
  cases definitions.named nameOrID with
  | some => simp
  | none =>
    cases definitions.namesByID nameOrID with
    | some | none => simp

theorem named_put_isSome (item : Item) {name : String}
    (found : (definitions.named name).isSome = true) :
    ((definitions.put item).named name).isSome = true := by
  rcases Option.isSome_iff_exists.mp found with ⟨old, oldFound⟩
  rcases named_mem oldFound with ⟨member, rfl⟩
  rw [named, List.find?_isSome]
  by_cases same : Named.name old = Named.name item
  · exact ⟨item, mem_put.mpr (.inl rfl), by simpa using same.symm⟩
  · exact ⟨old, mem_put.mpr (.inr ⟨member, same⟩), by simp⟩

theorem lookup_put_isSome [Inhabited Item] (item : Item)
    (found : (definitions.lookup nameOrID).isSome = true) :
    ((definitions.put item).lookup nameOrID).isSome = true := by
  rw [lookup_isSome] at found ⊢
  rcases found with byName | byID
  · exact .inl (named_put_isSome item byName)
  refine .inr ?_
  unfold put
  dsimp only
  split
  · exact byID
  by_cases same : nameOrID = Named.id item
  · simp [same]
  · simpa [Function.update_of_ne same] using byID

theorem named_delete {item : Item} {name : String}
    (different : name ≠ Named.name item) :
    (definitions.delete item).named name = definitions.named name := by
  unfold named delete
  dsimp only
  rw [List.find?_filter]
  congr 1
  funext other
  by_cases same : Named.name other = name
  · simp [same, different]
  · simp [same]

theorem lookup_delete_isSome [Inhabited Item] {item : Item}
    (different : nameOrID ≠ Named.name item) :
        ((definitions.delete item).lookup nameOrID).isSome = true ↔
        (definitions.lookup nameOrID).isSome = true ∧
        (nameOrID = Named.id item → (definitions.named nameOrID).isSome = true) := by
  rw [lookup_isSome, lookup_isSome, named_delete different]
  by_cases same : nameOrID = Named.id item
  · subst same
    simp only [delete, Function.update_self, Option.isSome_none, Bool.false_eq_true, or_false,
      true_implies]
    exact ⟨fun byName => ⟨.inl byName, byName⟩, And.right⟩
  · simp [delete, same]

/-- Everything that is referred to is found. -/
def Found [Inhabited Item] (definitions : Definitions Item) (references : List String) : Prop :=
  ∀ reference ∈ references, (definitions.lookup reference).isSome = true

/-- What this finds is not referred to by its ID, unless the ID is the name of something that is
found first. -/
def SparesID [Inhabited Item] (definitions : Definitions Item) (nameOrID : String)
    (references : List String) :
    Prop :=
  ∀ item ∈ definitions.lookup nameOrID, Named.id item ∈ references →
    (definitions.named (Named.id item)).isSome = true

instance [Inhabited Item] (definitions : Definitions Item) (references : List String) :
    Decidable (definitions.Found references) :=
  inferInstanceAs (Decidable (∀ reference ∈ references, (definitions.lookup reference).isSome =
    true))

instance [Inhabited Item] (definitions : Definitions Item) (nameOrID : String)
    (references : List String) : Decidable (definitions.SparesID nameOrID references) :=
  inferInstanceAs (Decidable (∀ item ∈ definitions.lookup nameOrID, Named.id item ∈ references →
    (definitions.named (Named.id item)).isSome = true))

theorem Found.put [Inhabited Item] {references : List String}
    (found : definitions.Found references) (item : Item) :
    (definitions.put item).Found references :=
  fun reference member => lookup_put_isSome item (found reference member)

/-- Deleting what no reference names leaves the references found exactly if none is by its ID. -/
theorem found_delete [Inhabited Item] {item : Item} {references : List String}
    (found : definitions.Found references) (isItem : definitions.lookup nameOrID = some item)
    (unnamed : Named.name item ∉ references) :
    (definitions.delete item).Found references ↔ definitions.SparesID nameOrID references := by
  have different : ∀ reference ∈ references, reference ≠ Named.name item :=
    fun reference member same => unnamed (same ▸ member)
  constructor
  · intro still other isOther member
    cases isItem.symm.trans isOther
    exact ((lookup_delete_isSome (different _ member)).mp (still _ member)).2 rfl
  · intro spares reference member
    refine (lookup_delete_isSome (different _ member)).mpr ⟨found reference member, ?_⟩
    rintro rfl
    exact spares item isItem member

end Definitions

namespace Store

/-- The definitions of instances, and those that snapshots keep. -/
def specs (store : Store) : List Spec :=
  store.instances.items ++ store.snapshots.items.map Snapshot.spec

def volumeSources (spec : Spec) : List String :=
  (spec.mounts.filter Mount.isVolume).map Mount.source

def kernelReferences (store : Store) : List String := store.specs.map Spec.kernelName

def networkReferences (store : Store) : List String := store.specs.map Spec.networkName

def volumeReferences (store : Store) : List String := store.specs.flatMap volumeSources

/-- Everything that instances and snapshots refer to is found. -/
def Resolved (store : Store) : Prop :=
  store.kernels.Found store.kernelReferences ∧ store.networks.Found store.networkReferences ∧
    store.volumes.Found store.volumeReferences

/-- The call does not delete what a definition refers to by its ID. -/
def Spares (store : Store) : Call → Prop
  | .deleteKernel nameOrID => store.kernels.SparesID nameOrID store.kernelReferences
  | .deleteNetwork nameOrID => store.networks.SparesID nameOrID store.networkReferences
  | .deleteVolume nameOrID => store.volumes.SparesID nameOrID store.volumeReferences
  | _ => True

instance (store : Store) : Decidable store.Resolved :=
  inferInstanceAs (Decidable (store.kernels.Found store.kernelReferences ∧
    store.networks.Found store.networkReferences ∧ store.volumes.Found store.volumeReferences))

instance (store : Store) : (call : Call) → Decidable (store.Spares call)
  | .deleteKernel nameOrID =>
    inferInstanceAs (Decidable (store.kernels.SparesID nameOrID store.kernelReferences))
  | .deleteNetwork nameOrID =>
    inferInstanceAs (Decidable (store.networks.SparesID nameOrID store.networkReferences))
  | .deleteVolume nameOrID =>
    inferInstanceAs (Decidable (store.volumes.SparesID nameOrID store.volumeReferences))
  | .createKernel _ | .updateKernel _ | .createNetwork _ | .createVolume _ | .createInstance _
  | .updateInstance _ | .renameInstance _ _ | .deleteInstance _ | .createSnapshot _ | .deleteSnapshot _ =>
    .isTrue trivial

/-! ## The checks -/

theorem mustExist_ok {Item : Type} [Named Item] [Inhabited Item] {kind : String}
    {definitions : Definitions Item} {nameOrID : String} :
    mustExist (definitions.find kind nameOrID) = .ok () ↔ (definitions.lookup nameOrID).isSome =
    true := by
  unfold Definitions.find
  cases definitions.lookup nameOrID with
  | none => simp [mustExist, throw, throwThe, MonadExceptOf.throw]
  | some => simp [mustExist, pure, Except.pure]

variable {store : Store}

theorem checkMountReferences_ok {mounts : List Mount} : store.checkMountReferences mounts = .ok () ↔
      ∀ mount ∈ mounts, mount.isVolume = true → (store.volumes.lookup mount.source).isSome =
      true := by
  induction mounts with
  | nil => simp [checkMountReferences]
  | cons mount rest ih =>
    cases volume : mount.isVolume with
    | false => simp [checkMountReferences, volume, ih]
    | true =>
      simp only [checkMountReferences, volume, if_true, bind_eq_ok, List.forall_mem_cons,
        true_implies, ih]
      constructor
      · rintro ⟨_, exists_, others⟩
        exact ⟨mustExist_ok.mp exists_, others⟩
      · rintro ⟨found, others⟩
        exact ⟨(), mustExist_ok.mpr found, others⟩

/-- Everything one definition refers to is found. -/
structure Resolves (store : Store) (spec : Spec) : Prop where
  kernel : (store.kernels.lookup spec.kernelName).isSome = true
  network : (store.networks.lookup spec.networkName).isSome = true
  volumes : ∀ mount ∈ spec.mounts, mount.isVolume = true →
    (store.volumes.lookup mount.source).isSome = true

theorem resolves_of_checkReferences {spec : Spec}
    (passed : store.checkReferences spec = .ok ()) : store.Resolves spec := by
  simp only [checkReferences, bind_eq_ok, checkMountReferences_ok] at passed
  rcases passed with ⟨_, kernel, _, network, volumes⟩
  exact ⟨mustExist_ok.mp kernel, mustExist_ok.mp network, volumes⟩

theorem resolved_iff : store.Resolved ↔ ∀ spec ∈ store.specs, store.Resolves spec := by
  simp only [Resolved, Definitions.Found, kernelReferences, networkReferences, volumeReferences,
    List.mem_map, List.mem_flatMap, volumeSources, List.mem_filter]
  constructor
  · rintro ⟨kernels, networks, volumes⟩ spec member
    exact ⟨kernels _ ⟨spec, member, rfl⟩, networks _ ⟨spec, member, rfl⟩,
      fun mount mountMember volume => volumes _ ⟨spec, member, mount, ⟨mountMember, volume⟩, rfl⟩⟩
  · intro resolves
    refine ⟨?_, ?_, ?_⟩
    · rintro _ ⟨spec, member, rfl⟩
      exact (resolves spec member).kernel
    · rintro _ ⟨spec, member, rfl⟩
      exact (resolves spec member).network
    · rintro _ ⟨spec, member, mount, ⟨mountMember, volume⟩, rfl⟩
      exact (resolves spec member).volumes mount mountMember volume

/-- Nothing uses what is deleted, in the way the scan looks for. -/
theorem unused_of_checkUnused {kind name : String} {uses : Spec → Bool}
    (passed : store.checkUnused kind name uses = .ok ()) :
    ∀ spec ∈ store.specs, uses spec = false := by
  unfold checkUnused at passed
  split at passed
  · simp at passed
  rename_i instances
  split at passed
  · simp at passed
  rename_i snapshots
  intro spec member
  rcases List.mem_append.mp member with defined | kept
  · simpa using List.find?_eq_none.mp instances spec (Definitions.mem_sorted.mpr defined)
  · rcases List.mem_map.mp kept with ⟨snapshot, snapshotMember, rfl⟩
    simpa using List.find?_eq_none.mp snapshots snapshot (Definitions.mem_sorted.mpr snapshotMember)

/-- References stay resolved where only instances and snapshots change, and what is new refers to
what is found. -/
theorem Resolved.defines (resolved : store.Resolved) {instances : Definitions Spec}
    {snapshots : Definitions Snapshot} (defined : ∀ spec ∈ instances.items,
      spec ∈ store.instances.items ∨ store.Resolves spec)
    (kept : ∀ snapshot ∈ snapshots.items, snapshot ∈ store.snapshots.items ∨
      store.Resolves snapshot.spec) :
    Resolved { store with instances := instances, snapshots := snapshots } := by
  rw [resolved_iff] at resolved ⊢
  intro spec member
  have resolves : store.Resolves spec := by
    rcases List.mem_append.mp member with member | member
    · exact (defined spec member).elim (fun old => resolved spec (List.mem_append_left _ old)) id
    rcases List.mem_map.mp member with ⟨snapshot, listed, rfl⟩
    exact (kept snapshot listed).elim (fun old =>
      resolved _ (List.mem_append_right _ (List.mem_map_of_mem old))) id
  exact { resolves with }

theorem Resolved.putInstance (resolved : store.Resolved) {spec : Spec}
    (passed : store.checkReferences spec = .ok ()) :
    Resolved { store with instances := store.instances.put spec } :=
  resolved.defines (Definitions.forall_mem_put (.inr (resolves_of_checkReferences passed))
    fun _ old _ => .inl old) fun _ => .inl

theorem source_ne_of_volumeMount {spec : Spec} {name : String}
    (unused : (spec.volumeMount name).isSome = false) : name ∉ volumeSources spec := by
  have missing : spec.volumeMount name = none := by simpa using unused
  simp only [volumeSources, List.mem_map, List.mem_filter, not_exists, not_and]
  rintro mount ⟨member, volume⟩ same
  have isVolume : mount.type = .volume := by simpa [Mount.isVolume] using volume
  simpa [isVolume, same] using List.find?_eq_none.mp missing mount member

variable {store after : Store}

theorem resolved_deleteKernel {nameOrID : String} (resolved : store.Resolved)
    (done : store.deleteKernel nameOrID = .ok after) :
    after.Resolved ↔ store.Spares (.deleteKernel nameOrID) := by
  simp only [deleteKernel, bind_eq_ok, pure_eq_ok] at done
  rcases done with ⟨kernel, found, _, unused, rfl⟩
  have unnamed : kernel.name ∉ store.kernelReferences := by
    simp only [kernelReferences, List.mem_map, not_exists, not_and]
    intro spec member
    simpa using unused_of_checkUnused unused spec member
  have kernels := Definitions.found_delete resolved.1 (Definitions.find_ok.mp found) unnamed
  exact ⟨fun after => kernels.mp after.1, fun spares => ⟨kernels.mpr spares, resolved.2⟩⟩

theorem resolved_deleteNetwork {nameOrID : String} (resolved : store.Resolved)
    (done : store.deleteNetwork nameOrID = .ok after) :
    after.Resolved ↔ store.Spares (.deleteNetwork nameOrID) := by
  simp only [deleteNetwork, bind_eq_ok, pure_eq_ok] at done
  rcases done with ⟨network, found, _, unused, rfl⟩
  have unnamed : network.name ∉ store.networkReferences := by
    simp only [networkReferences, List.mem_map, not_exists, not_and]
    intro spec member
    simpa using unused_of_checkUnused unused spec member
  have networks := Definitions.found_delete resolved.2.1 (Definitions.find_ok.mp found) unnamed
  exact ⟨fun after => networks.mp after.2.1, fun spares =>
    ⟨resolved.1, networks.mpr spares, resolved.2.2⟩⟩

theorem resolved_deleteVolume {nameOrID : String} (resolved : store.Resolved)
    (done : store.deleteVolume nameOrID = .ok after) :
    after.Resolved ↔ store.Spares (.deleteVolume nameOrID) := by
  simp only [deleteVolume, bind_eq_ok, pure_eq_ok] at done
  rcases done with ⟨volume, found, _, unused, rfl⟩
  have unnamed : volume.name ∉ store.volumeReferences := by
    simp only [volumeReferences, List.mem_flatMap, not_exists, not_and]
    intro spec member
    exact source_ne_of_volumeMount (unused_of_checkUnused unused spec member)
  have volumes := Definitions.found_delete resolved.2.2 (Definitions.find_ok.mp found) unnamed
  exact ⟨fun after => volumes.mp after.2.2, fun spares =>
    ⟨resolved.1, resolved.2.1, volumes.mpr spares⟩⟩

/-- A call that returns no error leaves every reference resolved exactly if it spares what is
referred to by ID. -/
theorem resolved_perform {call : Call} (resolved : store.Resolved)
    (done : store.perform call = .ok after) : after.Resolved ↔ store.Spares call := by
  cases call with
  | deleteKernel => exact resolved_deleteKernel resolved done
  | deleteNetwork => exact resolved_deleteNetwork resolved done
  | deleteVolume => exact resolved_deleteVolume resolved done
  | createKernel kernel | updateKernel kernel =>
    rcases bind_eq_ok.mp done with ⟨_, _, ⟨⟩⟩
    exact iff_of_true ⟨resolved.1.put kernel, resolved.2⟩ trivial
  | createNetwork network =>
    rcases bind_eq_ok.mp done with ⟨_, _, ⟨⟩⟩
    exact iff_of_true ⟨resolved.1, resolved.2.1.put network, resolved.2.2⟩ trivial
  | createVolume volume =>
    rcases bind_eq_ok.mp done with ⟨_, _, ⟨⟩⟩
    exact iff_of_true ⟨resolved.1, resolved.2.1, resolved.2.2.put volume⟩ trivial
  | createInstance | updateInstance =>
    simp only [perform, createInstance, updateInstance, bind_eq_ok, pure_eq_ok] at done
    rcases done with ⟨_, _, _, resolves, rfl⟩
    exact iff_of_true (resolved.putInstance resolves) trivial
  | renameInstance =>
    simp only [perform, renameInstance, bind_eq_ok] at done
    rcases done with ⟨current, _, _, resolves, _, _, done⟩
    split at done
    · obtain rfl := pure_eq_ok.mp done
      exact iff_of_true resolved trivial
    simp only [bind_eq_ok, pure_eq_ok] at done
    rcases done with ⟨_, _, rfl⟩
    refine iff_of_true (resolved.defines (fun spec member => ?_) fun _ => .inl) trivial
    rcases Definitions.mem_rename.mp member with rfl | ⟨old, _⟩
    · exact .inr (resolves_of_checkReferences resolves)
    · exact .inl old
  | deleteInstance =>
    rcases bind_eq_ok.mp done with ⟨spec, _, ⟨⟩⟩
    exact iff_of_true (resolved.defines (fun _ member => .inl (Definitions.mem_delete.mp member).1)
      fun _ => .inl) trivial
  | createSnapshot =>
    simp only [perform, createSnapshot, bind_eq_ok, pure_eq_ok] at done
    rcases done with ⟨_, _, _, resolves, rfl⟩
    refine iff_of_true (resolved.defines (fun _ => .inl)
      (Definitions.forall_mem_put ?_ fun _ old _ => .inl old)) trivial
    exact .inr (resolves_of_checkReferences resolves)
  | deleteSnapshot =>
    rcases bind_eq_ok.mp done with ⟨snapshot, _, ⟨⟩⟩
    exact iff_of_true (resolved.defines (fun _ => .inl) fun _ member =>
      .inl (Definitions.mem_delete.mp member).1) trivial

/-- As long as no deletion takes away what a definition refers to by its ID, every reference of
every instance and every snapshot resolves; the first call that does leaves one that does not. -/
theorem references_resolve (reached : Reached Spares store) :
    store.Resolved ∧ ∀ call after, store.perform call = .ok after →
    (after.Resolved ↔ store.Spares call) := by
  have resolved : store.Resolved := by
    induction reached with
    | empty => decide
    | call call _ spares done ih =>
      exact (resolved_perform ih done).mpr spares
  exact ⟨resolved, fun call after done => resolved_perform resolved done⟩

/-- An instance that refers to its kernel by this. -/
def usingKernel (kernelName : String) : Spec :=
  { (default : Spec) with id := "i1", name := "web", kernelName := kernelName, networkName := "default" }

def kernelAndNetwork : List Call :=
  [.createKernel ⟨"k1", "vmlinux"⟩,
    .createNetwork { (default : Network) with id := "n1", name := "default" }]

theorem references_resolve_by_name : ∃ store : Store, store.Resolved ∧ store.specs ≠ [] ∧
      ∀ call after, store.perform call = .ok after → (after.Resolved ↔ store.Spares call) := by
  rcases reached_of_calls Spares (fun store => store.specs ≠ [])
    (kernelAndNetwork ++ [.createInstance (usingKernel "vmlinux")]) (by decide +kernel) with
    ⟨store, reached, defined⟩
  exact ⟨store, (references_resolve reached).1, defined, (references_resolve reached).2⟩

/-- A kernel that an instance refers to by its ID can be deleted. -/
theorem references_dangle_by_id : ∃ store, Reached (fun _ _ => True) store ∧ ¬ store.Resolved :=
  reached_of_calls (fun _ _ => True) (fun store => ¬ store.Resolved)
    (kernelAndNetwork ++ [.createInstance (usingKernel "k1"), .deleteKernel "vmlinux"])
    (by decide +kernel)

end Store
end Dicer.FileStore
