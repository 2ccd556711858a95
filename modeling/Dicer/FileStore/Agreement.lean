import Dicer.FileStore.Directories

namespace Dicer.FileStore

open Function

open Instance (Spec)

variable {Data : Type} {yaml : Yaml Data} {name nameOrID : String} {directory : Directory Data}
    {spec : Spec} {filed : Filed Data}

/-!
# Maps and directories in agreement

Calls that return no error keep the two maps and the directories in agreement, as long as IDs are
not shared and are not names.  A call that fails may leave them apart: a rename whose definition
cannot be written has moved the directory already.
-/

/-- A valid name begins with a letter or a digit, so it is not one of a staging directory. -/
theorem isStaging_of_validate (valid : Naming.validate name = .ok ()) : isStaging name = false := by
  unfold Naming.validate at valid
  split at valid
  · exact absurd valid throw_ne_ok
  rename_i passed
  simp only [Naming.matchesPattern, Bool.or_eq_true, not_or, Bool.not_eq_true,
    Bool.not_eq_false'] at passed
  rw [isStaging, Bool.eq_false_iff]
  intro staging
  rcases List.isPrefixOf_iff_prefix.mp staging with ⟨rest, whole⟩
  have dotted : name.toList = '.' :: ("staging-".toList ++ rest) := by
    rw [← whole]
    rfl
  rw [dotted, List.splitOn, List.splitOnP_cons_eq_if_modifyHead] at passed
  simp [Naming.isLabel] at passed

namespace Tree

variable {tree : Tree Data}

theorem placed_insert (written : directory.config.bind yaml.unmarshal = some spec) (name : String) :
    Tree.placed (tree.insert spec.name directory) yaml name = update (tree.placed yaml) spec.name
    (some spec)
    name := by
  by_cases same : name = spec.name
  · subst same
    simp [placed, written]
  · simp [placed, same]

theorem placed_erase (old name : String) :
    Tree.placed (tree.erase old) yaml name = update (tree.placed yaml) old none name := by
  by_cases same : name = old
  · subst same
    simp [placed]
  · simp [placed, same]

theorem lookup_insert_isSome (new name : String) :
      (AList.lookup name (tree.insert new directory)).isSome = update
      (fun name => (tree.lookup name).isSome) new true name := by
  by_cases same : name = new
  · subst same
    simp
  · simp [same]

theorem lookup_erase_isSome (old name : String) : (AList.lookup name (tree.erase old)).isSome =
      update (fun name => (tree.lookup name).isSome) old false name := by
  by_cases same : name = old
  · subst same
    simp
  · simp [same]

theorem writeDefinition_ok {after : Tree Data} {faults : Faults Data}
    (written : tree.writeDefinition yaml faults spec = .ok after) :
      (tree.lookup spec.name).isSome = true ∧ ∃ directory : Directory Data,
      directory.config.bind yaml.unmarshal = some spec ∧
      after = tree.insert spec.name directory := by
  unfold writeDefinition at written
  split at written
  · exact absurd written throw_ne_ok
  · exact absurd written throw_ne_ok
  · exact absurd written throw_ne_ok
  · rename_i data directory marshalled found _
    exact ⟨by simp [found], { directory with config := some data },
      yaml.reads_back _ _ marshalled, (pure_eq_ok.mp written).symm⟩

theorem insert_mkdirAll : (tree.mkdirAll name).insert name directory = tree.insert name
    directory := by
  unfold mkdirAll
  split
  · rfl
  · rw [AList.insert_insert]

theorem rename_ok {after : Tree Data} {faults : Faults Data} {old new : String}
    (moved : tree.rename faults old new = .ok after) :
    ∃ directory, tree.lookup old = some directory ∧ after = (tree.erase old).insert new
    directory := by
  unfold rename at moved
  split at moved
  · exact absurd moved throw_ne_ok
  rename_i directory found
  split at moved
  · exact absurd moved throw_ne_ok
  · exact ⟨directory, found, (pure_eq_ok.mp moved).symm⟩

end Tree

namespace Maps

variable {maps : Maps}

theorem find_ok : maps.find nameOrID = .ok spec ↔ maps.lookup nameOrID = some spec := by
  unfold find
  cases maps.lookup nameOrID with
  | none | some => simp

theorem checkFree_ok {done : Unit} : maps.checkFree name = .ok done ↔ maps.lookup name = none := by
  unfold checkFree
  cases maps.lookup name with
  | none | some => simp

end Maps

namespace Filed

variable {filed after : Filed Data} {faults : Faults Data}

theorem createInstance_ok (done : filed.createInstance yaml faults spec = (.ok (), after)) :
    Naming.validate spec.name = .ok () ∧ filed.lookup spec.name = none ∧
      filed.references.checkReferences spec = .ok () ∧ ∃ directory : Directory Data,
        directory.config.bind yaml.unmarshal = some spec ∧
        after = { filed with toMaps := filed.putInstance spec, tree := filed.tree.insert spec.name directory } := by
  unfold createInstance at done
  split at done
  · cases done
  rename_i checked
  simp only [checkCreate, bind_eq_ok, Maps.checkFree_ok] at checked
  rcases checked with ⟨_, valid, _, free, resolves⟩
  dsimp only at done
  split at done
  · cases done
  split at done
  · cases done
  rename_i tree written
  rcases Tree.writeDefinition_ok written with ⟨_, directory, config, rfl⟩
  rw [Tree.insert_mkdirAll] at done
  exact ⟨valid, free, resolves, directory, config, (Prod.mk.inj done).2.symm⟩

theorem updateInstance_ok (done : filed.updateInstance yaml faults spec = (.ok (), after)) :
    (∃ old, filed.lookup spec.name = some old) ∧ filed.references.checkReferences spec = .ok () ∧
      (filed.tree.lookup spec.name).isSome = true ∧ ∃ directory : Directory Data,
        directory.config.bind yaml.unmarshal = some spec ∧
        after = { filed with toMaps := filed.putInstance spec, tree := filed.tree.insert spec.name directory } := by
  unfold updateInstance at done
  split at done
  · cases done
  rename_i checked
  simp only [checkUpdate, bind_eq_ok, Maps.find_ok] at checked
  rcases checked with ⟨old, found, resolves⟩
  split at done
  · cases done
  rename_i tree written
  rcases Tree.writeDefinition_ok written with ⟨there, directory, config, rfl⟩
  exact ⟨⟨old, found⟩, resolves, there, directory, config, (Prod.mk.inj done).2.symm⟩

variable {renamed : Spec}

theorem checkRename_some {current : Spec}
    (checked : filed.checkRename nameOrID renamed = .ok (some current)) :
      filed.lookup nameOrID = some current ∧ filed.references.checkReferences renamed = .ok () ∧
      Naming.validate renamed.name = .ok () ∧ renamed.name ≠ current.name ∧
      filed.lookup renamed.name = none := by
  simp only [checkRename, bind_eq_ok, Maps.find_ok] at checked
  rcases checked with ⟨found, isFound, _, resolves, _, valid, checked⟩
  split at checked
  · exact nomatch pure_eq_ok.mp checked
  rename_i different
  simp only [bind_eq_ok, Maps.checkFree_ok, pure_eq_ok, Option.some.injEq] at checked
  rcases checked with ⟨_, free, rfl⟩
  exact ⟨isFound, resolves, valid, different, free⟩

theorem renameInstance_ok (done : filed.renameInstance yaml faults nameOrID renamed =
    (.ok (), after)) : after = filed ∧ filed.checkRename nameOrID renamed = .ok none ∨
      ∃ current, filed.checkRename nameOrID renamed = .ok (some current) ∧
        ∃ directory : Directory Data, directory.config.bind yaml.unmarshal = some renamed ∧
        after = { filed with
          toMaps := Maps.putInstance
            { filed.toMaps with instances := update filed.instances current.name none } renamed
          tree := (filed.tree.erase current.name).insert renamed.name directory } := by
  unfold renameInstance at done
  split at done
  · exact nomatch done
  · rename_i checked
    exact .inl ⟨(Prod.mk.inj done).2.symm, checked⟩
  rename_i current checked
  split at done
  · exact nomatch done
  rename_i moved isMoved
  split at done
  · exact nomatch done
  rename_i tree written
  rcases Tree.rename_ok isMoved with ⟨_, _, rfl⟩
  rcases Tree.writeDefinition_ok written with ⟨_, directory, config, rfl⟩
  rw [AList.insert_insert] at done
  exact .inr ⟨current, checked, directory, config, (Prod.mk.inj done).2.symm⟩

theorem deleteInstance_ok (done : filed.deleteInstance faults nameOrID = (.ok (), after)) :
    ∃ spec, filed.lookup nameOrID = some spec ∧ after = filed.without spec := by
  unfold deleteInstance at done
  split at done
  · exact nomatch done
  rename_i spec found
  split at done
  · exact nomatch done
  · exact ⟨spec, Maps.find_ok.mp found, (Prod.mk.inj done).2.symm⟩

/-! ## Agreement -/

/-- Instances are held under their own names, no ID is shared or a name, the IDs are filed under the
names, and every instance has the one directory that bears its name, with its definition. -/
structure Agrees (yaml : Yaml Data) (filed : Filed Data) : Prop where
  own : ∀ name spec, filed.instances name = some spec → spec.name = name
  unstaged : ∀ name spec, filed.instances name = some spec → isStaging name = false
  identified : ∀ name spec, filed.instances name = some spec → spec.id ≠ ""
  indexed : ∀ id name, filed.namesByID id = some name ↔ ∃ spec, filed.instances name = some spec ∧
    spec.id = id
  apart : ∀ name spec, filed.instances name = some spec → filed.instances spec.id = none
  placed : ∀ name, filed.tree.placed yaml name = filed.instances name
  homes : ∀ name, (filed.tree.lookup name).isSome = (filed.instances name).isSome

/-- IDs are new when an instance is created, and are not names; later definitions of an instance
keep its ID. -/
def KeepsIDs (filed : Filed Data) : Call → Prop
  | .createInstance spec => spec.id ≠ "" ∧ spec.name ≠ spec.id ∧ filed.lookup spec.id = none
  | .updateInstance spec => ∀ old ∈ filed.lookup spec.name, spec.id = old.id
  | .renameInstance nameOrID renamed => ∀ old ∈ filed.lookup nameOrID, renamed.id = old.id
  | .deleteInstance _ => True

end Filed

namespace Definitions

variable {Item : Type} [Named Item]

theorem named_put {definitions : Definitions Item} {item : Item} :
    (definitions.put item).named name = update definitions.named (Named.name item)
    (some item) name := by
  by_cases same : name = Named.name item
  · simp [named, put, same]
  have different : ¬Named.name item = name := fun equal => same equal.symm
  rw [update_of_ne same, named, put, List.find?_cons_of_neg (by simpa using different),
    List.find?_filter]
  congr 1
  funext other
  by_cases isName : Named.name other = name
  · simp [isName, same]
  · simp [isName]

theorem named_without (definitions : Definitions Item) (old : Item)
    (namesByID : String → Option String) (name : String) :
    named ⟨definitions.items.filter fun other => Named.name other ≠ Named.name old, namesByID⟩
      name = update definitions.named (Named.name old) none name := by
  by_cases same : name = Named.name old
  · subst same
    rw [update_self]
    apply named_eq_none.mpr
    intro item member
    simpa using (List.mem_filter.mp member).2
  · rw [update_of_ne same]
    exact named_delete same

end Definitions

/-- The maps are those of a store that has the same kernels, networks and volumes. -/
structure Filed.Shows (filed : Filed Data) (store : Store) : Prop where
  instances : filed.instances = store.instances.named
  namesByID : filed.namesByID = store.instances.namesByID
  kernels : filed.references.kernels = store.kernels
  networks : filed.references.networks = store.networks
  volumes : filed.references.volumes = store.volumes

namespace Filed.Shows

variable {filed : Filed Data} {store : Store} (shows_ : filed.Shows store)
include shows_

theorem lookup (nameOrID : String) : filed.lookup nameOrID = store.instances.lookup nameOrID := by
  rw [Maps.lookup, Definitions.lookup, shows_.instances, shows_.namesByID]
  cases store.instances.named nameOrID with
  | some => rfl
  | none =>
    cases store.instances.namesByID nameOrID with
    | some | none => rfl

theorem find (found : filed.lookup nameOrID = some spec) : store.instance_ nameOrID = .ok spec :=
  Definitions.find_ok.mpr (shows_.lookup nameOrID ▸ found)

theorem checkReferences (spec : Spec) :
    filed.references.checkReferences spec = store.checkReferences spec := by
  have mounts : ∀ mounts, filed.references.checkMountReferences mounts = store.checkMountReferences
      mounts := by
    intro mounts
    induction mounts with
    | nil => rfl
    | cons mount rest ih =>
      rw [Store.checkMountReferences, Store.checkMountReferences, ih, Store.volume, Store.volume,
        shows_.volumes]
  rw [Store.checkReferences, Store.checkReferences, mounts, Store.kernel, Store.kernel,
    Store.network, Store.network, shows_.kernels, shows_.networks]

theorem checkNew (valid : Naming.validate name = .ok ()) (free : filed.lookup name = none)
    : store.instances.checkNew "instance" name = .ok () := by
  rw [shows_.lookup] at free
  simp [Definitions.checkNew, valid, free]

theorem put (spec : Spec) (tree : Tree Data) :
    Shows { filed with toMaps := filed.putInstance spec, tree := tree }
      { store with instances := store.instances.put spec } where
  instances := by
    funext name
    rw [Definitions.named_put]
    simp only [Maps.putInstance, shows_.instances]
    rfl
  namesByID := by
    simp only [Maps.putInstance, Definitions.put, shows_.namesByID]
    rfl
  kernels := shows_.kernels
  networks := shows_.networks
  volumes := shows_.volumes

/-- Without one of the instances, whatever becomes of the IDs. -/
theorem without (spec : Spec) {ofMaps ofStore : String → Option String} (same : ofMaps = ofStore)
    (tree : Tree Data) : Shows ⟨⟨update filed.instances spec.name none, ofMaps⟩, tree,
      filed.references⟩
    { store with instances :=
        ⟨store.instances.items.filter fun other => Named.name other ≠ Named.name spec, ofStore⟩ }
            where
  instances := by
    funext name
    rw [shows_.instances]
    exact (Definitions.named_without store.instances spec ofStore name).symm
  namesByID := same
  kernels := shows_.kernels
  networks := shows_.networks
  volumes := shows_.volumes

end Filed.Shows

def Filed.Call.onStore : Filed.Call → Store.Call
  | .createInstance spec => .createInstance spec
  | .updateInstance spec => .updateInstance spec
  | .renameInstance nameOrID renamed => .renameInstance nameOrID renamed
  | .deleteInstance nameOrID => .deleteInstance nameOrID

namespace Filed

theorem perform_failed {after : Filed Data} {store : Store} {faults : Faults Data} {call : Call}
    {error : Err} (shows_ : filed.Shows store)
    (failed : filed.perform yaml faults call = (.error error, after)) :
    after.Shows store := by
  cases call with
  | createInstance | updateInstance | renameInstance | deleteInstance =>
    simp only [perform, createInstance, updateInstance, renameInstance, deleteInstance] at failed
    repeat' split at failed
    all_goals
      cases failed
      try exact { shows_ with }

/-- Whether or not it fails, a call leaves the maps or does to them what the store's call does to
its definitions. -/
theorem perform_refines {store : Store} (shows_ : filed.Shows store) (faults : Faults Data)
    (call : Call) : (filed.perform yaml faults call).2.Shows store ∨
      ∃ later, store.perform call.onStore = .ok later ∧
      (filed.perform yaml faults call).2.Shows later := by
  rcases outcome : filed.perform yaml faults call with ⟨_ | _, after⟩
  · exact .inl (perform_failed shows_ outcome)
  cases call with
  | createInstance spec =>
    rcases createInstance_ok outcome with ⟨valid, free, resolves, directory, _, rfl⟩
    rw [shows_.checkReferences] at resolves
    refine .inr ⟨_, ?_, shows_.put spec _⟩
    exact bind_eq_ok.mpr ⟨(), shows_.checkNew valid free, bind_eq_ok.mpr ⟨(), resolves, rfl⟩⟩
  | updateInstance spec =>
    rcases updateInstance_ok outcome with ⟨⟨old, found⟩, resolves, _, directory, _, rfl⟩
    rw [shows_.checkReferences] at resolves
    refine .inr ⟨_, ?_, shows_.put spec _⟩
    exact bind_eq_ok.mpr ⟨old, shows_.find found, bind_eq_ok.mpr ⟨(), resolves, rfl⟩⟩
  | renameInstance nameOrID renamed =>
    rcases renameInstance_ok outcome with ⟨rfl, _⟩ | ⟨current, checked, directory, _, rfl⟩
    · exact .inl shows_
    rcases checkRename_some checked with ⟨found, resolves, valid, different, free⟩
    rw [shows_.checkReferences] at resolves
    refine .inr ⟨_, ?_, (shows_.without current shows_.namesByID filed.tree).put renamed _⟩
    refine bind_eq_ok.mpr ⟨current, shows_.find found,
      bind_eq_ok.mpr ⟨(), resolves, bind_eq_ok.mpr ⟨(), valid, ?_⟩⟩⟩
    rw [if_neg different]
    exact bind_eq_ok.mpr ⟨(), shows_.checkNew valid free, rfl⟩
  | deleteInstance =>
    rcases deleteInstance_ok outcome with ⟨spec, found, rfl⟩
    refine .inr ⟨_, bind_eq_ok.mpr ⟨spec, shows_.find found, rfl⟩, shows_.without spec ?_ _⟩
    rw [shows_.namesByID]
    rfl

end Filed

/-! ## What calls keep -/

/-- Every instance has the one directory that bears its name, with its definition. -/
structure Tree.Holds (yaml : Yaml Data) (tree : Tree Data) (instances : String → Option Spec) :
    Prop where
  unstaged : ∀ name spec, instances name = some spec → isStaging name = false
  placed : ∀ name, tree.placed yaml name = instances name
  homes : ∀ name, (tree.lookup name).isSome = (instances name).isSome

namespace Tree.Holds

variable {tree : Tree Data} {instances : String → Option Spec}

theorem put (holds : tree.Holds yaml instances) (unstaged : isStaging spec.name = false)
    (config : directory.config.bind yaml.unmarshal = some spec) :
    Holds yaml (tree.insert spec.name directory) (update instances spec.name (some spec)) where
  unstaged := by
    intro name other held
    rcases update_eq_some_iff.mp held with ⟨rfl, _⟩ | ⟨_, stays⟩
    · exact unstaged
    · exact holds.unstaged name other stays
  placed := by
    intro name
    rw [Tree.placed_insert config, funext holds.placed]
  homes := by
    intro name
    rw [Tree.lookup_insert_isSome, funext holds.homes]
    by_cases same : name = spec.name
    · simp [same]
    · simp [same]

theorem without (holds : tree.Holds yaml instances) (gone : String) :
    Holds yaml (tree.erase gone) (update instances gone none) where
  unstaged := fun name other stays => holds.unstaged name other (update_none_eq_some_iff.mp stays).2
  placed := by
    intro name
    rw [Tree.placed_erase, funext holds.placed]
  homes := by
    intro name
    rw [Tree.lookup_erase_isSome, funext holds.homes]
    by_cases same : name = gone
    · simp [same]
    · simp [same]

end Tree.Holds

namespace Filed

/-- The maps show a store whose definitions are in step with their IDs, and the directories hold
them. -/
structure Mirrors (yaml : Yaml Data) (filed : Filed Data) (store : Store) :
    Prop extends filed.Shows store where
  coherent : store.instances.Coherent
  holds : filed.tree.Holds yaml filed.instances

theorem mirrors_fresh (yaml : Yaml Data) (references : Store) :
    (fresh references).Mirrors yaml { references with instances := .empty } where
  instances := rfl
  namesByID := rfl
  kernels := rfl
  networks := rfl
  volumes := rfl
  coherent := Definitions.coherent_empty
  holds := ⟨fun _ _ => nofun, fun _ => rfl, fun _ => rfl⟩

theorem Mirrors.perform {filed after : Filed Data} {store : Store} {faults : Faults Data}
    {call : Call} (mirrors : filed.Mirrors yaml store) (keeps : filed.KeepsIDs call)
    (done : filed.perform yaml faults call = (.ok (), after)) :
    ∃ later, after.Mirrors yaml later := by
  have coherent := mirrors.coherent
  cases call with
  | createInstance spec =>
    rcases createInstance_ok done with ⟨valid, free, _, directory, config, rfl⟩
    rcases keeps with ⟨identified, ownName, fresh⟩
    rw [mirrors.lookup] at free fresh
    exact ⟨_, mirrors.toShows.put spec _, coherent.create identified ownName free fresh,
      mirrors.holds.put (isStaging_of_validate valid) config⟩
  | updateInstance spec =>
    rcases updateInstance_ok done with ⟨_, _, there, directory, config, rfl⟩
    -- The directory is there, so what was looked up by the name has the name.
    rw [mirrors.holds.homes] at there
    rcases Option.isSome_iff_exists.mp there with ⟨old, held⟩
    rcases Definitions.named_mem (mirrors.instances ▸ held) with ⟨member, sameName⟩
    have found : filed.lookup spec.name = some old := by
      rw [mirrors.lookup]
      exact coherent.lookup_eq_some.mpr ⟨member, .inl sameName⟩
    exact ⟨_, mirrors.toShows.put spec _, coherent.replace member sameName.symm (keeps old found),
      mirrors.holds.put (mirrors.holds.unstaged _ _ held) config⟩
  | renameInstance nameOrID renamed =>
    rcases renameInstance_ok done with ⟨rfl, _⟩ | ⟨current, checked, directory, config, rfl⟩
    · exact ⟨store, mirrors⟩
    rcases checkRename_some checked with ⟨found, _, valid, _, free⟩
    have sameID := keeps current found
    rw [mirrors.lookup] at found free
    have member := (coherent.lookup_eq_some.mp found).1
    have ownName : renamed.name ≠ renamed.id := by
      rw [sameID]
      exact (coherent.lookup_eq_none.mp free current member).2.symm
    exact ⟨_, (mirrors.without current mirrors.namesByID filed.tree).put renamed _,
      coherent.rename member sameID ownName free,
      (mirrors.holds.without current.name).put (isStaging_of_validate valid) config⟩
  | deleteInstance =>
    rcases deleteInstance_ok done with ⟨spec, found, rfl⟩
    rw [mirrors.lookup] at found
    have sameIDs : update filed.namesByID spec.id none = update store.instances.namesByID
        (Named.id spec) none := by
      rw [mirrors.namesByID]
      rfl
    exact ⟨_, mirrors.without spec sameIDs _, coherent.delete (coherent.lookup_eq_some.mp found).1,
      mirrors.holds.without spec.name⟩

theorem mirrors_of_reached {references : Store} {filed : Filed Data}
    (reached : Reached yaml references KeepsIDs filed) : ∃ store, filed.Mirrors yaml store := by
  induction reached with
  | fresh => exact ⟨_, mirrors_fresh yaml references⟩
  | call faults call _ keeps done ih =>
    rcases ih with ⟨store, mirrors⟩
    exact mirrors.perform keeps done

namespace Mirrors

variable {store : Store} (mirrors : filed.Mirrors yaml store)
include mirrors

theorem held_iff : filed.instances name = some spec ↔ spec ∈ store.instances.items ∧
    spec.name = name := by
  rw [mirrors.instances]
  constructor
  · exact Definitions.named_mem
  · rintro ⟨member, rfl⟩
    exact mirrors.coherent.named_name member

theorem agrees : filed.Agrees yaml where
  own := fun _ _ held => (mirrors.held_iff.mp held).2
  unstaged := mirrors.holds.unstaged
  identified := fun _ _ held => mirrors.coherent.identified _ (mirrors.held_iff.mp held).1
  indexed := by
    intro id name
    simp only [mirrors.held_iff, mirrors.namesByID, mirrors.coherent.indexed, and_assoc,
      and_comm (a := _ = name)]
    rfl
  apart := by
    intro name spec held
    rw [mirrors.instances]
    exact Definitions.named_eq_none.mpr fun other member =>
      mirrors.coherent.apart other member spec (mirrors.held_iff.mp held).1
  placed := mirrors.holds.placed
  homes := mirrors.holds.homes

theorem lookup_held (held : filed.instances name = some spec) :
    filed.lookup spec.name = some spec ∧ filed.lookup spec.id = some spec := by
  have member := (mirrors.held_iff.mp held).1
  rw [mirrors.lookup, mirrors.lookup]
  exact ⟨mirrors.coherent.lookup_eq_some.mpr ⟨member, .inl rfl⟩, mirrors.coherent.lookup_id member⟩

theorem name_of_id {first second : String} {firstSpec secondSpec : Spec}
    (firstHeld : filed.instances first = some firstSpec)
    (secondHeld : filed.instances second = some secondSpec)
    (sameID : firstSpec.id = secondSpec.id) : first = second := by
  rcases mirrors.held_iff.mp firstHeld with ⟨firstMember, rfl⟩
  rcases mirrors.held_iff.mp secondHeld with ⟨secondMember, rfl⟩
  rw [mirrors.coherent.ids _ firstMember _ secondMember sameID]

end Mirrors
end Filed

/-! ## Loading -/

section

variable {tree : Tree Data}

theorem name_of_placed (placed : tree.placed yaml name = some spec) : spec.name = name := by
  have named := (Option.filter_eq_some_iff.mp placed).2
  exact of_decide_eq_true named

theorem instances_loadFrom (names : List String) (maps : Maps) (name : String) :
    (loadFrom yaml tree names maps).instances name =
      if name ∈ names then (tree.placed yaml name).or (maps.instances name)
      else maps.instances name := by
  induction names generalizing maps with
  | nil => simp [loadFrom]
  | cons first rest ih =>
    rw [loadFrom, List.foldl_cons]
    change (loadFrom yaml tree rest _).instances name = _
    rw [ih]
    cases placed : tree.placed yaml first with
    | none =>
      by_cases same : name = first
      · simp [same, placed]
      · simp [same]
    | some =>
      have isName := name_of_placed placed
      by_cases same : name = first
      · simp [same, placed, Maps.putInstance, isName]
      · simp [same, Maps.putInstance, isName]

/-- No ID is filed under one name for a definition that another name holds. -/
theorem namesByID_loadFrom (identified : ∀ name spec, tree.placed yaml name = some spec →
    spec.id ≠ "") (unique : ∀ first second one two, tree.placed yaml first = some one →
      tree.placed yaml second = some two → one.id = two.id → first = second) (names : List String)
      (maps : Maps)
    (known : ∀ id name, maps.namesByID id = some name → ∃ spec, tree.placed yaml name = some spec ∧
      spec.id = id)
    (id name : String) :
    (loadFrom yaml tree names maps).namesByID id = some name ↔
      maps.namesByID id = some name ∨ name ∈ names ∧ ∃ spec, tree.placed yaml name = some spec ∧
      spec.id = id := by
  induction names generalizing maps with
  | nil => simp [loadFrom]
  | cons first rest ih =>
    rw [loadFrom, List.foldl_cons]
    change (loadFrom yaml tree rest _).namesByID id = some name ↔ _
    cases placed : tree.placed yaml first with
    | none =>
      rw [ih maps known, List.mem_cons]
      constructor
      · rintro (before | ⟨member, isPlaced⟩)
        · exact .inl before
        · exact .inr ⟨.inr member, isPlaced⟩
      · rintro (before | ⟨rfl | member, spec, isPlaced, sameID⟩)
        · exact .inl before
        · cases placed.symm.trans isPlaced
        · exact .inr ⟨member, spec, isPlaced, sameID⟩
    | some spec =>
      have put : (maps.putInstance spec).namesByID = update maps.namesByID spec.id
          (some first) := by
        rw [Maps.putInstance, if_neg (identified first spec placed), name_of_placed placed]
      have stillKnown : ∀ id name, (maps.putInstance spec).namesByID id = some name →
          ∃ spec, tree.placed yaml name = some spec ∧ spec.id = id := by
        intro id name filedUnder
        rw [put] at filedUnder
        rcases update_eq_some_iff.mp filedUnder with ⟨rfl, rfl⟩ | ⟨_, before⟩
        · exact ⟨spec, placed, rfl⟩
        · exact known id name before
      rw [ih _ stillKnown, put, update_eq_some_iff, List.mem_cons]
      constructor
      · rintro ((⟨rfl, rfl⟩ | ⟨_, before⟩) | ⟨member, isPlaced⟩)
        · exact .inr ⟨.inl rfl, spec, placed, rfl⟩
        · exact .inl before
        · exact .inr ⟨.inr member, isPlaced⟩
      · -- An ID that is this definition's is filed under its name, which no other has.
        have own : ∀ other, tree.placed yaml name = some other → other.id = id → id = spec.id →
            name = first :=
          fun other isPlaced sameID ownID => unique _ _ _ _ isPlaced placed (sameID.trans ownID)
        by_cases ownID : id = spec.id
        · rintro (before | ⟨_, other, isPlaced, sameID⟩)
          · rcases known _ _ before with ⟨other, isPlaced, sameID⟩
            exact .inl (.inl ⟨ownID, own other isPlaced sameID ownID⟩)
          · exact .inl (.inl ⟨ownID, own other isPlaced sameID ownID⟩)
        · rintro (before | ⟨rfl | member, other, isPlaced, sameID⟩)
          · exact .inl (.inr ⟨ownID, before⟩)
          · exact absurd (Option.some.inj (isPlaced.symm.trans placed) ▸ sameID.symm) ownID
          · exact .inr ⟨member, other, isPlaced, sameID⟩

end

theorem Filed.Mirrors.load {store : Store} (mirrors : filed.Mirrors yaml store) :
    loadInstances yaml filed.tree = filed.toMaps := by
  have agrees := mirrors.agrees
  have listed : ∀ name spec, filed.instances name = some spec →
      name ∈ (filed.tree.keys.filter fun name => !isStaging name).insertionSort fun first second =>
          first ≤ second := by
    intro name spec held
    have there : (filed.tree.lookup name).isSome = true := by
      rw [agrees.homes, held]
      rfl
    rw [List.mem_insertionSort, List.mem_filter]
    exact ⟨AList.mem_keys.mp (AList.lookup_isSome.mp there),
      by simp [agrees.unstaged name spec held]⟩
  have instances : (loadInstances yaml filed.tree).instances = filed.instances := by
    funext name
    rw [loadInstances, instances_loadFrom, agrees.placed]
    cases held : filed.instances name with
    | none => simp [Maps.empty]
    | some spec => simp [listed name spec held]
  have namesByID : (loadInstances yaml filed.tree).namesByID = filed.namesByID := by
    funext id
    apply Option.ext
    intro name
    rw [loadInstances, namesByID_loadFrom, agrees.indexed]
    · simp only [agrees.placed, Maps.empty, reduceCtorEq, false_or]
      constructor
      · exact And.right
      · rintro ⟨spec, held, sameID⟩
        exact ⟨listed name spec held, spec, held, sameID⟩
    · intro name spec placed
      exact agrees.identified name spec (agrees.placed name ▸ placed)
    · intro first second one two firstPlaced secondPlaced sameID
      exact mirrors.name_of_id (agrees.placed first ▸ firstPlaced)
        (agrees.placed second ▸ secondPlaced) sameID
    · exact nofun
  calc
    loadInstances yaml filed.tree = ⟨(loadInstances yaml filed.tree).instances,
    (loadInstances yaml filed.tree).namesByID⟩ := rfl
    _ = filed.toMaps := by rw [instances, namesByID]

/-- Definitions written as they are. -/
def Yaml.plain : Yaml Spec where
  marshal := .ok
  unmarshal := some
  reads_back := by
    rintro spec data ⟨⟩
    rfl

namespace Filed

/-- Calls that return no error keep every instance under its own name and its ID under that name, so
that both find one definition, and a new store finds the same in the directories. -/
theorem definitions_agree {references : Store} {filed : Filed Data}
    (reached : Reached yaml references KeepsIDs filed) :
      (∀ name spec, filed.instances name = some spec → spec.name = name) ∧
      (∀ id name, filed.namesByID id = some name ↔ ∃ spec, filed.instances name = some spec ∧
      spec.id = id) ∧
      (∀ name spec, filed.instances name = some spec →
        filed.lookup spec.name = some spec ∧ filed.lookup spec.id = some spec) ∧
      loadInstances yaml filed.tree = filed.toMaps := by
  rcases mirrors_of_reached reached with ⟨store, mirrors⟩
  exact ⟨mirrors.agrees.own, mirrors.agrees.indexed, fun _ _ => mirrors.lookup_held, mirrors.load⟩

theorem Reached.perform {references : Store} {meets : Filed Data → Call → Prop}
    (reached : Reached yaml references meets filed) (faults : Faults Data) (call : Call)
    (met : meets filed call) (succeeds : (filed.perform yaml faults call).1.toBool = true) :
    Reached yaml references meets (filed.perform yaml faults call).2 := by
  refine .call faults call reached met (Prod.ext ?_ rfl)
  cases result : (filed.perform yaml faults call).1 with
  | ok => rfl
  | error =>
    rw [result] at succeeds
    exact nomatch succeeds

/-- A store with a kernel and a network. -/
def oneKernel : Store :=
  { Store.empty with
    kernels := Definitions.empty.put ⟨"k1", "vmlinux"⟩
    networks := Definitions.empty.put { (default : Networks.Network) with id := "n1", name := "default" } }

def called (name : String) : Spec := { Store.usingKernel "vmlinux" with name := name }

/-- An instance that is created and renamed. -/
def created : Filed Spec :=
  ((fresh oneKernel).perform .plain .none (.createInstance (called "web"))).2

def renamed : Filed Spec :=
  (created.perform .plain .none (.renameInstance "i1" (called "www"))).2

theorem reached_renamed : Reached .plain oneKernel KeepsIDs renamed := by
  have isCreated : Reached .plain oneKernel KeepsIDs created :=
    Reached.fresh.perform .none _ ⟨by decide, by decide, by decide⟩ (by decide +kernel)
  refine isCreated.perform .none _ ?_ (by decide +kernel)
  intro old found
  have isOld : created.lookup "i1" = some (called "web") := by decide +kernel
  rw [Option.mem_def, isOld] at found
  rw [← Option.some.inj found]
  rfl

theorem definitions_agree_renamed :
    renamed.lookup "i1" = some (called "www") ∧ renamed.lookup "www" = some (called "www") ∧
      renamed.lookup "web" = none ∧ loadInstances .plain renamed.tree = renamed.toMaps := by
  rcases definitions_agree reached_renamed with ⟨_, _, found, loaded⟩
  have held : renamed.instances "www" = some (called "www") := by decide +kernel
  exact ⟨(found _ _ held).2, (found _ _ held).1, by decide +kernel, loaded⟩

/-- Whichever of their file operations fail, calls on the directories and maps do to the maps what
calls on a store do. -/
theorem filed_refines_store (yaml : Yaml Data) {references : Store} {filed : Filed Data}
    (reached : Relation.ReflTransGen
      (fun before after => ∃ faults call, (perform before yaml faults call).2 = after)
      (fresh references) filed) :
    ∃ store, filed.Shows store ∧ Relation.ReflTransGen
      (fun before after => ∃ call : Call, before.perform call.onStore = .ok after)
      { references with instances := .empty } store := by
  induction reached with
  | refl => exact ⟨_, (mirrors_fresh yaml references).toShows, .refl⟩
  | tail _ step ih =>
    rcases ih with ⟨store, shows_, run⟩
    rcases step with ⟨faults, call, rfl⟩
    rcases perform_refines shows_ faults call with stays | ⟨later, performed, showsLater⟩
    · exact ⟨store, stays, run⟩
    · exact ⟨later, showsLater, run.tail ⟨call, performed⟩⟩

/-- The directory moves, and then the new definition cannot be written. -/
def halfRenamed : Except Err Unit × Filed Spec :=
  created.perform .plain ⟨false, false, some .sync, none⟩ (.renameInstance "i1" (called "www"))

theorem filed_refines_store_half_renamed : halfRenamed.1 = .error (.host "sync instances/www") ∧
    ∃ store, halfRenamed.2.Shows store := by
  have run : ∃ store, halfRenamed.2.Shows store ∧ _ :=
    filed_refines_store .plain (.tail (.single ⟨_, _, rfl⟩) ⟨_, _, rfl⟩)
  exact ⟨rfl, run.imp fun _ => And.left⟩

end Filed
end Dicer.FileStore
