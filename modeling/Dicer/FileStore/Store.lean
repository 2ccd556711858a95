import Dicer.Instance.Spec
import Dicer.Networks.Network
import Mathlib.Data.List.Sort

namespace Dicer.FileStore

open Networks (Network)
open Instance (Spec Snapshot Volume Mount)

/-!
# The store

A write holds the store's write lock from its checks to the map it changes, so it is one step here.
One whose file operation fails returns that error and leaves the definitions as they are, so the
calls below are those whose file operations succeed.  Of a kernel only what other definitions refer
to is modelled.

Nothing asks where a definition comes from: an ID may be empty, in use already, or another
definition's name.
-/

structure Kernel where
  id : String
  name : String
  deriving DecidableEq, Repr

instance : Named Kernel where
  name := Kernel.name
  id := Kernel.id

instance : Inhabited Kernel where
  default := ⟨"", ""⟩

namespace Definitions

variable {Item : Type} [Named Item]

/-- Every definition, by name. -/
def sorted (definitions : Definitions Item) : List Item :=
  definitions.items.insertionSort fun first second => Named.name first ≤ Named.name second

theorem mem_sorted {definitions : Definitions Item} {item : Item} :
    item ∈ definitions.sorted ↔ item ∈ definitions.items :=
  List.mem_insertionSort _

variable [Inhabited Item]

/-- The definition of a name or an ID, or an error that says there is none of this kind. -/
def find (kind : String) (definitions : Definitions Item) (nameOrID : String) : Except Err Item :=
  match definitions.lookup nameOrID with
  | some item => pure item
  | none => throw (.notFound ("no " ++ kind ++ " " ++ quoted nameOrID))

/-- A new definition's name is a valid one, and nothing of its kind is found by it. -/
def checkNew (kind : String) (definitions : Definitions Item) (name : String) : Except Err Unit :=
    do
  Naming.validate name
  if (definitions.lookup name).isSome then
    throw (.alreadyExists (kind ++ " " ++ quoted name ++ " already exists"))
  else pure ()

theorem find_ok {kind : String} {definitions : Definitions Item} {nameOrID : String} {item : Item} :
    definitions.find kind nameOrID = .ok item ↔ definitions.lookup nameOrID = some item := by
  unfold find
  cases definitions.lookup nameOrID with
  | none | some => simp

end Definitions

structure Store where
  instances : Definitions Spec
  snapshots : Definitions Snapshot
  networks : Definitions Network
  volumes : Definitions Volume
  kernels : Definitions Kernel

namespace Store

def empty : Store := ⟨.empty, .empty, .empty, .empty, .empty⟩

variable (store : Store) (nameOrID : String)

def instance_ : Except Err Spec :=
  store.instances.find "instance" nameOrID

def snapshot (store : Store) (nameOrID : String) : Except Err Snapshot :=
  store.snapshots.find "snapshot" nameOrID

def network (store : Store) (nameOrID : String) : Except Err Network :=
  store.networks.find "network" nameOrID

def volume (store : Store) (nameOrID : String) : Except Err Volume :=
  store.volumes.find "volume" nameOrID

def kernel (store : Store) (nameOrID : String) : Except Err Kernel :=
  store.kernels.find "kernel" nameOrID

/-- What is looked up is there; if not, the definition that names it is at fault. -/
def mustExist {Item : Type} (found : Except Err Item) : Except Err Unit :=
  match found with
  | .ok _ => pure ()
  | .error error => throw (.invalidArgument error.message)

def checkMountReferences (store : Store) : List Mount → Except Err Unit
  | [] => pure ()
  | mount :: rest => do
    if mount.isVolume then mustExist (store.volume mount.source)
    store.checkMountReferences rest

/-- What a definition refers to exists. -/
def checkReferences (spec : Spec) : Except Err Unit := do
  mustExist (store.kernel spec.kernelName)
  mustExist (store.network spec.networkName)
  store.checkMountReferences spec.mounts

/-- No instance and no snapshot uses what is to be deleted. -/
def checkUnused (kind name : String) (uses : Spec → Bool) : Except Err Unit :=
  match store.instances.sorted.find? uses with
  | some spec =>
    throw (.invalidState (kind ++ " " ++ quoted name ++ " is in use by instance " ++
      quoted spec.name))
  | none =>
    match store.snapshots.sorted.find? fun snapshot => uses snapshot.spec with
    | some snapshot =>
      throw (.invalidState (kind ++ " " ++ quoted name ++ " is in use by snapshot " ++
        quoted snapshot.name ++ ": delete the snapshot first"))
    | none => pure ()

/-! ## Kernels, networks and volumes -/

def createKernel (kernel : Kernel) : Except Err Store := do
  store.kernels.checkNew "kernel" kernel.name
  return { store with kernels := store.kernels.put kernel }

def updateKernel (kernel : Kernel) : Except Err Store := do
  let _ ← store.kernel kernel.name
  return { store with kernels := store.kernels.put kernel }

def deleteKernel : Except Err Store := do
  let kernel ← store.kernel nameOrID
  store.checkUnused "kernel" kernel.name fun spec => spec.kernelName = kernel.name
  return { store with kernels := store.kernels.delete kernel }

def createNetwork (network : Network) : Except Err Store := do
  store.networks.checkNew "network" network.name
  return { store with networks := store.networks.put network }

def deleteNetwork : Except Err Store := do
  let network ← store.network nameOrID
  store.checkUnused "network" network.name fun spec => spec.networkName = network.name
  return { store with networks := store.networks.delete network }

def createVolume (volume : Volume) : Except Err Store := do
  store.volumes.checkNew "volume" volume.name
  return { store with volumes := store.volumes.put volume }

def deleteVolume : Except Err Store := do
  let volume ← store.volume nameOrID
  store.checkUnused "volume" volume.name fun spec => (spec.volumeMount volume.name).isSome
  return { store with volumes := store.volumes.delete volume }

def createInstance (spec : Spec) : Except Err Store := do
  store.instances.checkNew "instance" spec.name
  store.checkReferences spec
  return { store with instances := store.instances.put spec }

def updateInstance (spec : Spec) : Except Err Store := do
  let _ ← store.instance_ spec.name
  store.checkReferences spec
  return { store with instances := store.instances.put spec }

/-- A new name is checked after the references, and one that is the old name changes nothing. -/
def renameInstance (renamed : Spec) : Except Err Store := do
  let current ← store.instance_ nameOrID
  store.checkReferences renamed
  Naming.validate renamed.name
  if renamed.name = current.name then return store
  else
    store.instances.checkNew "instance" renamed.name
    return { store with instances := store.instances.rename current renamed }

def deleteInstance : Except Err Store := do
  let spec ← store.instance_ nameOrID
  return { store with instances := store.instances.delete spec }

def createSnapshot (snapshot : Snapshot) : Except Err Store := do
  store.snapshots.checkNew "snapshot" snapshot.name
  store.checkReferences snapshot.spec
  return { store with snapshots := store.snapshots.put snapshot }

def deleteSnapshot : Except Err Store := do
  let snapshot ← store.snapshot nameOrID
  return { store with snapshots := store.snapshots.delete snapshot }

inductive Call
  | createKernel (kernel : Kernel)
  | updateKernel (kernel : Kernel)
  | deleteKernel (nameOrID : String)
  | createNetwork (network : Network)
  | deleteNetwork (nameOrID : String)
  | createVolume (volume : Volume)
  | deleteVolume (nameOrID : String)
  | createInstance (spec : Spec)
  | updateInstance (spec : Spec)
  | renameInstance (nameOrID : String) (renamed : Spec)
  | deleteInstance (nameOrID : String)
  | createSnapshot (snapshot : Snapshot)
  | deleteSnapshot (nameOrID : String)

def perform : Call → Except Err Store
  | .createKernel kernel => store.createKernel kernel
  | .updateKernel kernel => store.updateKernel kernel
  | .deleteKernel nameOrID => store.deleteKernel nameOrID
  | .createNetwork network => store.createNetwork network
  | .deleteNetwork nameOrID => store.deleteNetwork nameOrID
  | .createVolume volume => store.createVolume volume
  | .deleteVolume nameOrID => store.deleteVolume nameOrID
  | .createInstance spec => store.createInstance spec
  | .updateInstance spec => store.updateInstance spec
  | .renameInstance nameOrID renamed => store.renameInstance nameOrID renamed
  | .deleteInstance nameOrID => store.deleteInstance nameOrID
  | .createSnapshot snapshot => store.createSnapshot snapshot
  | .deleteSnapshot nameOrID => store.deleteSnapshot nameOrID

/-- The stores that calls which return no error lead to, each call meeting a condition on the store
it is made on. -/
inductive Reached (meets : Store → Call → Prop) : Store → Prop
  | empty : Reached meets .empty
  | call {store after : Store} (call : Call) : Reached meets store → meets store call →
      store.perform call = .ok after → Reached meets after

/-- Make calls one after another, as long as they return no error and meet the condition. -/
def follow (meets : Store → Call → Prop) [∀ store call, Decidable (meets store call)]
    (store : Store) : List Call → Option Store
  | [] => some store
  | call :: rest =>
    if meets store call then
      match store.perform call with
      | .ok after => after.follow meets rest
      | .error _ => none
    else none

theorem Reached.follow {meets : Store → Call → Prop} [∀ store call, Decidable (meets store call)]
    {store after : Store} (calls : List Call) (reached : Reached meets store)
    (followed : store.follow meets calls = some after) : Reached meets after := by
  induction calls generalizing store with
  | nil =>
    cases followed
    exact reached
  | cons call rest ih =>
    simp only [Store.follow] at followed
    split at followed
    · rename_i met
      split at followed
      · rename_i between done
        exact ih (.call call reached met done) followed
      · simp at followed
    · simp at followed

/-- Calls that can be evaluated show what some sequence of calls leads to. -/
theorem reached_of_calls (meets : Store → Call → Prop) [∀ store call, Decidable (meets store call)]
    (shows : Store → Prop) [DecidablePred shows] (calls : List Call)
    (shown : (Store.empty.follow meets calls).any (fun store => decide (shows store)) = true) :
    ∃ store, Reached meets store ∧ shows store := by
  rcases (Option.any_eq_true _ _).mp shown with ⟨store, followed, shows⟩
  exact ⟨store, Reached.empty.follow calls followed, of_decide_eq_true shows⟩

end Store
end Dicer.FileStore
