import Dicer.Concurrency.Safety
import Dicer.Errors
import Mathlib.Data.List.AList
import Mathlib.Data.List.Sort

namespace Dicer.Images

/-!
# The image manager's state

The images on this host are kept twice: in an index in memory, and as files, of which an image's
disk and its metadata are modelled.  Files are kept by the hex part of an image's digest, which
stands for the digest.  Of an image only what the manager itself looks at is modelled.

The pulls under way are kept by digest.  A pull is a goroutine of its own with a context of its own,
which everyone who wants the image waits for.

Times are counted from some point on and pass by themselves.
-/

structure Image where
  name : String
  digest : String
  sizeBytes : Nat
  createdAt : Nat
  lastUsedAt : Nat
  deriving DecidableEq, Repr

/-- A parsed reference, normalised, and the digest it names if it is not a tag. -/
structure Ref where
  name : String
  digest : Option String
  deriving DecidableEq, Repr

structure ResolvedRef where
  name : String
  digest : String
  deriving DecidableEq, Repr

/-- What an image's directory holds. -/
structure Files where
  disk : Bool
  metadata : Option Image
  deriving DecidableEq, Repr

/-- How far a thread in `loadOrPull` is: the image is not in the index, its disk is there too, or
the image was found in the index or put there. -/
inductive Stage
  | missing
  | ready
  | stored
  deriving DecidableEq, Repr

structure Load where
  digest : String
  stage : Stage
  deriving DecidableEq, Repr

/-- How far a pull's goroutine is: not begun, in `loadOrPull`, back from it, no longer among the
pulls under way, and done. -/
inductive Phase
  | started
  | running
  | returned
  | removed
  | done
  deriving DecidableEq, Repr

namespace Phase

/-- The pull is among those under way. -/
def underWay : Phase → Bool
  | started | running | returned => true
  | removed | done => false

/-- `loadOrPull` has not returned. -/
def unfinished : Phase → Bool
  | started | running => true
  | returned | removed | done => false

end Phase

/-- A pull.  Who runs it, how far it is, and whether its context was cancelled before `loadOrPull`
returned are kept for stating what holds of it. -/
structure Pull where
  resolved : ResolvedRef
  waiters : Nat
  abandoned : Bool
  cancelled : Bool
  result : Option (Except Err Image)
  phase : Phase
  owner : Option Nat
  cutShort : Bool

/-- An instance or a snapshot, the image it needs, and when it was defined. -/
structure User where
  name : String
  digest : String
  definedAt : Nat
  deriving DecidableEq, Repr

/-- What a call that is to return an image has found, and the use it has recorded of it. -/
structure Find where
  digest : String
  use : Option Nat
  deriving DecidableEq, Repr

/-- What a garbage collection pass goes by: the images in use, the time, and the images it has
listed. -/
structure Pass where
  inUse : List String
  now : Option Nat
  listed : List Image
  deriving DecidableEq, Repr

/-- What is kept by thread. -/
abbrev ByThread (Value : Type) := AList fun _ : Nat => Value

namespace ByThread

variable {Value : Type} (table : ByThread Value)

def set (thread : Nat) : Option Value → ByThread Value
  | some value => table.insert thread value
  | none => table.erase thread

@[simp] theorem lookup_set_self (thread : Nat) (value : Option Value) :
    (table.set thread value).lookup thread = value := by
  cases value with
  | none => exact AList.lookup_erase thread table
  | some => exact AList.lookup_insert table

@[simp] theorem lookup_set_of_ne {thread other : Nat} (different : other ≠ thread)
    (value : Option Value) : (table.set thread value).lookup other = table.lookup other := by
  cases value with
  | none => exact AList.lookup_erase_ne different
  | some => exact AList.lookup_insert_ne different

/-- What holds of all that threads have holds after one of them has something else of which it
holds. -/
theorem forall_set {table : ByThread Value} {thread : Nat} {own : Option Value}
    {property : Nat → Value → Prop} (isOwn : own.elim True (property thread))
    (others : ∀ other ≠ thread, ∀ value, table.lookup other = some value → property other value) :
    ∀ other value, (table.set thread own).lookup other = some value → property other value := by
  intro other value found
  by_cases same : other = thread
  · subst same
    cases (lookup_set_self table other own).symm.trans found
    exact isOwn
  · exact others other same value ((lookup_set_of_ne table same own).symm.trans found)

end ByThread

/-- The manager's state, the contexts of its callers that are cancelled and the image's users, and
then history by thread: who is in `loadOrPull`, who is removing which image, who joined which pull,
who got its result or gave up, what calls found and returned and when, and what passes took out. -/
structure World where
  clock : Nat
  images : List Image
  files : String → Option Files
  slots : Nat
  pulls : String → Option Nat
  pullOf : Nat → Pull
  next : Nat
  cancelled : List Nat
  users : List User
  loads : ByThread Load
  removing : List (Nat × String)
  joined : List (Nat × Nat)
  answered : List (Nat × Nat)
  gaveUp : List Nat
  finds : ByThread Find
  returned : List (String × Nat × Option Nat)
  passes : ByThread Pass
  collected : List (Image × Image)
  byHand : Nat

namespace World

/-- A pull nobody has started. -/
def noPull : Pull := ⟨⟨"", ""⟩, 0, false, false, none, .done, none, false⟩

/-- A host without images. -/
def fresh (slots : Nat) : World where
  clock := 0
  images := []
  files := fun _ => none
  slots := slots
  pulls := fun _ => none
  pullOf := fun _ => noPull
  next := 0
  cancelled := []
  users := []
  loads := ∅
  removing := []
  joined := []
  answered := []
  gaveUp := []
  finds := ∅
  returned := []
  passes := ∅
  collected := []
  byHand := 0

/-- The image with a digest. -/
def image (world : World) (digest : String) : Option Image :=
  world.images.find? fun image => image.digest = digest

variable (world : World)

def hasDisk (digest : String) : Bool :=
  (world.files digest).any Files.disk

def setPull (id : Nat) (pull : Pull) : World :=
  { world with pullOf := Function.update world.pullOf id pull }

variable (thread : Nat)

def setLoad (load : Option Load) : World :=
  { world with loads := world.loads.set thread load }

def setFind (find : Option Find) : World :=
  { world with finds := world.finds.set thread find }

def setPass (pass : Option Pass) : World :=
  { world with passes := world.passes.set thread pass }

def setFiles (digest : String) (files : Option Files) : World :=
  { world with files := Function.update world.files digest files }

end World

/-- An image takes the place of the one found for its name so far, if it was created later. -/
def later (name : String) (found : Option Image) (image : Image) : Option Image :=
  if image.name = name ∧ found.all (fun latest => latest.createdAt < image.createdAt)
    then some image else found

/-- The image most recently pulled under a name. -/
def latestByName (name : String) (images : List Image) : Option Image :=
  images.foldl (later name) none

/-- What a reference names on this host: a digest's image, or the latest pulled under a tag. -/
def World.named (world : World) (ref : Ref) : Option Image :=
  match ref.digest with
  | some digest => world.image digest
  | none => latestByName ref.name world.images

/-- An image's use is recorded, if it is later than the one recorded. -/
def Image.usedAt (image : Image) (at_ : Nat) : Image :=
  if image.lastUsedAt < at_ then { image with lastUsedAt := at_ } else image

end Dicer.Images
