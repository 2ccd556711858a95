import Mathlib.Algebra.GroupWithZero.Nat
import Dicer.Concurrency.Calls
import Dicer.Images.World

namespace Dicer.Images

open Concurrency
open Program (perform)

/-!
# The image manager

Each lookup or change of the index, each file operation and each stretch under the manager's lock is
one atomic action; nothing is held between them.  File operations succeed, except that metadata
cannot be written where the image's directory is gone.  The registry and the packer may fail.

A call comes with what its registry answers when a tag is resolved, and a pull with the size of the
disk it packs.  The loop of `sharedPull` is taken as often as its caller says; a caller that would
take it once more waits for ever, so every finite run is one for callers patient enough.
-/

abbrev Op := Program Nat World

abbrev Call := ExceptT Err Op

export Concurrency.Calls (attempt bestEffort)

/-- Wait for ever. -/
def never {Value : Type} : Op Value :=
  Program.atomic (fun _ _ => ([] : List (Empty × World))) fun answer => nomatch answer

def canceled : Err := .host "context canceled"

def now : Op Nat :=
  perform fun _ world => [(world.clock, world)]

variable (digest : String)

/-- The image that a pull is to return, if it is there. -/
def indexGet : Op (Option Image) :=
  perform fun thread world =>
    match world.image digest with
    | some image => [(some image, world.setFind thread
      (some ⟨image.digest, some image.lastUsedAt⟩))]
    | none => [(none, world)]

def indexList : Op (List Image) :=
  perform fun _ world => [(world.images, world)]

/-- A call looks for the image it is to return. -/
def find (ref : Ref) : Op (Option Image) :=
  perform fun thread world =>
    match world.named ref with
    | some image => [(some image, world.setFind thread (some ⟨image.digest, none⟩))]
    | none => [(none, world)]

/-- Put an image in the index, unless one with its digest is there. -/
def indexCreate (image : Image) : Op Bool :=
  perform fun thread world =>
    let stored := (world.setLoad thread (some ⟨image.digest, .stored⟩)).setFind thread
      (some ⟨image.digest, some image.lastUsedAt⟩)
    match world.image image.digest with
    | some _ => [(false, stored)]
    | none => [(true, { stored with images := world.images ++ [image] })]

/-- A call that is to return an image has recorded its use. -/
def World.noteUse (world : World) (thread : Nat) (digest : String) (at_ : Nat) : World :=
  { world with
    finds :=
      match world.finds.lookup thread with
      | some _ => world.finds.set thread (some ⟨digest, some at_⟩)
      | none => world.finds }

/-- The image with a digest, if there is one, is used. -/
def World.recordUse (world : World) (digest : String) (at_ : Nat) : World :=
  { world with
    images := world.images.map fun image => if image.digest = digest then image.usedAt at_
      else image }

/-- Record a use of an image, and return it if that changed it. -/
def indexMarkUsed (at_ : Nat) : Op (Option Image) :=
  perform fun thread world =>
    let changed := (world.image digest).filter fun image => image.lastUsedAt < at_
    [(changed.map fun image => image.usedAt at_, (world.noteUse thread digest at_).recordUse digest
      at_)]

/-- The metadata of an image, if its directory is there. -/
def saveMetadata (image : Image) : Op Unit :=
  perform fun _ world =>
    match world.files digest with
    | some files => [((), world.setFiles digest (some { files with metadata := some image }))]
    | none => [((), world)]

def diskExists : Op Bool :=
  perform fun _ world => [(world.hasDisk digest, world)]

def loadMetadata : Op (Option Image) :=
  perform fun _ world => [((world.files digest).bind Files.metadata, world)]

/-- The disk is looked for once more, after the metadata. -/
def statDisk : Op Bool :=
  perform fun thread world =>
    if world.hasDisk digest then [(true, world.setLoad thread (some ⟨digest, .ready⟩))]
      else [(false, world)]

def ensureImageDir : Op Unit :=
  perform fun _ world =>
    [((), world.setFiles digest (some ((world.files digest).getD ⟨false, none⟩)))]

/-- Pack the disk.  A packer that fails may leave part of one. -/
def pack : Call Unit :=
  perform fun thread world =>
    let packed := world.setFiles digest (some ⟨true, (world.files digest).bind Files.metadata⟩)
    let failure : Except Err Unit := .error (.host ("convert image " ++ digest ++ " to erofs"))
    [(.ok (), packed.setLoad thread (some ⟨digest, .ready⟩)), (failure, world), (failure, packed)]

/-- What a failed pull wrote is removed. -/
def discardFailedPull : Op Unit :=
  perform fun thread world =>
    [((), (world.setFiles digest none).setLoad thread (some ⟨digest, .missing⟩))]

/-- The last step of a removal. -/
def deleteFiles : Op Unit :=
  perform fun thread world =>
    [((), { world.setFiles digest none with removing := world.removing.erase (thread, digest) })]

/-! ## Loading and pulling an image -/

def markUsed (at_ : Nat) : Op Unit := do
  match ← indexMarkUsed digest at_ with
  | none => return ()
  | some image => saveMetadata digest image

/-- The first look at the index of a `loadOrPull`. -/
def loadLookup : Op (Option Image) :=
  perform fun thread world =>
    match world.image digest with
    | some image =>
      [(some image, (world.setLoad thread (some ⟨digest, .stored⟩)).setFind thread
        (some ⟨image.digest, some image.lastUsedAt⟩))]
    | none => [(none, world.setLoad thread (some ⟨digest, .missing⟩))]

/-- An image whose files are there, from a run before or a removal that has yet to delete them. -/
def loadFromDisk : Op (Option Image) := do
  if ← diskExists digest then
    match ← loadMetadata digest with
    | none => return none
    | some image =>
      if ← statDisk digest then do
        let at_ ← now
        let used := { image with lastUsedAt := at_ }
        let _ ← indexCreate used
        return some used
      else return none
  else return none

/-- One of the slots that bound how many images are pulled at once. -/
def acquireSlot (context : World → Bool) : Call Unit :=
  perform fun _ world =>
    (if 0 < world.slots then [(.ok (), { world with slots := world.slots - 1 })] else []) ++
      if context world then [(.error (.host ("acquire pull slot: " ++ canceled.message)), world)]
        else []

def releaseSlot : Op Unit :=
  perform fun _ world => [((), { world with slots := world.slots + 1 })]

def registryCall (failure : String) : Call Unit :=
  perform fun _ world => [(.ok (), world), (.error (.host failure), world)]

variable (resolved : ResolvedRef)

def pullFromRegistry (size : Nat) : Call Unit := do
  ensureImageDir resolved.digest
  match ← attempt (registryCall ("cannot pull image " ++ quoted resolved.name)) with
  | .error error => do
    discardFailedPull resolved.digest
    throw error
  | .ok _ =>
    match ← attempt (pack resolved.digest) with
    | .error error => do
      discardFailedPull resolved.digest
      throw error
    | .ok _ => do
      let at_ ← now
      let image : Image := ⟨resolved.name, resolved.digest, size, at_, at_⟩
      let _ ← indexCreate image
      saveMetadata resolved.digest image

def pullAndGet (size : Nat) : Call Image := do
  pullFromRegistry resolved size
  match ← indexGet resolved.digest with
  | some image => return image
  | none => throw (.notFound ("no image " ++ resolved.digest))

/-- The image from the index, from its files, or from the registry. -/
def loadOrPull (context : World → Bool) (resolved : ResolvedRef) (size : Nat) : Call Image := do
  match ← loadLookup resolved.digest with
  | some image => return image
  | none =>
    match ← loadFromDisk resolved.digest with
    | some image => return image
    | none => do
      acquireSlot context
      let result ← attempt (pullAndGet resolved size)
      releaseSlot
      match result with
      | .ok image => return image
      | .error error => throw error

/-- What a caller finds: a pull it joined, or one everyone gave up on. -/
inductive Joined
  | joined (id : Nat)
  | abandoned (id : Nat)

def joinPull : Op Joined :=
  perform fun thread world =>
    match world.pulls resolved.digest with
    | some id =>
      let pull := world.pullOf id
      if pull.abandoned then [(.abandoned id, world)]
      else
        [(.joined id, { world.setPull id { pull with waiters := pull.waiters + 1 } with
          joined := (thread, id) :: world.joined })]
    | none =>
      let pull : Pull := ⟨resolved, 1, false, false, none, .started, none, false⟩
      [(.joined world.next, { world.setPull world.next pull with
        pulls := Function.update world.pulls resolved.digest (some world.next)
        next := world.next + 1
        joined := (thread, world.next) :: world.joined })]

variable (id : Nat)

/-- Wait until an abandoned pull is done, or the caller's context is. -/
def awaitAbandoned : Call Unit :=
  perform fun thread world =>
    (if (world.pullOf id).phase = .done then [(.ok (), world)] else []) ++
        if world.cancelled.contains thread then
        [(.error canceled, { world with gaveUp := thread :: world.gaveUp })]
      else []

/-- Wait for the pull's result, or for the caller's context to be done. -/
def awaitPull : Op (Option (Except Err Image)) :=
  perform fun thread world =>
    let pull := world.pullOf id
    let result := pull.result.getD (.error canceled)
    let answered := { world with answered := (thread, id) :: world.answered }
    let found :=
      match result with
      | .ok image => answered.setFind thread (some ⟨image.digest, some image.lastUsedAt⟩)
      | .error _ => answered
    (if pull.phase = .done then [(some result, found)] else []) ++
      if world.cancelled.contains thread then [(none, world)] else []

def leavePull : Op Unit :=
  perform fun thread world =>
    let pull := world.pullOf id
    let left := { pull with waiters := pull.waiters - 1 }
    let left := if left.waiters = 0 then { left with abandoned := true, cancelled := true }
      else left
    [((), { world.setPull id left with
      joined := world.joined.erase (thread, id)
      gaveUp := thread :: world.gaveUp })]

def sharedPull (resolved : ResolvedRef) : Nat → Call Image
  | 0 => ExceptT.lift never
  | attempts + 1 => do
    match ← joinPull resolved with
    | .abandoned id => do
      awaitAbandoned id
      sharedPull resolved attempts
    | .joined id =>
      match ← awaitPull id with
      | some (.ok image) => return image
      | some (.error error) => throw error
      | none => do
        leavePull id
        throw canceled

/-! The goroutine of a pull. -/

def claimPull : Op ResolvedRef :=
  perform fun thread world =>
    let pull := world.pullOf id
    if pull.phase = .started then
      [(pull.resolved, world.setPull id { pull with phase := .running, owner := some thread })]
    else []

def finishPull (result : Except Err Image) : Op Unit :=
  perform fun thread world =>
    let pull := world.pullOf id
    [((), (world.setPull id { pull with
      phase := .returned, result := some result, cutShort := pull.cancelled }).setLoad thread none)]

def removePull (digest : String) : Op Unit :=
  perform fun _ world =>
    [((), { world.setPull id { world.pullOf id with phase := .removed } with
      pulls := Function.update world.pulls digest none })]

def cancelPull : Op Unit :=
  perform fun _ world => [((), world.setPull id { world.pullOf id with cancelled := true })]

def closePull : Op Unit :=
  perform fun _ world => [((), world.setPull id { world.pullOf id with phase := .done })]

def runPull (id size : Nat) : Op Unit := do
  let resolved ← claimPull id
  let result ← (loadOrPull (fun world => (world.pullOf id).cancelled) resolved size).run
  finishPull id result
  removePull id resolved.digest
  cancelPull id
  closePull id

/-- The digest a reference names, or what the registry answers for its tag. -/
def resolve (ref : Ref) (answer : Except Err String) : Except Err ResolvedRef :=
  match ref.digest with
  | some digest => pure ⟨ref.name, digest⟩
  | none =>
    match answer with
    | .ok digest => pure ⟨ref.name, digest⟩
    | .error error => throw error

inductive PullPolicy
  | missing
  | always
  | never
  deriving DecidableEq, Repr

section

variable (parse : String → Except Err Ref)

def invalidReference (error : Err) : Err := .host ("invalid image reference: " ++ error.message)

/-- Pull an image, with a way to share a pull of it. -/
def pull (shared : ResolvedRef → Call Image) (ref : String) (answer : Except Err String) :
    Call Image :=
  match parse ref with
  | .error error => throw (invalidReference error)
  | .ok parsed =>
    match resolve parsed answer with
    | .error error => throw error
    | .ok resolved => do
      match ← find ⟨resolved.name, some resolved.digest⟩ with
      | some image => do
        let at_ ← now
        markUsed resolved.digest at_
        return image
      | none => shared resolved

/-- The image an instance is to boot from, pulled as the policy says. -/
def ensure (shared : ResolvedRef → Call Image) (ref : String) (policy : PullPolicy)
    (answer : Except Err String) : Call Image :=
  if policy = .always then pull parse shared ref answer
  else
    match parse ref with
    | .error error => throw (invalidReference error)
    | .ok parsed => do
      match ← find parsed with
      | some image => do
        let at_ ← now
        markUsed image.digest at_
        return image
      | none =>
        if policy = .never then
          throw (.notFound ("image " ++ quoted ref ++
            " is not on this host, and the pull policy is never: pull it first"))
        else pull parse shared ref answer

/-! ## Removing images -/

/-- Who removes an image: someone who asked for it, or a garbage collection pass. -/
inductive Remover
  | user
  | pass
  deriving DecidableEq, Repr

/-- The image is out of the index and its files are to be deleted. -/
def World.without (world : World) (thread : Nat) (digest : String) : World :=
  { world with
    images := world.images.filter fun image => image.digest ≠ digest
    removing := (thread, digest) :: world.removing }

/-- Take an image out of the index, if one with its digest is there by then. -/
def indexDelete (remover : Remover) (image : Image) : Op Bool :=
  perform fun thread world =>
    match world.image image.digest with
    | none => [(false, world)]
    | some current =>
      let removed := world.without thread image.digest
      match remover with
      | .user => [(true, { removed with byHand := world.byHand + 1 })]
      | .pass => [(true, { removed with collected := (image, current) :: world.collected })]

def removeEach (remover : Remover) : List Image → Op Unit
  | [] => return ()
  | image :: rest => do
    if ← indexDelete remover image then deleteFiles image.digest
    removeEach remover rest

/-- Remove images, and what only they needed of the layer cache. -/
def remove (remover : Remover) (images : List Image) : Call Unit := do
  removeEach remover images
  let _ ← indexList
  registryCall "prune layer cache"

/-- Take an image out of the index, and go on to its files whether or not it was there. -/
def indexDeleteAnyway (digest : String) : Op Unit :=
  perform fun thread world => [((), { world.without thread digest with byHand := world.byHand + 1 })]

def lookUp (ref : Ref) : Op (Option Image) :=
  perform fun _ world => [(world.named ref, world)]

def delete (ref : String) (inUse : List (String × String)) : Call Unit :=
  match parse ref with
  | .error error => throw (invalidReference error)
  | .ok parsed => do
    match ← lookUp parsed with
    | none => throw (.notFound ("no image " ++ quoted ref))
    | some image =>
      match inUse.lookup image.digest with
      | some user => throw (.invalidState ("image " ++ quoted ref ++ " is in use by " ++ user))
      | none => do
        indexDeleteAnyway image.digest
        deleteFiles image.digest

def prune (inUse : List String) : Call Unit := do
  let images ← indexList
  remove .user (images.filter fun image => !inUse.contains image.digest)

end

/-- How long an image may go unused and how much the store may occupy; zero is no limit. -/
structure GCPolicy where
  maxUnusedAge : Nat
  maxSize : Nat
  deriving DecidableEq, Repr

/-- Ten minutes, in seconds. -/
def gcGracePeriod : Nat := 600

/-- Whether a pass may remove an image: it is not in use, and was not used of late. -/
def isCollectable (inUse : List String) (at_ : Nat) (image : Image) : Bool :=
  !inUse.contains image.digest && !decide (at_ - image.lastUsedAt < gcGracePeriod)

/-- The images that may be removed, the least recently used first. -/
def collectableImages (images : List Image) (inUse : List String) (at_ : Nat) : List Image :=
  (images.filter (isCollectable inUse at_)).insertionSort fun first second =>
    first.lastUsedAt < second.lastUsedAt ∨ first.lastUsedAt = second.lastUsedAt ∧
      first.digest ≤ second.digest

variable (policy : GCPolicy)

def GCPolicy.expiredImages (images : List Image) (inUse : List String) (at_ : Nat) :
    List Image :=
  if policy.maxUnusedAge = 0 then []
  else
    (collectableImages images inUse at_).filter fun image =>
      policy.maxUnusedAge < at_ - image.lastUsedAt

/-- A pass lists the images. -/
def passList : Op (List Image) :=
  perform fun thread world =>
    [(world.images, world.setPass thread ((world.passes.lookup thread).map fun pass =>
      { pass with listed := world.images }))]

/-- Whether the disks and the layer cache, of which nothing is known, are too large. -/
def exceeds (maxSize : Nat) : Call Bool :=
  perform fun _ world =>
    (if maxSize < (world.images.map Image.sizeBytes).sum then [(.ok true, world)]
      else [(.ok true, world), (.ok false, world)]) ++
        [(.error (.host "measure layer cache"), world)]

def collect (images : List Image) : Call Unit :=
  if images = [] then return () else remove .pass images

/-- Remove images one by one while the store is too large. -/
def collectBySize (maxSize : Nat) : List Image → Call Unit
  | [] => return ()
  | image :: rest => do
    if ← exceeds maxSize then do
      collect [image]
      collectBySize maxSize rest
    else return ()

def markEachUsed (at_ : Nat) : List String → Op Unit
  | [] => return ()
  | digest :: rest => do
    markUsed digest at_
    markEachUsed at_ rest

def collectGarbage (inUse : List String) (at_ : Nat) : Call Unit := do
  markEachUsed at_ inUse
  let images ← passList
  collect (policy.expiredImages images inUse at_)
  if policy.maxSize = 0 then return ()
  else do
    let images ← passList
    collectBySize policy.maxSize (collectableImages images inUse at_)

/-- The images that instances and snapshots need. -/
def imagesInUse : Op (List String) :=
  perform fun thread world =>
    let inUse := world.users.map User.digest
    [(inUse, world.setPass thread (some ⟨inUse, none, []⟩))]

/-- The time a pass goes by. -/
def passNow : Op Nat :=
  perform fun thread world =>
    [(world.clock, world.setPass thread ((world.passes.lookup thread).map fun pass =>
      { pass with now := some world.clock }))]

def runGCPass : Call Unit := do
  let inUse ← imagesInUse
  let at_ ← passNow
  collectGarbage policy inUse at_

inductive Request
  | pull (ref : String) (answer : Except Err String) (attempts : Nat)
  | ensure (ref : String) (policy : PullPolicy) (answer : Except Err String) (attempts : Nat)
  | run (id size : Nat)
  | delete (ref : String) (inUse : List (String × String))
  | prune (inUse : List String)
  | collect (policy : GCPolicy)

inductive Event
  | elapse (time : Nat)
  | cancel (thread : Nat)
  | define (name digest : String)
  | undefine (name : String)

/-- The image is the caller's. -/
def giveBack (image : Image) : Op Unit :=
  perform fun thread world =>
    let use := (world.finds.lookup thread).bind Find.use
    [((), { world.setFind thread none with returned := (image.digest, world.clock, use) :: world.returned })]

/-- A call that returns an image, to its end. -/
def serve (call : Call Image) : Op Unit := do
  match ← call.run with
  | .ok image => giveBack image
  | .error _ => return ()

def happen (event : Event) (world : World) : World :=
  match event with
  | .elapse time => { world with clock := world.clock + time }
  | .cancel thread => { world with cancelled := thread :: world.cancelled }
  | .define name digest => { world with users := ⟨name, digest, world.clock⟩ :: world.users }
  | .undefine name => { world with users := world.users.filter fun user => user.name ≠ name }

def system (parse : String → Except Err Ref) : System Nat World Request Event where
  program := fun
    | .pull ref answer attempts => serve
      (pull parse (fun resolved => sharedPull resolved attempts) ref answer)
    | .ensure ref policy answer attempts =>
      serve (ensure parse (fun resolved => sharedPull resolved attempts) ref policy answer)
    | .run id size => runPull id size
    | .delete ref inUse => bestEffort (delete parse ref inUse)
    | .prune inUse => bestEffort (prune inUse)
    | .collect policy => bestEffort (runGCPass policy)
  admits := fun _ _ => true
  event := fun event world => some (happen event world)
  crash := fun _ => none

end Dicer.Images
