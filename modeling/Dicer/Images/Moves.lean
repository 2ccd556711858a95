import Dicer.Images.Manager

namespace Dicer.Images

/-!
# What the manager's calls may do

Every change that a call, a pull's goroutine or a pass makes is one of those below, with what is
known when it is made.  A pull is changed by those who join and leave it and, once claimed, by its
own goroutine.
-/

/-- A pull that this thread is running. -/
structure Owns (thread : Nat) (resolved : ResolvedRef) (phase : Phase) (pull : Pull) : Prop where
  owner : pull.owner = some thread
  resolved : pull.resolved = resolved
  phase : pull.phase = phase

inductive Moved (thread : Nat) (world : World) : World → Prop
  -- The index.
  | found (image : Image) (there : world.image image.digest = some image) :
      Moved thread world (world.setFind thread (some ⟨image.digest, none⟩))
  | got (image : Image) (there : world.image image.digest = some image) :
      Moved thread world (world.setFind thread (some ⟨image.digest, some image.lastUsedAt⟩))
  | created (image : Image) (ready : world.loads.lookup thread = some ⟨image.digest, .ready⟩)
      (absent : world.image image.digest = none) :
      Moved thread world { (world.setLoad thread (some ⟨image.digest, .stored⟩)).setFind thread
        (some ⟨image.digest, some image.lastUsedAt⟩) with images := world.images ++ [image] }
  | used (digest : String) (at_ : Nat)
      (own : ∀ find, world.finds.lookup thread = some find → find = ⟨digest, none⟩) :
      Moved thread world ((world.noteUse thread digest at_).recordUse digest at_)
  | dropped (digest : String) :
      Moved thread world { world.without thread digest with byHand := world.byHand + 1 }
  | collected (image current : Image) (there : world.image image.digest = some current)
      (pass : Pass) (at_ : Nat) (passing : world.passes.lookup thread = some pass)
      (timed : pass.now = some at_)
      (collectable : isCollectable pass.inUse at_ image = true) :
      Moved thread world { world.without thread image.digest with
        collected := (image, current) :: world.collected }
  -- The files.
  | saved (digest : String) (image : Image) (files : Files)
      (there : world.files digest = some files) (own : image.digest = digest) :
      Moved thread world (world.setFiles digest (some { files with metadata := some image }))
  | prepared (digest : String) (missing : world.loads.lookup thread = some ⟨digest, .missing⟩) :
      Moved thread world (world.setFiles digest (some ((world.files digest).getD ⟨false, none⟩)))
  | packed (digest : String) (missing : world.loads.lookup thread = some ⟨digest, .missing⟩) :
      Moved thread world ((world.setFiles digest
        (some ⟨true, (world.files digest).bind Files.metadata⟩)).setLoad thread
        (some ⟨digest, .ready⟩))
  | packedPartly (digest : String) (missing : world.loads.lookup thread = some ⟨digest, .missing⟩) :
      Moved thread world (world.setFiles digest
      (some ⟨true, (world.files digest).bind Files.metadata⟩))
  | discarded (digest : String) (missing : world.loads.lookup thread = some ⟨digest, .missing⟩) :
      Moved thread world ((world.setFiles digest none).setLoad thread (some ⟨digest, .missing⟩))
  | deleted (digest : String) (removing : (thread, digest) ∈ world.removing) :
      Moved thread world { world.setFiles digest none with removing := world.removing.erase (thread, digest) }
  -- A pull's goroutine.
  | claimed (id : Nat) (started : (world.pullOf id).phase = .started) :
      Moved thread world (world.setPull id
      { world.pullOf id with phase := .running, owner := some thread })
  | missed (id : Nat) (resolved : ResolvedRef)
      (owns : Owns thread resolved .running (world.pullOf id))
      (absent : world.image resolved.digest = none) :
      Moved thread world (world.setLoad thread (some ⟨resolved.digest, .missing⟩))
  | hit (id : Nat) (resolved : ResolvedRef) (owns : Owns thread resolved .running (world.pullOf id))
      (image : Image) (there : world.image resolved.digest = some image) :
      Moved thread world ((world.setLoad thread (some ⟨resolved.digest, .stored⟩)).setFind thread
        (some ⟨image.digest, some image.lastUsedAt⟩))
  | readied (digest : String) (missing : world.loads.lookup thread = some ⟨digest, .missing⟩)
      (disk : world.hasDisk digest = true) :
      Moved thread world (world.setLoad thread (some ⟨digest, .ready⟩))
  | slots (slots : Nat) : Moved thread world { world with slots := slots }
  | finished (id : Nat) (resolved : ResolvedRef)
      (owns : Owns thread resolved .running (world.pullOf id)) (result : Except Err Image)
      (find : ∀ image, result = .ok image → world.finds.lookup thread =
        some ⟨image.digest, some image.lastUsedAt⟩) :
      Moved thread world ((world.setPull id { world.pullOf id with
        phase := .returned, result := some result, cutShort :=
          (world.pullOf id).cancelled }).setLoad thread none)
  | removed (id : Nat) (resolved : ResolvedRef)
      (owns : Owns thread resolved .returned (world.pullOf id)) :
          Moved thread world { world.setPull id { world.pullOf id with phase := .removed } with
        pulls := Function.update world.pulls resolved.digest none }
  | cancelled (id : Nat) (resolved : ResolvedRef)
      (owns : Owns thread resolved .removed (world.pullOf id)) :
      Moved thread world (world.setPull id { world.pullOf id with cancelled := true })
  | closed (id : Nat) (resolved : ResolvedRef)
      (owns : Owns thread resolved .removed (world.pullOf id)) :
      Moved thread world (world.setPull id { world.pullOf id with phase := .done })
  -- A pull's callers.
  | joined (id : Nat) (digest : String) (there : world.pulls digest = some id)
      (wanted : (world.pullOf id).abandoned = false) :
      Moved thread world { world.setPull id { world.pullOf id with waiters := (world.pullOf id).waiters + 1 } with
        joined := (thread, id) :: world.joined }
  | started (resolved : ResolvedRef) (free : world.pulls resolved.digest = none) :
      Moved thread world { world.setPull world.next
          ⟨resolved, 1, false, false, none, .started, none, false⟩ with
        pulls := Function.update world.pulls resolved.digest (some world.next)
        next := world.next + 1
        joined := (thread, world.next) :: world.joined }
  | gaveUp (isCancelled : thread ∈ world.cancelled) :
      Moved thread world { world with gaveUp := thread :: world.gaveUp }
  | served (id : Nat) (waits : (thread, id) ∈ world.joined) (done : (world.pullOf id).phase = .done)
      (image : Image) (result : (world.pullOf id).result = some (.ok image)) :
      Moved thread world ({ world with answered := (thread, id) :: world.answered }.setFind thread
        (some ⟨image.digest, some image.lastUsedAt⟩))
  | refused (id : Nat) (waits : (thread, id) ∈ world.joined)
      (done : (world.pullOf id).phase = .done) :
      Moved thread world { world with answered := (thread, id) :: world.answered }
  | left (id : Nat) (waits : (thread, id) ∈ world.joined) (isCancelled : thread ∈ world.cancelled)
      (rest : Nat) (counted : rest = (world.pullOf id).waiters - 1) (more : rest ≠ 0) :
      Moved thread world { world.setPull id { world.pullOf id with waiters := rest } with
        joined := world.joined.erase (thread, id)
        gaveUp := thread :: world.gaveUp }
  | abandoned (id : Nat) (waits : (thread, id) ∈ world.joined)
      (isCancelled : thread ∈ world.cancelled) (last : (world.pullOf id).waiters - 1 = 0) :
      Moved thread world { world.setPull id { world.pullOf id with
          waiters := 0, abandoned := true, cancelled := true } with
        joined := world.joined.erase (thread, id)
        gaveUp := thread :: world.gaveUp }
  | gave (digest : String) (use : Nat)
      (find : world.finds.lookup thread = some ⟨digest, some use⟩) :
          Moved thread world { world.setFind thread none with
        returned := (digest, world.clock, some use) :: world.returned }
  -- A pass.
  | read : Moved thread world (world.setPass thread (some ⟨world.users.map User.digest, none, []⟩))
  | timed (pass : Pass) (passing : world.passes.lookup thread = some pass)
      (untimed : pass.now = none) : Moved thread world
      (world.setPass thread (some { pass with now := some world.clock }))
  | listed (pass : Pass) (passing : world.passes.lookup thread = some pass) :
      Moved thread world (world.setPass thread (some { pass with listed := world.images }))

/-- Time passes, a caller's context is cancelled, or a user of an image comes or goes. -/
def Happened (before after : World) : Prop :=
  ∃ event, after = happen event before

/-- A pull's record on its own. -/
structure PullSane (pull : Pull) : Prop where
  unclaimed : pull.phase = .started → pull.owner = none
  left : pull.abandoned = true → pull.waiters = 0
  cancelled : pull.cancelled = true → pull.abandoned = true ∨ pull.phase.unfinished = false
  cutShort : pull.cutShort = true → pull.abandoned = true
  result : pull.phase.unfinished = false → pull.result.isSome = true

/-- The pulls under way are in step with their records, and their waiters are counted. -/
structure Shared (world : World) : Prop where
  numbered : ∀ digest id, world.pulls digest = some id ↔
    id < world.next ∧ (world.pullOf id).resolved.digest = digest ∧
    (world.pullOf id).phase.underWay = true
  beyond : ∀ id, world.next ≤ id → (world.pullOf id).phase = .done ∧ (world.pullOf id).owner = none
  each : ∀ id, id < world.next → PullSane (world.pullOf id)
  counted : ∀ id, id < world.next → (world.pullOf id).waiters = (world.joined.map Prod.snd).count id
  joined : ∀ entry ∈ world.joined, entry.2 < world.next
  answered : ∀ entry ∈ world.answered, entry.2 < world.next ∧ (world.pullOf entry.2).phase = .done ∧
    (entry.1 ∈ world.cancelled ∨ entry ∈ world.joined)
  gaveUp : ∀ thread ∈ world.gaveUp, thread ∈ world.cancelled

/-- Whoever is in `loadOrPull` runs a pull of the image, and puts it in the index only if it was not
there. -/
structure Loaded (world : World) : Prop where
  owned : ∀ thread load, world.loads.lookup thread = some load → ∃ id,
    (world.pullOf id).owner = some thread ∧ (world.pullOf id).phase = .running ∧
      (world.pullOf id).resolved.digest = load.digest
  absent : ∀ thread load, world.loads.lookup thread = some load → load.stage ≠ .stored →
    world.image load.digest = none

/-- The index has one image for a digest, and an image's metadata is its own. -/
structure Indexed (world : World) : Prop where
  digests : (world.images.map Image.digest).Nodup
  metadata : ∀ digest image, (world.files digest).bind Files.metadata = some image →
    image.digest = digest

structure Sane (world : World) : Prop where
  shared : Shared world
  loaded : Loaded world
  indexed : Indexed world

end Dicer.Images
