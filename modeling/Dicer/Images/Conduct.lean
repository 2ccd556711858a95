import Dicer.Concurrency.Knowledge
import Dicer.Images.Interference
import Mathlib.Data.List.Induction

namespace Dicer.Images

open Concurrency

/-!
# Every program keeps to the moves

A thread knows its own place: what it loads, what it has found, the pass it makes, the pull it runs
or waits for and the image it removes.  None of this is changed by others.  Each action takes a
place to a place, and its rule says which place it needs for being one of the moves.
-/

structure Running where
  id : Nat
  resolved : ResolvedRef
  phase : Phase
  deriving DecidableEq, Repr

structure Place where
  load : Option Load
  find : Option Find
  pass : Option Pass
  pull : Option Running
  waits : Option Nat
  removing : Option String
  cancelled : Bool
  deriving DecidableEq, Repr

namespace Place

/-- A thread that has done nothing yet. -/
def fresh : Place := ⟨none, none, none, none, none, none, false⟩

structure Knows (place : Place) (thread : Nat) (world : World) : Prop where
  load : world.loads.lookup thread = place.load
  find : world.finds.lookup thread = place.find
  pass : world.passes.lookup thread = place.pass
  pull : ∀ pull ∈ place.pull, Owns thread pull.resolved pull.phase (world.pullOf pull.id)
  waits : ∀ id ∈ place.waits, (thread, id) ∈ world.joined
  removing : ∀ digest ∈ place.removing, (thread, digest) ∈ world.removing
  cancelled : place.cancelled = true → thread ∈ world.cancelled

end Place

variable {before after world : World} {place : Place} {thread other id : Nat} {digest : String}

namespace Place.Knows

variable (knows : place.Knows thread world)
include knows

theorem setLoad (different : other ≠ thread) (load : Option Load) :
    place.Knows thread (world.setLoad other load) :=
  { knows with load := by simpa [World.setLoad, different.symm] using knows.load }

theorem setFind (different : other ≠ thread) (find : Option Find) :
    place.Knows thread (world.setFind other find) :=
  { knows with find := by simpa [World.setFind, different.symm] using knows.find }

theorem setPass (different : other ≠ thread) (pass : Option Pass) :
    place.Knows thread (world.setPass other pass) :=
  { knows with pass := by simpa [World.setPass, different.symm] using knows.pass }

/-- Another pull's record changes, or what this thread does not look at in its own. -/
theorem setPull {pull : Pull} (kept : (world.pullOf id).owner = some thread →
      pull.owner = (world.pullOf id).owner ∧ pull.resolved = (world.pullOf id).resolved ∧
      pull.phase = (world.pullOf id).phase) :
    ∀ running ∈ place.pull, Owns thread running.resolved running.phase
    (Function.update world.pullOf id pull running.id) := by
  intro running member
  have owns := knows.pull running member
  by_cases same : running.id = id
  · subst same
    rcases kept owns.owner with ⟨owner, resolved, phase⟩
    rw [Function.update_self]
    exact ⟨owner.trans owns.owner, resolved.trans owns.resolved, phase.trans owns.phase⟩
  · rw [Function.update_of_ne same]
    exact owns

theorem setOther (different : other ≠ thread) {pull : Pull}
    (owner : (world.pullOf id).owner = some other) : place.Knows thread (world.setPull id pull) :=
  { knows with pull := knows.setPull fun own => absurd (Option.some.inj (owner.symm.trans own)) different }

theorem leave (different : other ≠ thread) : ∀ own ∈ place.waits, (thread, own) ∈ world.joined.erase
    (other, id) := by
  intro own member
  exact (List.mem_erase_of_ne (by simp [different.symm])).mpr (knows.waits own member)

end Place.Knows

/-- Nobody else changes a thread's place. -/
theorem Moved.knows (sane : Sane before) (different : other ≠ thread)
    (moved : Moved other before after) (knows : place.Knows thread before) :
    place.Knows thread after := by
  cases moved with
  | found | got => exact knows.setFind different _
  | created => exact { (knows.setLoad different _).setFind different _ with }
  | used =>
    refine { knows with find := ?_ }
    simp only [World.recordUse, World.noteUse]
    split
    · simpa [different.symm] using knows.find
    · exact knows.find
  | dropped | collected =>
    exact { knows with removing := fun own member => List.mem_cons_of_mem _ (knows.removing own member) }
  | packed | discarded => exact { knows.setLoad different _ with }
  | deleted digest removing =>
    refine { knows with removing := fun own member => ?_ }
    exact (List.mem_erase_of_ne (by simp [different.symm])).mpr (knows.removing own member)
  | claimed id started =>
    have unclaimed := (sane.shared.each id (sane.shared.known (by simp [started]))).unclaimed
      started
    exact { knows with pull := knows.setPull (by simp [unclaimed]) }
  | missed | readied => exact knows.setLoad different _
  | hit => exact (knows.setLoad different _).setFind different _
  | finished id resolved owns => exact (knows.setOther different owns.owner).setLoad different _
  | removed id resolved owns => exact { knows.setOther different owns.owner with }
  | cancelled id resolved owns | closed id resolved owns =>
    exact knows.setOther different owns.owner
  | joined =>
    exact { knows with
      pull := knows.setPull fun _ => ⟨rfl, rfl, rfl⟩
      waits := fun own member => List.mem_cons_of_mem _ (knows.waits own member) }
  | started =>
    exact { knows with
      pull := knows.setPull (by simp [(sane.shared.beyond before.next (Nat.le_refl _)).2])
      waits := fun own member => List.mem_cons_of_mem _ (knows.waits own member) }
  | served id =>
    have answered : place.Knows thread { before with answered := (other, id) :: before.answered } :=
      { knows with }
    exact answered.setFind different _
  | left | abandoned =>
    exact { knows with pull := knows.setPull fun _ => ⟨rfl, rfl, rfl⟩, waits := knows.leave different }
  | gave => exact { knows.setFind different _ with }
  | read | timed | listed => exact knows.setPass different _
  | _ => exact { knows with }

theorem Happened.knows (happened : Happened before after) (knows : place.Knows thread before) :
    place.Knows thread after := by
  rcases happened with ⟨event, rfl⟩
  cases event with
  | cancel cancelled =>
    exact { knows with cancelled := fun known => List.mem_cons_of_mem _ (knows.cancelled known) }
  | _ => exact { knows with }

def contract : Contract Nat World where
  keeps := Sane
  may := Moved
  outside := Happened
  idle := Place.fresh.Knows
  meets := fun _ _ => True

/-- A thread's own place. -/
def ownPlace (thread : Nat) : Knowledge contract thread Place where
  knows := fun place => place.Knows thread
  stable := by
    rintro place first second ⟨sane, _, _, happened | ⟨other, different, moved⟩⟩ knows
    · exact happened.knows knows
    · exact moved.knows sane different knows

/-! ## One rule for each action -/

section

variable {Value : Type}

/-- A thread's program, from this place on. -/
abbrev During (thread : Nat) (op : Op Value) (post : Value → Place → Prop) (place : Place) : Prop :=
  op.Ensures (ownPlace thread) post place

theorem During.perform {action : Nat → World → List (Value × World)} {post : Value → Place → Prop}
    (step : ∀ now, Sane now → place.Knows thread now → Answers (fun answer after =>
      (after = now ∨ Moved thread now after) ∧ ∃ later : Place, later.Knows thread after ∧
        post answer later) (action thread now)) :
    During thread (Program.perform action) post place := by
  apply Program.Ensures.perform
  intro now sane knows answer after answered _
  rcases step now sane knows answer after answered with ⟨allowed, later⟩
  exact ⟨allowed, fun _ => later⟩

theorem During.looks {action : Nat → World → List (Value × World)} {post : Value → Place → Prop}
    (step : ∀ now, Sane now → Answers (fun answer after => after = now ∧ post answer place)
      (action thread now)) :
    During thread (Program.perform action) post place := by
  refine .perform fun now sane knows answer after answered => ?_
  rcases step now sane answer after answered with ⟨rfl, holds⟩
  exact ⟨.inl rfl, place, knows, holds⟩

theorem During.acts {answer : World → Value} {effect : Nat → World → World}
    {post : Value → Place → Prop} (step : ∀ now, Sane now → place.Knows thread now →
      Moved thread now (effect thread now) ∧ ∃ later : Place,
      later.Knows thread (effect thread now) ∧ post (answer now) later) :
    During thread (Program.perform fun thread world => [(answer world, effect thread world)]) post
    place :=
  .perform fun now sane knows => .one ((step now sane knows).imp_left .inr)

theorem During.observes {look : World → Value} {post : Value → Place → Prop}
    (done : ∀ value, post value place) :
    During thread (Program.perform fun _ world => [(look world, world)]) post place :=
  .looks fun _ _ => .one ⟨rfl, done _⟩

theorem now_during {post : Nat → Place → Prop} (done : ∀ at_, post at_ place) :
    During thread now post place :=
  During.observes done

theorem indexList_during {post : List Image → Place → Prop} (done : ∀ images, post images place) :
    During thread indexList post place :=
  During.observes done

variable {ref : Ref} {post : Option Image → Place → Prop} {image : Image}

theorem lookUp_during (done : ∀ image, post image place) : During thread (lookUp ref) post place :=
  During.observes done

theorem diskExists_during {post : Bool → Place → Prop} (done : ∀ exists_, post exists_ place) :
    During thread (diskExists digest) post place :=
  During.observes done

theorem loadMetadata_during
    (done : ∀ answer : Option Image, (∀ image ∈ answer, image.digest = digest) →
      post answer place) :
    During thread (loadMetadata digest) post place :=
  .looks fun _ sane => .one ⟨rfl, done _ fun image there => sane.indexed.metadata digest image
    there⟩

theorem registryCall_during {failure : String} {post : Except Err Unit → Place → Prop}
    (done : ∀ result, post result place) : During thread (registryCall failure).run post place :=
  .looks fun _ _ => .two ⟨rfl, done _⟩ ⟨rfl, done _⟩

theorem exceeds_during {maxSize : Nat} {post : Except Err Bool → Place → Prop}
    (done : ∀ result, post result place) : During thread (exceeds maxSize).run post place := by
  refine .looks fun now _ => .append ?_ (.one ⟨rfl, done _⟩)
  split
  · exact .one ⟨rfl, done _⟩
  · exact .two ⟨rfl, done _⟩ ⟨rfl, done _⟩

theorem latestByName_append (name : String) (images : List Image) (image : Image) :
    latestByName name (images ++ [image]) = later name (latestByName name images) image := by
  rw [latestByName, List.foldl_append]
  rfl

theorem mem_of_latestByName {name : String} {images : List Image}
    (latest : latestByName name images = some image) : image ∈ images ∧ image.name = name := by
  induction images using List.reverseRecOn with
  | nil => simp [latestByName] at latest
  | append_singleton images last ih =>
    rw [latestByName_append, later] at latest
    split at latest
    · rename_i takes
      cases latest
      exact ⟨List.mem_append_right _ (List.mem_singleton.mpr rfl), takes.1⟩
    · rcases ih latest with ⟨member, named⟩
      exact ⟨List.mem_append_left _ member, named⟩

theorem Sane.named (sane : Sane world) (named : world.named ref = some image) :
    world.image image.digest = some image := by
  unfold World.named at named
  split at named
  · rw [(World.of_image_eq_some named).2]
    exact named
  · exact World.image_of_mem sane.indexed.digests (mem_of_latestByName named).1

theorem find_during (missed : post none place)
    (found : ∀ image, (∀ digest, ref.digest = some digest → image.digest = digest) →
      post (some image) { place with find := some ⟨image.digest, none⟩ }) :
      During thread (find ref) post place := by
  refine .perform fun now sane knows => ?_
  split
  · rename_i image named
    refine .one ⟨.inr (.found image (sane.named named)), _, ?_, found image fun digest isDigest =>
      ?_⟩
    · exact { knows with find := by simp [World.setFind] }
    · simp only [World.named, isDigest] at named
      exact (World.of_image_eq_some named).2
  · exact .one ⟨.inl rfl, place, knows, missed⟩

theorem indexGet_during (missed : post none place)
    (found : ∀ image, post (some image) { place with find := some ⟨image.digest, some image.lastUsedAt⟩ }) :
    During thread (indexGet digest) post place := by
  refine .perform fun now _ knows => ?_
  split
  · rename_i image there
    refine .one ⟨.inr (.got image ((World.of_image_eq_some there).2.symm ▸ there)), _, ?_,
      found image⟩
    exact { knows with find := by simp [World.setFind] }
  · exact .one ⟨.inl rfl, place, knows, missed⟩

theorem indexMarkUsed_during {at_ : Nat} (own : ∀ find ∈ place.find, find = ⟨digest, none⟩)
    (done : ∀ answer : Option Image, (∀ image ∈ answer, image.digest = digest) →
      post answer { place with find := place.find.map fun _ => ⟨digest, some at_⟩ }) :
    During thread (indexMarkUsed digest at_) post place := by
  refine .acts fun now _ knows => ?_
  refine ⟨.used digest at_ fun find isFind => own find (knows.find ▸ isFind), _, ?_, done _ ?_⟩
  · refine { knows with find := ?_ }
    simp only [World.recordUse, World.noteUse, knows.find]
    cases found : place.find with
    | none => simpa [found] using knows.find
    | some => simp
  · intro image isImage
    rcases Option.map_eq_some_iff.mp isImage with ⟨current, isCurrent, rfl⟩
    rw [Image.digest_usedAt]
    exact (World.of_image_eq_some (Option.filter_eq_some_iff.mp isCurrent).1).2

theorem indexCreate_during {post : Bool → Place → Prop}
    (ready : place.load = some ⟨image.digest, .ready⟩) (created : post true { place with
      load := some ⟨image.digest, .stored⟩, find := some ⟨image.digest, some image.lastUsedAt⟩ }) :
    During thread (indexCreate image) post place := by
  refine .perform fun now sane knows => ?_
  have isReady : now.loads.lookup thread = some ⟨image.digest, .ready⟩ := knows.load.trans ready
  have absent := sane.loaded.absent thread _ isReady (by simp)
  simp only [absent]
  refine .one ⟨.inr (.created image isReady absent), _, ?_, created⟩
  exact { knows with load := by simp [World.setLoad, World.setFind], find := by simp [World.setFind] }

theorem indexDeleteAnyway_during {post : Unit → Place → Prop}
    (done : post () { place with removing := some digest }) :
    During thread (indexDeleteAnyway digest) post place := by
  refine .acts fun now _ knows => ⟨.dropped digest, _, ?_, done⟩
  exact { knows with removing := by simp [World.without] }

/-- What a pass may take out. -/
def Removable (place : Place) (image : Image) : Remover → Prop
  | .user => True
  | .pass => ∃ pass at_, place.pass = some pass ∧ pass.now = some at_ ∧
    isCollectable pass.inUse at_ image = true

theorem indexDelete_during {remover : Remover} {post : Bool → Place → Prop}
    (removable : Removable place image remover) (missed : post false place)
    (removed : post true { place with removing := some image.digest }) :
    During thread (indexDelete remover image) post place := by
  refine .perform fun now _ knows => ?_
  split
  · exact .one ⟨.inl rfl, place, knows, missed⟩
  rename_i current there
  cases remover with
  | user =>
    refine .one ⟨.inr (.dropped image.digest), _, ?_, removed⟩
    exact { knows with removing := by simp [World.without] }
  | pass =>
    rcases removable with ⟨pass, at_, passing, timed, collectable⟩
    have moved := Moved.collected image current there pass at_ (knows.pass.trans passing) timed
      collectable
    refine .one ⟨.inr moved, _, ?_, removed⟩
    exact { knows with removing := by simp [World.without] }

end

end Dicer.Images
