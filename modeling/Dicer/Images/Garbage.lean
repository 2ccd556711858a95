import Dicer.Images.Manager

namespace Dicer.Images.Alone

/-!
# A garbage collection pass on its own

What one pass removes if nothing happens beside it and no removal or measurement fails.  The layer
cache is whatever the registry client makes of it: images share layers in it, so what a removal
frees is only known once the store is measured again.
-/

/-- What the registry client does with its layer cache. -/
structure Client (Cache : Type) where
  pruneCache : List String → Cache → Cache
  cacheSize : Cache → Nat

/-- The images by their digests, and the layer cache. -/
@[ext]
structure Store (Cache : Type) where
  images : List Image
  cache : Cache
  distinct : (images.map Image.digest).Nodup

inductive GCReason
  | unused
  | size
  deriving DecidableEq, Repr

/-- An image in the index once its digest was marked as used. -/
def mark (at_ : Nat) (digest : String) (image : Image) : Image :=
  if image.digest = digest ∧ image.lastUsedAt < at_ then { image with lastUsedAt := at_ } else image

theorem digest_comp_mark (at_ : Nat) (digest : String) :
    Image.digest ∘ mark at_ digest = Image.digest := by
  funext image
  simp only [Function.comp_apply, mark]
  split <;> rfl

section

variable {Cache : Type}

namespace Store

def digests (store : Store Cache) : List String := store.images.map Image.digest

def markUsed (at_ : Nat) (store : Store Cache) (digest : String) : Store Cache where
  images := store.images.map (mark at_ digest)
  cache := store.cache
  distinct := by
    rw [List.map_map, digest_comp_mark]
    exact store.distinct

def without (store : Store Cache) (digests : List String) : Store Cache where
  images := store.images.filter fun image => image.digest ∉ digests
  cache := store.cache
  distinct := store.distinct.sublist (List.filter_sublist.map _)

def delete (store : Store Cache) (digest : String) : Option (Store Cache) :=
  if digest ∈ store.digests then some (store.without [digest]) else none

end Store

def removeEach : List Image → Store Cache → Store Cache × List Image
  | [], store => (store, [])
  | image :: rest, store =>
    match store.delete image.digest with
    | none => removeEach rest store
    | some store => ((removeEach rest store).1, image :: (removeEach rest store).2)

variable (client : Client Cache)

def remove (images : List Image) (store : Store Cache) : Store Cache × List Image :=
  let (store, removed) := removeEach images store
  ({ store with cache := client.pruneCache store.digests store.cache }, removed)

def storeSize (store : Store Cache) :
    Nat := client.cacheSize store.cache + (store.images.map Image.sizeBytes).sum

/-- A store and what was removed from it. -/
abbrev Pass (Cache : Type) := Store Cache × List (Image × GCReason)

def collect (reason : GCReason) (images : List Image) (pass : Pass Cache) : Pass Cache :=
  if images = [] then pass
  else
    let (store, removed) := remove client images pass.1
    (store, pass.2 ++ removed.map (·, reason))

def collectBySize (maxSize : Nat) : List Image → Pass Cache → Pass Cache
  | [], pass => pass
  | image :: rest, pass =>
    if storeSize client pass.1 ≤ maxSize then pass
    else collectBySize maxSize rest (collect client .size [image] pass)

def collectGarbage (policy : GCPolicy) (inUse : List String) (at_ : Nat) (store : Store Cache) :
    Pass Cache :=
  let store := inUse.foldl (Store.markUsed at_) store
  let pass := collect client .unused (policy.expiredImages store.images inUse at_) (store, [])
  if policy.maxSize = 0 then pass
  else collectBySize client policy.maxSize (collectableImages pass.1.images inUse at_) pass

variable {store : Store Cache} {digest : String} {rest images : List Image}

theorem mem_digests_without {digests : List String} :
    digest ∈ (store.without digests).digests ↔ digest ∈ store.digests ∧ digest ∉ digests := by
  simp only [Store.digests, Store.without, List.mem_map, List.mem_filter, decide_eq_true_eq]
  constructor
  · rintro ⟨image, ⟨member, kept⟩, rfl⟩
    exact ⟨⟨image, member, rfl⟩, kept⟩
  · rintro ⟨⟨image, member, rfl⟩, kept⟩
    exact ⟨image, ⟨member, kept⟩, rfl⟩

theorem without_without (store : Store Cache) (first second : List String) :
    (store.without first).without second = store.without (first ++ second) := by
  refine Store.ext ?_ rfl
  simp only [Store.without, List.filter_filter, List.mem_append, not_or, Bool.decide_and]
  exact List.filter_congr fun image _ => Bool.and_comm _ _

/-- Images that are there, each once. -/
structure Present (images : List Image) (store : Store Cache) : Prop where
  distinct : (images.map Image.digest).Nodup
  mem : ∀ image ∈ images, image.digest ∈ store.digests

variable {image : Image}

theorem Present.cons (present : Present (image :: rest) store) :
    image.digest ∈ store.digests ∧ Present rest (store.without [image.digest]) := by
  obtain ⟨fresh, distinct⟩ := List.nodup_cons.mp present.distinct
  refine ⟨present.mem image List.mem_cons_self, distinct, fun other member =>
    mem_digests_without.mpr ⟨present.mem other (List.mem_cons_of_mem _ member), fun same =>
      fresh ?_⟩⟩
  rw [← List.mem_singleton.mp same]
  exact List.mem_map_of_mem member

theorem removeEach_eq (present : Present images store) :
    removeEach images store = (store.without (images.map Image.digest), images) := by
  induction images generalizing store with
  | nil => exact Prod.ext (Store.ext (by simp [removeEach, Store.without]) rfl) rfl
  | cons image rest ih =>
    obtain ⟨there, others⟩ := present.cons
    simp only [removeEach, Store.delete, if_pos there, ih others, without_without,
      List.singleton_append, List.map_cons]

/-- The store once images are removed from it together. -/
def removed (images : List Image) (store : Store Cache) : Store Cache :=
    (remove client images store).1

theorem collect_eq (present : Present images store) (reason : GCReason)
    (earlier : List (Image × GCReason)) : collect client reason images (store, earlier) =
      (if images = [] then store else removed client images store, earlier ++
      images.map (·, reason)) := by
  unfold collect
  split
  case isTrue none => simp [none]
  case isFalse => simp [removed, remove, removeEach_eq present]

theorem removed_images (present : Present images store) :
    (removed client images store).images = (store.without (images.map Image.digest)).images := by
  simp [removed, remove, removeEach_eq present]

theorem mem_digests_removed (present : Present images store) :
    digest ∈ (removed client images store).digests ↔ digest ∈ store.digests ∧
    digest ∉ images.map Image.digest := by
  rw [Store.digests, removed_images client present]
  exact mem_digests_without

theorem Present.step (present : Present (image :: rest) store) :
    Present [image] store ∧ Present rest (removed client [image] store) := by
  have one : Present [image] store := ⟨List.nodup_singleton _, fun other member =>
    List.mem_singleton.mp member ▸ present.cons.1⟩
  refine ⟨one, present.cons.2.distinct, ?_⟩
  rw [Store.digests, removed_images client one]
  exact present.cons.2.mem

/-- The store once images are removed from it one by one. -/
def removedEach (images : List Image) (store : Store Cache) : Store Cache :=
  images.foldl (fun store image => removed client [image] store) store

theorem mem_digests_removedEach (present : Present images store) :
      digest ∈ (removedEach client images store).digests ↔ digest ∈ store.digests ∧
      digest ∉ images.map Image.digest := by
  induction images generalizing store with
  | nil => simp [removedEach]
  | cons image rest ih =>
    obtain ⟨one, others⟩ := present.step client
    rw [removedEach, List.foldl_cons, ← removedEach, ih others, mem_digests_removed client one]
    simp [and_assoc]

theorem collectBySize_eq (maxSize : Nat) (present : Present images store)
    (earlier : List (Image × GCReason)) :
        ∃ count ≤ images.length, collectBySize client maxSize images (store, earlier) =
        (removedEach client (images.take count) store, earlier ++
        (images.take count).map (·, .size)) ∧
      (∀ fewer < count, maxSize < storeSize client (removedEach client (images.take fewer) store)) ∧
      (storeSize client (removedEach client (images.take count) store) ≤ maxSize ∨
      count = images.length) := by
  induction images generalizing store earlier with
  | nil => exact ⟨0, le_rfl, by simp [collectBySize, removedEach], by simp, .inr rfl⟩
  | cons image rest ih =>
    rw [collectBySize]
    split
    case isTrue fits => exact ⟨0, Nat.zero_le _, by simp [removedEach], by simp, .inl fits⟩
    case isFalse exceeds =>
      obtain ⟨one, others⟩ := present.step client
      rw [collect_eq client one, if_neg (List.cons_ne_nil _ _)]
      obtain ⟨count, within, collected, before, stopped⟩ :=
        ih others (earlier ++ [image].map (·, GCReason.size))
      refine ⟨count + 1, Nat.succ_le_succ within, ?_, fun fewer less => ?_,
        stopped.imp_right (congrArg _)⟩
      · simpa [removedEach] using collected
      cases fewer with
      | zero => exact Nat.lt_of_not_le exceeds
      | succ fewer => exact before fewer (Nat.lt_of_succ_lt_succ less)

/-! ## What a pass may remove -/

section

variable {inUse : List String} {at_ : Nat}

theorem filter_markUsed (used : digest ∈ inUse) (store : Store Cache) :
    (store.markUsed at_ digest).images.filter (isCollectable inUse at_) =
      store.images.filter (isCollectable inUse at_) := by
  simp only [Store.markUsed]
  induction store.images with
  | nil => rfl
  | cons image rest ih =>
    rw [List.map_cons, List.filter_cons, List.filter_cons, ih]
    by_cases same : image.digest = digest
    · have marked := congrFun (digest_comp_mark at_ digest) image
      simp only [Function.comp_apply, same] at marked
      simp [isCollectable, same, marked, used]
    · have kept : mark at_ digest image = image := if_neg fun both => same both.1
      rw [kept]

theorem filter_marked {marks : List String} (used : marks ⊆ inUse) (store : Store Cache) :
    (marks.foldl (Store.markUsed at_) store).images.filter (isCollectable inUse at_) =
      store.images.filter (isCollectable inUse at_) := by
  induction marks generalizing store with
  | nil => rfl
  | cons digest rest ih =>
    rw [List.foldl_cons, ih (List.subset_of_cons_subset used),
      filter_markUsed (used List.mem_cons_self)]

theorem digests_marked (marks : List String) (store : Store Cache) :
    (marks.foldl (Store.markUsed at_) store).digests = store.digests := by
  induction marks generalizing store with
  | nil => rfl
  | cons digest rest ih =>
    rw [List.foldl_cons, ih, Store.digests, Store.markUsed, List.map_map, digest_comp_mark,
      Store.digests]

theorem Present.sublist {first second : List Image} (present : Present second store)
    (part : first.Sublist second) : Present first store :=
  ⟨present.distinct.sublist (part.map _), fun image member =>
    present.mem image (part.subset member)⟩

theorem present_collectable (store : Store Cache) :
    Present (collectableImages store.images inUse at_) store where
  distinct := ((List.perm_insertionSort _ _).map _).nodup_iff.mpr
    (store.distinct.sublist (List.filter_sublist.map _))
  mem _ member := List.mem_map_of_mem (List.mem_filter.mp ((List.mem_insertionSort _).mp member)).1

theorem mem_collectableImages :
    image ∈ collectableImages images inUse at_ ↔ image ∈ images.filter (isCollectable inUse at_) :=
  List.mem_insertionSort _

theorem isCollectable_iff :
    isCollectable inUse at_ image = true ↔ image.digest ∉ inUse ∧ image.lastUsedAt + gcGracePeriod ≤
    at_ := by
  have positive : 0 < gcGracePeriod := by decide
  simp only [isCollectable, Bool.and_eq_true, Bool.not_eq_true', List.contains_eq_mem,
    decide_eq_false_iff_not, and_congr_right_iff]
  intro
  omega

theorem collectableImages_ordered (images : List Image) :
    (collectableImages images inUse at_).Pairwise fun first second =>
    first.lastUsedAt ≤ second.lastUsedAt := by
  let before (first second : Image) : Prop :=
    first.lastUsedAt < second.lastUsedAt ∨ first.lastUsedAt = second.lastUsedAt ∧
      first.digest ≤ second.digest
  have : Std.Total before := ⟨fun first second => by
    have := String.le_total first.digest second.digest
    grind⟩
  have : IsTrans Image before := ⟨fun first second third => by
    have := @String.le_trans first.digest second.digest third.digest
    grind⟩
  exact (List.pairwise_insertionSort before _).imp fun sorted => by grind

theorem expiredImages_sublist (policy : GCPolicy) (images : List Image) :
    (policy.expiredImages images inUse at_).Sublist (collectableImages images inUse at_) := by
  unfold GCPolicy.expiredImages
  split
  · exact List.nil_sublist _
  · exact List.filter_sublist

theorem mem_expiredImages {policy : GCPolicy} :
    image ∈ policy.expiredImages images inUse at_ ↔
      image ∈ images.filter (isCollectable inUse at_) ∧ 0 < policy.maxUnusedAge ∧
      image.lastUsedAt + policy.maxUnusedAge < at_ := by
  unfold GCPolicy.expiredImages
  split
  case isTrue unlimited => simp [unlimited]
  case isFalse limited =>
    rw [List.mem_filter, mem_collectableImages, decide_eq_true_eq]
    refine and_congr_right fun _ => ?_
    omega

end

/-- What a pass goes by. -/
structure Round (Cache : Type) where
  client : Client Cache
  policy : GCPolicy
  inUse : List String
  now : Nat
  store : Store Cache

namespace Round

variable (round : Round Cache)

def pass : Pass Cache := collectGarbage round.client round.policy round.inUse round.now round.store

/-- The store once the images in use are marked. -/
def marked : Store Cache := round.inUse.foldl (Store.markUsed round.now) round.store

def expired : List Image := round.policy.expiredImages round.marked.images round.inUse round.now

/-- The store once the expired images are removed. -/
def start : Store Cache := (collect round.client .unused round.expired (round.marked, [])).1

/-- The images that may be removed after that. -/
def candidates : List Image := collectableImages round.start.images round.inUse round.now

/-- How much the store occupies once some of them are removed. -/
def sizeAfter (count : Nat) : Nat :=
  storeSize round.client (removedEach round.client (round.candidates.take count) round.start)

theorem present_expired : Present round.expired round.marked :=
  (present_collectable _).sublist (expiredImages_sublist round.policy _)

theorem collect_expired : collect round.client .unused round.expired (round.marked, []) =
    (round.start, round.expired.map (·, .unused)) := by
  refine Prod.ext rfl ?_
  rw [collect_eq round.client round.present_expired, List.nil_append]

theorem start_images : round.start.images =
    (round.marked.without (round.expired.map Image.digest)).images := by
  rw [start, collect_eq round.client round.present_expired]
  dsimp only
  split
  case isTrue none => simp [none, Store.without]
  case isFalse => exact removed_images round.client round.present_expired

theorem mem_digests_start : digest ∈ round.start.digests ↔
    digest ∈ round.store.digests ∧ digest ∉ round.expired.map Image.digest := by
  rw [Store.digests, start_images, ← digests_marked round.inUse round.store]
  exact mem_digests_without

theorem pass_eq : ∃ count ≤ round.candidates.length,
      round.pass = (removedEach round.client (round.candidates.take count) round.start,
        round.expired.map (·, .unused) ++ (round.candidates.take count).map (·, .size)) ∧
      (round.policy.maxSize = 0 → count = 0) ∧
      (0 < round.policy.maxSize → (∀ fewer < count, round.policy.maxSize < round.sizeAfter fewer) ∧
        (round.sizeAfter count ≤ round.policy.maxSize ∨ count = round.candidates.length)) := by
  rw [pass, collectGarbage, ← marked, ← expired, collect_expired]
  split
  case isTrue unlimited =>
    exact ⟨0, Nat.zero_le _, by simp [removedEach], fun _ => rfl, fun limited =>
      absurd unlimited limited.ne'⟩
  case isFalse limited =>
    obtain ⟨count, within, collected, before, stopped⟩ :=
      collectBySize_eq round.client round.policy.maxSize (present_collectable round.start)
        (round.expired.map (·, .unused))
    exact ⟨count, within, collected, fun unlimited => absurd unlimited limited, fun _ =>
      ⟨before, stopped⟩⟩

variable {round} {image : Image}

theorem mem_expired : image ∈ round.expired ↔ image ∈ round.store.images ∧
    image.digest ∉ round.inUse ∧ image.lastUsedAt + gcGracePeriod ≤ round.now ∧
    0 < round.policy.maxUnusedAge ∧ image.lastUsedAt + round.policy.maxUnusedAge < round.now := by
  rw [expired, mem_expiredImages, marked, filter_marked (List.Subset.refl _), List.mem_filter,
    isCollectable_iff, and_assoc, and_assoc]

theorem mem_candidates : image ∈ round.candidates ↔ image ∈ round.store.images ∧
    image.digest ∉ round.inUse ∧ image.lastUsedAt + gcGracePeriod ≤ round.now ∧
    image ∉ round.expired := by
  rw [candidates, mem_collectableImages, start_images, Store.without, List.filter_filter]
  simp only [Bool.and_comm (isCollectable _ _ _)]
  rw [← List.filter_filter, marked, filter_marked (List.Subset.refl _), List.mem_filter,
    List.mem_filter, isCollectable_iff, decide_eq_true_eq, and_assoc, and_assoc]
  refine and_congr_right fun there => and_congr_right fun _ => and_congr_right fun _ =>
    not_congr ⟨fun same => ?_, List.mem_map_of_mem⟩
  obtain ⟨other, isExpired, same⟩ := List.mem_map.mp same
  exact List.inj_on_of_nodup_map round.store.distinct (mem_expired.mp isExpired).1 there same ▸
    isExpired

end Round

/-- A pass removes the images that were not used for too long, and then, while the store is too
large, those that were not used of late, the least recently used first, and no more of them than it
takes. -/
theorem collectGarbage_exact (round : Round Cache) : ∃ expired candidates : List Image,
      ∃ count ≤ candidates.length, (∀ image, image ∈ expired ↔ image ∈ round.store.images ∧
        image.digest ∉ round.inUse ∧ image.lastUsedAt + gcGracePeriod ≤ round.now ∧
        0 < round.policy.maxUnusedAge ∧ image.lastUsedAt + round.policy.maxUnusedAge < round.now) ∧
      (∀ image, image ∈ candidates ↔ image ∈ round.store.images ∧ image.digest ∉ round.inUse ∧
        image.lastUsedAt + gcGracePeriod ≤ round.now ∧ image ∉ expired) ∧
      candidates.Nodup ∧ (candidates.Pairwise fun first second =>
      first.lastUsedAt ≤ second.lastUsedAt) ∧
      round.pass.2 = expired.map (·, .unused) ++ (candidates.take count).map (·, .size) ∧
      (∀ digest, digest ∈ round.pass.1.digests ↔
        digest ∈ round.store.digests ∧ digest ∉ round.pass.2.map (·.1.digest)) ∧
      (round.policy.maxSize = 0 → count = 0) ∧
      (0 < round.policy.maxSize →
        let size (count : Nat) :=
          storeSize round.client (removedEach round.client (candidates.take count) round.start)
        (∀ fewer < count, round.policy.maxSize < size fewer) ∧
          (size count ≤ round.policy.maxSize ∨ count = candidates.length)) := by
  obtain ⟨count, within, passed, unlimited, limited⟩ := round.pass_eq
  have present : Present round.candidates round.start := present_collectable _
  refine ⟨round.expired, round.candidates, count, within, fun _ => Round.mem_expired, fun _ =>
    Round.mem_candidates, present.distinct.of_map, collectableImages_ordered _, ?_, fun digest =>
      ?_, unlimited, limited⟩
  · rw [passed]
  rw [passed, mem_digests_removedEach round.client (present.sublist (List.take_sublist count _)),
    Round.mem_digests_start]
  simp [and_assoc, Function.comp_def]

end

end Dicer.Images.Alone
