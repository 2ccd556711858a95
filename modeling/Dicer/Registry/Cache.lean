import Mathlib.Algebra.GroupWithZero.Nat
import Mathlib.Data.List.Basic
import Dicer.Errors

namespace Dicer.Registry

/-!
# Pruning the layer cache

The layer cache is an OCI layout: blobs by the hex of their digests, and an index with a descriptor
for each image, annotated with the name it was pulled under.  That name is the digest the reference
resolved to, and for an image of several platforms differs from the digest of the manifest that is
cached, so several descriptors may have one manifest.  An image's blobs are written before its
descriptor, and an interrupted pull leaves blobs that no image uses.

Pruning goes by the names.  It drops the other images' descriptors by their digests, though, and
sweeps the blobs only if it dropped any.
-/

structure Manifest where
  config : String
  layers : List String
  deriving DecidableEq, Repr

structure Descriptor where
  digest : String
  refName : Option String
  deriving DecidableEq, Repr

/-- A file among the blobs, and the manifest in it if it holds one. -/
structure Blob where
  hex : String
  size : Nat
  manifest : Option Manifest
  deriving DecidableEq, Repr

/-- The index is missing before the first pull. -/
structure Cache where
  index : Option (List Descriptor)
  blobs : List Blob
  deriving DecidableEq, Repr

namespace Cache

def descriptors (cache : Cache) : List Descriptor := cache.index.getD []

def manifest (cache : Cache) (hex : String) : Option Manifest :=
  (cache.blobs.find? fun blob => blob.hex = hex).bind Blob.manifest

/-- The blobs of an image: its manifest, its configuration and its layers. -/
def Uses (cache : Cache) (descriptor : Descriptor) (hex : String) : Prop :=
  hex = descriptor.digest ∨ ∃ manifest, cache.manifest descriptor.digest = some manifest ∧
    (hex = manifest.config ∨ hex ∈ manifest.layers)

def Holds (cache : Cache) (hex : String) : Prop := ∃ blob ∈ cache.blobs, blob.hex = hex

/-- An image's manifest can be read, and its blobs are there. -/
def Whole (cache : Cache) (descriptor : Descriptor) : Prop :=
  (cache.manifest descriptor.digest).isSome ∧ ∀ hex, cache.Uses descriptor hex → cache.Holds hex

end Cache

def Kept (keep : List String) (descriptor : Descriptor) : Prop := descriptor.refName.getD "" ∈ keep

instance (keep : List String) (descriptor : Descriptor) : Decidable (Kept keep descriptor) :=
  inferInstanceAs (Decidable (_ ∈ keep))

def markReachable (cache : Cache) (digest : String) : Except String (List String) :=
  match cache.manifest digest with
  | some manifest => pure (digest :: manifest.config :: manifest.layers)
  | none => throw s!"open image sha256:{digest}"

/-- The digests to drop, and the blobs that the images to keep are made of. -/
def mark (keep : List String) (cache : Cache) :
    List Descriptor → Except String (List String × List String)
  | [] => pure ([], [])
  | descriptor :: rest =>
    if Kept keep descriptor then do
      let blobs ← markReachable cache descriptor.digest
      let (dropped, reachable) ← mark keep cache rest
      pure (dropped, blobs ++ reachable)
    else do
      let (dropped, reachable) ← mark keep cache rest
      pure (descriptor.digest :: dropped, reachable)

/-- What is supposed of the layout's `RemoveDescriptors`, told to match a digest: it takes from the
index the descriptors that have it. -/
def RemovesByDigest (removeDescriptors : List Descriptor → String → List Descriptor) : Prop :=
  ∀ index digest descriptor, descriptor ∈ removeDescriptors index digest ↔
    descriptor ∈ index ∧ descriptor.digest ≠ digest

/-- With every removal succeeding. -/
def sweepBlobs (reachable : List String) (cache : Cache) : Cache × Nat :=
  let (left, swept) := cache.blobs.partition fun blob => blob.hex ∈ reachable
  ({ cache with blobs := left }, (swept.map Blob.size).sum)

def pruneCache (removeDescriptors : List Descriptor → String → List Descriptor)
    (keep : List String) (cache : Cache) : Except String (Cache × Nat) :=
  match cache.index with
  | none => pure (cache, 0)
  | some manifests => do
    let (dropped, reachable) ← mark keep cache manifests
    if dropped = [] then pure (cache, 0)
    else
      let index := dropped.foldl removeDescriptors manifests
      pure (sweepBlobs reachable { cache with index := some index })

section

variable {removeDescriptors : List Descriptor → String → List Descriptor}
    (removes : RemovesByDigest removeDescriptors)
    {keep : List String} {cache : Cache} {descriptor : Descriptor} {reachable : List String}
    {hex : String}

theorem markReachable_ok {blobs : List String}
    (marked : markReachable cache descriptor.digest = .ok blobs) (hex : String) :
    hex ∈ blobs ↔ cache.Uses descriptor hex := by
  unfold markReachable at marked
  split at marked
  case h_1 manifest found => cases marked; simp [Cache.Uses, found]
  case h_2 => exact nomatch marked

/-- What is dropped are the images that are not kept, and what is marked are the blobs of those that
are. -/
theorem mark_ok {descriptors : List Descriptor} {dropped : List String}
    (marked : mark keep cache descriptors = .ok (dropped, reachable)) :
    dropped = (descriptors.filter fun descriptor => ¬ Kept keep descriptor).map Descriptor.digest ∧
      ∀ hex, hex ∈ reachable ↔ ∃ descriptor ∈ descriptors, Kept keep descriptor ∧
      cache.Uses descriptor hex := by
  induction descriptors generalizing dropped reachable with
  | nil => cases marked; simp
  | cons descriptor rest ih =>
    rw [mark] at marked
    split at marked
    case isTrue kept =>
      obtain ⟨blobs, first, marked⟩ := bind_eq_ok.mp marked
      obtain ⟨⟨others, more⟩, second, marked⟩ := bind_eq_ok.mp marked
      cases marked
      obtain ⟨rfl, uses⟩ := ih second
      simp [kept, markReachable_ok first, uses]
    case isFalse dropped =>
      obtain ⟨⟨others, more⟩, second, marked⟩ := bind_eq_ok.mp marked
      cases marked
      obtain ⟨rfl, uses⟩ := ih second
      simp [dropped, uses]

include removes in
theorem mem_removeDescriptors {digests : List String} {index : List Descriptor} :
    descriptor ∈ digests.foldl removeDescriptors index ↔ descriptor ∈ index ∧
    descriptor.digest ∉ digests := by
  induction digests generalizing index with
  | nil => simp
  | cons digest rest ih => simp [ih, removes index digest descriptor, and_assoc]

theorem sweepBlobs_manifest (marked : hex ∈ reachable) :
    (sweepBlobs reachable cache).1.manifest hex = cache.manifest hex := by
  simp only [sweepBlobs, Cache.manifest, List.partition_eq_filter_filter, List.find?_filter]
  congr 2
  funext blob
  by_cases same : blob.hex = hex
  · simp [same, marked]
  · simp [same]

theorem sweepBlobs_holds : (sweepBlobs reachable cache).1.Holds hex ↔ cache.Holds hex ∧
    hex ∈ reachable := by
  simp only [sweepBlobs, Cache.Holds, List.partition_eq_filter_filter, List.mem_filter,
    decide_eq_true_eq]
  constructor
  · rintro ⟨blob, ⟨there, marked⟩, rfl⟩
    exact ⟨⟨blob, there, rfl⟩, marked⟩
  · rintro ⟨⟨blob, there, rfl⟩, marked⟩
    exact ⟨blob, ⟨there, marked⟩, rfl⟩

include removes in
/-- A prune that drops images leaves those whose digests it does not drop, and the blobs of those
that it keeps. -/
theorem pruneCache_ok {after : Cache} {reclaimed : Nat}
    (pruned : pruneCache removeDescriptors keep cache = .ok (after, reclaimed)) :
    after = cache ∧ (∀ descriptor ∈ cache.descriptors, Kept keep descriptor) ∨
      (∃ descriptor ∈ cache.descriptors, ¬ Kept keep descriptor) ∧ ∃ reachable,
        (∀ hex, hex ∈ reachable ↔ ∃ descriptor ∈ cache.descriptors, Kept keep descriptor ∧
          cache.Uses descriptor hex) ∧
        after.blobs = (sweepBlobs reachable cache).1.blobs ∧
        ∀ descriptor, descriptor ∈ after.descriptors ↔ descriptor ∈ cache.descriptors ∧
          ∀ other ∈ cache.descriptors, ¬ Kept keep other → descriptor.digest ≠ other.digest := by
  unfold pruneCache at pruned
  split at pruned
  case h_1 missing =>
    cases pruned
    exact .inl ⟨rfl, by simp [Cache.descriptors, missing]⟩
  case h_2 manifests found =>
    have listed : cache.descriptors = manifests :=
      by rw [Cache.descriptors, found, Option.getD_some]
    obtain ⟨⟨dropped, reachable⟩, marked, pruned⟩ := bind_eq_ok.mp pruned
    obtain ⟨rfl, uses⟩ := mark_ok marked
    rw [← listed] at uses
    dsimp only at pruned
    split at pruned
    case isTrue none =>
      cases pruned
      refine .inl ⟨rfl, fun descriptor there => ?_⟩
      simpa using List.filter_eq_nil_iff.mp (List.map_eq_nil_iff.mp none) descriptor
        (listed ▸ there)
    case isFalse any =>
      cases pruned
      refine .inr ⟨by simpa [listed] using any, reachable, uses, rfl, fun descriptor => ?_⟩
      rw [listed]
      refine (mem_removeDescriptors removes).trans (and_congr_right fun _ => ?_)
      simp only [List.mem_map, List.mem_filter, decide_not, Bool.not_eq_true',
        decide_eq_false_iff_not]
      exact ⟨fun absent other there isDropped same => absent ⟨other, ⟨there, isDropped⟩, same.symm⟩,
        fun absent ⟨other, ⟨there, isDropped⟩, same⟩ => absent other there isDropped same.symm⟩

end

/-- What a prune is for: the images to keep stay whole, no others stay, and no blob that no image
uses. -/
structure Pruned (keep : List String) (cache after : Cache) : Prop where
  kept : ∀ descriptor ∈ cache.descriptors, Kept keep descriptor →
    descriptor ∈ after.descriptors ∧ after.Whole descriptor
  others : ∀ descriptor ∈ after.descriptors,
    descriptor ∈ cache.descriptors ∧ Kept keep descriptor
  used : ∀ hex, after.Holds hex → ∃ descriptor ∈ after.descriptors, after.Uses descriptor hex

/-- The images to keep are whole, no image to drop has the manifest of one of them, and there is an
image to drop or nothing to sweep. -/
structure Prunable (keep : List String) (cache : Cache) : Prop where
  whole : ∀ descriptor ∈ cache.descriptors, Kept keep descriptor → cache.Whole descriptor
  apart : ∀ kept ∈ cache.descriptors, ∀ dropped ∈ cache.descriptors, Kept keep kept →
    ¬ Kept keep dropped → kept.digest ≠ dropped.digest
  swept : (∃ descriptor ∈ cache.descriptors, ¬ Kept keep descriptor) ∨
    ∀ hex, cache.Holds hex → ∃ descriptor ∈ cache.descriptors, cache.Uses descriptor hex

theorem pruneCache_exact {removeDescriptors : List Descriptor → String → List Descriptor}
    (removes : RemovesByDigest removeDescriptors) (keep : List String) (cache after : Cache)
    (reclaimed : Nat)
    (returned : pruneCache removeDescriptors keep cache = .ok (after, reclaimed)) :
    Pruned keep cache after ↔ Prunable keep cache := by
  obtain ⟨rfl, all⟩ | ⟨some, reachable, marked, blobs, left⟩ := pruneCache_ok removes returned
  · -- nothing is dropped, and nothing is swept
    refine ⟨fun pruned => ⟨fun descriptor there kept => (pruned.kept descriptor there kept).2,
      fun _ _ dropped there _ isDropped => absurd (all dropped there) isDropped,
      .inr pruned.used⟩, fun prunable => ⟨fun descriptor there kept =>
        ⟨there, prunable.whole descriptor there kept⟩, fun descriptor there =>
        ⟨there, all descriptor there⟩, ?_⟩⟩
    obtain ⟨descriptor, there, dropped⟩ | used := prunable.swept
    · exact absurd (all descriptor there) dropped
    · exact used
  have read (descriptor : Descriptor) (there : descriptor ∈ cache.descriptors)
      (kept : Kept keep descriptor) :
      after.manifest descriptor.digest = cache.manifest descriptor.digest := by
    rw [Cache.manifest, blobs]
    exact sweepBlobs_manifest ((marked _).mpr ⟨descriptor, there, kept, .inl rfl⟩)
  have holds (hex : String) : after.Holds hex ↔ cache.Holds hex ∧ hex ∈ reachable := by
    rw [Cache.Holds, blobs]
    exact sweepBlobs_holds
  constructor
  · intro pruned
    refine ⟨fun descriptor there kept => ?_, fun descriptor there other member kept dropped => ?_,
      .inl some⟩
    · obtain ⟨isRead, held⟩ := (pruned.kept descriptor there kept).2
      rw [read descriptor there kept] at isRead
      refine ⟨isRead, fun hex used => ((holds hex).mp (held hex ?_)).1⟩
      rwa [Cache.Uses, read descriptor there kept]
    · exact ((left descriptor).mp (pruned.kept descriptor there kept).1).2 other member dropped
  intro prunable
  have stays (descriptor : Descriptor) (there : descriptor ∈ cache.descriptors)
      (kept : Kept keep descriptor) : descriptor ∈ after.descriptors :=
    (left descriptor).mpr
      ⟨there, fun other member => prunable.apart descriptor there other member kept⟩
  refine ⟨fun descriptor there kept => ⟨stays descriptor there kept, ?_, fun hex used => ?_⟩,
    fun descriptor there => ?_, fun hex held => ?_⟩
  · rw [read descriptor there kept]
    exact (prunable.whole descriptor there kept).1
  · rw [Cache.Uses, read descriptor there kept] at used
    exact (holds hex).mpr ⟨(prunable.whole descriptor there kept).2 hex used,
      (marked hex).mpr ⟨descriptor, there, kept, used⟩⟩
  · obtain ⟨was, absent⟩ := (left descriptor).mp there
    exact ⟨was, by_contra fun dropped => absent descriptor was dropped rfl⟩
  · obtain ⟨descriptor, there, kept, used⟩ := (marked hex).mp ((holds hex).mp held).2
    refine ⟨descriptor, stays descriptor there kept, ?_⟩
    rwa [Cache.Uses, read descriptor there kept]

def removeMatching (index : List Descriptor) (digest : String) : List Descriptor :=
  index.filter fun descriptor => descriptor.digest ≠ digest

theorem removeMatching_removes : RemovesByDigest removeMatching := by
  simp [RemovesByDigest, removeMatching]

/-- Two images with one configuration. -/
def twoImages : Cache where
  index := some [⟨"m1", some "a"⟩, ⟨"m2", some "b"⟩]
  blobs := [⟨"m1", 1, some ⟨"c", []⟩⟩, ⟨"m2", 1, some ⟨"c", ["l"]⟩⟩, ⟨"c", 1, none⟩, ⟨"l", 5, none⟩]

/-- One of them is dropped, and its layer with it. -/
theorem pruneCache_exact_one : ∃ after, pruneCache removeMatching ["a"] twoImages =
    .ok (after, 6) ∧ Pruned ["a"] twoImages after := by
  refine ⟨_, rfl, (pruneCache_exact removeMatching_removes ["a"] twoImages _ 6 rfl).mpr
    ⟨?_, by decide, .inl ⟨⟨"m2", some "b"⟩, by decide, by decide⟩⟩⟩
  simp [Cache.descriptors, Cache.Whole, Cache.Uses, Cache.Holds, Cache.manifest, twoImages]

/-- Two names of one manifest: dropping one drops both.  And blobs of an interrupted pull stay if
nothing is dropped. -/
theorem pruneCache_inexact : (∃ after reclaimed, pruneCache removeMatching ["a"]
        ⟨some [⟨"m", some "a"⟩, ⟨"m", some "b"⟩], [⟨"m", 1, some ⟨"c", []⟩⟩, ⟨"c", 1, none⟩]⟩ = .ok
        (after, reclaimed) ∧ after.descriptors = []) ∧
      pruneCache removeMatching ["a"] ⟨some [], [⟨"l", 5, none⟩]⟩ =
        .ok (⟨some [], [⟨"l", 5, none⟩]⟩, 0) :=
  ⟨⟨_, _, rfl, rfl⟩, rfl⟩

end Dicer.Registry
