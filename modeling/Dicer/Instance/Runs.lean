import Dicer.Instance.Discipline

namespace Dicer.Instance

open FileStore Concurrency

/-!
# What holds of all runs

A run begins on a host the daemon has never run on.  What the moves, the events and a crash preserve
holds in every state a run reaches, for runs whose steps meet some condition beside that no instance
is named by an ID.

Much of what an operation does to an instance it undoes or completes before it gives the instance's
lock back.  So what is upheld is upheld whenever the lock is free, and who takes the lock finds it
so.
-/

theorem Idle.fresh (thread : Nat) : Idle thread World.fresh :=
  ⟨by simp [EmptyHanded, World.fresh], by simp [World.fresh]⟩

/-- Every step that meets a condition preserves the property. -/
structure Preserved (meets : World → World → Prop) (property : World → Prop) : Prop where
  fresh : property World.fresh
  moves : ∀ {thread before after}, Sane before → Sane after → meets before after →
    Move thread before after → property before → property after
  happens : ∀ {event before after}, Sane before → Sane after → meets before after →
    before.happen event = some after → property before → property after
  crashes : ∀ {before}, Sane before → meets before before.crash → property before →
    property before.crash

section

variable {capacity : Capacity} {meets : World → World → Prop} {property : World → Prop}
  {pool : Pool Nat World}

theorem sane_of_run (apart : ∀ before after, meets before after → NamesApart before after)
    (reached : (system capacity).Reaches meets World.fresh pool) : Sane pool.world :=
  ((holds capacity).reaches Sane.fresh Idle.fresh (reached.mono apart)).kept

theorem Preserved.run (preserved : Preserved meets property)
    (apart : ∀ before after, meets before after → NamesApart before after)
    (reached : (system capacity).Reaches meets World.fresh pool) : property pool.world := by
  refine (holds capacity).preserved apart Sane.fresh Idle.fresh preserved.fresh ?_ reached
  rintro before after sane saneAfter met (rfl | ⟨thread, move⟩ | ⟨event, happened⟩ | crashed) held
  · exact held
  · exact preserved.moves sane saneAfter met move held
  · exact preserved.happens sane saneAfter met happened held
  · cases crashed
    exact preserved.crashes sane met held

end

/-- Every write of a status file and every removal of a directory succeeds. -/
abbrev FilesKept (before after : World) : Prop := after.faults = before.faults

abbrev Unfaulted (before after : World) : Prop := NamesApart before after ∧ FilesKept before after

instance (world : World) (id name : String) : Decidable (world.Names id name) :=
  inferInstanceAs (Decidable (∃ spec ∈ world.instances.items, spec.id = id ∧ spec.name = name))

/-- An instance with no more than a definition needs. -/
def plainSpec (id name : String) : Spec :=
  { (default : Spec) with
    id := id, name := name, imageRef := "image", vcpus := 1, memoryBytes := 1, diskBytes := 1 }

/-- An instance that is always restarted. -/
def restartedSpec (id name : String) : Spec := { plainSpec id name with restart := ⟨.always, 0⟩ }

/-- A host on which every instance has room. -/
def roomy : Capacity := ⟨false, 0, .zero⟩

/-- A thread goes on by so many steps, none of which fails. -/
def steps (thread count : Nat) : List (Choice Nat Request Event) :=
    List.replicate count (.act thread 0)

namespace Move

variable {thread : Nat} {world after : World} (move : Move thread world after)
include move

theorem status_unissued (sane : Sane world) {id : String} (unissued : id ∉ world.issued) :
    after.status id = none := by
  rw [move.status_kept fun hold mine => unissued (sane.ready id (.held hold mine.1)).1]
  cases was : world.status id with
  | none => rfl
  | some status => exact absurd (sane.recorded id status was).1 unissued

variable {id name : String}

theorem names_before (issued : id ∈ world.issued) (names : after.Names id name)
    : ∃ name, world.Names id name := by
  rcases names with ⟨spec, member, rfl, rfl⟩
  rcases move.defined_from member with same | ⟨_, fresh, _⟩ | ⟨old, oldMember, sameID, _⟩
  · exact ⟨spec.name, spec, same, rfl, rfl⟩
  · simp [World.isFresh, issued] at fresh
  · exact ⟨old.name, old, oldMember, sameID, rfl⟩

theorem names_after (sane : Sane world) (names : world.Names id name) :
      (∃ name, after.Names id name) ∨ (after.status = world.status ∧
      (world.status id = none ∨ 0 < world.faults)) := by
  rcases names with ⟨spec, member, rfl, rfl⟩
  rcases sane.filed.defined_to move member with same |
    ⟨_, _, ⟨new, newMember, sameID, _⟩ | ⟨_, cleared⟩⟩
  · exact .inl ⟨spec.name, spec, same, rfl, rfl⟩
  · exact .inl ⟨new.name, new, newMember, sameID, rfl⟩
  · exact .inr cleared

/-- Recovery comes to an instance when it takes its lock. -/
theorem settled_before (names : after.Names id name) (free : after.holds id = none)
    (settled : after.settled id = true) : world.settled id = true := by
  cases move with
  | quiet alike =>
    rw [World.settled_iff] at settled ⊢
    rwa [alike.stage, alike.recovered] at settled
  | took other =>
    rw [World.settled_iff] at settled ⊢
    refine settled.imp_right fun recovered => ?_
    have different : id ≠ other := by
      rintro rfl
      simp [World.took, World.setHold] at free
    simp only [World.took] at recovered
    split at recovered
    · exact (List.mem_cons.mp recovered).resolve_left different
    · exact recovered
  | beganRecovery => exact World.settled_iff.mpr (.inr ((World.settled_iff.mp settled).resolve_left (by simp)))
  | served _ all =>
    rcases names with ⟨spec, member, rfl, _⟩
    exact World.settled_iff.mpr (.inr (all spec member))
  | _ => exact settled

end Move

/-- Some part of how instances stand is right whenever their locks are free, from when recovery has
come to them, and who holds a lock found it so. -/
structure Upheld (part : Standing → Bool) (world : World) : Prop where
  free : ∀ id name, world.holds id = none → world.Names id name → world.settled id = true →
    part (world.standing id) = true
  held : ∀ id hold name, world.holds id = some hold → world.Names id name →
    part hold.found = true ∨ hold.purpose = .recover

namespace Upheld

variable {part : Standing → Bool} {thread : Nat} {world after : World}

theorem fresh : Upheld part World.fresh where
  free := by
    rintro id name _ ⟨spec, member, _⟩
    simp [World.fresh, Definitions.empty] at member
  held := by simp [World.fresh]

/-- Nothing is upheld of a daemon that has yet to recover. -/
theorem crashed (world : World) : Upheld part world.crash where
  free := by
    intro id name _ _ settled
    simp [World.settled, World.crash] at settled
  held := by simp [World.crash]

theorem happened (upheld : Upheld part world) (sane : Sane world) {event : Event}
    (happened : world.happen event = some after)
    (same : after.status = world.status → ∀ id, part (after.standing id) = part
      (world.standing id)) :
    Upheld part after := by
  rcases World.happen_keeps happened with ⟨vmms, runs, status, rfl, kept⟩
  refine ⟨fun id name free names settled => ?_, upheld.held⟩
  have settled : world.settled id = true := settled
  have loaded : world.stage ≠ .loading := by
    intro loading
    simp [World.settled, loading, sane.loading loading] at settled
  rw [same (kept.resolve_right fun booted => loaded booted.1)]
  exact upheld.free id name free names settled

/-- A move upholds what others keep while an instance's lock is free, and its holder sees to before
it gives the lock back. -/
theorem moved (upheld : Upheld part world) (sane : Sane world) (move : Move thread world after)
    (keeps : ∀ id, id ∈ world.issued → (∀ hold, ¬ world.Mine thread id hold) →
      (world.holds id = none → after.holds id = none) → part (world.standing id) = true →
        part (after.standing id) = true)
    (leaves : ∀ id hold, world.Mine thread id hold → after = world.setHold id none →
      (world.faults = 0 → world.Fit id hold) → part hold.found = true ∨ hold.purpose = .recover →
      part (after.standing id) = true)
    (begins : ∀ id, id ∉ world.issued → after.status id = none → part (after.standing id) = true) :
    Upheld part after := by
  constructor
  · intro id name free names settled
    by_cases issued : id ∈ world.issued
    · rcases move.names_before issued names with ⟨oldName, namesBefore⟩
      have settledBefore := move.settled_before names free settled
      cases move.lockMoves id with
      | free before now =>
        refine keeps id issued ?_ (fun _ => now)
          (upheld.free id oldName before namesBefore settledBefore)
        rintro hold ⟨held, _⟩
        simp [before] at held
      | takes purpose _ _ _ _ now => simp [now, World.took, World.setHold] at free
      | gives hold mine now _ fit =>
        exact leaves id hold mine now fit (upheld.held id hold oldName mine.1 namesBefore)
      | holds hold later _ now => simp [now] at free
    · exact begins id issued (move.status_unissued sane issued)
  · intro id hold name held names
    rcases move.held_before held with ⟨purpose, rfl, rfl, before, issued, settled, _⟩ |
      ⟨old, before, continues⟩
    · rcases move.names_before issued names with ⟨oldName, namesBefore⟩
      by_cases recovers : purpose = .recover
      · exact .inr recovers
      · exact .inl (upheld.free id oldName before namesBefore (settled recovers))
    · rcases move.names_before (sane.ready id (.held old before)).1 names
        with ⟨oldName, namesBefore⟩
      rw [continues.found, continues.purpose]
      exact upheld.held id old oldName before namesBefore

end Upheld

end Dicer.Instance
