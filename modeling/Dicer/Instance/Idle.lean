import Mathlib.Algebra.Group.Int.Defs
import Dicer.Maps

namespace Dicer.Instance

open Function

/-!
# Instances that have been idle

Running instances are sampled in rounds.  Of each the tracker keeps its last sample and since when
it has been idle, and forgets it after a round that did not sample it, so what it keeps is about
consecutive rounds of one run.  What makes an instance idle between two samples is left open.

An instance is looked up by the ID of its sample, and the store looks for a name first.  So it may
find another instance, that has the ID for its name, and it is that one which is asked to go on
standby.
-/

/-- A sample of an instance, with whatever it counts.  Times are in nanoseconds, and zero is no
time. -/
structure Stats (Counters : Type) where
  instanceID : String
  startedAt : Int
  readAt : Int
  counters : Counters

/-- A time less another, as a duration of 64 bits. -/
def sub (time earlier : Int) : Int := max (-2 ^ 63) (min (2 ^ 63 - 1) (time - earlier))

structure IdleSamples (Counters : Type) where
  last : Stats Counters
  idleSince : Int

abbrev IdleTracker (Counters : Type) := String → Option (IdleSamples Counters)

/-- What a round finds of a stored instance. -/
structure Found where
  id : String
  standbyAfter : Int
  running : Bool

/-- A round: its samples, at most one of each instance, and the instances that are stored. -/
structure Round (Counters : Type) where
  sample : List (Stats Counters)
  byName : String → Option Found
  byID : String → Option Found
  nodup : (sample.map Stats.instanceID).Nodup

variable {Counters : Type}

/-- The instance found for a sample, if it can go on standby. -/
def Round.found (round : Round Counters) (stats : Stats Counters) : Option Found := do
  let found ← (round.byName stats.instanceID).or (round.byID stats.instanceID)
  if found.standbyAfter = 0 ∨ found.running = false then none else some found

def IdleSamples.idleFor (samples : IdleSamples Counters) : Int :=
  if samples.idleSince = 0 then 0 else sub samples.last.readAt samples.idleSince

variable (idle : Stats Counters → Stats Counters → Bool)

def nextSamples (prev : Option (IdleSamples Counters)) (stats : Stats Counters) :
    IdleSamples Counters :=
  match prev with
  | some prev =>
    if prev.last.startedAt = stats.startedAt ∧ idle prev.last stats = true then
      ⟨stats, if prev.idleSince = 0 then prev.last.readAt else prev.idleSince⟩
    else ⟨stats, 0⟩
  | none => ⟨stats, 0⟩

/-- The tracker with a sample taken, and how long its instance has been idle. -/
def IdleTracker.observe (tracker : IdleTracker Counters) (stats : Stats Counters) :
    IdleTracker Counters × Int :=
  let next := nextSamples idle (tracker stats.instanceID) stats
  (update tracker stats.instanceID (some next), next.idleFor)

/-- The samples of instances that can go on standby. -/
def Round.sampled (round : Round Counters) : List (Stats Counters) :=
  round.sample.filter fun stats => (round.found stats).isSome

/-- Take samples one after another, each with how long its instance has been idle. -/
def observeEach : IdleTracker Counters → List (Stats Counters) →
    IdleTracker Counters × List (Stats Counters × Int)
  | tracker, [] => (tracker, [])
  | tracker, stats :: rest =>
    let (tracker, idleFor) := tracker.observe idle stats
    let (tracker, others) := observeEach tracker rest
    (tracker, (stats, idleFor) :: others)

def IdleTracker.keepOnly (tracker : IdleTracker Counters) (ids : List String) :
    IdleTracker Counters :=
  fun id => if id ∈ ids then tracker id else none

/-- The tracker after a round, and the instances asked to go on standby, with how long they have
been idle. -/
def standbyIdle (tracker : IdleTracker Counters) (round : Round Counters) :
    IdleTracker Counters × List (String × Int) :=
  let (tracker, observed) := observeEach idle tracker round.sampled
  (tracker.keepOnly (round.sampled.filterMap fun stats => (round.found stats).map Found.id),
    observed.filterMap fun (stats, idleFor) => (round.found stats).bind fun found =>
      if found.standbyAfter ≤ idleFor then some (found.id, idleFor) else none)

/-- What is kept after rounds, the latest first. -/
def tracked : List (Round Counters) → IdleTracker Counters
  | [] => fun _ => none
  | round :: earlier => (standbyIdle idle (tracked earlier) round).1

/-- The instance found for a sample is the one that was sampled. -/
def Round.Faithful (round : Round Counters) : Prop :=
  ∀ stats ∈ round.sample, ∀ found, round.found stats = some found → found.id = stats.instanceID

/-- There are samples of the instance in consecutive rounds, up to the latest, all of one run, with
the instance idle from each to the next. -/
inductive Idled (id : String) : List (Round Counters) → (last first : Stats Counters) → Prop
  | now {round : Round Counters} {earlier : List (Round Counters)} {stats : Stats Counters}
      (sampled : stats ∈ round.sample) (same : stats.instanceID = id) :
      Idled id (round :: earlier) stats stats
  | since {round : Round Counters} {earlier : List (Round Counters)}
      {prev stats first : Stats Counters} (sampled : stats ∈ round.sample)
      (same : stats.instanceID = id) (before : Idled id earlier prev first)
      (run : prev.startedAt = stats.startedAt) (isIdle : idle prev stats = true) :
      Idled id (round :: earlier) stats first

variable {idle} {tracker : IdleTracker Counters} {list : List (Stats Counters)}
  {rounds : List (Round Counters)} {round : Round Counters} {id : String} {stats : Stats Counters}
    {samples : IdleSamples Counters}

/-- What is kept of an instance shows since when it has been idle, if it has. -/
def Shows (idle : Stats Counters → Stats Counters → Bool) (id : String)
    (rounds : List (Round Counters)) (samples : IdleSamples Counters) : Prop :=
  ∃ first, Idled idle id rounds samples.last first ∧
    (samples.idleSince = 0 ∨ samples.idleSince = first.readAt)

theorem Idled.last {last first : Stats Counters} (idled : Idled idle id rounds last first) :
    Idled idle id rounds last last := by
  cases idled with
  | now sampled same | since sampled same => exact .now sampled same

theorem Shows.next {prev : Option (IdleSamples Counters)} (sampled : stats ∈ round.sample)
    (shows : ∀ samples, prev = some samples → Shows idle stats.instanceID rounds samples) :
    Shows idle stats.instanceID (round :: rounds) (nextSamples idle prev stats) := by
  unfold nextSamples
  split
  · rename_i prev
    rcases shows prev rfl with ⟨first, idled, since⟩
    split
    · rename_i goesOn
      by_cases busy : prev.idleSince = 0
      · exact ⟨prev.last, .since sampled rfl idled.last goesOn.1 goesOn.2, .inr (if_pos busy)⟩
      · refine ⟨first, .since sampled rfl idled goesOn.1 goesOn.2, .inr ?_⟩
        exact (if_neg busy).trans (since.resolve_left busy)
    · exact ⟨stats, .now sampled rfl, .inl rfl⟩
  · exact ⟨stats, .now sampled rfl, .inl rfl⟩

theorem observeEach_other (other : id ∉ list.map Stats.instanceID) :
    (observeEach idle tracker list).1 id = tracker id := by
  induction list generalizing tracker with
  | nil => rfl
  | cons stats rest ih =>
    rw [List.map_cons, List.mem_cons, not_or] at other
    exact (ih other.2).trans (update_of_ne other.1 ..)

/-- What was kept before the round of the instances sampled is brought up to date with their
samples. -/
theorem observeEach_shows (nodup : (list.map Stats.instanceID).Nodup)
    (sampled : ∀ stats ∈ list, stats ∈ round.sample)
    (shows : ∀ id ∈ list.map Stats.instanceID, ∀ samples, tracker id = some samples →
      Shows idle id rounds samples) :
    (∀ id ∈ list.map Stats.instanceID, ∀ samples, (observeEach idle tracker list).1 id =
      some samples → Shows idle id (round :: rounds) samples) ∧
    ∀ observed ∈ (observeEach idle tracker list).2, ∃ samples,
      Shows idle observed.1.instanceID (round :: rounds) samples ∧ observed.1 ∈ list ∧
        observed.2 = samples.idleFor := by
  induction list generalizing tracker with
  | nil => simp [observeEach]
  | cons stats rest ih =>
    rw [List.map_cons, List.nodup_cons] at nodup
    rw [List.map_cons, List.forall_mem_cons] at shows
    rw [List.forall_mem_cons] at sampled
    have next := Shows.next sampled.1 shows.1
    have others : ∀ id ∈ rest.map Stats.instanceID, ∀ samples, (tracker.observe idle stats).1 id =
        some samples → Shows idle id rounds samples := by
      intro id member samples kept
      have apart : id ≠ stats.instanceID := fun same => nodup.1 (same ▸ member)
      exact shows.2 id member samples ((update_of_ne apart ..).symm.trans kept)
    have later := ih nodup.2 sampled.2 others
    simp only [List.map_cons, List.forall_mem_cons, observeEach]
    refine ⟨⟨fun samples kept => ?_, later.1⟩, ⟨_, next, List.mem_cons_self, rfl⟩,
      fun observed member => ?_⟩
    swap
    · obtain ⟨samples, shows, among, same⟩ := later.2 observed member
      exact ⟨samples, shows, List.mem_cons_of_mem _ among, same⟩
    cases (update_self ..).symm.trans ((observeEach_other nodup.1).symm.trans kept)
    exact next

theorem Round.nodup_sampled (round : Round Counters) : (round.sampled.map Stats.instanceID).Nodup :=
  round.nodup.sublist (List.filter_sublist.map _)

/-- Only an instance that was sampled is kept, if the instances found are those sampled. -/
theorem Round.Faithful.mem_sampled (faithful : round.Faithful)
    (kept : id ∈ round.sampled.filterMap fun stats => (round.found stats).map Found.id) :
    id ∈ round.sampled.map Stats.instanceID := by
  obtain ⟨stats, sampled, isKept⟩ := List.mem_filterMap.mp kept
  obtain ⟨found, isFound, rfl⟩ := Option.map_eq_some_iff.mp isKept
  rw [faithful stats (List.mem_of_mem_filter sampled) found isFound]
  exact List.mem_map_of_mem sampled

theorem tracked_shows (faithful : ∀ round ∈ rounds, round.Faithful)
    (kept : tracked idle rounds id = some samples) : Shows idle id rounds samples := by
  induction rounds generalizing id samples with
  | nil => simp [tracked] at kept
  | cons round earlier ih =>
    rw [List.forall_mem_cons] at faithful
    simp only [tracked, standbyIdle, IdleTracker.keepOnly] at kept
    split at kept
    · rename_i found
      exact (observeEach_shows round.nodup_sampled (fun _ => List.mem_of_mem_filter) fun _ _ _ =>
        ih faithful.2).1 id (faithful.1.mem_sampled found) samples kept
    · simp at kept

/-- Whenever an instance is asked to go on standby, it has been idle for as long as is said, from
the first to the last of samples of one run in consecutive rounds, if the instances found for the
samples are those that were sampled. -/
theorem asked_after_idling (idle : Stats Counters → Stats Counters → Bool)
    (earlier : List (Round Counters)) (round : Round Counters) {id : String} {idleFor : Int}
    (faithful : ∀ each ∈ round :: earlier, each.Faithful)
    (asked : (id, idleFor) ∈ (standbyIdle idle (tracked idle earlier) round).2) :
    ∃ last first, Idled idle id (round :: earlier) last first ∧
    idleFor = sub last.readAt first.readAt := by
  rw [List.forall_mem_cons] at faithful
  obtain ⟨⟨stats, _⟩, member, answers⟩ := List.mem_filterMap.mp asked
  obtain ⟨found, isFound, answers⟩ := Option.bind_eq_some_iff.mp answers
  obtain ⟨_, answers⟩ := Option.ite_none_right_eq_some.mp answers
  cases answers
  rcases (observeEach_shows round.nodup_sampled (fun _ => List.mem_of_mem_filter) fun _ _ _ =>
    tracked_shows faithful.2).2 _ member with ⟨samples, ⟨first, idled, since⟩, sampled, same⟩
  rw [← faithful.1 stats (List.mem_of_mem_filter sampled) found isFound] at idled
  rw [show idleFor = _ from same, IdleSamples.idleFor]
  split
  · exact ⟨_, _, idled.last, by simp only [sub]; omega⟩
  · rename_i isIdle
    rw [since.resolve_left isIdle]
    exact ⟨_, _, idled, rfl⟩

/-- Rounds a minute apart, each with a sample of one instance.  What is stored may be idle for a
minute: the instance, or another that has its ID for its name. -/
def everyMinute (minute : Int) (another : Bool) : Round Unit where
  sample := [⟨"x1", 1, minute * 60, ()⟩]
  byName := fun name => if another ∧ name = "x1" then some ⟨"y1", 60, true⟩ else none
  byID := fun id => if ¬another ∧ id = "x1" then some ⟨"x1", 60, true⟩ else none
  nodup := by simp

theorem asked_after_idling_minute : ("x1", 60) ∈ (standbyIdle (fun _ _ => true)
    (tracked (fun _ _ => true) [everyMinute 1 false]) (everyMinute 2 false)).2 ∧
    ∃ last first, Idled (fun _ _ => true) "x1" [everyMinute 2 false, everyMinute 1 false] last
      first ∧ 60 = sub last.readAt first.readAt := by
  have asked : ("x1", 60) ∈ (standbyIdle (fun _ _ => true)
      (tracked (fun _ _ => true) [everyMinute 1 false]) (everyMinute 2 false)).2 := by
    decide +kernel
  have faithful (minute : Int) : (everyMinute minute false).Faithful := by
    intro stats sampled found isFound
    cases List.mem_singleton.mp sampled
    exact Option.some.inj isFound ▸ rfl
  refine ⟨asked, asked_after_idling _ _ _ ?_ asked⟩
  exact List.forall_mem_cons.mpr ⟨faithful 2, List.forall_mem_singleton.mpr (faithful 1)⟩

/-- Once an instance that was sampled is gone, and another is named by its ID, that one is asked to
go on standby, of which there is no sample. -/
theorem another_asked_after_idling :
    (standbyIdle (fun _ _ => true) (tracked (fun _ _ => true) [everyMinute 1 false])
      (everyMinute 2 true)).2 = [("y1", 60)] ∧
    ¬∃ last first, Idled (fun _ _ => true) "y1" [everyMinute 2 true, everyMinute 1 false] last
      first := by
  refine ⟨by decide +kernel, ?_⟩
  rintro ⟨last, first, idled⟩
  cases idled.last with
  | now sampled same | since sampled same =>
    cases List.mem_singleton.mp sampled
    exact absurd same (by decide)

end Dicer.Instance
