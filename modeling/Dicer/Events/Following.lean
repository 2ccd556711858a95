import Dicer.Concurrency.Serving
import Dicer.Events.Conduct

namespace Dicer.Events

open Concurrency

open Function (update_self update_of_ne)

/-!
# What a subscriber gets

A subscriber that reads to the end gets the matching events of the log from the oldest one kept when
it subscribed up to where its subscription ended: first the list it was given, then what it
received.  While its subscription goes on, what it has not read yet waits for it.
-/

/-- What a subscription's owner has heard, and what is held for them, out of all the events there
have been. -/
structure Followed (all heard : List Event) (sub : Subscription) : Prop where
  whole : heard ++ sub.events =
    ((all.take (sub.last.getD all.length)).drop sub.first).filter sub.filter.matches
  first : sub.first ≤ sub.last.getD all.length
  last : sub.last.getD all.length ≤ all.length
  ended : sub.ended.isSome = sub.last.isSome
  refused : sub.ended = some .fellBehind → ∃ last event, sub.last = some last ∧
    sub.refused = some event ∧ all[last]? = some event ∧ sub.filter.matches event = true

variable {config : Config} {before after world : World} {all heard : List Event}
  {sub : Subscription} {event : Event} {thread : Nat}

namespace Followed

section

variable (followed : Followed all heard sub)
include followed

theorem goesOn (running : sub.ended = none) : sub.last = none := by
  have ended := followed.ended
  rw [running] at ended
  exact Option.not_isSome_iff_eq_none.mp (by simp [← ended])

theorem all_of_running (running : sub.ended = none) :
    heard ++ sub.events = (all.drop sub.first).filter sub.filter.matches := by
  have whole := followed.whole
  rw [followed.goesOn running, Option.getD_none, List.take_length] at whole
  exact whole

theorem first_of_running (running : sub.ended = none) : sub.first ≤ all.length := by
  have first := followed.first
  rw [followed.goesOn running] at first
  exact first

theorem later {ending : Ending} (ended : sub.ended = some ending) :
    Followed (all ++ [event]) heard sub := by
  have isEnded := followed.ended
  rw [ended] at isEnded
  rcases Option.isSome_iff_exists.mp isEnded.symm with ⟨last, isLast⟩
  rcases followed with ⟨whole, first, within, ended, refused⟩
  rw [isLast, Option.getD_some] at whole first within
  constructor
  · rw [isLast, Option.getD_some, List.take_append_of_le_length within]
    exact whole
  · rw [isLast]
    exact first
  · rw [isLast, Option.getD_some, List.length_append]
    exact Nat.le_add_right_of_le within
  · exact ended
  · intro fellBehind
    rcases refused fellBehind with ⟨last, event, isLast, isRefused, there, picked⟩
    refine ⟨last, event, isLast, isRefused, ?_, picked⟩
    rw [List.getElem?_append_left (List.getElem?_eq_some_iff.mp there).1]
    exact there

theorem end_ : Followed all heard (sub.end_ .closed all.length) := by
  unfold Subscription.end_
  split
  · exact followed
  rename_i running
  have first := followed.first_of_running running
  refine ⟨?_, first, Nat.le_refl _, rfl, nofun⟩
  rw [Option.getD_some, List.take_length]
  exact followed.all_of_running running

theorem notify : Followed (all ++ [event]) heard (sub.notify event all.length) := by
  cases isEnded : sub.ended with
  | some =>
    have same : sub.notify event all.length = sub :=
      by simp [Subscription.notify, Subscription.send, isEnded]
    rw [same]
    exact followed.later isEnded
  | none =>
    have isLast := followed.goesOn isEnded
    have first := followed.first_of_running isEnded
    have whole := followed.all_of_running isEnded
    have longer : (all ++ [event]).drop sub.first = all.drop sub.first ++ [event] :=
      List.drop_append_of_le_length first
    have within : sub.first ≤ (all ++ [event]).length := by
      rw [List.length_append]
      exact Nat.le_add_right_of_le first
    by_cases picked : sub.filter.matches event = true
    · simp only [Subscription.notify, picked, if_true, Subscription.send, isEnded]
      split
      · refine ⟨?_, by simpa [isLast] using within, by simp [isLast], by simp [isLast], ?_⟩
        · simp only [isLast, Option.getD_none, List.take_length, longer, List.filter_append]
          rw [← whole]
          simp [picked]
        · simp
      · simp only [Subscription.end_, isEnded]
        refine ⟨?_, first, ?_, rfl, fun _ => ⟨_, event, rfl, rfl, ?_, picked⟩⟩
        · rw [Option.getD_some, List.take_left]
          exact whole
        · simp
        · simp
    · have same : sub.notify event all.length = sub := by simp [Subscription.notify, picked]
      rw [same]
      refine ⟨?_, by simpa [isLast] using within, by simp [isLast], followed.ended,
        by simp [isEnded]⟩
      rw [isLast, Option.getD_none, List.take_length, longer, List.filter_append, ← whole]
      simp [picked]

theorem receive {rest : List Event} (waits : sub.events = event :: rest) :
    Followed all (heard ++ [event]) { sub with events := rest } := by
  refine { followed with whole := ?_ }
  have whole := followed.whole
  rw [waits] at whole
  rw [← whole]
  simp

end

theorem subscribed (filter : Filter) (world : World) :
    Followed world.all (list filter world) (subscribed filter world) := by
  have begun : Followed world.all (list filter world)
      ⟨filter, [], none, world.past.length, none, none⟩ := by
    refine ⟨?_, ?_, Nat.le_refl _, rfl, nofun⟩
    · rw [Option.getD_none, List.take_length]
      simp [list, World.all]
    · simp [World.all]
  unfold Events.subscribed
  split
  · exact begun.end_
  · exact begun

end Followed

/-- Every subscription's owner has been told what they should. -/
def AllFollowed (world : World) : Prop :=
  ∀ id sub, world.subscriptions[id]? = some sub → Followed world.all (world.heard id) sub

theorem AllFollowed.keep (followed : AllFollowed world) :
    AllFollowed (config.keep event world) := by
  intro id sub there
  rw [Config.keep, List.getElem?_map] at there
  rcases Option.map_eq_some_iff.mp there with ⟨old, wasThere, rfl⟩
  rw [keep_all]
  exact (followed id old wasThere).notify

theorem Moved.followed (moved : Moved config thread before after)
    (followed : AllFollowed before) : AllFollowed after := by
  cases moved with
  | kept | queued | dropped => exact followed.keep
  | subscribed filter =>
    intro id sub there
    by_cases isNew : id = before.subscriptions.length
    · subst isNew
      rw [List.getElem?_concat_length] at there
      cases there
      simp only [update_self]
      exact Followed.subscribed filter before
    · have wasThere : before.subscriptions[id]? = some sub := by
        rw [← there]
        grind
      simp only [update_of_ne isNew]
      exact followed id sub wasThere
  | unsubscribed =>
    intro id sub there
    rw [List.getElem?_modify] at there
    rcases Option.map_eq_some_iff.mp there with ⟨old, wasThere, rfl⟩
    have held := followed id old wasThere
    split
    · exact held.end_
    · exact held
  | received id sub event rest there waits =>
    intro other now isNow
    by_cases same : id = other
    · subst same
      rw [List.getElem?_set_self (List.getElem?_eq_some_iff.mp there).1] at isNow
      cases isNow
      simp only [update_self]
      exact (followed id sub there).receive waits
    · rw [List.getElem?_set_ne same] at isNow
      simp only [update_of_ne (Ne.symm same)]
      exact followed other now isNow
  | closed =>
    intro id sub there
    rw [List.getElem?_map] at there
    rcases Option.map_eq_some_iff.mp there with ⟨old, wasThere, rfl⟩
    exact (followed id old wasThere).end_
  | _ => exact followed

/-- The channel is found closed only once all that it held has been read. -/
theorem receive_none {id : Nat} (found : (none, after) ∈ receive id world) :
    ∃ sub, world.subscriptions[id]? = some sub ∧ sub.ended.isSome = true ∧ sub.events = [] := by
  unfold receive at found
  split at found
  · exact nomatch found
  rename_i sub there
  split at found
  · simp at found
  rename_i drained
  split at found
  · rename_i ended
    exact ⟨sub, there, ended, drained⟩
  · exact nomatch found

/-- The entry at a place is the next one picked after those picked before it. -/
theorem picked_next {Entry : Type} {all : List Entry} {picks : Entry → Bool} {first last : Nat}
    {entry : Entry} (before : first ≤ last) (there : all[last]? = some entry)
    (picked : picks entry = true) :
    ((all.drop first).filter picks)[(((all.take last).drop first).filter picks).length]? =
    some entry := by
  rcases List.getElem?_eq_some_iff.mp there with ⟨within, isEntry⟩
  have reaches : first ≤ (all.take last).length := by
    rw [List.length_take]
    omega
  have split : all.drop first = (all.take last).drop first ++ entry :: all.drop (last + 1) := by
    rw [← isEntry, ← List.drop_eq_getElem_cons within, ← List.drop_append_of_le_length reaches,
      List.take_append_drop]
  rw [split, List.filter_append, List.filter_cons_of_pos picked, List.getElem?_append_right
    (Nat.le_refl _), Nat.sub_self, List.getElem?_cons_zero]

/-- What a subscription was made with: its filter, and how many events were no longer kept. -/
def Subscription.made (sub : Subscription) : Filter × Nat := (sub.filter, sub.first)

@[simp]
theorem Subscription.made_end_ {ending : Ending} {count : Nat} :
    (sub.end_ ending count).made = sub.made := by
  unfold Subscription.end_
  split <;> rfl

@[simp]
theorem Subscription.made_notify {count : Nat} : (sub.notify event count).made = sub.made := by
  unfold Subscription.notify Subscription.send
  split
  · split
    · rfl
    · split
      · rfl
      · exact made_end_
  · rfl

/-- Subscriptions are only added, and stay as they were made. -/
def Adds (before after : World) : Prop :=
  before.subscriptions.map Subscription.made <+: after.subscriptions.map Subscription.made

theorem Moved.adds (moved : Moved config thread before after) : Adds before after := by
  unfold Adds
  cases moved with
  | kept | queued | dropped | closed => simp [Config.keep, Config.trim, Function.comp_def]
  | subscribed => simp
  | unsubscribed id =>
    rw [List.prefix_iff_getElem?]
    grind [Subscription.made_end_]
  | received id sub event rest there waits =>
    rw [List.prefix_iff_getElem?]
    grind [Subscription.made]
  | _ => exact List.prefix_rfl

/-- Once a subscription's channel is found closed, its owner has heard exactly the matching events
from the oldest one kept when they subscribed up to its end.  If it fell behind, the next matching
event is the one there was no room for.  Where a subscription begins is settled when it is made, and
does not change. -/
theorem subscribers_miss_nothing (config : Config) (clock : Nat) (file : List (Option Event))
    {pool : Pool Nat World} (reached : (system config).Reaches (fun _ _ => True)
      (config.opened clock file) pool) :
    (∀ id after, (none, after) ∈ receive id pool.world → ∃ sub last,
      pool.world.subscriptions[id]? = some sub ∧ sub.last = some last ∧ pool.world.heard id =
        ((pool.world.all.take last).drop sub.first).filter sub.filter.matches ∧
      (sub.ended = some .fellBehind → ∃ event, sub.refused = some event ∧
        ((pool.world.all.drop sub.first).filter
          sub.filter.matches)[(pool.world.heard id).length]? = some event)) ∧
    (∀ filter answer after, (answer, after) ∈ subscribe filter pool.world →
      answer.2 = pool.world.subscriptions.length ∧ after.subscriptions.map Subscription.made =
        pool.world.subscriptions.map Subscription.made ++ [(filter, pool.world.past.length)]) ∧
    ∀ later, (system config).Leads (fun _ _ => True) System.Survives pool later →
      Adds pool.world later.world := by
  have followed : AllFollowed pool.world :=
    holds_of_run (nofun)
      (fun _ _ _ _ _ moved followed => moved.followed followed) (fun _ _ followed => followed)
      reached
  refine ⟨fun id after found => ?_, fun filter answer after subscribes => ?_, fun later led => ?_⟩
  · rcases receive_none found with ⟨sub, there, isEnded, drained⟩
    rcases followed id sub there with ⟨whole, first, within, ended, refused⟩
    rw [isEnded] at ended
    rcases Option.isSome_iff_exists.mp ended.symm with ⟨last, isLast⟩
    rw [isLast, Option.getD_some] at whole first within
    rw [drained, List.append_nil] at whole
    refine ⟨sub, last, there, isLast, whole, ?_⟩
    intro fellBehind
    rcases refused fellBehind with ⟨last, event, isLast', isRefused, there, picked⟩
    cases isLast.symm.trans isLast'
    refine ⟨event, isRefused, ?_⟩
    rw [whole]
    exact picked_next first there picked
  · cases List.mem_singleton.mp subscribes
    refine ⟨rfl, ?_⟩
    unfold subscribed
    split <;> simp [Subscription.made, Subscription.end_]
  · have initially : Adds pool.world pool.world := List.prefix_rfl
    refine (contract_holds config).leads (fun _ _ _ => trivial) (sane_opened clock file)
      (fun _ => trivial) ?_ reached led initially
    rintro first second (⟨_, moved⟩ | ⟨_, rfl⟩) adds
    · exact adds.trans moved.adds
    · exact adds

/-- An event of a kernel, at some time. -/
def fetched (time : Nat) : Event := ⟨time, .kindKernel, "k1", "v1", "pull", "", []⟩

/-- A subscriber to the events of kernels is given the one kept, receives the next, is not sent that
of an image, and reads on after the log is closed. -/
theorem subscribers_miss_nothing_of_kernels : ∃ pool,
    (system ⟨2, 0, 1⟩).Reaches (fun _ _ => True) (Config.opened ⟨2, 0, 1⟩ 9 []) pool ∧
      pool.world.heard 0 = [fetched 1, fetched 3, fetched 4] ∧ ∃ sub last,
        pool.world.subscriptions[0]? = some sub ∧ sub.last = some last ∧ pool.world.heard 0 =
          ((pool.world.all.take last).drop sub.first).filter sub.filter.matches := by
  rcases (system ⟨2, 0, 1⟩).reaches_of_schedule (fun _ _ => True) (Config.opened ⟨2, 0, 1⟩ 9 [])
    (fun world => world.heard 0 = [fetched 1, fetched 3, fetched 4] ∧
      (receive 0 world).map Prod.fst = [none])
    [.spawn 0 (.record (fetched 1)), .act 0 0, .spawn 1 (.subscribe ⟨some .kindKernel, "", [], 0⟩),
      .act 1 0, .spawn 2 (.record ⟨2, .kindImage, "d1", "app:1", "pull", "", []⟩), .act 2 0,
      .spawn 3 (.record (fetched 3)), .act 3 0,
      .spawn 4 (.record (fetched 4)), .act 4 0, .spawn 5 (.receive 0), .act 5 0, .spawn 6 .close,
        .act 6 0,
      .spawn 7 (.receive 0), .act 7 0] (by decide +kernel) with
    ⟨pool, reached, heard, closed⟩
  have found : none ∈ (receive 0 pool.world).map Prod.fst := by simp [closed]
  rcases List.mem_map.mp found with ⟨⟨_, after⟩, member, rfl⟩
  rcases (subscribers_miss_nothing _ 9 [] reached).1 0 after member
    with ⟨sub, last, there, isLast, whole, _⟩
  exact ⟨pool, reached, heard, sub, last, there, isLast, whole⟩

end Dicer.Events
