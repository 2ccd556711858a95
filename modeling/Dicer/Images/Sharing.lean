import Dicer.Concurrency.Serving
import Dicer.Images.Runs

namespace Dicer.Images

open Concurrency

/-!
# Sharing a pull

A caller that waits keeps its pull from being abandoned, and a pull is taken from those under way
only by its own goroutine, after `loadOrPull` has returned.  So pulls of one digest follow each
other.
-/

variable {before after world : World} {thread id other : Nat}

/-- A pull of a digest begins only after every earlier one has been taken from those under way. -/
def InTurn (world : World) : Prop :=
  ∀ id later, id < later → later < world.next →
    (world.pullOf id).resolved.digest = (world.pullOf later).resolved.digest →
    (world.pullOf id).phase.underWay = false

/-- A pull that is no longer under way does not come back, and stays of its digest. -/
theorem InTurn.setPull (inTurn : InTurn world) {pull : Pull}
    (pulls : after.pullOf = Function.update world.pullOf id pull) (next : after.next = world.next)
    (resolved : pull.resolved = (world.pullOf id).resolved)
    (gone : (world.pullOf id).phase.underWay = false → pull.phase.underWay = false) :
    InTurn after := by
  have digests : ∀ any, (after.pullOf any).resolved = (world.pullOf any).resolved := by
    rw [pulls]
    exact (Function.forall_update_iff world.pullOf fun any (pull : Pull) => pull.resolved = _).mpr
      ⟨resolved, fun _ _ => rfl⟩
  intro earlier later before known sameDigest
  rw [digests, digests] at sameDigest
  have wasGone := inTurn earlier later before (next ▸ known) sameDigest
  rw [pulls]
  by_cases same : earlier = id
  · subst same
    simpa using gone wasGone
  · simpa [same] using wasGone

theorem InTurn.start (inTurn : InTurn world) {pull : Pull}
    (pulls : after.pullOf = Function.update world.pullOf world.next pull)
    (next : after.next = world.next + 1)
    (shared : Shared world) {resolved : ResolvedRef} (isResolved : pull.resolved = resolved)
    (free : world.pulls resolved.digest = none) : InTurn after := by
  intro earlier later before known sameDigest
  rw [next] at known
  rw [pulls] at sameDigest ⊢
  have earlierKnown : earlier < world.next := Nat.lt_of_lt_of_le before (Nat.le_of_lt_succ known)
  have earlierOld : earlier ≠ world.next := Nat.ne_of_lt earlierKnown
  by_cases isNew : later = world.next
  · subst isNew
    have digest : (world.pullOf earlier).resolved.digest = resolved.digest := by
      simpa [earlierOld, isResolved] using sameDigest
    rw [Function.update_of_ne earlierOld]
    by_contra underWay
    have there := (shared.numbered resolved.digest earlier).mpr
      ⟨earlierKnown, digest, by simpa using underWay⟩
    simp [free] at there
  · have laterKnown : later < world.next := Nat.lt_of_le_of_ne (Nat.le_of_lt_succ known) isNew
    rw [Function.update_of_ne earlierOld] at sameDigest ⊢
    rw [Function.update_of_ne isNew] at sameDigest
    exact inTurn earlier later before laterKnown sameDigest

theorem Moved.inTurn (sane : Sane before) (moved : Moved thread before after)
    (inTurn : InTurn before) : InTurn after := by
  cases moved with
  | claimed id started => exact inTurn.setPull rfl rfl rfl (by simp [started, Phase.underWay])
  | finished id resolved owns => exact inTurn.setPull rfl rfl rfl (by simp [owns.phase, Phase.underWay])
  | removed | closed => exact inTurn.setPull rfl rfl rfl fun _ => rfl
  | cancelled | joined | left | abandoned => exact inTurn.setPull rfl rfl rfl id
  | started resolved free => exact inTurn.start rfl rfl sane.shared rfl free
  | _ => exact inTurn

/-- What callers and pulls can count on: one `loadOrPull` for a digest at a time, a pull in time for
everyone whose own context is not cancelled, and no pull beside an abandoned one. -/
structure SharedSafely (world : World) : Prop where
  oneLoads : ∀ thread other load otherLoad, world.loads.lookup thread = some load →
    world.loads.lookup other = some otherLoad → load.digest = otherLoad.digest → thread = other
  oneRuns : ∀ id other, (world.pullOf id).phase = .running → (world.pullOf other).phase = .running →
    (world.pullOf id).resolved.digest = (world.pullOf other).resolved.digest → id = other
  waiting : ∀ thread id, (thread, id) ∈ world.joined → (world.pullOf id).abandoned = false ∧
    (world.pullOf id).cutShort = false ∧
      ((world.pullOf id).phase.unfinished = true → (world.pullOf id).cancelled = false)
  answered : ∀ thread id, (thread, id) ∈ world.answered → thread ∉ world.cancelled →
    ∃ result, (world.pullOf id).result = some result ∧ (world.pullOf id).cutShort = false
  gaveUp : ∀ thread ∈ world.gaveUp, thread ∈ world.cancelled
  abandoned : ∀ id later, id < later → later < world.next → (world.pullOf id).abandoned = true →
    (world.pullOf id).resolved.digest = (world.pullOf later).resolved.digest →
    (world.pullOf id).phase.underWay = false

/-- A pull that someone waits for is not abandoned, nor was its context cancelled in time. -/
theorem Shared.waiting (shared : Shared world) (waits : (thread, id) ∈ world.joined) :
    (world.pullOf id).abandoned = false ∧ (world.pullOf id).cutShort = false ∧
      ((world.pullOf id).phase.unfinished = true → (world.pullOf id).cancelled = false) := by
  have known := shared.joined _ waits
  have sane := shared.each id known
  have member : id ∈ world.joined.map Prod.snd := List.mem_map.mpr ⟨_, waits, rfl⟩
  have waited : 0 < (world.pullOf id).waiters := by
    rw [shared.counted id known]
    exact List.count_pos_iff.mpr member
  have wanted : (world.pullOf id).abandoned = false := by
    by_contra abandoned
    have left := sane.left (by simpa using abandoned)
    omega
  refine ⟨wanted, ?_, fun unfinished => ?_⟩
  · by_contra cutShort
    simp [sane.cutShort (by simpa using cutShort)] at wanted
  by_contra cancelled
  rcases sane.cancelled (by simpa using cancelled) with abandoned | finished
  · simp [abandoned] at wanted
  · simp [finished] at unfinished

/-! ## What a caller is handed -/

/-- A pull stays of its image, and once it is done it stays as it is. -/
structure PullKept (id : Nat) (before after : World) : Prop where
  known : id < after.next
  resolved : (after.pullOf id).resolved = (before.pullOf id).resolved
  done : (before.pullOf id).phase = .done → (after.pullOf id).phase = .done ∧
    (after.pullOf id).result = (before.pullOf id).result

theorem PullKept.refl (known : id < world.next) : PullKept id world world :=
  ⟨known, rfl, fun done => ⟨done, rfl⟩⟩

theorem PullKept.trans (first : PullKept id before world) (second : PullKept id world after) :
    PullKept id before after where
  known := second.known
  resolved := second.resolved.trans first.resolved
  done := fun done =>
    have still := first.done done
    ⟨(second.done still.1).1, (second.done still.1).2.trans still.2⟩

theorem PullKept.setPull {pull : Pull} (known : id < world.next)
    (pulls : after.pullOf = Function.update world.pullOf other pull)
    (next : world.next ≤ after.next)
    (kept : id = other → pull.resolved = (world.pullOf other).resolved ∧
      ((world.pullOf other).phase = .done → pull.phase = .done ∧
        pull.result = (world.pullOf other).result)) : PullKept id world after := by
  by_cases same : id = other
  · subst same
    exact ⟨known.trans_le next, by simpa [pulls] using (kept rfl).1,
      by simpa [pulls] using (kept rfl).2⟩
  · exact ⟨known.trans_le next, by simp [pulls, same], by simp [pulls, same]⟩

theorem Moved.pullKept (moved : Moved thread before after) (known : id < before.next) :
    PullKept id before after := by
  cases moved with
  | claimed any started => exact .setPull known rfl le_rfl fun _ => ⟨rfl, by simp [started]⟩
  | finished any resolved owns | removed any resolved owns | cancelled any resolved owns
  | closed any resolved owns => exact .setPull known rfl le_rfl fun _ => ⟨rfl, by simp [owns.phase]⟩
  | joined | left | abandoned =>
    exact .setPull known rfl le_rfl fun _ => ⟨rfl, fun done => ⟨done, rfl⟩⟩
  | started resolved free =>
    exact .setPull known rfl (Nat.le_succ _) fun same => absurd known (same ▸ lt_irrefl _)
  | _ => exact ⟨known, rfl, fun done => ⟨done, rfl⟩⟩

theorem Happened.pullKept (happened : Happened before after) (known : id < before.next) :
    PullKept id before after := by
  rcases happened with ⟨event, rfl⟩
  cases event <;> exact ⟨known, rfl, fun done => ⟨done, rfl⟩⟩

theorem pullKept_of_rely (relies : contract.Rely thread before after) (known : id < before.next) :
    PullKept id before after := by
  refine Contract.Rely.stable contract relies ?_ (PullKept.refl known)
  rintro first second ⟨_, _, _, happened | ⟨_, _, moved⟩⟩ kept
  · exact kept.trans (happened.pullKept kept.known)
  · exact kept.trans (moved.pullKept kept.known)

/-- What a caller gets whose context is not cancelled: the result of a pull of the image, which it
still waits for. -/
def Handed (thread : Nat) (resolved : ResolvedRef) (result : Except Err Image) (world : World) :
    Prop :=
  thread ∈ world.cancelled ∨ ∃ id, (thread, id) ∈ world.joined ∧
    (world.pullOf id).resolved.digest = resolved.digest ∧ (world.pullOf id).phase = .done ∧
    (world.pullOf id).result = some result

/-- A caller that joins a pull joins one of its image. -/
theorem joinPull_safe (resolved : ResolvedRef) {place : Place} (sane : Sane world)
    (knows : place.Knows thread world) : (joinPull resolved).Safe contract thread
      (fun answer after => (∃ later : Place, later.Knows thread after ∧
        ∀ id, answer = .joined id → later.waits = some id) ∧ ∀ id, answer = .joined id →
        id < after.next ∧ (after.pullOf id).resolved.digest = resolved.digest) world := by
  have during : During thread (joinPull resolved)
      (fun answer later => ∀ id, answer = .joined id → later.waits = some id) place :=
    joinPull_during (fun id _ same => Joined.joined.inj same ▸ rfl) fun _ => nofun
  refine (during world sane knows).also fun now _ sane => ?_
  cases there : now.pulls resolved.digest with
  | none =>
    refine .one fun id same => ?_
    cases same
    simp [World.setPull]
  | some id =>
    have known := (sane.shared.numbered _ _).mp there
    dsimp only
    split
    next => exact .one nofun
    next =>
      refine .one fun same isSame => ?_
      cases isSame
      simpa [World.setPull] using ⟨known.1, known.2.1⟩

/-- A caller that waits for a pull gets its result once it is done, or its context is cancelled. -/
theorem awaitPull_safe {place : Place} (sane : Sane world) (knows : place.Knows thread world)
    (waits : place.waits = some id) (known : id < world.next) : (awaitPull id).Safe contract thread
      (fun answer after => (∃ later : Place, later.Knows thread after ∧ later.waits = some id ∧
        (answer = none → later.cancelled = true)) ∧ ∀ result, answer = some result →
          PullKept id world after ∧ (after.pullOf id).phase = .done ∧
          (after.pullOf id).result = some result) world := by
  have during : During thread (awaitPull id) (fun answer later => later.waits = some id ∧
      (answer = none → later.cancelled = true)) place :=
    awaitPull_during waits (fun _ => ⟨waits, by simp⟩) (fun _ => ⟨waits, by simp⟩)
      ⟨waits, fun _ => rfl⟩
  refine (during world sane knows).also fun now relies sane => .append ?_ ?_
  · split
    next done =>
      have kept := pullKept_of_rely relies known
      have isSet := (sane.shared.each id kept.known).result (by simp [done, Phase.unfinished])
      obtain ⟨result, isResult⟩ := Option.isSome_iff_exists.mp isSet
      simp only [isResult, Option.getD_some]
      refine .one fun same isSame => ?_
      cases isSame
      cases result <;> exact ⟨⟨kept.known, kept.resolved, kept.done⟩, done, isResult⟩
    next => exact .none
  · split
    next => exact .one (by simp)
    next => exact .none

theorem awaitAbandoned_safe {place : Place} (sane : Sane world) (knows : place.Knows thread world) :
    (awaitAbandoned id).run.Safe contract thread (fun answer after =>
      (∃ later : Place, later.Knows thread after ∧ True) ∧
      (answer ≠ .ok () → thread ∈ after.cancelled)) world := by
  have during : During thread (awaitAbandoned id).run (fun _ _ => True) place :=
    awaitAbandoned_during fun _ => trivial
  refine (during world sane knows).also fun now _ _ => .append ?_ ?_
  · split
    next => exact .one fun unlike => absurd rfl unlike
    next => exact .none
  · split
    next isCancelled => exact .one fun _ => by simpa using isCancelled
    next => exact .none

/-- Whatever the others do, what a caller is handed is the result of a pull of its image. -/
theorem sharedPull_handed (resolved : ResolvedRef) (attempts : Nat) {place : Place}
    (sane : Sane world) (knows : place.Knows thread world) :
    (sharedPull resolved attempts).run.Safe contract thread (Handed thread resolved) world := by
  induction attempts generalizing place world with
  | zero =>
    intro now _ _ answer
    exact nomatch answer
  | succ attempts ih =>
    refine .andThenLifted sane (joinPull_safe resolved sane knows) ?_
    rintro answer between sane ⟨⟨later, knows, waits⟩, ofImage⟩
    cases answer with
    | joined id =>
      obtain ⟨known, digest⟩ := ofImage id rfl
      refine .andThenLifted sane (awaitPull_safe sane knows (waits id rfl) known) ?_
      rintro answer final sane ⟨⟨last, knows, waits, cancelled⟩, isResult⟩
      have handed : ∀ result, answer = some result → Handed thread resolved result final := by
        intro result isAnswer
        obtain ⟨kept, done, same⟩ := isResult result isAnswer
        exact .inr ⟨id, knows.waits id waits, kept.resolved ▸ digest, done, same⟩
      rcases answer with _ | error | image
      · have leaves : During thread (leavePull id) (fun _ later => later.cancelled = true) last :=
          leavePull_during waits (cancelled rfl) (cancelled rfl)
        refine .andThenLifted sane (leaves final sane knows) ?_
        rintro _ ended _ ⟨after, knows, isCancelled⟩
        exact .inl (knows.cancelled isCancelled)
      · exact handed _ rfl
      · exact handed _ rfl
    | abandoned id =>
      rw [ExceptT.run_bind]
      refine .andThen sane (awaitAbandoned_safe sane knows) ?_
      rintro answer final sane ⟨⟨last, knows, _⟩, isCancelled⟩
      cases answer with
      | ok => exact ih sane knows
      | error => exact .inl (isCancelled nofun)

/-- The pull a caller waits for from then on. -/
def Joined.pull : Joined → Option Nat
  | joined id => some id
  | abandoned _ => none

/-- The thread waits for no pull but this. -/
def WaitsOnly (thread : Nat) (pull : Option Nat) (world : World) : Prop :=
  ∀ id, (thread, id) ∈ world.joined → pull = some id

theorem WaitsOnly.rely {pull : Option Nat} (waits : WaitsOnly thread pull before)
    (relies : contract.Rely thread before after) : WaitsOnly thread pull after := by
  refine Contract.Rely.stable contract relies ?_ waits
  rintro first second ⟨_, _, _, ⟨event, rfl⟩ | ⟨other, different, moved⟩⟩ waits id member
  · cases event <;> exact waits id member
  · cases moved with
    | joined | started =>
      rcases List.mem_cons.mp member with same | member
      · exact absurd (Prod.mk.inj same).1.symm different
      · exact waits id member
    | left | abandoned => exact waits id (List.mem_of_mem_erase member)
    | _ => exact waits id member

/-- The thread waits for a pull, which is done. -/
def Waked (thread : Nat) (world : World) : Prop :=
  ∃ id, (thread, id) ∈ world.joined ∧ (world.pullOf id).phase = .done

theorem WaitsOnly.joins (waits : WaitsOnly thread none before)
    (joined : after.joined = (thread, id) :: before.joined) : WaitsOnly thread (some id) after := by
  intro other member
  rw [joined] at member
  rcases List.mem_cons.mp member with same | member
  · rw [(Prod.mk.inj same).2]
  · simpa using waits other member

theorem WaitsOnly.unwaked (waits : WaitsOnly thread none world) : ¬ Waked thread world := by
  rintro ⟨id, member, _⟩
  simpa using waits id member

/-- Whatever the others do, a caller whose pull is done is not kept waiting. -/
theorem sharedPull_prompt (resolved : ResolvedRef) (attempts : Nat)
    (waits : WaitsOnly thread none world) : (sharedPull resolved attempts).run.Prompt contract
      thread (Waked thread) (fun _ _ => True) world := by
  induction attempts generalizing world with
  | zero =>
    refine fun now relies => ⟨fun waked => absurd waked (waits.rely relies).unwaked, ?_⟩
    intro answer
    cases answer
  | succ attempts ih =>
    have joins : (joinPull resolved).Prompt contract thread (Waked thread)
        (fun answer after => WaitsOnly thread answer.pull after) world := by
      refine .perform fun now relies => ⟨fun waked => absurd waked (waits.rely relies).unwaked, ?_⟩
      have waits := waits.rely relies
      split
      · dsimp only
        split
        · exact .one waits
        · exact .one (waits.joins rfl)
      · exact .one (waits.joins rfl)
    refine joins.andThenLifted fun answer between waits => ?_
    cases answer with
    | joined id =>
      have waited : (awaitPull id).Prompt contract thread (Waked thread) (fun _ _ => True)
          between := by
        refine .perform fun now relies => ⟨?_, fun _ _ _ => trivial⟩
        rintro ⟨other, member, done⟩
        cases waits.rely relies other member
        simp [done]
      refine waited.andThenLifted ?_
      rintro (_ | error | image) final _
      · have left : (leavePull id).Prompt contract thread (Waked thread) (fun _ _ => True) final :=
          fun now _ => ⟨fun _ => by simp, fun _ _ _ => trivial⟩
        exact left.andThenLifted fun _ _ _ => trivial
      all_goals trivial
    | abandoned id =>
      have waited : (awaitAbandoned id).run.Prompt contract thread (Waked thread)
          (fun _ after => WaitsOnly thread none after) between := by
        refine .perform fun now relies => ⟨fun waked => absurd waked (waits.rely relies).unwaked, ?_⟩
        have waits := waits.rely relies
        refine .append ?_ ?_ <;> split
        all_goals first | exact .none | exact .one waits
      rw [ExceptT.run_bind]
      refine waited.andThen ?_
      rintro (error | _) final waits
      · trivial
      · exact ih waits

/-- Every reference is a tag. -/
def tagged (ref : String) : Except Err Ref := .ok ⟨ref, none⟩

/-- Two callers share a pull, which its goroutine has begun. -/
def twoCallers : List (Choice Nat Request Event) :=
  [.spawn 0 (.pull "app:1" (.ok "d1") 1), .act 0 0, .act 0 0,
    .spawn 1 (.pull "app:1" (.ok "d1") 1), .act 1 0, .act 1 0, .spawn 2 (.run 0 5), .act 2 0,
    .act 2 0]

/-- In every run the pulls, the loads of images and the index are in step. -/
theorem images_stay_sane {parse : String → Except Err Ref} {slots : Nat} {pool : Pool Nat World}
    (reached : (system parse).Reaches (fun _ _ => True) (World.fresh slots) pool) :
    Sane pool.world :=
  sane_of_run reached

theorem images_stay_sane_pulling : ∃ pool, (system tagged).Reaches (fun _ _ => True)
    (World.fresh 1) pool ∧ (pool.world.joined = [(1, 0), (0, 0)] ∧
      (pool.world.pullOf 0).phase = .running ∧ pool.world.loads.keys = [2]) ∧ Sane pool.world :=
  (system tagged).known_of_schedule twoCallers (by decide +kernel)
    fun reached _ => images_stay_sane reached

end Dicer.Images
