import Dicer.Instance.View

namespace Dicer.Instance

open FileStore Function Concurrency
open Program (Ensures)

/-!
# One rule for each action

Under an instance's lock each action that is not calm takes a view to a view.  Its rule says which
view has to hold before it for the action to be one of the moves, and which views it may leave.
-/

section

variable {thread : Nat} {id : String} {facts : Facts} {view : View} {Value : Type}

theorem Under.perform {action : Nat → World → List (Value × World)} {post : Value → View → Prop}
    (step : ∀ now, Sane now → view.Sees thread id facts now → Answers (fun answer after =>
      (after = now ∧ post answer view) ∨ (Move thread now after ∧
        (Sane after → ∃ later : View, later.Sees thread id facts after ∧ post answer later)))
        (action thread now)) :
    Under thread id facts (Program.perform action) post view := by
  apply Ensures.perform
  intro now sane sees answer after answered _
  rcases step now sane sees answer after answered with ⟨rfl, holds⟩ | ⟨move, later⟩
  · exact ⟨.inl rfl, fun _ => ⟨view, sees, holds⟩⟩
  · exact ⟨.inr move, later⟩

theorem change_under {effect : Nat → World → World} {later : View} {post : Unit → View → Prop}
    (move : ∀ now, Sane now → view.Sees thread id facts now → Move thread now (effect thread now))
    (seen : ∀ now, Sane now → Sane (effect thread now) → Move thread now (effect thread now) →
      view.Sees thread id facts now → later.Sees thread id facts (effect thread now))
    (changed : post () later) : Under thread id facts (change effect) post view := by
  refine .perform fun now sane sees => .one (.inr ?_)
  have moved := move now sane sees
  exact ⟨moved, fun saneAfter => ⟨later, seen now sane saneAfter moved sees, changed⟩⟩

theorem observe_under {look : World → Value} {post : Value → View → Prop}
    (seen : ∀ now, Sane now → view.Sees thread id facts now → post (look now) view) :
    Under thread id facts (observe look) post view :=
  .perform fun now sane sees => .one (.inl ⟨rfl, seen now sane sees⟩)

theorem storeInstance_under {post : Except Err Spec → View → Prop}
    (found : ∀ spec, view.spec = some spec → spec.id = id → post (.ok spec) view)
    (missing : ∀ error, view.spec = none → post (.error error) view) :
    Under thread id facts (storeInstance id).run post view := by
  refine .perform fun now sane sees => ?_
  simp only [sees.spec]
  cases known : view.spec with
  | none => exact .one (.inl ⟨rfl, missing _ known⟩)
  | some spec => exact .one (.inl ⟨rfl, found spec known (sees.defined sane known).2⟩)

/-- The definition with which every operation under a lock begins. -/
theorem storeInstance_then {Other : Type} {rest : Spec → Call Other}
    {post : Except Err Other → View → Prop}
    (found : ∀ spec, view.spec = some spec → spec.id = id → Under thread id facts (rest spec).run
      post view)
    (missing : ∀ error, view.spec = none → post (.error error) view) :
    Under thread id facts (storeInstance id >>= rest).run post view :=
  Ensures.bindExcept (storeInstance_under found missing)

/-- The status with a look at the frozen guest. -/
def View.reported (view : View) : Status :=
  if view.raw.state.isDown ∧ view.frozen then { view.raw with state := .standby } else view.raw

theorem readStatus_under {post : Status → View → Prop} (read : post view.raw view) :
    Under thread id facts (readStatus id) post view := by
  apply observe_under
  intro now _ sees
  rw [sees.status]
  exact read

variable {spec current : Spec} {world : World} {post : Except Err Unit → View → Prop}

theorem onStandby_under (known : view.spec = some current) (same : spec.name = current.name)
    {post : Bool → View → Prop} (looked : post view.frozen view) :
    Under thread id facts (onStandby spec) post view := by
  apply observe_under
  intro now _ sees
  rw [same, sees.frozen current known]
  exact looked

/-- A status read with a definition that may be out of date. -/
theorem statusOf_under_stale (sameID : spec.id = id) {post : Status → View → Prop}
    (read : post view.raw view) (frozen : view.raw.state.isDown = true →
      post { view.raw with state := .standby } view) :
    Under thread id facts (statusOf spec) post view := by
  apply Ensures.bind
  rw [sameID]
  apply readStatus_under
  by_cases down : view.raw.state.isDown = true
  · simp only [down, if_true]
    apply Ensures.bind
    apply observe_under
    intro now _ _
    cases (now.dirs spec.name).standby.isSome with
    | true => exact Ensures.done (frozen down)
    | false => exact Ensures.done read
  · simp only [down]
    exact Ensures.done read

theorem statusOf_under (known : view.spec = some current) (sameID : spec.id = id)
    (sameName : spec.name = current.name) {post : Status → View → Prop}
    (read : post view.reported view) :
    Under thread id facts (statusOf spec) post view := by
  apply Ensures.bind
  rw [sameID]
  apply readStatus_under
  unfold View.reported at read
  by_cases down : view.raw.state.isDown = true
  · simp only [down, if_true]
    apply Ensures.bind
    apply onStandby_under known sameName
    cases frozen : view.frozen with
    | true => exact Ensures.done (by rwa [if_pos ⟨down, frozen⟩] at read)
    | false => exact Ensures.done (by rwa [if_neg (by simp [frozen])] at read)
  · simp only [down]
    rw [if_neg (fun both => down both.1)] at read
    exact Ensures.done read

/-! ## Status files -/

/-- What the holder may make of the instance's state. -/
def View.Turns (view : View) (new : State) : Prop :=
  ∀ hold : Hold, hold.purpose = view.purpose → hold.found = view.found →
    hold.Turns view.raw.state new

theorem View.Sees.fault (sees : view.Sees thread id facts world) (sane : Sane world)
    (saneAfter : Sane world.fault) : view.failed.Sees thread id facts world.fault :=
  (sees.alike sane saneAfter .fault).fails (Nat.succ_pos _)

theorem View.Sees.known (sees : view.Sees thread id facts world) (sane : Sane world)
    (known : view.spec ≠ none ∨ view.status ≠ none) :
    (∃ old, world.status id = some old) ∨ ∃ name, world.Names id name := by
  rcases known with defined | recorded
  · rcases Option.ne_none_iff_exists'.mp defined with ⟨spec, isKnown⟩
    exact .inr ⟨_, sees.names sane isKnown⟩
  · exact .inl (Option.ne_none_iff_exists'.mp (sees.status ▸ recorded))

theorem writeStatus_under {status : Status} (known : view.spec ≠ none ∨ view.status ≠ none)
    (turns : view.Turns status.state) (written : post (.ok ()) (view.write (some status)))
    (failed : ∀ error, post (.error error) view.failed) :
    Under thread id facts (writeStatus id status).run post view := by
  refine .perform fun now sane sees => ?_
  rcases sees.held with ⟨hold, mine, isPurpose, isFound, _⟩
  have move : Move thread now (now.setStatus id (some status)) :=
    .wrote id hold status mine (sees.known sane known) (sees.stateIn ▸ turns hold isPurpose isFound)
  exact .two (.inr ⟨move, fun saneAfter =>
    ⟨_, sees.wroteStatus sane saneAfter move rfl rfl rfl rfl rfl rfl, written⟩⟩)
      (.inr ⟨.quiet .fault, fun saneAfter => ⟨_, sees.fault sane saneAfter, failed _⟩⟩)

theorem removeRuntimeDir_under
    (may : (view.purpose.launches = true ∧ view.raw.state = .starting) ∨ view.purpose.ends = true)
    (removed : post (.ok ()) (view.write none))
    (failed : ∀ error later, later = view ∨ later = view.write none →
      post (.error error) later.failed) :
    Under thread id facts (removeRuntimeDir id).run post view := by
  refine .perform fun now sane sees => ?_
  have gone : ∀ faults, now.faults ≤ faults →
      Move thread now { now.setStatus id none with faults := faults } := by
    rcases sees.held with ⟨hold, mine, isPurpose, _⟩
    refine fun faults more => .statusRemoved id hold faults mine ?_ more
    rw [sees.stateIn, isPurpose]
    exact may
  have stuck : now.Alike { now.fault with stuck := id :: now.stuck } := ⟨rfl, Nat.le_succ _⟩
  refine .three (.inr ⟨gone now.faults le_rfl, fun saneAfter => ⟨_, ?_, removed⟩⟩)
    (.inr ⟨.quiet stuck, fun saneAfter => ⟨_, ?_, failed _ view (.inl rfl)⟩⟩)
    (.inr ⟨gone _ (Nat.le_succ _), fun saneAfter => ⟨_, ?_, failed _ _ (.inr rfl)⟩⟩)
  · exact sees.wroteStatus sane saneAfter (gone now.faults le_rfl) rfl rfl rfl rfl rfl rfl
  · exact (sees.alike sane saneAfter stuck).fails (Nat.succ_pos _)
  · exact (sees.wroteStatus sane saneAfter (gone _ (Nat.le_succ _)) rfl rfl rfl rfl rfl rfl).fails
      (Nat.succ_pos _)

theorem notifyWaiters_under {post : Unit → View → Prop}
      (rests : view.purpose.ends = true ∨ view.rests = true ∨
        (view.raw.state.isDown = true ∧ view.found.state.isDown = false ∧
        view.purpose ∈ [.exit, .unhealthy, .policyRestart, .recover]) ∨ view.faulty = true)
    (told : post () { view with told := true }) :
    Under thread id facts (notifyWaiters id) post view := by
  refine change_under (fun now sane sees => ?_) (fun now sane _ move sees => ?_) told
  · rcases sees.held with ⟨hold, mine, isPurpose, isFound, _⟩
    refine .notified id hold mine ?_
    rw [sees.stateIn, sees.atRest sane, isPurpose, isFound]
    exact rests.imp_right (Or.imp_right (Or.imp_right sees.faulty))
  · refine { sees with stand := sees.stand.kept sane move fun _ => ⟨rfl, rfl⟩, told := fun _ => ?_ }
    rw [World.standing_told]
    intro _
    rw [World.told_iff]
    intro waiter member same _ _
    rcases List.mem_map.mp member with ⟨before, _, rfl⟩
    by_cases sameBefore : before.spec.id = id
    · simp [Waiter.hear, sameBefore]
    · simp [Waiter.hear, sameBefore] at same

/-- The end of the instance was recorded, or could not be: nothing of it is said to run, and whoever
has to hear of it has. -/
structure View.Over (view later : View) : Prop where
  purpose : later.purpose = view.purpose
  found : later.found = view.found
  exited : later.exited = view.exited
  supervised : later.supervised = view.supervised
  handled : later.faulty = true ∨ (later.raw.state.isActive = false ∧
    (later.raw.state = .restarting → later.awaited = true) ∧
    (later.rests = true → later.told = true))

theorem tell_under {later : View} {post : Unit → View → Prop}
    (failed : ∀ later, view.Over later → post () later)
    (isOver : view.Over { later with told := true })
    (rests : later.raw.state.isDown = true ∨ later.faulty = true) :
    Under thread id facts (do
      match ← (storeInstance id).run with
      | .error _ => notifyWaiters id
      | .ok spec => if ← onStandby spec then return () else notifyWaiters id) post later := by
  have notifies : later.spec = none ∨ later.frozen = false →
      Under thread id facts (notifyWaiters id) post later := by
    intro bare
    refine notifyWaiters_under ?_ (failed _ isOver)
    rcases rests with down | faulty
    · refine .inr (.inl ?_)
      rcases bare with gone | unfrozen
      · simp [View.rests, down, gone]
      · simp [View.rests, down, unfrozen]
    · exact .inr (.inr (.inr faulty))
  apply Ensures.bind
  apply storeInstance_under
  · intro spec isKnown _
    apply Ensures.bind
    apply onStandby_under isKnown rfl
    cases isFrozen : later.frozen with
    | false => exact notifies (.inr isFrozen)
    | true =>
      have awake : later.rests = false := by simp [View.rests, isFrozen, isKnown]
      refine Ensures.done (failed _ { isOver with handled := ?_ })
      exact isOver.handled.imp_right fun handled => ⟨handled.1, handled.2.1, by simp [awake]⟩
  · exact fun _ gone => notifies (.inl gone)

theorem fail_under {cause : Err} {post : Unit → View → Prop}
    (known : view.spec ≠ none ∨ view.status ≠ none) (turns : view.Turns .failed)
    (failed : ∀ later, view.Over later → post () later) :
    Under thread id facts (fail id cause) post view := by
  apply Ensures.bind
  apply readStatus_under
  apply Ensures.bind
  apply bestEffort_ensures
  refine writeStatus_under known turns ?_ fun _ => ?_
  · exact tell_under failed ⟨rfl, rfl, rfl, rfl, .inr ⟨rfl, by rintro ⟨⟩, fun _ => rfl⟩⟩ (.inl rfl)
  · exact tell_under failed ⟨rfl, rfl, rfl, rfl, .inl rfl⟩ (.inr rfl)

/-- The frozen guest is gone. -/
def View.thawed (view : View) : View := view.become { view with frozen := false }

theorem discardStandby_under (known : view.spec = some current) (same : spec.name = current.name)
    (may : view.purpose.mayDiscard view.raw.state) (discarded : post (.ok ()) view.thawed)
    (failed : ∀ error later, later = view ∨ later = view.thawed →
      post (.error error) later.failed) :
    Under thread id facts (discardStandby spec).run post view := by
  refine .perform fun now sane sees => ?_
  have gone : ∀ faults, now.faults ≤ faults → Move thread now
      { now.setDir spec.name { now.dirs spec.name with standby := none } with faults := faults } := by
    rcases sees.held with ⟨hold, mine, isPurpose, _⟩
    refine fun faults more => .discarded id spec.name hold faults mine
      (same ▸ sees.names sane known) ?_ more
    rw [sees.stateIn, isPurpose]
    exact may
  have seen : ∀ faults, now.faults ≤ faults → Sane
      { now.setDir spec.name { now.dirs spec.name with standby := none } with faults := faults } →
      view.thawed.Sees thread id facts
        { now.setDir spec.name { now.dirs spec.name with standby := none } with faults := faults } := by
    intro faults more saneAfter
    exact sees.wroteDir sane saneAfter (gone faults more) known (by rw [← same]; rfl) rfl rfl rfl
      rfl rfl
  refine .three (.inr ⟨gone now.faults le_rfl, fun saneAfter =>
    ⟨_, seen _ le_rfl saneAfter, discarded⟩⟩)
      (.inr ⟨.quiet .fault, fun saneAfter => ⟨_, sees.fault sane saneAfter, failed _ _ (.inl rfl)⟩⟩)
    (.inr ⟨gone _ (Nat.le_succ _), fun saneAfter => ⟨_, ?_, failed _ _ (.inr rfl)⟩⟩)
  exact (seen _ (Nat.le_succ _) saneAfter).fails (Nat.succ_pos _)

theorem putStandby_under (known : view.spec = some spec) (purpose : view.purpose = .standby)
    (active : view.raw.state.isActive = true)
    (put : post (.ok ()) (view.become { view with frozen := true }))
    (failed : ∀ error, post (.error error) view) :
    Under thread id facts (putStandby spec).run post view := by
  refine .perform fun now sane sees => ?_
  dsimp only
  split
  · rename_i frozen staged bare
    rcases sees.held with ⟨hold, mine, isPurpose, _⟩
    have sameID := (sees.defined sane known).2
    have move : Move thread now _ :=
      .put spec.id spec.name hold frozen (sameID ▸ mine) (sameID ▸ sees.names sane known)
        (isPurpose.trans purpose) (sameID ▸ sees.stateIn ▸ active) bare
    refine .two (.inr ⟨move, fun saneAfter => ⟨_, ?_, put⟩⟩) (.inl ⟨rfl, failed _⟩)
    exact sees.wroteDir sane saneAfter move known rfl rfl rfl rfl rfl rfl
  · exact .one (.inl ⟨rfl, failed _⟩)

/-! ## The daemon's memory -/

theorem vmmOf_under {post : Option Nat → View → Prop} (looked : post view.supervised view) :
    Under thread id facts (vmmOf id) post view := by
  apply observe_under
  intro now _ sees
  exact sees.supervised ▸ looked

theorem World.rest_note (world : World) (id : String) {note : Hold → Hold}
    (same : ∀ hold, (note hold).bare = hold.bare) : (world.noteHold id note).rest = world.rest := by
  simp only [World.rest, (World.Alike.noteHold world id same).holds]
  rfl

theorem supervise_under {pid : Nat} {post : Unit → View → Prop}
    (supervised : post () { view with supervised := some pid }) :
    Under thread id facts (supervise id pid) post view := by
  refine change_under (fun now _ sees => ?_) (fun now sane saneAfter move sees => ?_) supervised
  · exact sees.held.elim fun hold held => .supervised id hold pid held.1
  · exact sees.supervising sane saneAfter move (now.rest_note id fun _ => rfl) rfl rfl rfl
      (update_self ..) fun _ => rfl

theorem forget_under {post : Unit → View → Prop}
    (forgotten : post () { view with supervised := none }) :
    Under thread id facts (forget id) post view := by
  refine change_under (fun now _ sees => ?_) (fun now sane saneAfter move sees => ?_) forgotten
  · exact sees.held.elim fun hold held => .forgot id hold held.1
  · exact sees.supervising sane saneAfter move (now.rest_note id fun _ => rfl) rfl rfl rfl
      (update_self ..) fun _ => rfl

theorem stopVMM_under {post : Unit → View → Prop}
    (stopped : post () { view with supervised := none }) :
    Under thread id facts (stopVMM id) post view := by
  apply Ensures.bind
  apply vmmOf_under
  cases supervised : view.supervised with
  | none => exact Ensures.done (by rwa [← supervised] at stopped)
  | some =>
    apply Ensures.bind
    exact calm_under fun _ => forget_under stopped

theorem vmmAtExit_under {pid : Nat} {post : Option Nat → View → Prop} (first : view.exited = none)
    (looked : post view.supervised { view with exited := some pid }) :
    Under thread id facts (vmmAtExit id pid) post view := by
  refine .perform fun now sane sees => .one ?_
  rcases sees.held with ⟨hold, mine, isPurpose, isFound, isExited⟩
  have move : Move thread now _ := .checkedExit id hold pid mine (isExited.trans first)
  refine .inr ⟨move, fun _ => ⟨{ view with exited := some pid }, ?_, by rwa [sees.supervised]⟩⟩
  refine { sees with stand := sees.stand.kept sane move fun _ => ⟨rfl, rfl⟩, held := ?_, only := ?_ }
  · refine ⟨{ hold with exited := some pid }, ⟨?_, mine.2⟩, isPurpose, isFound, rfl⟩
    show (now.noteHold id _).holds id = _
    rw [World.holds_noteHold, if_pos rfl, mine.1]
    rfl
  · rintro other otherHold ⟨held, own⟩
    by_contra different
    have held : (now.noteHold id _).holds other = some otherHold := held
    rw [World.holds_noteHold, if_neg different] at held
    exact different (sees.only other otherHold ⟨held, own⟩)

theorem scheduleRestart_under {post : Unit → View → Prop}
    (scheduled : post () { view with awaited := true }) :
    Under thread id facts (scheduleRestart id) post view := by
  refine change_under (fun now _ sees => ?_) (fun now sane _ move sees => ?_) scheduled
  · exact sees.held.elim fun hold held => .restartScheduled id hold held.1
  · refine { sees with stand := sees.stand.kept sane move fun _ => ⟨rfl, rfl⟩, awaited := fun _ => ?_ }
    simp [World.awaited]

theorem cancelRestart_under {post : Unit → View → Prop}
    (cancelled : post () { view with awaited := false }) :
    Under thread id facts (cancelRestart id) post view := by
  refine change_under (fun now _ sees => ?_) (fun now sane _ move sees => ?_) cancelled
  · exact sees.held.elim fun hold held => .restartCancelled id hold held.1
  · exact { sees with stand := sees.stand.kept sane move fun _ => ⟨rfl, rfl⟩, awaited := nofun }

theorem scheduleRemoval_under {post : Unit → View → Prop} (same : spec.id = id)
    (scheduled : post () view) : Under thread id facts (scheduleRemoval spec) post view := by
  refine change_under (fun now _ sees => ?_) (fun now sane saneAfter move sees => ?_) scheduled
  · rcases sees.held with ⟨hold, mine, _⟩
    split
    · exact .removalScheduled spec.id hold (same ▸ mine)
    · exact .quiet (.refl _)
  · refine sees.supervising sane saneAfter move ?_ ?_ ?_ ?_ ?_ ?_ <;> split <;>
      first | rfl | exact sees.supervised | exact fun _ => rfl

theorem noteStopped_under {post : Unit → View → Prop} (known : view.spec = some current)
    (same : spec.id = id) (policy : current.restart = spec.restart) (purpose : view.purpose = .stop)
    (down : view.raw.state.isDown = true)
    (noted : post () view) : Under thread id facts (noteStopped spec) post view := by
  refine change_under (fun now sane sees => ?_) (fun now sane saneAfter move sees => ?_) noted
  · rcases sees.held with ⟨hold, mine, isPurpose, _⟩
    split
    · rename_i mode
      rcases sees.defined sane known with ⟨member, sameID⟩
      refine .haltNoted spec.id hold (same ▸ mine) (isPurpose.trans purpose)
        (same ▸ sees.stateIn ▸ down) ?_
      exact ⟨current, member, sameID.trans same.symm, policy ▸ mode⟩
    · exact .quiet (.refl _)
  · refine sees.supervising sane saneAfter move ?_ ?_ ?_ ?_ ?_ ?_ <;> split <;>
      first | rfl | exact sees.supervised | exact fun _ => rfl

theorem State.inactive_of_down {state : State} (down : state.isDown = true) :
    state.isActive = false ∧ state ≠ .restarting := by
  cases state <;> simp_all [State.isDown, State.isActive]

theorem endedStatus_down (prev : Status) (exit : Exit) {decision : RestartDecision}
    (isOver : decision.restart = false) :
    (endedStatus prev exit decision).state.isDown = true := by
  simp only [endedStatus, isOver, Bool.false_eq_true, if_false]
  split_ifs <;> rfl

theorem ended_under {prev : Status} {exit : Exit} {post : Unit → View → Prop} (same : spec.id = id)
    (known : view.spec ≠ none ∨ view.status ≠ none)
    (purpose : view.purpose ∈ [.exit, .unhealthy, .policyRestart, .recover])
    (found : view.found.state.isActive = true ∨ view.found.state = .restarting)
    (ended : ∀ later, view.Over later → post () later) :
    Under thread id facts (Instance.ended spec prev exit) post view := by
  subst same
  apply Ensures.bind
  refine calm_under fun ranFor => ?_
  apply Ensures.bind
  apply bestEffort_ensures
  cases decides : (decideRestart spec.restart exit prev.restartCount ranFor).restart with
  | true =>
    have restarts : (endedStatus prev exit
      (decideRestart spec.restart exit prev.restartCount ranFor)).state =
        .restarting := by
      simp [endedStatus, decides]
    refine writeStatus_under known ?_ ?_ fun _ => ?_
    · intro hold isPurpose isFound
      rw [restarts]
      exact .restarts (isFound ▸ found) (isPurpose ▸ purpose)
    · refine scheduleRestart_under (ended _
        ⟨rfl, rfl, rfl, rfl, .inr ⟨?_, fun _ => rfl, fun rests => ?_⟩⟩)
      · show State.isActive (endedStatus prev exit _).state = false
        rw [restarts]
        rfl
      · have down : State.isDown (endedStatus prev exit _).state = true :=
          (Bool.and_eq_true_iff.mp rests).1
        simp [restarts, State.isDown] at down
    · exact scheduleRestart_under (ended _ ⟨rfl, rfl, rfl, rfl, .inl rfl⟩)
  | false =>
    have down := endedStatus_down prev exit decides
    have up : view.found.state.isDown = false := by
      rcases found with active | restarting
      · cases state : view.found.state <;> simp_all [State.isActive, State.isDown]
      · rw [restarting]
        rfl
    refine writeStatus_under known ?_ ?_ fun _ => ?_
    · intro hold isPurpose isFound
      refine .ends _ down (.inr (isPurpose ▸ ?_))
      simp only [List.mem_cons, List.not_mem_nil, or_false] at purpose ⊢
      exact .inr purpose
    · apply Ensures.bind
      refine notifyWaiters_under (.inr (.inr (.inl ⟨down, up, purpose⟩))) ?_
      refine scheduleRemoval_under rfl (ended _ ⟨rfl, rfl, rfl, rfl, .inr ⟨?_, ?_, fun _ => rfl⟩⟩)
      · exact (State.inactive_of_down down).1
      · exact fun restarting => absurd restarting (State.inactive_of_down down).2
    · apply Ensures.bind
      refine notifyWaiters_under (.inr (.inr (.inr rfl))) ?_
      exact scheduleRemoval_under rfl (ended _ ⟨rfl, rfl, rfl, rfl, .inl rfl⟩)

theorem View.rests_redefined (view : View) (known : view.spec = some current) (spec : Spec) :
    View.rests { view with spec := some spec } = view.rests := by
  have sameRaw : View.raw { view with spec := some spec } = view.raw := rfl
  simp only [View.rests, sameRaw, known, Option.isNone_some]

theorem storeUpdateInstance_under (known : view.spec = some current) (sameID : spec.id = id)
    (sameName : spec.name = current.name)
    (flag : spec.stoppedByUser = current.stoppedByUser ∨ view.purpose = .update ∨
      (spec.stoppedByUser = true ∧ view.purpose = .stop) ∨
      (view.purpose.launches = true ∧ view.purpose ≠ .policyRestart))
    (written : post (.ok ()) { view with spec := some spec })
    (failed : ∀ error, post (.error error) view) :
    Under thread id facts (storeUpdateInstance spec).run post view := by
  subst sameID
  refine .perform fun now sane sees => ?_
  split
  · exact .one (.inl ⟨rfl, failed _⟩)
  rcases sees.held with ⟨hold, mine, isPurpose, _⟩
  have defined := sees.defined sane known
  have move : Move thread now _ := .updated current spec hold mine defined.1 defined.2.symm sameName
    (isPurpose ▸ flag)
  refine writeDefinition_answers (.inr ⟨move, fun saneAfter => ⟨_, ?_, written⟩⟩) fun _ =>
    .inl ⟨rfl, failed _⟩
  have lookup : (now.instances.put spec).lookup spec.id = some spec :=
    saneAfter.filed.coherent.lookup_id (Definitions.mem_put.mpr (.inl rfl))
  have frozen : ∀ other, some spec = some other → (now.dirs other.name).standby.isSome =
      view.frozen := by
    rintro _ ⟨rfl⟩
    exact sameName ▸ sees.frozen current known
  have seen := sees.moved sane saneAfter move rfl (fun _ => rfl) lookup sees.status sees.supervised
    frozen
  exact seen.same (view.rests_redefined known spec) (.inl rfl) rfl

theorem setStoppedByUser_under {stopped : Bool} {post : Unit → View → Prop}
    (known : view.spec = some current) (may : (stopped = true ∧ view.purpose = .stop) ∨
      (view.purpose.launches = true ∧ view.purpose ≠ .policyRestart))
    (written : ∀ now : Spec, now.name = current.name → now.restart = current.restart →
      post () { view with spec := some now }) :
      Under thread id facts (setStoppedByUser id stopped) post view := by
  have kept : post () view := by
    have same := written current rfl rfl
    rwa [← known] at same
  apply bestEffort_ensures
  refine storeInstance_then (fun spec isKnown sameID => ?_) fun _ _ => kept
  cases known.symm.trans isKnown
  unfold whenever
  split
  · refine storeUpdateInstance_under known ?_ ?_ (.inr (.inr may)) ?_ fun _ => kept
    · exact sameID
    · rfl
    · exact written _ rfl rfl
  · exact return_ensures kept

theorem storeRenameInstance_under (known : view.spec = some current)
    (isSame : spec = { current with name := spec.name }) (purpose : view.purpose = .rename)
    (down : view.raw.state.isDown = true) (bare : view.frozen = false)
    (renamed : post (.ok ()) { view with spec := some spec })
    (unchanged : ∀ result, post result view) :
    Under thread id facts (storeRenameInstance id spec).run post view := by
  refine .perform fun now sane sees => ?_
  have defined := sees.defined sane known
  rw [sees.spec, known]
  dsimp only
  split
  · exact .one (.inl ⟨rfl, unchanged _⟩)
  · exact .one (.inl ⟨rfl, unchanged _⟩)
  split
  · exact .one (.inl ⟨rfl, unchanged _⟩)
  split
  · exact .one (.inl ⟨rfl, unchanged _⟩)
  split
  · exact .one (.inl ⟨rfl, unchanged _⟩)
  rename_i different free empty
  rcases sees.held with ⟨hold, mine, isPurpose, _⟩
  have move : Move thread now _ :=
    .renamed current spec hold (defined.2.symm ▸ mine) defined.1 isSame (by simpa using free)
      (defined.2.symm ▸ sees.stateIn ▸ down) (sees.bare known bare) (isPurpose.trans purpose)
  refine .two (.inr ⟨move, fun saneAfter => ⟨_, ?_, renamed⟩⟩) (.inl ⟨rfl, unchanged _⟩)
  have sameID : spec.id = id := by rw [isSame]; exact defined.2
  have lookup : (now.instances.rename current spec).lookup id = some spec :=
    sameID ▸ saneAfter.filed.coherent.lookup_id (Definitions.mem_rename.mpr (.inl rfl))
  have frozen : ∀ other, some spec = some other →
      (((now.setDir spec.name (now.dirs current.name)).setDir current.name .empty).dirs
        other.name).standby.isSome = view.frozen := by
    rintro _ ⟨rfl⟩
    simp only [World.setDir, update_of_ne different, update_self]
    exact sees.frozen current known
  have seen := sees.moved sane saneAfter move rfl (fun _ => rfl) lookup sees.status sees.supervised
    frozen
  exact seen.same (view.rests_redefined known spec) (.inl rfl) rfl

/-- The instance and its directory are removed, or its directory alone, or nothing. -/
theorem storeDeleteInstance_under (known : view.spec = some current)
    (purpose : view.purpose ∈ [.delete, .removal, .forkDelete])
    (cleared : view.status = none ∨ view.faulty = true)
    (deleted : post (.ok ()) (view.become { view with spec := none }))
    (failed : ∀ error later, later = view ∨ later = view.thawed →
      post (.error error) later.failed) :
    Under thread id facts (storeDeleteInstance current.name).run post view := by
  refine .perform fun now sane sees => ?_
  rcases sees.defined sane known with ⟨member, sameID⟩
  rcases sees.held with ⟨hold, mine, isPurpose, _⟩
  have mine : now.Mine thread current.id hold := sameID.symm ▸ mine
  have purpose : hold.purpose ∈ [.delete, .removal, .forkDelete] := isPurpose ▸ purpose
  have found : now.instances.lookup current.name = some current :=
    sane.filed.coherent.lookup_eq_some.mpr ⟨member, .inl rfl⟩
  rw [found]
  refine .three ?_ (.inr ⟨.quiet .fault, fun saneAfter =>
    ⟨_, sees.fault sane saneAfter, failed _ _ (.inl rfl)⟩⟩) ?_
  · have move : Move thread now _ := .deleted current hold mine member purpose
      (cleared.imp (fun none' => sameID.symm ▸ sees.status.trans none') sees.faulty)
    refine .inr ⟨move, fun saneAfter => ⟨_, ?_, deleted⟩⟩
    have missing : (now.instances.delete current).lookup id = none := by
      rw [Option.eq_none_iff_forall_ne_some]
      intro spec remains
      rcases (saneAfter.filed.lookup_issued (sees.ready sane).1).mp remains with ⟨stays, same⟩
      rcases Definitions.mem_delete.mp stays with ⟨before, different⟩
      exact different (congrArg Spec.name (sane.filed.coherent.ids spec before current member
        (same.trans sameID.symm)))
    exact sees.moved sane saneAfter move rfl (fun _ => rfl) missing sees.status sees.supervised
      (by simp)
  · have move : Move thread now (now.setDir current.name .empty).fault :=
      .emptied current hold _ mine member purpose (Nat.le_succ _)
    refine .inr ⟨move, fun saneAfter => ⟨_, ?_, failed _ _ (.inr rfl)⟩⟩
    exact (sees.wroteDir sane saneAfter move known rfl rfl rfl rfl rfl rfl).fails (Nat.succ_pos _)

theorem storeDeleteSnapshot_under {nameOrID : String} (returned : ∀ result, post result view) :
    Under thread id facts (storeDeleteSnapshot nameOrID).run post view := by
  refine .perform fun now sane sees => ?_
  split
  · exact .one (.inl ⟨rfl, returned _⟩)
  rename_i snapshot looked
  have move : Move thread now { now with snapshots := now.snapshots.delete snapshot } :=
    .changedSnapshots _ (fun other member =>
      sane.filed.taken other (Definitions.mem_delete.mp member).1)
        (sane.filed.snapshots.delete (sane.filed.snapshots.lookup_mem looked))
  refine .two (.inr ⟨move, fun saneAfter => ⟨view, ?_, returned _⟩⟩) (.inl ⟨rfl, returned _⟩)
  exact sees.supervising sane saneAfter move rfl rfl rfl rfl sees.supervised fun _ => rfl

/-! ## Transitions -/

/-- A transition into this state may have been refused. -/
def View.Refuses (view : View) (target : State) : Prop :=
  view.raw.state.canTransitionTo target = false ∨ view.raw.state.isDown = true

theorem transitionWith_under {target : State} {update : Status → Status} (same : spec.id = id)
    (keeps : ∀ status, (update status).state = status.state)
    (known : view.spec ≠ none ∨ view.status ≠ none)
    (goes : view.raw.state = target ∨ view.raw.state.canTransitionTo target = true ∨
      view.raw.state.isDown = true → view.Turns target ∧ ∀ status : Status, status.state = target →
      post (.ok ()) (view.write (some status)))
    (refused : ∀ error, view.Refuses target → post (.error error) view)
    (failed : ∀ error, post (.error error) view.failed) :
    Under thread id facts (transitionWith spec target update).run post view := by
  have writes : ∀ status : Status, (view.Turns target ∧ ∀ status : Status, status.state = target →
      post (.ok ()) (view.write (some status))) → Under thread id facts
      (writeStatus spec.id (update { status with state := target, stateError := "" })).run post
          view := by
    rintro status ⟨turns, written⟩
    rw [same]
    refine writeStatus_under known ?_ (written _ (keeps _)) failed
    rw [keeps]
    exact turns
  apply always_then
  refine statusOf_under_stale same ?_ fun down => ?_
  · split
    · rename_i not
      refine throw_ensures (refused _ (.inl ?_))
      simpa using not.2
    · rename_i allowed
      refine writes _ (goes ?_)
      by_cases isTarget : view.raw.state = target
      · exact .inl isTarget
      · exact .inr (.inl (by simpa [isTarget] using allowed))
  · split
    · exact throw_ensures (refused _ (.inr down))
    · exact writes _ (goes (.inr (.inr down)))

theorem transition_under {target : State} (same : spec.id = id) (recorded : view.status ≠ none)
    (turns : view.Turns target)
    (written : ∀ status : Status, status.state = target → post (.ok ()) (view.write (some status)))
    (refused : ∀ error, view.Refuses target → post (.error error) view)
    (failed : ∀ error, post (.error error) view.failed) :
    Under thread id facts (transition spec target).run post view :=
  transitionWith_under same (fun _ => rfl) (.inr recorded) (fun _ => ⟨turns, written⟩) refused
    failed

theorem leaveAdmission_under {result : Except Err Unit} {post : Unit → View → Prop}
    (same : spec.id = id) (left : post () (view.admitted result)) :
    Under thread id facts (leaveAdmission spec result) post view := by
  refine change_under (fun now _ sees => .leftAdmission _ (Nat.le_add_right ..))
    (fun now sane saneAfter move sees => ?_) left
  have seen := sees.supervising sane saneAfter move rfl rfl rfl rfl sees.supervised fun _ => rfl
  refine { seen with refused := fun refused => ?_ }
  rcases sees.held with ⟨hold, mine, isPurpose, _⟩
  rcases Bool.or_eq_true_iff.mp refused with refused | before
  · simp only [World.isReplaced, same, sees.stateIn, mine.1, isPurpose, Option.any_some]
    simp [refused, ← Bool.and_assoc]
  · exact seen.refused before

/-- The admission lock hides nothing that an instance's lock shows. -/
theorem admitting_under {call : Call Unit} (same : spec.id = id)
    (body : Under thread id facts call.run
      (fun result later => post result (later.admitted result)) view) :
    Under thread id facts (admitting spec call).run post view := by
  apply always_then
  refine calm_under fun _ => ?_
  apply attempt_then
  refine body.mono fun result later holds => ?_
  apply always_then
  refine leaveAdmission_under same ?_
  cases result with
  | ok => exact return_ensures holds
  | error => exact throw_ensures holds

theorem holding_state (need : Resources) (status : Status) :
    (holding need status).state = status.state := rfl

theorem State.startable_of {state : State}
    (allowed : state = .starting ∨ state.canTransitionTo .starting = true ∨ state.isDown = true)
    (awake : state ≠ .standby) : state.startable = true := by
  cases state <;> simp_all [State.startable, State.canTransitionTo, State.allowedTransitions,
    State.isDown]

theorem View.Sees.awake (sees : view.Sees thread id facts world) (sane : Sane world) :
    view.raw.state ≠ .standby := by
  cases was : view.status with
  | none => simp [View.raw, was, Status.stopped]
  | some status =>
    have awake := (sane.recorded id status (sees.status.trans was)).2
    simpa [View.raw, was] using awake

theorem admitInstance_under {capacity : Capacity} {need : Resources} (same : spec.id = id)
    (launches : view.purpose.launches = true)
    (policy : view.purpose = .policyRestart → view.raw.state = .restarting)
    (admitted : view.spec ≠ none → view.raw.state.startable = true →
      ∀ status : Status, status.state = .starting → post (.ok ()) (view.write (some status)))
    (refused : ∀ error, post (.error error) (view.admitted (.error error)))
    (failed : ∀ error, post (.error error) (view.failed.admitted (.error error))) :
    Under thread id facts (admitInstance capacity spec need).run post view := by
  refine Ensures.given (fun _ sane sees => sees.awake sane) fun awake => ?_
  subst same
  apply admitting_under rfl
  refine storeInstance_then (fun current known _ => ?_) fun error _ => refused error
  refine calm_then refused fun _ => ?_
  refine calm_then refused fun _ => ?_
  refine calm_then refused fun _ => ?_
  have defined : view.spec ≠ none := by simp [known]
  refine transitionWith_under rfl (holding_state need) (.inl defined) (fun allowed => ?_)
    (fun error _ => refused error) failed
  have startable := State.startable_of allowed awake
  refine ⟨fun hold isPurpose _ => ?_, admitted defined startable⟩
  exact .starts (isPurpose ▸ launches) startable fun isPolicy => policy (isPurpose ▸ isPolicy)

theorem reserve_under {capacity : Capacity} {need : Resources} (same : spec.id = id)
    (active : view.raw.state.isActive = true) (recorded : view.status ≠ none)
    (written : ∀ status : Status, status.state = .running → post (.ok ())
      (view.write (some status)))
    (refused : ∀ error, post (.error error) (view.admitted (.error error)))
    (failed : ∀ error, post (.error error) (view.failed.admitted (.error error))) :
    Under thread id facts (reserve capacity spec need).run post view := by
  apply admitting_under same
  refine calm_then refused fun _ => ?_
  refine transitionWith_under same (holding_state need)
    (.inr recorded) ?_ (fun error _ => refused error) failed
  exact fun _ => ⟨fun hold _ _ => .stays _ active rfl, written⟩

end

end Dicer.Instance
