import Dicer.Images.Conduct

namespace Dicer.Images

open Concurrency
open Program (Ensures)

/-!
# Files, pulls and passes keep to the moves

The goroutine of a pull alone loads its image and changes its phase; a caller joins a pull, and
leaves it once its own context is cancelled.
-/

variable {world : World} {place : Place} {thread id : Nat} {digest : String} {Value : Type}
  {image : Image} {post : Unit → Place → Prop}

theorem saveMetadata_during (own : image.digest = digest) (done : post () place)
    : During thread (saveMetadata digest image) post place := by
  refine .perform fun now _ knows => ?_
  split
  · rename_i files there
    exact .one ⟨.inr (.saved digest image files there own), place, { knows with }, done⟩
  · exact .one ⟨.inl rfl, place, knows, done⟩

section

variable (missing : place.load = some ⟨digest, .missing⟩)
include missing

theorem statDisk_during {post : Bool → Place → Prop} (gone : post false place)
    (there : post true { place with load := some ⟨digest, .ready⟩ }) :
    During thread (statDisk digest) post place := by
  refine .perform fun now _ knows => ?_
  split
  · rename_i disk
    refine .one ⟨.inr (.readied digest (knows.load.trans missing) disk), _, ?_, there⟩
    exact { knows with load := by simp [World.setLoad] }
  · exact .one ⟨.inl rfl, place, knows, gone⟩

theorem ensureImageDir_during (done : post () place) :
    During thread (ensureImageDir digest) post place := by
  exact .acts fun now _ knows => ⟨.prepared digest (knows.load.trans missing), place,
    { knows with }, done⟩

theorem pack_during {post : Except Err Unit → Place → Prop}
    (packed : post (.ok ()) { place with load := some ⟨digest, .ready⟩ })
    (failed : ∀ error, post (.error error) place) : During thread (pack digest).run post place := by
  refine .perform fun now _ knows => ?_
  have isMissing : now.loads.lookup thread = some ⟨digest, .missing⟩ := knows.load.trans missing
  refine .three ⟨.inr (.packed digest isMissing), _, ?_, packed⟩ ⟨.inl rfl, place, knows, failed _⟩
    ⟨.inr (.packedPartly digest isMissing), place, { knows with }, failed _⟩
  exact { knows with load := by simp [World.setLoad] }

theorem discardFailedPull_during (done : post () place) :
    During thread (discardFailedPull digest) post place := by
  refine .acts fun now _ knows => ⟨.discarded digest (knows.load.trans missing), place, ?_, done⟩
  exact { knows with load := by simpa [World.setLoad] using missing.symm }

end

theorem deleteFiles_during (removing : place.removing = some digest)
    (done : post () { place with removing := none }) :
    During thread (deleteFiles digest) post place := by
  refine .acts fun now _ knows => ⟨.deleted digest (knows.removing digest removing), _, ?_, done⟩
  exact { knows with removing := by simp }

/-! ## A pull's goroutine -/

theorem acquireSlot_during {context : World → Bool} {post : Except Err Unit → Place → Prop}
    (done : ∀ result, post result place) : During thread (acquireSlot context).run post place := by
  refine .perform fun now _ knows => .append ?_ ?_
  · split
    · exact .one ⟨.inr (.slots _), place, { knows with }, done _⟩
    · exact .none
  · split
    · exact .one ⟨.inl rfl, place, knows, done _⟩
    · exact .none

theorem releaseSlot_during (done : post () place) : During thread releaseSlot post place := by
  exact .acts fun now _ knows => ⟨.slots _, place, { knows with }, done⟩

variable {resolved : ResolvedRef}

theorem loadLookup_during {post : Option Image → Place → Prop}
    (running : place.pull = some ⟨id, resolved, .running⟩)
    (missed : post none { place with load := some ⟨resolved.digest, .missing⟩ })
    (hit : ∀ image, post (some image) { place with
      load := some ⟨resolved.digest, .stored⟩, find :=
        some ⟨image.digest, some image.lastUsedAt⟩ }) :
    During thread (loadLookup resolved.digest) post place := by
  refine .perform fun now _ knows => ?_
  have owns := knows.pull _ running
  split
  · rename_i image there
    refine .one ⟨.inr (.hit id resolved owns image there), _, ?_, hit image⟩
    exact { knows with load := by simp [World.setLoad, World.setFind], find := by simp [World.setFind] }
  · rename_i absent
    refine .one ⟨.inr (.missed id resolved owns absent), _, ?_, missed⟩
    exact { knows with load := by simp [World.setLoad] }

theorem claimPull_during {post : ResolvedRef → Place → Prop}
    (claimed : ∀ resolved, post resolved { place with pull := some ⟨id, resolved, .running⟩ }) :
    During thread (claimPull id) post place := by
  refine .perform fun now _ knows => ?_
  dsimp only
  split
  · rename_i started
    refine .one ⟨.inr (.claimed id started), _, ?_, claimed _⟩
    refine { knows with pull := fun running member => ?_ }
    cases member
    constructor <;> simp [World.setPull]
  · exact .none

theorem Place.Knows.advance (knows : place.Knows thread world) {running : Running} {pull : Pull}
    {phase : Phase} (runs : place.pull = some running)
    (owner : pull.owner = (world.pullOf running.id).owner)
    (resolved : pull.resolved = (world.pullOf running.id).resolved) (isPhase : pull.phase = phase) :
    Place.Knows { place with pull := some { running with phase := phase } } thread
      (world.setPull running.id pull) := by
  refine { knows with pull := fun same member => ?_ }
  cases member
  have owns := knows.pull running runs
  constructor
  · simpa [World.setPull, owner] using owns.owner
  · simpa [World.setPull, resolved] using owns.resolved
  · simpa [World.setPull] using isPhase

theorem finishPull_during {result : Except Err Image}
    (running : place.pull = some ⟨id, resolved, .running⟩)
    (found : ∀ image, result = .ok image → place.find = some ⟨image.digest, some image.lastUsedAt⟩)
    (done : post () { place with load := none, pull := some ⟨id, resolved, .returned⟩ }) :
    During thread (finishPull id result) post place := by
  refine .acts fun now _ knows => ⟨.finished id resolved (knows.pull _ running) result
      fun image isImage =>
    knows.find.trans (found image isImage), _, ?_, done⟩
  have advanced : Place.Knows { place with pull := some ⟨id, resolved, .returned⟩ } thread
      (now.setPull id { now.pullOf id with
        phase := .returned, result := some result, cutShort := (now.pullOf id).cancelled }) :=
    knows.advance running rfl rfl rfl
  exact { advanced with load := by simp [World.setLoad] }

theorem removePull_during (running : place.pull = some ⟨id, resolved, .returned⟩)
    (done : post () { place with pull := some ⟨id, resolved, .removed⟩ }) :
    During thread (removePull id resolved.digest) post place := by
  refine .acts fun now _ knows => ⟨.removed id resolved (knows.pull _ running), _, ?_, done⟩
  have advanced : Place.Knows { place with pull := some ⟨id, resolved, .removed⟩ } thread
      (now.setPull id { now.pullOf id with phase := .removed }) :=
    knows.advance running rfl rfl rfl
  exact { advanced with }

theorem cancelPull_during (running : place.pull = some ⟨id, resolved, .removed⟩)
    (done : post () place) : During thread (cancelPull id) post place := by
  refine .acts fun now _ knows => ⟨.cancelled id resolved (knows.pull _ running), place, ?_, done⟩
  exact { knows with pull := knows.setPull fun _ => ⟨rfl, rfl, rfl⟩ }

theorem closePull_during (running : place.pull = some ⟨id, resolved, .removed⟩)
    (done : post () { place with pull := some ⟨id, resolved, .done⟩ }) :
    During thread (closePull id) post place := by
  refine .acts fun now _ knows => ⟨.closed id resolved (knows.pull _ running), _, ?_, done⟩
  exact knows.advance running rfl rfl rfl

theorem joinPull_during {post : Joined → Place → Prop}
    (joined : ∀ id, post (.joined id) { place with waits := some id })
    (abandoned : ∀ id, post (.abandoned id) place)
    : During thread (joinPull resolved) post place := by
  refine .perform fun now sane knows => ?_
  split
  · rename_i id there
    dsimp only
    split
    · exact .one ⟨.inl rfl, place, knows, abandoned id⟩
    rename_i wanted
    refine .one ⟨.inr (.joined id resolved.digest there (by simpa using wanted)), _, ?_, joined id⟩
    exact { knows with pull := knows.setPull fun _ => ⟨rfl, rfl, rfl⟩, waits := by simp }
  · rename_i free
    refine .one ⟨.inr (.started resolved free), _, ?_, joined now.next⟩
    exact { knows with
      pull := knows.setPull (by simp [(sane.shared.beyond now.next (Nat.le_refl _)).2])
      waits := by simp }

theorem awaitAbandoned_during {post : Except Err Unit → Place → Prop}
    (done : ∀ result, post result place) : During thread (awaitAbandoned id).run post place := by
  refine .perform fun now _ knows => .append ?_ ?_
  · split
    · exact .one ⟨.inl rfl, place, knows, done _⟩
    · exact .none
  · split
    · rename_i isCancelled
      exact .one ⟨.inr (.gaveUp (by simpa using isCancelled)), place, { knows with }, done _⟩
    · exact .none

theorem awaitPull_during {post : Option (Except Err Image) → Place → Prop}
    (waits : place.waits = some id) (served : ∀ image, post (some (.ok image)) { place with
      find := some ⟨image.digest, some image.lastUsedAt⟩ })
    (refused : ∀ error, post (some (.error error)) place)
    (cancelled : post none { place with cancelled := true }) :
        During thread (awaitPull id) post place := by
  refine .perform fun now sane knows => ?_
  have isWaiting := knows.waits id waits
  refine .append ?_ ?_
  · split
    · rename_i done
      have known := sane.shared.joined _ isWaiting
      have isSet := (sane.shared.each id known).result (by simp [done, Phase.unfinished])
      rcases Option.isSome_iff_exists.mp isSet with ⟨result, isResult⟩
      simp only [isResult, Option.getD_some]
      cases result with
      | error error => exact .one ⟨.inr (.refused id isWaiting done), place, { knows with }, refused error⟩
      | ok image =>
        refine .one ⟨.inr (.served id isWaiting done image isResult), _, ?_, served image⟩
        exact { knows with find := by simp [World.setFind] }
    · exact .none
  · split
    · rename_i isCancelled
      refine .one ⟨.inl rfl, _, ?_, cancelled⟩
      exact { knows with cancelled := fun _ => by simpa using isCancelled }
    · exact .none

theorem leavePull_during (waits : place.waits = some id) (cancelled : place.cancelled = true)
    (done : post () { place with waits := none }) : During thread (leavePull id) post place := by
  refine .perform fun now _ knows => .one ?_
  have isWaiting := knows.waits id waits
  have isCancelled := knows.cancelled cancelled
  by_cases last : (now.pullOf id).waiters - 1 = 0
  · simp only [last, if_true]
    refine ⟨.inr (.abandoned id isWaiting isCancelled last), _, ?_, done⟩
    exact { knows with pull := knows.setPull fun _ => ⟨rfl, rfl, rfl⟩, waits := by simp }
  · simp only [last, if_false]
    refine ⟨.inr (.left id isWaiting isCancelled _ rfl last), _, ?_, done⟩
    exact { knows with pull := knows.setPull fun _ => ⟨rfl, rfl, rfl⟩, waits := by simp }

theorem giveBack_during {use : Nat} (find : place.find = some ⟨image.digest, some use⟩)
    (done : post () { place with find := none }) : During thread (giveBack image) post place := by
  refine .acts fun now _ knows => ?_
  have isFound : now.finds.lookup thread = some ⟨image.digest, some use⟩ := knows.find.trans find
  simp only [isFound, Option.bind_some]
  refine ⟨.gave image.digest use isFound, _, ?_, done⟩
  exact { knows with find := by simp [World.setFind] }

theorem imagesInUse_during {post : List String → Place → Prop}
    (done : ∀ inUse, post inUse { place with pass := some ⟨inUse, none, []⟩ }) :
    During thread imagesInUse post place := by
  refine .acts fun now _ knows => ⟨.read, _, ?_, done _⟩
  exact { knows with pass := by simp [World.setPass] }

theorem passNow_during {pass : Pass} {post : Nat → Place → Prop} (passing : place.pass = some pass)
    (untimed : pass.now = none)
    (done : ∀ at_, post at_ { place with pass := some { pass with now := some at_ } }) :
    During thread passNow post place := by
  refine .acts fun now _ knows => ?_
  have isPassing : now.passes.lookup thread = some pass := knows.pass.trans passing
  simp only [isPassing, Option.map_some]
  refine ⟨.timed pass isPassing untimed, _, ?_, done _⟩
  exact { knows with pass := by simp [World.setPass] }

theorem passList_during {pass : Pass} {post : List Image → Place → Prop}
    (passing : place.pass = some pass) (done : ∀ images,
      post images { place with pass := some { pass with listed := images } }) :
    During thread passList post place := by
  refine .acts fun now _ knows => ?_
  have isPassing : now.passes.lookup thread = some pass := knows.pass.trans passing
  simp only [isPassing, Option.map_some]
  refine ⟨.listed pass isPassing, _, ?_, done _⟩
  exact { knows with pass := by simp [World.setPass] }

/-! ## Whole programs -/

/-- What a call that returns an image has recorded of it. -/
def Found (result : Except Err Image) (place : Place) : Prop :=
  ∀ image, result = .ok image → ∃ use, place.find = some ⟨image.digest, some use⟩

theorem found_error (error : Err) (place : Place) : Found (.error error) place :=
  nofun

theorem lifted {op : Op Value} {Result : Type} {rest : Value → Call Result}
    {post : Except Err Result → Place → Prop}
    (during : During thread op (fun value later => During thread (rest value).run post later)
      place) :
    During thread ((ExceptT.lift op : Call Value) >>= rest).run post place := by
  apply Ensures.bindExcept
  apply Ensures.lift
  exact during

theorem markUsed_during {at_ : Nat} (own : ∀ find ∈ place.find, find = ⟨digest, none⟩)
    (done : post () { place with find := place.find.map fun _ => ⟨digest, some at_⟩ }) :
    During thread (markUsed digest at_) post place := by
  apply Ensures.bind
  apply indexMarkUsed_during own
  intro answer isOwn
  cases answer with
  | none => exact Ensures.done done
  | some image => exact saveMetadata_during (isOwn image rfl) done

theorem loadFromDisk_during {post : Option Image → Place → Prop}
    (missing : place.load = some ⟨digest, .missing⟩) (failed : post none place)
    (loaded : ∀ image, post (some image) { place with
      load := some ⟨digest, .stored⟩, find := some ⟨image.digest, some image.lastUsedAt⟩ }) :
    During thread (loadFromDisk digest) post place := by
  apply Ensures.bind
  apply diskExists_during
  intro there
  cases there with
  | false => exact Ensures.done failed
  | true =>
    apply Ensures.bind
    apply loadMetadata_during
    intro metadata own
    cases metadata with
    | none => exact Ensures.done failed
    | some image =>
      obtain rfl := own image rfl
      apply Ensures.bind
      apply statDisk_during missing
      · exact .done failed
      apply Ensures.bind
      apply now_during
      intro at_
      apply Ensures.bind
      apply indexCreate_during
      · rfl
      · exact .done (loaded { image with lastUsedAt := at_ })

variable {size : Nat}

theorem pullFromRegistry_during {post : Except Err Unit → Place → Prop}
    (missing : place.load = some ⟨resolved.digest, .missing⟩)
    (failed : ∀ error, post (.error error) place)
    (pulled : ∀ at_, post (.ok ()) { place with
      load := some ⟨resolved.digest, .stored⟩, find := some ⟨resolved.digest, some at_⟩ }) :
    During thread (pullFromRegistry resolved size).run post place := by
  apply lifted
  apply ensureImageDir_during missing
  apply lifted
  apply registryCall_during
  intro fetched
  cases fetched with
  | error error =>
    apply lifted
    exact discardFailedPull_during missing (.done (failed error))
  | ok =>
    apply lifted
    apply pack_during missing
    · apply lifted
      apply now_during
      intro at_
      apply lifted
      apply indexCreate_during
      · rfl
      apply Ensures.lift
      apply saveMetadata_during
      · rfl
      · exact pulled at_
    · intro error
      apply lifted
      exact discardFailedPull_during missing (.done (failed error))

/-- What a goroutine that ran `loadOrPull` knows: its pull, and what it recorded of the image it
returns. -/
def Fetched (running : Running) (result : Except Err Image) (place : Place) : Prop :=
  place.pull = some running ∧ ∀ image, result = .ok image →
    place.find = some ⟨image.digest, some image.lastUsedAt⟩

theorem pullAndGet_during {running : Running} (runs : place.pull = some running)
    (missing : place.load = some ⟨resolved.digest, .missing⟩) :
    During thread (pullAndGet resolved size).run (Fetched running) place := by
  apply Ensures.bindExcept
  apply pullFromRegistry_during missing
  · exact fun error => ⟨runs, nofun⟩
  intro at_
  apply lifted
  apply indexGet_during
  · exact .done ⟨runs, nofun⟩
  intro image
  refine .done ⟨runs, fun same isSame => ?_⟩
  obtain rfl := Except.ok.inj isSame
  rfl

theorem loadOrPull_during {context : World → Bool}
    (runs : place.pull = some ⟨id, resolved, .running⟩) :
    During thread (loadOrPull context resolved size).run (Fetched ⟨id, resolved, .running⟩)
    place := by
  have fetched : ∀ (image : Image) (load : Option Load), Fetched ⟨id, resolved, .running⟩
    (.ok image)
      { place with load := load, find := some ⟨image.digest, some image.lastUsedAt⟩ } := by
    intro image load
    refine ⟨runs, fun same isSame => ?_⟩
    obtain rfl := Except.ok.inj isSame
    rfl
  apply lifted
  apply loadLookup_during runs
  · apply lifted
    apply loadFromDisk_during rfl
    · apply Ensures.bindExcept
      apply acquireSlot_during
      intro acquired
      cases acquired with
      | error => exact ⟨runs, nofun⟩
      | ok =>
        have pulled : During thread (pullAndGet resolved size).run
          (Fetched ⟨id, resolved, .running⟩)
            { place with load := some ⟨resolved.digest, .missing⟩ } := pullAndGet_during runs rfl
        apply lifted
        apply pulled.mono
        rintro result later isFetched
        apply lifted
        apply releaseSlot_during
        cases result with
        | ok | error => exact Ensures.done isFetched
    · exact fun image => .done (fetched image _)
  · exact fun image => .done (fetched image _)

theorem runPull_during (size : Nat) : During thread (runPull id size) (fun _ _ => True) place := by
  apply Ensures.bind
  apply claimPull_during
  intro resolved
  apply Ensures.bind
  apply (loadOrPull_during rfl).mono
  rintro result later ⟨runs, found⟩
  apply Ensures.bind
  apply finishPull_during runs found
  apply Ensures.bind
  apply removePull_during rfl
  apply Ensures.bind
  apply cancelPull_during rfl
  exact closePull_during rfl trivial

theorem sharedPull_during (resolved : ResolvedRef) (attempts : Nat) :
    During thread (sharedPull resolved attempts).run Found place := by
  induction attempts generalizing place with
  | zero =>
    apply Ensures.lift
    intro world _ _ now _ _ answer
    exact nomatch answer
  | succ attempts ih =>
    apply lifted
    apply joinPull_during
    · intro id
      apply lifted
      apply awaitPull_during rfl
      · intro image
        refine .done fun same isSame => ?_
        obtain rfl := Except.ok.inj isSame
        exact ⟨_, rfl⟩
      · exact fun error => .done (found_error error _)
      · apply lifted
        exact leavePull_during rfl rfl (.done (found_error _ _))
    · intro id
      apply Ensures.bindExcept
      apply awaitAbandoned_during
      intro result
      cases result with
      | ok => exact ih
      | error error => exact found_error error _

section

variable (parse : String → Except Err Ref)

/-- An image that was found has its use recorded, and is returned. -/
theorem use_during (found : place.find = some ⟨image.digest, none⟩) :
    During thread (do
      let at_ ← (now : Call Nat)
      markUsed image.digest at_
      return image : Call Image).run Found place := by
  apply lifted
  apply now_during
  intro at_
  apply lifted
  apply markUsed_during
  · intro find isFind
    exact (Option.some.inj (found.symm.trans isFind)).symm
  refine .done fun same isSame => ?_
  obtain rfl := Except.ok.inj isSame
  exact ⟨at_, by simp [found]⟩

theorem pull_during (ref : String) (answer : Except Err String) (attempts : Nat) :
    During thread (pull parse (fun resolved => sharedPull resolved attempts) ref answer).run Found
    place := by
  unfold pull
  split
  · exact .done (found_error _ _)
  split
  · exact .done (found_error _ _)
  rename_i resolved _
  apply lifted
  apply find_during
  · exact sharedPull_during resolved attempts
  intro image own
  rw [← own resolved.digest rfl]
  exact use_during rfl

theorem ensure_during (ref : String) (policy : PullPolicy) (answer : Except Err String)
    (attempts : Nat) : During thread (ensure parse (fun resolved => sharedPull resolved attempts)
      ref policy answer).run Found
      place := by
  unfold ensure
  split
  · exact pull_during parse ref answer attempts
  split
  · exact .done (found_error _ _)
  apply lifted
  apply find_during
  · dsimp only
    split
    · exact .done (found_error _ _)
    · exact pull_during parse ref answer attempts
  · exact fun image _ => use_during rfl

theorem serve_during {call : Call Image} (during : During thread call.run Found place) :
    During thread (serve call) (fun _ _ => True) place := by
  apply Ensures.bind
  apply during.mono
  intro result later found
  cases result with
  | ok image =>
    rcases found image rfl with ⟨use, isFound⟩
    exact giveBack_during isFound trivial
  | error => exact Ensures.done trivial

end

end Dicer.Images
