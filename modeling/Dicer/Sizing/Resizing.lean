import Dicer.Sizing.Held

namespace Dicer.Sizing

open Concurrency Function Concurrency.Calls
open Concurrency.Locked (locked look put)
open Instance (Spec Status State Resources Capacity)

/-!
# What a resize does

One resize of a running instance, with nothing else going on, from whatever state earlier ones left.
What it asks the hypervisor for, what the hypervisor has accepted once it returns, and why it fails
if it does all go back to how the sizes wanted differ from those held; `resizeLocked_left` follows
the call once for all three, and `short_resize_fails` says that each of the failures can happen.
That is where the properties one would expect fail, and what they need: the sizes held must be those
the hypervisor last accepted, those of the definition, and must fit the host.
-/

def amount (resources : Resources) : Resource → Nat
  | .vcpus => resources.vcpus
  | .memory => resources.memoryBytes

theorem amount_larger (held want : Resources) (resource : Resource) :
    amount (Instance.larger held want) resource = max (amount held resource)
    (amount want resource) := by
  cases resource <;> rfl

theorem eq_of_amount {first second : Resources}
    (same : ∀ resource, amount first resource = amount second resource) :
    first = second := by
  have vcpus := same .vcpus
  have memory := same .memory
  cases first
  cases second
  simp_all [amount]

/-- What the instances other than one hold between them. -/
def committed (world : World) (id : String) : Resources :=
  (world.shared.instances.filter fun other => other ≠ id).foldl
    (fun total other => total.add (world.items other).held) .zero

/-- The host has room for an instance to hold this much beside what others hold. -/
def Room (capacity : Capacity) (others need : Resources) : Prop :=
  capacity.limited = true → (others.add need).fits capacity.allocatable = true

variable {world : World} {failure : Failure} {thread : Nat} {want : Resources} {capacity : Capacity}
    {id : String}

section

variable {Value : Type} {start : World} {machine : Machine}

theorem leads_look {see : Machine → Value} {post : Value → World → Prop}
    (holds : post (see machine) (hosting start id machine)) :
    (look id see).Leads thread post (hosting start id machine) :=
  leads_onItem (.one holds)

theorem leads_definition {post : Except Failure Spec → World → Prop}
    (goes : post (.ok machine.spec) (hosting start id machine))
    (fails : post (.error .notFound) (hosting start id machine)) :
    (definition id).run.Leads thread post (hosting start id machine) := by
  refine .perform (.one ?_)
  dsimp only
  split
  · simpa only [hosting, update_self] using goes
  · exact fails

variable {post : Except Failure Unit → World → Prop}

theorem leads_allocated (others : List String) (total : Resources) {post : Resources → World → Prop}
    (goes : post (others.foldl (fun total other => total.add (world.items other).held) total)
      world) :
    (allocated others total).Leads thread post world := by
  induction others generalizing total with
  | nil => exact .done goes
  | cons other rest ih =>
    exact .bind (.perform (.one (ih _ goes)))

/-- What is committed is not up to the instance itself. -/
theorem committed_hosting : committed (hosting start id machine) id = committed start id := by
  unfold committed
  refine List.foldl_ext _ _ _ fun total other member => ?_
  have different : other ≠ id := by simpa using (List.mem_filter.mp member).2
  simp only [hosting, update_of_ne different]

variable {need : Resources}

theorem leads_checkRoom (goes : Room capacity (committed start id) need → post (.ok ())
    (hosting start id machine)) (fails : ¬ Room capacity (committed start id) need →
      post (.error (.noRoom (committed start id) need)) (hosting start id machine)) :
    (checkRoom capacity id need).run.Leads thread post (hosting start id machine) := by
  refine leads_whenever (fun limited => ?_) fun unlimited => goes fun limited =>
    absurd (unlimited.symm.trans limited) nofun
  refine .lifted (.perform (.one ?_))
  refine .lifted (leads_allocated _ _ ?_)
  change Program.Leads thread (ExceptT.run
    (if ((committed (hosting start id machine) id).add need).fits capacity.allocatable then pure ()
    else throw (Failure.noRoom (committed (hosting start id machine) id) need))) _ _
  rw [committed_hosting]
  split
  · rename_i fits
    exact .done (goes fun _ => fits)
  · rename_i exceeds
    exact .done (fails fun room => exceeds (room limited))

theorem reported_of_running (running : machine.status.state = .running) :
    machine.reported = machine.status := by
  simp [Machine.reported, running, Instance.State.isDown]

theorem Room.mono {others larger : Resources} (room : Room capacity others larger)
    (below : need.fits larger = true) : Room capacity others need := by
  intro limited
  have fits := room limited
  simp only [Instance.Resources.fits, Bool.and_eq_true, decide_eq_true_eq] at below fits ⊢
  simp only [Instance.Resources.add] at fits ⊢
  omega

theorem leads_reserve (running : machine.status.state = .running)
    (goes : Room capacity (committed start id) need → ∀ status : Status, status.state = .running →
      status.heldResources = need → post (.ok ())
      (hosting start id { machine with status := status }))
    (fails : ¬ Room capacity (committed start id) need →
      post (.error (.noRoom (committed start id) need)) (hosting start id machine)) :
    (reserve capacity id need).run.Leads thread post (hosting start id machine) := by
  refine .bindExcept (leads_checkRoom (fun room => ?_) fails)
  refine .lifted (leads_look ?_)
  rw [reported_of_running running, if_neg (by simp [running])]
  exact .lift (leads_onItem (.one (goes room _ rfl rfl)))

/-- What a resize has the hypervisor accept: what differs from what is held. -/
def given (held want accepted : Resources) : Resources :=
  ⟨if want.vcpus = held.vcpus then accepted.vcpus else want.vcpus,
    if want.memoryBytes = held.memoryBytes then accepted.memoryBytes else want.memoryBytes⟩

/-- The hypervisor is to be asked for other sizes of a resource than are held. -/
def Differs (spec : Spec) (held want : Resources) (resource : Resource) : Prop :=
  checkResize spec held want = .ok () ∧ amount want resource ≠ amount held resource

/-- Of what does not differ, nothing has been asked. -/
def Spares (spec : Spec) (held want : Resources) (before guest : Guest) : Prop :=
  ∀ resource, ¬Differs spec held want resource →
    guest.asks.filter (fun ask => ask.resource = resource) = before.asks.filter fun ask =>
    ask.resource = resource

variable {held : Resources} {before guest : Guest} {spec : Spec}

/-- Only what differs is asked for. -/
theorem Spares.ask (spares : Spares spec held want before guest) {ask : Ask} {left : Guest}
    (differs : Differs spec held want ask.resource) (asks : left.asks = ask :: guest.asks) :
    Spares spec held want before left := by
  intro resource same
  have different : ask.resource ≠ resource := fun isSame => same (isSame ▸ differs)
  rw [asks, List.filter_cons_of_neg (by simpa using different)]
  exact spares resource same

theorem leads_askVMM {ask : Ask} {refuses : Bool} {accept : Guest → Guest}
    (found : machine.guest = some guest) (accepts : post (.ok ())
      (hosting start id { machine with guest := some (accept { guest with asks := ask :: guest.asks }) }))
    (refused : refuses = true → ∀ left : Guest, left.asks = ask :: guest.asks →
      left.accepted = guest.accepted →
      post (.error .refused) (hosting start id { machine with guest := some left }))
    (fails : ∀ left : Guest, left.asks = ask :: guest.asks →
      post (.error (.host "resize vm")) (hosting start id { machine with guest := some left })) :
    (askVMM id ask refuses accept).run.Leads thread post (hosting start id machine) := by
  unfold askVMM
  refine leads_onItem fun result after answered => ?_
  simp only [found, Guest.failed, List.map_cons, List.map_nil, List.cons_append, List.mem_cons,
    List.mem_append, List.mem_ite_nil_right, List.not_mem_nil, or_false, Prod.mk.injEq] at answered
  rcases answered with ⟨rfl, rfl⟩ | ⟨mayRefuse, rfl, rfl⟩ | ⟨rfl, rfl⟩ | ⟨rfl, rfl⟩
  · exact accepts
  · exact refused mayRefuse _ rfl rfl
  · exact fails _ rfl
  · exact fails _ rfl

theorem leads_resizeVM (checks : checkResize spec held want = .ok ())
    (found : machine.guest = some before)
    (accepts : ∀ guest : Guest, Spares spec held want before guest →
      guest.accepted = given held want before.accepted →
      post (.ok ()) (hosting start id { machine with guest := some guest }))
    (refused : ∀ guest : Guest, Spares spec held want before guest →
      guest.accepted = before.accepted →
      post (.error .refused) (hosting start id { machine with guest := some guest }))
    (fails : ∀ guest : Guest, Spares spec held want before guest →
      post (.error (.host "resize vm")) (hosting start id { machine with guest := some guest })) :
    (resizeVM id held want).run.Leads thread post (hosting start id machine) := by
  have isBefore : ({ machine with guest := some before } : Machine) = machine := by rw [← found]
  -- the vCPUs, once the memory is as it is to be
  have last : ∀ guest : Guest, Spares spec held want before guest →
      guest.accepted = ⟨before.accepted.vcpus, (given held want before.accepted).memoryBytes⟩ →
        (whenever (want.vcpus ≠ held.vcpus) (resizeVMCPU id want.vcpus)).run.Leads thread post
          (hosting start id { machine with guest := some guest }) := by
    intro guest spares accepted
    refine leads_whenever (fun differs => ?_) fun same => accepts guest spares ?_
    · have different : want.vcpus ≠ held.vcpus := of_decide_eq_true differs
      have asked : Differs spec held want (Ask.vcpus want.vcpus).resource := ⟨checks, different⟩
      refine leads_askVMM rfl (accepts _ (spares.ask asked rfl) ?_) nofun fun left asks =>
        fails left (spares.ask asked asks)
      simp [Guest.acceptVCPUs, given, different, accepted]
    · have isSame : want.vcpus = held.vcpus := not_not.mp (of_decide_eq_false same)
      simp [accepted, given, isSame]
  have spares : Spares spec held want before before := fun _ _ => rfl
  refine .bindExcept (leads_whenever (fun differs => ?_) fun same => ?_)
  · have different : want.memoryBytes ≠ held.memoryBytes := of_decide_eq_true differs
    have asked : Differs spec held want (Ask.memory want.memoryBytes).resource :=
      ⟨checks, different⟩
    refine leads_askVMM found (last _ (spares.ask asked rfl) ?_)
      (fun _ left asks => refused left (spares.ask asked asks))
      fun left asks => fails left (spares.ask asked asks)
    simp [Guest.acceptMemory, given, different]
  · have isSame : want.memoryBytes = held.memoryBytes := not_not.mp (of_decide_eq_false same)
    rw [← isBefore]
    exact last before spares (by simp [given, isSame])

/-- How a resize fails for want of a resource. -/
inductive Short (capacity : Capacity) (others : Resources) (spec : Spec) (held want : Resources) :
    Failure → Prop
  | check {failure : Failure} : checkResize spec held want = .error failure →
      Short capacity others spec held want failure
  | unsupported {resource : Resource} : want ≠ held → Differs spec held want resource →
      Short capacity others spec held want (.unsupported resource)
  | noRoom : want ≠ held → checkResize spec held want = .ok () →
      ¬Room capacity others (Instance.larger held want) →
      Short capacity others spec held want (.noRoom others (Instance.larger held want))

/-- The call failed before the hypervisor was asked, or because it refused the sizes before anything
changed: not after it was asked, nor in storing the definition. -/
def Failure.harmless : Failure → Bool
  | .host step => step ≠ "resize vm" && step ≠ "update instance"
  | _ => true

/-- A failure that has nothing to do with what the resources are. -/
def Failure.incidental : Failure → Bool
  | .notFound | .refused | .host _ => true
  | _ => false

/-- What is left of a running instance by a resize. -/
def Left (capacity : Capacity) (others : Resources) (id : String) (spec : Spec)
    (held want : Resources) (before : Guest) (result : Except Failure Unit) (after : World) :
    Prop :=
  (∃ guest, (after.items id).guest = some guest ∧ Spares spec held want before guest ∧
    (result = .ok () → guest.accepted = given held want before.accepted ∧
      (after.items id).status.state = .running ∧ (after.items id).held = want) ∧
    ∀ failure, result = .error failure → failure.harmless = true →
      guest.accepted = before.accepted ∧ (after.items id).status.state = .running ∧
      (after.items id).held = held) ∧
    ∀ failure, result = .error failure → failure.incidental = true ∨
      Short capacity others spec held want failure

theorem Left.failed (found : machine.guest = some guest)
    (spares : Spares spec held want before guest)
    (keeps : failure.harmless = true → guest.accepted = before.accepted ∧
      machine.status.state = .running ∧ machine.held = held)
    (explained : failure.incidental = true ∨ Short capacity (committed start id) spec held want
      failure) :
    Left capacity (committed start id) id spec held want before (.error failure)
    (hosting start id machine) := by
  refine ⟨⟨guest, ?_, spares, nofun, fun other same => ?_⟩, fun other same =>
    Except.error.inj same ▸ explained⟩
  · simpa only [hosting, update_self] using found
  · cases same
    simpa only [hosting, update_self] using keeps

theorem Left.returned (found : machine.guest = some guest)
    (spares : Spares spec held want before guest)
    (accepted : guest.accepted = given held want before.accepted)
    (running : machine.status.state = .running)
    (holds : machine.held = want) :
    Left capacity (committed start id) id spec held want before (.ok ())
    (hosting start id machine) := by
  refine ⟨⟨guest, ?_, spares, fun _ => ⟨accepted, ?_⟩, nofun⟩, nofun⟩
  · simpa only [hosting, update_self] using found
  · simpa only [hosting, update_self] using And.intro running holds

theorem resizeHeld_left (checks : checkResize machine.spec held want = .ok ())
    (differs : want ≠ held) (running : machine.status.state = .running)
    (holds : machine.held = held) (found : machine.guest = some before) :
      (resizeHeld capacity id machine.spec held want).run.Leads thread
      (Left capacity (committed start id) id machine.spec held want before)
      (hosting start id machine) := by
  obtain ⟨belowHeld, belowWant⟩ := fits_larger held want
  refine .bindExcept (leads_reserve running (fun room status running _ => ?_) fun full =>
    .failed found (fun _ _ => rfl) (fun _ => ⟨rfl, running, holds⟩)
      (.inr (.noRoom differs checks full)))
  refine .lifted (leads_resizeVM checks found (fun guest spares accepted => ?_)
    (fun guest spares accepted => ?_) fun guest spares => ?_)
  · refine .bindExcept (leads_mayPut ?_ (.failed rfl spares nofun (.inl rfl)))
    exact leads_reserve running (fun _ status running holds => .returned rfl spares accepted
      running holds) fun full => absurd (room.mono belowWant) full
  · refine .bindExcept (leads_reserve running (fun _ _ running holds => .done ?_) fun full =>
      absurd (room.mono belowHeld) full)
    exact .failed rfl spares (fun _ => ⟨accepted, running, holds⟩) (.inl rfl)
  · refine .bindExcept (leads_mayPut (.done ?_) ?_)
    · exact .failed rfl spares nofun (.inl rfl)
    · exact .failed rfl spares nofun (.inl rfl)

theorem given_self (held accepted : Resources) : given held held accepted = accepted := by
  simp [given]

theorem resizeFrom_left (running : machine.status.state = .running)
    (found : machine.guest = some before) :
    (resizeFrom capacity id machine.spec machine.held want).run.Leads thread
      (Left capacity (committed start id) id machine.spec machine.held want before)
      (hosting start id machine) := by
  have fails : ∀ failure, failure.incidental = true ∨
      Short capacity (committed start id) machine.spec machine.held want failure →
      Left capacity (committed start id) id machine.spec machine.held want before (.error failure)
          (hosting start id machine) :=
    fun failure => .failed found (fun _ _ => rfl) fun _ => ⟨rfl, running, rfl⟩
  unfold resizeFrom
  refine .bindExcept ?_
  cases checks : checkResize machine.spec machine.held want with
  | error failure => exact .done (fails failure (.inr (.check checks)))
  | ok =>
    refine .done ?_
    dsimp only
    split
    next same =>
      refine .done (.returned found (fun _ _ => rfl) ?_ running same.symm)
      rw [same]
      exact (given_self _ _).symm
    next differs =>
      have capable : ∀ (resource : Resource) (rest : Unit → Call Unit),
          (rest ()).run.Leads thread (Left capacity (committed start id) id machine.spec
            machine.held want before) (hosting start id machine) →
          (whenever (amount want resource ≠ amount machine.held resource)
            (mayFail (.unsupported resource)) >>= rest).run.Leads thread
              (Left capacity (committed start id) id machine.spec machine.held want before)
                (hosting start id machine) := by
        intro resource rest goes
        refine .bindExcept (leads_whenever (fun isOther => leads_mayFail goes (fails _ ?_)) fun _ =>
          goes)
        exact .inr (.unsupported differs ⟨checks, of_decide_eq_true isOther⟩)
      refine .bindExcept (leads_mayFail (capable .vcpus _ (capable .memory _ ?_))
        (fails _ (.inl rfl)))
      exact resizeHeld_left checks differs running rfl found

theorem resizeLocked_left (running : machine.status.state = .running)
    (found : machine.guest = some before) : (resizeLocked capacity id want).run.Leads thread
      (Left capacity (committed start id) id machine.spec machine.held want before)
      (hosting start id machine) := by
  refine .bindExcept (leads_definition ?_ ?_)
  · refine .lifted (leads_look ?_)
    rw [reported_of_running running, if_neg (by simp [running])]
    exact resizeFrom_left running found
  · exact .failed found (fun _ _ => rfl) (fun _ => ⟨rfl, running, rfl⟩) (.inl rfl)

/-- The whole call, with the lock. -/
theorem resize_outcome {result : Except Failure Unit} {after : World}
    (running : (start.items id).status.state = .running)
    (guest : (start.items id).guest = some before)
    (outcome : (result, after) ∈ (resize capacity id want).run.outcomes thread start) :
    Left capacity (committed start id) id (start.items id).spec (start.items id).held want before
    result
    after := by
  suffices leads : (resize capacity id want).run.Leads thread
      (Left capacity (committed start id) id (start.items id).spec (start.items id).held want
      before) start from
    leads result after outcome
  refine .bind (.perform fun _ taken answered => ?_)
  split at answered
  · simp at answered
  rcases sole answered with ⟨_, rfl⟩
  rw [← hosting_self { start with holder := Function.update start.holder id (some thread) } id]
  refine .bind ((resizeLocked_left running guest).mono fun result final left => ?_)
  refine .bind (.perform fun _ given answered => ?_)
  rcases sole answered with ⟨_, rfl⟩
  exact .done left

end

/-! ## What a resize that returned has given -/

/-- A running instance that holds what its hypervisor last accepted. -/
def Machine.Settled (machine : Machine) : Prop :=
  machine.status.state = .running ∧ ∃ guest, machine.guest = some guest ∧
    guest.accepted = machine.held

theorem given_eq_want {held want accepted : Resources} : given held want accepted = want ↔
    ∀ resource, amount want resource = amount held resource →
      amount accepted resource = amount want resource := by
  constructor
  · intro isWant resource same
    have isGiven := congrArg (amount · resource) isWant
    cases resource <;> simp_all [amount, given]
  · intro accepts
    refine eq_of_amount fun resource => ?_
    have accepted := accepts resource
    cases resource <;> simp only [amount, given] at accepted ⊢ <;> split <;> simp_all

theorem outcome_settles {before after : World} {result : Except Failure Unit}
    (settled : (before.items id).Settled)
    (outcome : (result, after) ∈ (resize capacity id want).run.outcomes thread before)
    (harmless : ∀ failure, result = .error failure → failure.harmless = true) :
    (after.items id).Settled := by
  rcases settled with ⟨running, guest, found, isHeld⟩
  rcases (resize_outcome running found outcome).1 with ⟨left, isLeft, _, returned, failed⟩
  cases result with
  | ok =>
    rcases returned rfl with ⟨isGiven, stillRunning, holds⟩
    rw [isHeld, given_eq_want.mpr fun _ same => same.symm] at isGiven
    exact ⟨stillRunning, left, isLeft, isGiven.trans holds.symm⟩
  | error failure =>
    rcases failed failure rfl (harmless failure rfl) with ⟨accepted, stillRunning, holds⟩
    exact ⟨stillRunning, left, isLeft, accepted.trans (isHeld.trans holds.symm)⟩

/-- Resizes of one instance, one after another, each of which returns or fails harmlessly. -/
inductive Resized (capacity : Capacity) (id : String) (start : World) : World → Prop
  | start : Resized capacity id start start
  | resize {before after : World} {want : Resources} {result : Except Failure Unit} {thread : Nat} :
      Resized capacity id start before →
        (result, after) ∈ (resize capacity id want).run.outcomes thread before →
          (∀ failure, result = .error failure → failure.harmless = true) →
            Resized capacity id start after

theorem Resized.settled {start : World} (settled : (start.items id).Settled)
    (history : Resized capacity id start world) : (world.items id).Settled := by
  induction history with
  | start => exact settled
  | resize _ outcome harmless ih => exact outcome_settles ih outcome harmless

/-- Whenever a resize returns, the sizes its hypervisor last accepted are those it was called for,
if and only if of each size wanted as it is held the hypervisor last accepted that; and so they are
if every resize before it returned, failed before the hypervisor was asked, or was refused. -/
theorem returned_resize_is_accepted {capacity : Capacity} {id : String} {before after : World}
    {want : Resources} {thread : Nat}
    (returned : (.ok (), after) ∈ (resize capacity id want).run.outcomes thread before) :
    (∀ guest, (before.items id).status.state = .running → (before.items id).guest = some guest →
      ((∃ left, (after.items id).guest = some left ∧ left.accepted = want) ↔
        ∀ resource, amount want resource = amount (before.items id).held resource →
          amount guest.accepted resource = amount want resource)) ∧
    ∀ start, (start.items id).Settled → Resized capacity id start before →
      ∃ guest, (after.items id).guest = some guest ∧ guest.accepted = want := by
  have exact_ : ∀ guest, (before.items id).status.state = .running →
      (before.items id).guest = some guest →
      ((∃ left, (after.items id).guest = some left ∧ left.accepted = want) ↔
        ∀ resource, amount want resource = amount (before.items id).held resource →
          amount guest.accepted resource = amount want resource) := by
    intro guest running found
    rcases (resize_outcome running found returned).1 with ⟨left, isLeft, _, accepted, _⟩
    rw [← given_eq_want, ← (accepted rfl).1]
    constructor
    · rintro ⟨other, isOther, isWant⟩
      exact Option.some.inj (isLeft.symm.trans isOther) ▸ isWant
    · exact fun isWant => ⟨left, isLeft, isWant⟩
  refine ⟨exact_, fun start settled history => ?_⟩
  rcases history.settled settled with ⟨running, guest, found, isHeld⟩
  exact (exact_ guest running found).mpr fun resource same => by rw [isHeld, same]

/-- An instance that has just been started. -/
def justStarted (spec : Spec) : World where
  items := fun _ => ⟨spec, Machine.running spec.resources, some (.launched spec.resources), none⟩
  holder := fun _ => none
  shared := ⟨["x"], []⟩

/-- A resize that the hypervisor refuses, and the same again, which returns. -/
theorem returned_resize_is_accepted_refused : ∃ (after : World) (guest : Guest),
    (after.items "x").guest = some guest ∧ guest.accepted = ⟨1, 2⟩ := by
  have returned : ∃ failed ∈ (resize roomy "x" ⟨1, 2⟩).run.outcomes 0 (justStarted (smallSpec 0 2)),
      failed.1 = .error .refused ∧ ∃ outcome ∈ (resize roomy "x" ⟨1, 2⟩).run.outcomes 0 failed.2,
        outcome.1 = .ok () := by decide +kernel
  rcases returned with ⟨⟨_, between⟩, refused, rfl, ⟨_, after⟩, member, rfl⟩
  have history : Resized roomy "x" (justStarted (smallSpec 0 2)) between :=
    .resize .start refused fun failure same => Except.error.inj same ▸ rfl
  have settled : ((justStarted (smallSpec 0 2)).items "x").Settled := ⟨rfl, _, rfl, rfl⟩
  exact ⟨after, (returned_resize_is_accepted member).2 _ settled history⟩

/-- The hypervisor fails to give an instance another byte of memory.  The instance holds it from
then on, so that the next resize for it returns without asking the hypervisor again. -/
theorem failed_resize_is_not_repeated :
    ∃ failed ∈ (resize roomy "x" ⟨1, 2⟩).run.outcomes 0 (justStarted (smallSpec 0 2)),
      failed.1 = .error (.host "resize vm") ∧ ∃ returned ∈ (resize roomy "x" ⟨1, 2⟩).run.outcomes 0
        failed.2, returned.1 = .ok () ∧ (returned.2.items "x").guest =
        some ⟨⟨1, 1⟩, ⟨1, 2⟩, ⟨1, 1⟩, [.memory 2]⟩ := by
  decide +kernel

/-! ## Why a resize fails -/

section

open Program (mem_outcomes_bind mem_outcomes_bindExcept mem_outcomes_lifted)

theorem mem_look {Value : Type} {see : Machine → Value} :
    (see (world.items id), world) ∈ (look id see).outcomes thread world := by
  simp [look, Locked.onItem, update_eq_self]

theorem mem_allocated (others : List String) (total : Resources) :
    (others.foldl (fun total other => total.add (world.items other).held) total, world) ∈
      (allocated others total).outcomes thread world := by
  induction others generalizing total with
  | nil => exact List.mem_singleton.mpr rfl
  | cons other rest ih => exact mem_outcomes_bind.mpr ⟨_, world, List.mem_singleton.mpr rfl, ih _⟩

theorem outcomes_definition (stored : id ∈ world.shared.instances) :
    (definition id).run.outcomes thread world = [(.ok (world.items id).spec, world)] := by
  change (Program.perform _).outcomes thread world = _
  rw [Program.outcomes_perform]
  simp [stored]

theorem mem_checkRoom {need : Resources} (full : ¬Room capacity (committed world id) need) :
    (.error (.noRoom (committed world id) need), world) ∈
      (checkRoom capacity id need).run.outcomes thread world := by
  obtain ⟨limited, exceeds⟩ := Classical.not_imp.mp full
  unfold checkRoom whenever
  rw [if_pos limited]
  refine mem_outcomes_lifted (List.mem_singleton.mpr rfl)
    (mem_outcomes_lifted (mem_allocated _ _) ?_)
  rw [committed, ← committed, if_neg exceeds]
  exact List.mem_singleton.mpr rfl

/-- What a hypervisor cannot do is in the way only of what differs. -/
theorem mem_capable {condition : Bool} : (.ok (), world) ∈
    (whenever condition (mayFail failure) : Call Unit).run.outcomes thread world := by
  cases condition
  · exact List.mem_singleton.mpr rfl
  · exact List.mem_cons_self

theorem mem_incapable {condition : Bool} (differs : condition = true) : (.error failure, world) ∈
    (whenever condition (mayFail failure) : Call Unit).run.outcomes thread world := by
  subst differs
  exact List.mem_cons_of_mem _ List.mem_cons_self

theorem short_resizeFrom_fails {spec : Spec} {held : Resources}
    (short : Short capacity (committed world id) spec held want failure) :
    (.error failure, world) ∈ (resizeFrom capacity id spec held want).run.outcomes thread
    world := by
  unfold resizeFrom
  cases short with
  | check fails =>
    rw [fails]
    exact List.mem_singleton.mpr rfl
  | @unsupported resource differs asks =>
    rw [asks.1]
    refine mem_outcomes_bindExcept.mpr (.inr ⟨(), world, List.mem_singleton.mpr rfl, ?_⟩)
    rw [if_neg differs]
    refine mem_outcomes_bindExcept.mpr (.inr ⟨(), world, List.mem_cons_self, ?_⟩)
    cases resource with
    | vcpus =>
      exact mem_outcomes_bindExcept.mpr (.inl ⟨_, rfl, mem_incapable (decide_eq_true asks.2)⟩)
    | memory =>
      refine mem_outcomes_bindExcept.mpr (.inr ⟨(), world, mem_capable, ?_⟩)
      exact mem_outcomes_bindExcept.mpr (.inl ⟨_, rfl, mem_incapable (decide_eq_true asks.2)⟩)
  | noRoom differs checks full =>
    rw [checks]
    refine mem_outcomes_bindExcept.mpr (.inr ⟨(), world, List.mem_singleton.mpr rfl, ?_⟩)
    rw [if_neg differs]
    refine mem_outcomes_bindExcept.mpr (.inr ⟨(), world, List.mem_cons_self, ?_⟩)
    refine mem_outcomes_bindExcept.mpr (.inr ⟨(), world, mem_capable, ?_⟩)
    refine mem_outcomes_bindExcept.mpr (.inr ⟨(), world, mem_capable, ?_⟩)
    refine mem_outcomes_bindExcept.mpr (.inl ⟨_, rfl, ?_⟩)
    exact mem_outcomes_bindExcept.mpr (.inl ⟨_, rfl, mem_checkRoom full⟩)

/-- A resize of a running instance can fail in each way that its resources give rise to. -/
theorem short_resize_fails (free : world.holder id = none) (stored : id ∈ world.shared.instances)
    (running : (world.items id).status.state = .running)
    (short : Short capacity (committed world id) (world.items id).spec (world.items id).held want
      failure) :
    ∃ after, (.error failure, after) ∈ (resize capacity id want).run.outcomes thread world := by
  let taken : World := { world with holder := Function.update world.holder id (some thread) }
  have fails : (.error failure, taken) ∈ (resizeLocked capacity id want).run.outcomes thread
      taken := by
    have read : (.ok (world.items id).spec, taken) ∈ (definition id).run.outcomes thread taken := by
      rw [outcomes_definition (show id ∈ taken.shared.instances from stored)]
      exact List.mem_singleton.mpr rfl
    refine mem_outcomes_bindExcept.mpr (.inr ⟨_, taken, read, ?_⟩)
    refine mem_outcomes_lifted mem_look ?_
    rw [reported_of_running running, if_neg (by simp [running])]
    exact short_resizeFrom_fails short
  refine ⟨{ taken with holder := Function.update taken.holder id none }, ?_⟩
  refine mem_outcomes_bind.mpr ⟨(), taken, ?_, ?_⟩
  · simp [Locked.lock, free, taken]
  refine mem_outcomes_bind.mpr ⟨.error failure, taken, fails, ?_⟩
  exact mem_outcomes_bind.mpr ⟨(), _, List.mem_singleton.mpr rfl, List.mem_singleton.mpr rfl⟩

/-- A request for nothing or for none of a resource is refused, and another comes to a resize. -/
theorem mem_resizeInstance {vcpus memoryBytes : Option Nat} (stored : id ∈ world.shared.instances)
    (wants : wanted (world.items id).spec vcpus memoryBytes = want)
    {result : Except Failure Unit} {after : World} :
    (result, after) ∈ (resizeInstance capacity id vcpus memoryBytes).run.outcomes thread world ↔
      if (vcpus = none ∧ memoryBytes = none) ∨ want.vcpus = 0 ∨ want.memoryBytes = 0 then
        (result, after) = (.error .invalidArgument, world)
      else (result, after) ∈ (resize capacity id want).run.outcomes thread world := by
  unfold resizeInstance
  by_cases nothing : vcpus = none ∧ memoryBytes = none
  · rw [if_pos nothing, if_pos (.inl nothing)]
    exact List.mem_singleton
  rw [if_neg nothing, mem_outcomes_bindExcept, outcomes_definition stored]
  by_cases zero : want.vcpus = 0 ∨ want.memoryBytes = 0
  · rw [if_pos (.inr zero)]
    simp [wants, zero, Program.outcomes]
  · simp [wants, zero, nothing]

end

/-- The failure is for want of this resource. -/
def Failure.blames (capacity : Capacity) (resource : Resource) : Failure → Prop
  | .noMaximum named | .aboveMaximum named | .unsupported named => named = resource
  | .noRoom total need => amount capacity.allocatable resource < amount (total.add need) resource
  | _ => False

/-- What the request asks of a resource. -/
def requested (vcpus memoryBytes : Option Nat) : Resource → Option Nat
  | .vcpus => vcpus
  | .memory => memoryBytes

/-- The check of the sizes does not fail for this resource.  If it passes, all that is wanted is
what is held, or of this resource the definition has what is held and the host has room for that. -/
def Spared (capacity : Capacity) (world : World) (id : String) (want : Resources)
    (resource : Resource) : Prop :=
  match checkResize (world.items id).spec (world.items id).held want with
  | .error failure => ¬failure.blames capacity resource
  | .ok _ => want = (world.items id).held ∨
    amount (world.items id).spec.resources resource = amount (world.items id).held resource ∧
      (capacity.limited = true → amount (committed world id) resource +
        amount (world.items id).held resource ≤ amount capacity.allocatable resource)

theorem amount_add (first second : Resources) (resource : Resource) :
    amount (first.add second) resource = amount first resource + amount second resource := by
  cases resource <;> rfl

theorem Room.amount {others need : Resources} (room : Room capacity others need)
    (limited : capacity.limited = true) (resource : Resource) :
    amount (others.add need) resource ≤ amount capacity.allocatable resource := by
  have fits := room limited
  simp only [Instance.Resources.fits, Bool.and_eq_true, decide_eq_true_eq] at fits
  cases resource
  · exact fits.1
  · exact fits.2

theorem spared_iff {resource : Resource}
    (same : amount want resource = amount (world.items id).spec.resources resource) :
    Spared capacity world id want resource ↔ ∀ failure, Short capacity (committed world id)
      (world.items id).spec (world.items id).held want failure →
        ¬failure.blames capacity resource := by
  unfold Spared
  constructor
  · rintro spared failure (fails | ⟨differs, checks, isOther⟩ | ⟨differs, checks, full⟩)
    · rwa [fails] at spared
    · rw [checks] at spared
      rintro rfl
      exact isOther (same.trans (spared.resolve_left differs).1)
    · rw [checks] at spared
      obtain ⟨isHeld, room⟩ := spared.resolve_left differs
      have limited := (Classical.not_imp.mp full).1
      simp only [Failure.blames, amount_add, amount_larger, same, isHeld, max_self, not_lt]
      exact room limited
  · intro spares
    cases checks : checkResize (world.items id).spec (world.items id).held want with
    | error failure => exact spares failure (.check checks)
    | ok =>
      refine or_iff_not_imp_left.mpr fun differs => ?_
      have isHeld : amount want resource = amount (world.items id).held resource := by
        by_contra isOther
        exact spares _ (.unsupported differs ⟨checks, isOther⟩) rfl
      refine ⟨same.symm.trans isHeld, fun limited => ?_⟩
      by_contra full
      refine spares _ (.noRoom differs checks fun room => full ?_) ?_
      · simpa only [amount_add, amount_larger, isHeld, max_self] using room.amount limited resource
      · simpa only [Failure.blames, amount_add, amount_larger, isHeld, max_self, not_le] using full

/-- Nothing was asked of the hypervisor for a resource, and a failure is not because of it. -/
def LeavesAlone (capacity : Capacity) (id : String) (resource : Resource) (before : Guest)
    (result : Except Failure Unit) (after : World) : Prop :=
  (∃ guest, (after.items id).guest = some guest ∧
    guest.asks.filter (fun ask => ask.resource = resource) = before.asks.filter fun ask =>
    ask.resource = resource) ∧
    ∀ failure, result = .error failure → ¬ failure.blames capacity resource

/-- A memory snapshot is taken of an instance, which is stopped, defined with more memory and
restored. -/
def restoredSmaller : List (Choice Nat Request Empty) :=
  started (smallSpec 2 0) ++ [.spawn 2 (.createSnapshot "x" "s")] ++ steps 2 6 ++
    [.spawn 3 (.stop "x")] ++ steps 3 8 ++
    [.spawn 4 (.update "x" { smallSpec 2 0 with memoryBytes := 2 })] ++ steps 4 5 ++
      [.spawn 5 (.restoreSnapshot "s")] ++
    steps 5 14

/-- A resize of a running instance to no more than is held does not fail for want of room, if and
only if the sizes do not pass the check, are those held, or the host has room for what is held. -/
theorem shrinking_has_room {capacity : Capacity} {world : World} {id : String}
    {want : Resources} {thread : Nat} {before : Guest} (free : world.holder id = none)
    (stored : id ∈ world.shared.instances) (running : (world.items id).status.state = .running)
    (found : (world.items id).guest = some before)
    (smaller : want.fits (world.items id).held = true) :
    (∀ result after, (result, after) ∈ (resize capacity id want).run.outcomes thread world →
      ∀ total need, result ≠ .error (.noRoom total need)) ↔
    checkResize (world.items id).spec (world.items id).held want ≠ .ok () ∨
      want = (world.items id).held ∨
      Room capacity (committed world id) (world.items id).held := by
  have isHeld : Instance.larger (world.items id).held want = (world.items id).held := by
    simp only [Instance.Resources.fits, Bool.and_eq_true, decide_eq_true_eq] at smaller
    simp [Instance.larger, smaller]
  constructor
  · intro roomy
    refine or_iff_not_imp_left.mpr fun checks => or_iff_not_imp_left.mpr fun differs => ?_
    by_contra full
    obtain ⟨after, fails⟩ := short_resize_fails free stored running
      (.noRoom differs (not_not.mp checks) (isHeld.symm ▸ full))
    exact roomy _ _ fails _ _ rfl
  · rintro room result after outcome total need rfl
    rcases (resize_outcome running found outcome).2 _ rfl with incidental | short
    · cases incidental
    · cases short with
      | check fails =>
        unfold checkResize at fails
        split_ifs at fails <;> cases fails
      | noRoom differs checks full =>
        rw [isHeld] at full
        exact full ((room.resolve_left (not_not.mpr checks)).resolve_left differs)

/-- A host that allows less than its one instance holds. -/
def narrow : Capacity := ⟨true, 1, ⟨1, 1⟩⟩

/-- An instance that holds two bytes of memory cannot be given one, since two are reserved first. -/
theorem shrinking_is_refused :
    ∃ outcome ∈ (resize narrow "x" ⟨1, 1⟩).run.outcomes 0
      (justStarted { smallSpec 0 2 with memoryBytes := 2 }),
      outcome.1 = .error (.noRoom .zero ⟨1, 2⟩) := by
  decide +kernel

theorem shrinking_has_room_exactly : ∃ result after,
    (result, after) ∈ (resize ⟨true, 2, ⟨1, 2⟩⟩ "x" ⟨1, 1⟩).run.outcomes 0
      (justStarted { smallSpec 0 2 with memoryBytes := 2 }) ∧ ∀ total need,
      result ≠ .error (.noRoom total need) := by
  have returned : ∃ outcome ∈ (resize ⟨true, 2, ⟨1, 2⟩⟩ "x" ⟨1, 1⟩).run.outcomes 0
      (justStarted { smallSpec 0 2 with memoryBytes := 2 }), outcome.1 = .ok () := by decide +kernel
  rcases returned with ⟨⟨result, after⟩, member, rfl⟩
  exact ⟨_, after, member, (shrinking_has_room rfl (by decide) rfl rfl rfl).mpr
    (.inr (.inr fun _ => by decide +kernel)) _ _ member⟩

end Dicer.Sizing
