import Dicer.Concurrency.Machine
import Dicer.Maps

namespace Dicer.Initrd

open Concurrency Function

/-!
# The initrd guests boot from

An initrd is built from a base image and two binaries, and kept with a hash of them, by which a
later call judges whether it is current.  The hash is of the three one after another, with nothing
in between that would tell where one ends.

Calls at the same time share one build: the first to find none under way runs it, on its own
context, and hands its result to those that came meanwhile.
-/

structure Inputs where
  baseImage : List UInt8
  initBinary : List UInt8
  agentBinary : List UInt8
  deriving DecidableEq, Repr

def encodeToString (bytes : List UInt8) : String :=
  String.ofList (bytes.flatMap fun byte =>
    [Nat.digitChar (byte.toNat / 16), Nat.digitChar (byte.toNat % 16)])

section

variable (sha256 : List UInt8 → List UInt8) (inputs : Inputs)

def contentHash : String := encodeToString
    (sha256 (inputs.baseImage ++ inputs.initBinary ++ inputs.agentBinary))

/-- The initrd, by what it was built from, and the file with its hash. -/
structure Files where
  initrd : Option Inputs
  hash : Option String
  deriving DecidableEq, Repr

def Files.isCurrent (files : Files) (want : String) :
    Bool := files.initrd.isSome && files.hash == some want

inductive Operation
  | createDirectory
  | resolve
  | createTemporary
  | pull
  | writeBinaries
  | pack
  | install
  | writeHash
  deriving DecidableEq, Repr

namespace Operation

/-- The operations of a build in order. -/
def all : List Operation :=
  [createDirectory, resolve, createTemporary, pull, writeBinaries, pack, install, writeHash]

/-- Whether an operation may fail for its context. -/
def watches : Operation → Bool
  | resolve | pull | pack => true
  | _ => false

def effect (files : Files) : Operation → Files
  | install => { files with initrd := some inputs }
  | writeHash => { files with hash := some (contentHash sha256 inputs) }
  | _ => files

end Operation

/-- Build with nothing failing. -/
def build (files : Files) : Files := Operation.all.foldl (Operation.effect sha256 inputs) files

inductive Failure
  | emptyInit
  | emptyAgent
  | cancelled (operation : Operation)
  deriving DecidableEq, Repr

/-- Where a call is.  With what it returned stands whose build it was, if it was one. -/
inductive Phase
  | absent
  | called
  | missed
  | checking
  | building (todo : List Operation)
  | waiting (leader : Nat)
  | returned (builder : Option Nat) (result : Except Failure Unit)
  deriving DecidableEq

structure State where
  files : Files
  cancelled : Nat → Bool
  calls : Nat → Phase
  flight : Option Nat

/-- A call is made or cancelled, or goes on. -/
inductive Action
  | call (id : Nat)
  | cancel (id : Nat)
  | act (id : Nat) (fails : Bool)

def State.start (files : Files) : State := ⟨files, fun _ => false, fun _ => .absent, none⟩

def State.to (state : State) (id : Nat) (phase : Phase) : State :=
    { state with calls := update state.calls id phase }

/-- The build a call ran is over, and the next may begin. -/
def State.finish (state : State) (id : Nat) (result : Except Failure Unit) : State :=
  { state.to id (.returned (some id) result) with flight := none }

/-- What `singleflight` decides for a call, told which one runs the function: the call whose result
it waits for, or none if it is to run the function itself. -/
abbrev Group := Option Nat → Nat → Option Nat

/-- The group shares: who finds a call running waits for it. -/
def Group.sharing : Group := fun running _ => running

/-- What a call does next. -/
def goOn (group : Group) (state : State) (id : Nat) (fails : Bool) : Phase → Option State
  | .called =>
    if state.files.isCurrent (contentHash sha256 inputs)
    then some (state.to id (.returned none (.ok ())))
    else some (state.to id .missed)
  | .missed =>
    match group state.flight id with
    | some leader => some (state.to id (.waiting leader))
    | none => some { state.to id .checking with flight := some id }
  | .checking =>
    if state.files.isCurrent (contentHash sha256 inputs) then some (state.finish id (.ok ()))
    else if inputs.initBinary = [] then some (state.finish id (.error .emptyInit))
    else if inputs.agentBinary = [] then some (state.finish id (.error .emptyAgent))
    else some (state.to id (.building Operation.all))
  | .building [] => some (state.finish id (.ok ()))
  | .building (operation :: rest) =>
    if fails then
      if operation.watches && state.cancelled id
      then some (state.finish id (.error (.cancelled operation))) else none
    else some { state.to id (.building rest) with files := operation.effect sha256 inputs state.files }
  | .waiting leader =>
    match state.calls leader with
    | .returned builder result => some (state.to id (.returned builder result))
    | _ => none
  | .absent | .returned _ _ => none

def step (group : Group) (state : State) : Action → Option State
  | .call id => if state.calls id = .absent then some (state.to id .called) else none
  | .cancel id => some { state with cancelled := update state.cancelled id true }
  | .act id fails => goOn sha256 inputs group state id fails (state.calls id)

abbrev Reached (group : Group) (files : Files) : State → Prop :=
  Machine.Reached (step sha256 inputs group) (fun _ _ _ => true) (State.start files)

end

variable {sha256 : List UInt8 → List UInt8}

/-! ## Inputs told apart -/

theorem digitChar_inj : ∀ m < 16, ∀ n < 16, Nat.digitChar m = Nat.digitChar n → m = n := by decide

theorem encodeToString_injective : Injective encodeToString := by
  intro bytes others same
  rw [encodeToString, encodeToString, String.ofList_inj] at same
  induction bytes generalizing others with
  | nil => cases others <;> simp_all
  | cons byte rest ih =>
    cases others with
    | nil => simp at same
    | cons other =>
      simp only [List.flatMap_cons, List.cons_append, List.nil_append, List.cons.injEq] at same
      have high := digitChar_inj _ (by have := byte.toNat_lt; omega) _
        (by have := other.toNat_lt; omega) same.1
      have low := digitChar_inj _ (Nat.mod_lt _ (by decide)) _ (Nat.mod_lt _ (by decide)) same.2.1
      rw [ih same.2.2, UInt8.toNat_inj.mp (by omega : byte.toNat = other.toNat)]

/-- Two of the three parts are as long in one as in the other. -/
def Inputs.Aligned (a b : Inputs) : Prop :=
  (a.baseImage.length = b.baseImage.length ∧ a.initBinary.length = b.initBinary.length) ∨
    (a.baseImage.length = b.baseImage.length ∧ a.agentBinary.length = b.agentBinary.length) ∨
    (a.initBinary.length = b.initBinary.length ∧ a.agentBinary.length = b.agentBinary.length)

/-- The three parts one after another, in which only the lengths can tell where one ends. -/
def Inputs.bytes (inputs : Inputs) : List UInt8 :=
  inputs.baseImage ++ inputs.initBinary ++ inputs.agentBinary

theorem Inputs.Aligned.bytes_ne {a b : Inputs} (aligned : a.Aligned b) (differ : a ≠ b) :
    a.bytes ≠ b.bytes := by
  intro joined
  have length := congrArg List.length joined
  simp only [bytes, List.length_append] at length
  have base : a.baseImage.length = b.baseImage.length := by
    rcases aligned with h | h | h <;> omega
  have init : a.initBinary.length = b.initBinary.length := by
    rcases aligned with h | h | h <;> omega
  rcases List.append_inj joined (by simp [base, init]) with ⟨first, agents⟩
  rcases List.append_inj first base with ⟨images, inits⟩
  cases a
  cases b
  simp_all

/-- A hash differs, and an initrd built from the other inputs is not current, exactly if the parts
one after another differ.  They do if where one ends and the next begins can be told. -/
theorem other_inputs_rebuild (injective : Injective sha256) (a b : Inputs) (files : Files) :
    (contentHash sha256 a ≠ contentHash sha256 b ↔ a.bytes ≠ b.bytes) ∧
      ((build sha256 a files).isCurrent (contentHash sha256 b) = false ↔ a.bytes ≠ b.bytes) ∧
      (a.Aligned b → a ≠ b → a.bytes ≠ b.bytes) := by
  have hashes : contentHash sha256 a = contentHash sha256 b ↔ a.bytes = b.bytes :=
    encodeToString_injective.eq_iff.trans injective.eq_iff
  refine ⟨not_congr hashes, ?_, fun aligned differ => aligned.bytes_ne differ⟩
  simp [build, Operation.all, Operation.effect, Files.isCurrent, hashes]

/-- The last byte of the init binary is the first of the agent's. -/
def oneInput : Inputs := ⟨[97], [1, 2], [3]⟩

def otherInput : Inputs := ⟨[97], [1], [2, 3]⟩

theorem other_inputs_rebuild_agent :
    (build id oneInput ⟨none, none⟩).isCurrent (contentHash id ⟨[97], [1, 2], [4]⟩) = false := by
  have rebuilt := other_inputs_rebuild injective_id oneInput ⟨[97], [1, 2], [4]⟩ ⟨none, none⟩
  exact rebuilt.2.1.mpr (rebuilt.2.2 (.inl ⟨rfl, rfl⟩) (by decide))

theorem moved_byte_unnoticed : oneInput ≠ otherInput ∧ ∀ sha256 : List UInt8 → List UInt8,
    contentHash sha256 oneInput = contentHash sha256 otherInput ∧
      (build sha256 oneInput ⟨none, none⟩).isCurrent (contentHash sha256 otherInput) = true := by
  refine ⟨by decide, fun sha256 => ⟨rfl, ?_⟩⟩
  simp [build, Operation.all, Operation.effect, Files.isCurrent, contentHash, oneInput, otherInput]

/-- Every call that failed shared the build of one that was cancelled. -/
def State.Blames (state : State) : Prop :=
  ∀ id builder failure, state.calls id = .returned builder (.error failure) →
    ∃ leader, builder = some leader ∧ state.cancelled leader = true

theorem State.Blames.to {state after : State} {id : Nat} {phase : Phase} (blames : state.Blames)
    (calls : after.calls = update state.calls id phase)
    (cancelled : after.cancelled = state.cancelled)
    (fine : ∀ builder failure, phase = .returned builder (.error failure) →
      ∃ leader, builder = some leader ∧ state.cancelled leader = true) : after.Blames := by
  intro other builder failure returned
  rw [cancelled]
  rw [calls, update_eq_iff] at returned
  rcases returned with ⟨_, rfl⟩ | ⟨_, before⟩
  · exact fine builder failure rfl
  · exact blames other builder failure before

variable {inputs : Inputs} {files : Files} {group : Group}

theorem goOn_blames (initBinary : inputs.initBinary ≠ []) (agentBinary : inputs.agentBinary ≠ [])
    {state after : State} {id : Nat} {fails : Bool} {phase : Phase} (blames : state.Blames)
    (stepped : goOn sha256 inputs group state id fails phase = some after) : after.Blames := by
  unfold goOn at stepped
  split at stepped
  · split at stepped <;> cases stepped <;> exact blames.to rfl rfl nofun
  · split at stepped <;> cases stepped <;> exact blames.to rfl rfl nofun
  · simp only [initBinary, agentBinary, if_false] at stepped
    split at stepped <;> cases stepped <;> exact blames.to rfl rfl nofun
  · cases stepped
    exact blames.to rfl rfl nofun
  · split at stepped
    · split at stepped
      · rename_i mayFail
        cases stepped
        refine blames.to rfl rfl ?_
        rintro builder failure ⟨rfl, rfl⟩
        exact ⟨id, rfl, (Bool.and_eq_true_iff.mp mayFail).2⟩
      · simp at stepped
    · cases stepped
      exact blames.to rfl rfl nofun
  · split at stepped
    · rename_i returned
      cases stepped
      refine blames.to rfl rfl ?_
      rintro builder failure ⟨rfl, rfl⟩
      exact blames _ _ _ returned
    · simp at stepped
  · simp at stepped
  · simp at stepped

/-- A call fails only if the one whose build it shared, which may be itself, was cancelled. -/
theorem prepare_succeeds (initBinary : inputs.initBinary ≠ [])
    (agentBinary : inputs.agentBinary ≠ []) {state : State}
    (reached : Reached sha256 inputs group files state) {id : Nat} {builder : Option Nat}
    {result : Except Failure Unit}
    (returned : state.calls id = .returned builder result)
    (uncancelled : ∀ leader, builder = some leader → state.cancelled leader = false) :
    result = .ok () := by
  have blames : state.Blames := by
    clear returned uncancelled
    induction reached with
    | start => nofun
    | @step before after action _ stepped _ blames =>
      cases action with
      | call =>
        simp only [step] at stepped
        split at stepped
        · cases stepped
          exact blames.to rfl rfl nofun
        · simp at stepped
      | cancel id =>
        cases stepped
        intro other builder failure returned
        rcases blames other builder failure returned with ⟨leader, isLeader, cancelled⟩
        refine ⟨leader, isLeader, ?_⟩
        by_cases same : leader = id <;> simp [same, cancelled]
      | act => exact goOn_blames initBinary agentBinary blames stepped
  cases result with
  | ok => rfl
  | error failure =>
    rcases blames id builder failure returned with ⟨leader, isLeader, cancelled⟩
    simp [uncancelled leader isLeader] at cancelled

/-- Two calls share a build, and the one that runs it is cancelled or not. -/
def sharedBuild (cancels : Bool) : List Action :=
  [.call 0, .call 1, .act 0 false, .act 1 false, .act 0 false, .act 1 false, .act 0 false,
    .act 0 false] ++
    if cancels then [.cancel 0, .act 0 true, .act 1 false]
    else List.replicate 8 (.act 0 false) ++ [.act 1 false]

theorem shared_build (cancels : Bool) : ∃ state, Reached id oneInput .sharing ⟨none, none⟩ state ∧
    state.cancelled 1 = false ∧ state.cancelled 0 = cancels ∧ ∃ failure, state.calls 1 =
      .returned (some 0) (if cancels then .error failure else .ok ()) := by
  have shown : (Machine.follow (step id oneInput .sharing) (fun _ _ _ => true) (sharedBuild cancels)
      (.start ⟨none, none⟩)).any (fun state =>
        decide (state.cancelled 1 = false ∧ state.cancelled 0 = cancels ∧ state.calls 1 = .returned
            (some 0) (if cancels then .error (.cancelled .resolve) else .ok ()))) = true := by
    cases cancels <;> decide +kernel
  rcases (Option.any_eq_true _ _).mp shown with ⟨state, followed, shows⟩
  obtain ⟨own, leaders, returned⟩ := of_decide_eq_true shows
  exact ⟨state, Machine.Reached.start.follow followed, own, leaders, _, returned⟩

theorem prepare_succeeds_shared : ∃ state, Reached id oneInput .sharing ⟨none, none⟩ state ∧
    ∃ result, state.calls 1 = .returned (some 0) result ∧ result = .ok () := by
  rcases shared_build false with ⟨state, reached, _, uncancelled, _, returned⟩
  refine ⟨state, reached, _, returned, ?_⟩
  refine prepare_succeeds (by decide) (by decide) reached returned fun leader same => ?_
  rw [← Option.some.inj same]
  exact uncancelled

/-- The build fails for the context of the call that runs it, and with it the other call. -/
theorem prepare_fails_for_another : ∃ state, Reached id oneInput .sharing ⟨none, none⟩ state ∧
    state.cancelled 1 = false ∧ ∃ failure, state.calls 1 = .returned (some 0) (.error failure) := by
  rcases shared_build true with ⟨state, reached, own, _, failure, returned⟩
  exact ⟨state, reached, own, failure, returned⟩

end Dicer.Initrd
