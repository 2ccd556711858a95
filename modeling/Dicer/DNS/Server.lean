import Dicer.Instance.Addresses

namespace Dicer.DNS

open FileStore
open Networks (Network Address Subnet Tables AllocationTable)
open Instance (Spec Status lookupHost lookupAddr answerableInstances)

/-!
# A network's DNS server

Each network has a server that answers its guests' queries for the network's instances and for
reverse lookups of its addresses, and forwards all others.  An instance is found by one label, its
name or its hostname, bare or followed by the network's name.  A reverse lookup joins the two again,
whatever dots they hold and however long they are together.

Messages are read and written by a library, of which nothing is known but that it panics when it is
to make a name longer than 255 bytes.  A panic is no answer at all here.
-/

def internalDomain : String := "dicer.internal"

def hostNames : List String := ["host." ++ internalDomain, "gateway." ++ internalDomain]

inductive RecordType
  | a
  | ptr
  | all
  | other (code : Nat)
  deriving DecidableEq, Repr

inductive RCode
  | success
  | formatError
  | serverFailure
  | nameError
  deriving DecidableEq, Repr

structure Question where
  name : String
  type : RecordType
  internet : Bool
  deriving DecidableEq, Repr

inductive Resource
  | a (name : String) (address : Address)
  | ptr (name target : String)
  deriving DecidableEq

structure Header where
  id : Nat
  response : Bool
  opCode : Nat
  recursionDesired : Bool

structure Message where
  query : Header
  authoritative : Bool
  rcode : RCode
  questions : List Question
  answers : List Resource

/-- The library that reads and writes messages. -/
structure Library where
  start : List UInt8 → Option Header
  allQuestions : List UInt8 → Option (List Question)
  pack : Message → Option (List UInt8)

structure ServedNetwork where
  name : String
  domain : List Char
  subnet : Subnet
  gateway : Address
  answersInstances : Bool
  internal : Bool
  deriving DecidableEq

/-- What knows the network's instances. -/
structure Resolver where
  lookupHost : String → String → List Address
  lookupAddr : String → Address → List String

def lower (text : List Char) : List Char := text.map Char.toLower

def trimDot (text : List Char) : List Char := if text.getLast? = some '.' then text.dropLast
    else text

def cutSuffix (text suffix : List Char) : Option (List Char) :=
  if suffix <:+ text then some (text.take (text.length - suffix.length)) else none

/-- The name a question asks about. -/
def Question.asked (question : Question) : List Char := lower (trimDot question.name.toList)

def isInternal (name : List Char) : Bool :=
  name = internalDomain.toList || ('.' :: internalDomain.toList).isSuffixOf name

def mustNewName (name : String) : Option String := if name.utf8ByteSize ≤ 255 then some name
    else none

/-- What a server needs to know of a network. -/
def networkOf (network : Network) : Option ServedNetwork := do
  let subnet ← Networks.parseCIDR network.subnet
  let gateway ← Networks.parseIPv4 network.gateway.toList
  return ⟨network.name, lower network.name.toList, subnet, gateway, !network.isolated,
    network.internal⟩

/-! ## Answers -/

/-- The address an `in-addr.arpa` name stands for. -/
def reverseAddr (name : List Char) : Option Address :=
  match cutSuffix name ".in-addr.arpa".toList with
  | none => none
  | some rest =>
    match (rest.splitOn '.').mapM octet with
    | some [first, second, third, fourth] =>
      some (BitVec.ofNat 32 (((fourth * 256 + third) * 256 + second) * 256 + first))
    | _ => none
where
  octet (label : List Char) : Option Nat :=
    if label ≠ [] ∧ label.all Char.isDigit ∧
      Networks.number label ≤ 255 then some (Networks.number label) else none

def ptrRecord (name target : String) : Option Resource := (mustNewName target).map (.ptr name)

def addressRecords (question : Question) (addresses : List Address) : List Resource :=
  if question.type = .a ∨ question.type = .all then addresses.map (.a question.name) else []

section

variable (served : ServedNetwork) (resolver : Resolver)

/-- The names that a reverse lookup of an address of the network gives. -/
def ptrTargets (address : Address) : List String :=
  if address = served.gateway ∧ ¬ served.internal then ["host." ++ internalDomain ++ "."]
  else if served.answersInstances then
    (resolver.lookupAddr served.name address).map fun name => name ++ "." ++ served.name ++ "."
  else []

/-- The answer to a question that the network's own names or addresses answer, if it is one. -/
def ownRecords (question : Question) : Option (Option (List Resource × RCode)) :=
  let name := question.asked
  if question.type = .ptr then
    match reverseAddr name with
    | none => some none
    | some address =>
      if served.subnet.contains address then do
        let records ← (ptrTargets served resolver address).mapM (ptrRecord question.name)
        some (some (if records = [] then ([], .nameError) else (records, .success)))
      else some none
  else if isInternal name then
    if served.internal ∨ name ∉ hostNames.map String.toList then some (some ([], .nameError))
    else some (some (addressRecords question [served.gateway], .success))
  else if !served.answersInstances then some none
  else
    let cut := cutSuffix name ('.' :: served.domain)
    let host := cut.getD name
    if host = [] ∨ '.' ∈ host then some none
    else
      match resolver.lookupHost served.name (String.ofList host) with
      | [] => some (if cut.isSome then some ([], .nameError) else none)
      | addresses => some (some (addressRecords question addresses, .success))

section

variable (library : Library)

def reply (query : Header) (questions : List Question) (rcode : RCode) (answers : List Resource) :
    Option (List UInt8) :=
  library.pack ⟨query, rcode ≠ .serverFailure ∧ rcode ≠ .formatError, rcode, questions, answers⟩

/-- The reply to a query, if it gets any, unless the server panics. -/
def answer (forward : List UInt8 → Except String (List UInt8)) (query : List UInt8) :
    Option (Option (List UInt8)) :=
  match library.start query with
  | none => some none
  | some header =>
    if header.response then some none
    else
      match library.allQuestions query with
      | some [question] =>
        (if question.internet then ownRecords served resolver question else some none).map fun
          | some (records, rcode) => reply library header [question] rcode records
          | none =>
            if served.internal then reply library header [question] .nameError []
            else
              match forward query with
              | .ok upstream => some upstream
              | .error _ => reply library header [question] .serverFailure []
      | questions => some (reply library header (questions.getD []) .formatError [])

end

end

/-- The instance manager as a server's resolver. -/
def instances (statusOf : Spec → Except Err Status) (store : Store) (tables : Tables) :
    Resolver where
  lookupHost := lookupHost statusOf Char.toLower store tables
  lookupAddr := lookupAddr statusOf Char.toLower store tables

variable {records : List Resource} {host : String} {address : Address}

section

variable {served : ServedNetwork} {resolver : Resolver} {question : Question} {name : String}
    {text : List Char}

theorem mapM_ptrRecord_isSome (name : String) (targets : List String) :
    (targets.mapM (ptrRecord name)).isSome = true ↔
      ∀ target ∈ targets, target.utf8ByteSize ≤ 255 := by
  induction targets with
  | nil => simp
  | cons target rest ih =>
    rw [List.forall_mem_cons, ← ih, List.mapM_cons, ptrRecord, mustNewName]
    by_cases short : target.utf8ByteSize ≤ 255
    · cases rest.mapM (ptrRecord name) <;> simp [short]
    · simp [short]

theorem eq_of_mapM_ptrRecord {targets : List String}
    (made : targets.mapM (ptrRecord name) = some records) : records = targets.map (.ptr name) := by
  induction targets generalizing records with
  | nil => simpa using made.symm
  | cons target rest ih =>
    simp only [List.mapM_cons, ptrRecord, mustNewName, Option.bind_eq_bind, Option.bind_eq_some_iff,
      Option.map_eq_some_iff] at made
    obtain ⟨_, ⟨_, short, rfl⟩, others, made, same⟩ := made
    obtain ⟨-, isTarget⟩ := Option.ite_none_right_eq_some.mp short
    rw [← Option.some.inj same, ih made, List.map_cons, Option.some.inj isTarget]

/-- The names that are given out for an address fit a message. -/
def Fits (served : ServedNetwork) (resolver : Resolver) (address : Address) : Prop :=
  ∀ target ∈ ptrTargets served resolver address, target.utf8ByteSize ≤ 255

theorem fits_of_short (short : ∀ name ∈ resolver.lookupAddr served.name address,
    name.utf8ByteSize + served.name.utf8ByteSize + 2 ≤ 255) : Fits served resolver address := by
  intro target member
  unfold ptrTargets at member
  split_ifs at member
  · rw [List.mem_singleton.mp member]
    decide
  · obtain ⟨name, known, rfl⟩ := List.mem_map.mp member
    have := short name known
    simp only [String.utf8ByteSize_append]
    change name.utf8ByteSize + 1 + served.name.utf8ByteSize + 1 ≤ 255
    omega
  · exact nomatch member

/-- A question is a reverse lookup of an address of the network. -/
def Question.Reverses (question : Question) (served : ServedNetwork) (address : Address) : Prop :=
  question.type = .ptr ∧ reverseAddr question.asked = some address ∧
    served.subnet.contains address = true

theorem ownRecords_isSome : (ownRecords served resolver question).isSome = true ↔
    ∀ address, question.Reverses served address → Fits served resolver address := by
  unfold ownRecords
  dsimp only
  by_cases isPtr : question.type = .ptr
  · cases reverse : reverseAddr question.asked with
    | none => simp [Question.Reverses, isPtr, reverse]
    | some address =>
      by_cases inside : served.subnet.contains address = true
      · have made := mapM_ptrRecord_isSome question.name (ptrTargets served resolver address)
        cases all : (ptrTargets served resolver address).mapM (ptrRecord question.name) <;>
          simp [Question.Reverses, Fits, isPtr, reverse, inside, all] at made ⊢ <;> exact made
      · simp [Question.Reverses, isPtr, reverse, inside]
  · simp only [isPtr, if_false, Question.Reverses, false_and, false_implies, implies_true, iff_true]
    split_ifs <;> try rfl
    all_goals split <;> rfl

/-! ## Names of instances -/

theorem toLower_cases (c : Char) : c.toLower = c ∨ 90 < c.toLower.val := by
  unfold Char.toLower
  split
  case isTrue upper =>
    obtain ⟨above, below⟩ := upper
    simp only [ge_iff_le, UInt32.le_iff_toNat_le] at above below
    refine .inr (UInt32.lt_iff_toNat_lt.mpr ?_)
    simp only [UInt32.toNat_add]
    simp at above below ⊢
    omega
  case isFalse => exact .inl rfl

theorem lower_lower (text : List Char) : lower (lower text) = lower text := by
  simp only [lower, List.map_map]
  refine List.map_congr_left fun c _ => ?_
  simp only [Function.comp_apply]
  obtain same | above := toLower_cases c
  · rw [same, same]
  · exact dif_neg fun upper => absurd (UInt32.lt_of_lt_of_le above upper.2) (by decide)

theorem dot_mem_lower : '.' ∈ lower text ↔ '.' ∈ text := by
  simp only [lower, List.mem_map]
  constructor
  · rintro ⟨c, member, isDot⟩
    obtain same | above := toLower_cases c
    · exact (same.symm.trans isDot) ▸ member
    · exact absurd (isDot ▸ above) (by decide)
  · exact fun member => ⟨'.', member, by decide⟩

theorem trimDot_dot (text : List Char) : trimDot (text ++ ['.']) = text := by simp [trimDot]

theorem cutSuffix_append (text suffix : List Char) :
    cutSuffix (text ++ suffix) suffix = some text := by
  simp [cutSuffix]

theorem cutSuffix_plain {suffix : List Char} (plain : '.' ∉ text) :
    cutSuffix text ('.' :: suffix) = none :=
  if_neg fun ends => plain (ends.subset List.mem_cons_self)

/-- A name of one label, which is not taken for one of the host's under the network's name. -/
structure Plain (served : ServedNetwork) (host : String) : Prop where
  nonempty : host ≠ ""
  label : '.' ∉ host.toList
  external : isInternal (lower (host ++ "." ++ served.name).toList) = false

theorem isInternal_plain (plain : '.' ∉ text) : isInternal text = false := by
  simp only [isInternal, Bool.or_eq_false_iff, decide_eq_false_iff_not]
  refine ⟨fun same => plain (same ▸ by decide), ?_⟩
  rw [Bool.eq_false_iff]
  exact fun ends => plain ((List.isSuffixOf_iff_suffix.mp ends).subset List.mem_cons_self)

/-- A question for one label, bare or followed by the network's name, is answered with what is found
for the label. -/
theorem ownRecords_host (answers : served.answersInstances = true)
    (domain : served.domain = lower served.name.toList) (plain : Plain served host)
    (type : question.type = .a)
    (asked : question.asked = lower host.toList ∨
      question.asked = lower (host ++ "." ++ served.name).toList)
    (found : address ∈ resolver.lookupHost served.name (String.ofList (lower host.toList))) :
    ∃ records, ownRecords served resolver question = some (some (records, .success)) ∧
      .a question.name address ∈ records := by
  have label : '.' ∉ lower host.toList := fun member => plain.label (dot_mem_lower.mp member)
  have external : isInternal question.asked = false := by
    obtain same | same := asked <;> rw [same]
    · exact isInternal_plain label
    · exact plain.external
  have cut : (cutSuffix question.asked ('.' :: served.domain)).getD question.asked =
      lower host.toList := by
    obtain same | same := asked <;> rw [same]
    · rw [cutSuffix_plain label, Option.getD_none]
    have split : lower (host ++ "." ++ served.name).toList = lower host.toList ++
        '.' :: served.domain := by
      simp [lower, domain]
    rw [split, cutSuffix_append, Option.getD_some]
  refine ⟨addressRecords question (resolver.lookupHost served.name
    (String.ofList (lower host.toList))), ?_, by simpa [addressRecords, type] using found⟩
  have nonempty : lower host.toList ≠ [] := by simpa [lower] using plain.nonempty
  unfold ownRecords
  simp only [type, external, answers, cut, nonempty, label, Bool.not_true, Bool.false_eq_true,
    or_self, if_false, reduceCtorEq]
  split
  case h_1 none => rw [none] at found; exact nomatch found
  case h_2 => rfl

/-- Followed by the network's name, no other name is answered, but for the gateway's. -/
theorem plain_of_ownRecords (answers : served.answersInstances = true)
    (domain : served.domain = lower served.name.toList) (type : question.type = .a)
    (asked : question.asked = lower (host ++ "." ++ served.name).toList)
    (guest : address ≠ served.gateway)
    (answered : ownRecords served resolver question = some (some (records, .success)))
    (member : .a question.name address ∈ records) : Plain served host := by
  have split : lower (host ++ "." ++ served.name).toList = lower host.toList ++
      '.' :: served.domain := by
    simp [lower, domain]
  unfold ownRecords at answered
  simp only [type, asked, reduceCtorEq, if_false] at answered
  split at answered
  · split at answered
    · cases answered
    · cases answered
      simp [addressRecords, type, guest] at member
  rename_i external
  simp only [answers, Bool.not_true, Bool.false_eq_true, if_false, split, cutSuffix_append,
    Option.getD_some] at answered
  split at answered
  · cases answered
  rename_i label
  rw [not_or, dot_mem_lower] at label
  exact ⟨fun empty => label.1 (by simp [empty, lower]), label.2, Bool.eq_false_iff.mpr external⟩

end

section

variable {statusOf : Spec → Except Err Status} {store : Store} {tables : Tables}
    {served : ServedNetwork}

/-- A running instance with an address on a network. -/
structure Answerable (statusOf : Spec → Except Err Status) (store : Store) (tables : Tables)
    (network : String) (spec : Spec) (address : Address) : Prop where
  defined : spec ∈ store.instances.items
  named : spec.networkName = network
  runs : ∃ status, statusOf spec = .ok status ∧ Instance.runsOrStarts status = true
  holds : Instance.addressOf tables network spec = some address

variable {network : String} {spec : Spec}

theorem mem_answerable {isMatch : Spec → Bool} :
    (spec, address) ∈ answerableInstances statusOf store tables network isMatch ↔
      Answerable statusOf store tables network spec address ∧ isMatch spec = true := by
  simp only [answerableInstances, List.mem_filterMap, List.mem_filter, Bool.and_eq_true,
    decide_eq_true_eq]
  constructor
  · rintro ⟨found, ⟨defined, named, matched⟩, answered⟩
    split at answered
    case h_1 status read =>
      obtain ⟨runs, answered⟩ := Option.ite_none_right_eq_some.mp answered
      obtain ⟨_, holds, same⟩ := Option.map_eq_some_iff.mp answered
      cases same
      exact ⟨⟨defined, named, ⟨status, read, runs⟩, holds⟩, matched⟩
    case h_2 => exact nomatch answered
  · rintro ⟨⟨defined, named, ⟨status, read, runs⟩, holds⟩, matched⟩
    exact ⟨spec, ⟨defined, named, matched⟩, by simp [read, runs, holds]⟩

theorem mem_lookupAddr (known : host ∈ lookupAddr statusOf Char.toLower store tables network
    address) : ∃ spec held, Answerable statusOf store tables network spec held ∧
      (host = spec.name ∨ host = spec.hostname) ∧ tables.instanceAt network address.text =
      some spec.id := by
  unfold lookupAddr at known
  split at known
  case h_1 => exact nomatch known
  case h_2 instanceID found =>
    split at known
    case h_1 => exact nomatch known
    case h_2 spec held rest first =>
      obtain ⟨answerable, same⟩ := mem_answerable.mp (first ▸ List.mem_cons_self)
      refine ⟨spec, held, answerable, ?_, (of_decide_eq_true same).symm ▸ found⟩
      obtain rfl | other := List.mem_cons.mp known
      · exact .inl rfl
      split at other
      · exact .inr (List.mem_singleton.mp other)
      · exact nomatch other

theorem address_of_instanceAt {held : Address} (orderly : tables.Orderly)
    (found : tables.instanceAt network address.text = some spec.id)
    (holds : Instance.addressOf tables network spec = some held) : held = address := by
  unfold Tables.instanceAt at found
  split at found
  case h_2 => exact nomatch found
  case h_1 table there =>
    obtain ⟨allocation, isFound, own⟩ := Option.map_eq_some_iff.mp found
    have member : allocation ∈ table := List.mem_reverse.mp (List.mem_of_find?_eq_some isFound)
    have ip : allocation.ip = address.text := by simpa using List.find?_some isFound
    have given : tables.allocation network spec.id = .ok allocation :=
      orderly.allocation_iff.mpr ⟨table, there, member, own⟩
    rw [Instance.addressOf, given] at holds
    dsimp only at holds
    rw [ip] at holds
    exact Option.some.inj (holds.symm.trans (Networks.parseIPv4_text address))

theorem networkOf_eq {network : Network} (isServed : networkOf network = some served) :
    served.name = network.name ∧ served.domain = lower served.name.toList ∧
      served.answersInstances = !network.isolated := by
  simp only [networkOf, Option.bind_eq_bind, Option.bind_eq_some_iff] at isServed
  obtain ⟨subnet, _, gateway, _, isServed⟩ := isServed
  cases isServed
  exact ⟨rfl, rfl, rfl⟩

variable {question : Question}

theorem ownRecords_instance (answers : served.answersInstances = true)
    (domain : served.domain = lower served.name.toList)
    (answerable : Answerable statusOf store tables served.name spec address)
    (isName : host = spec.name ∨ host = spec.hostname) (plain : Plain served host)
    (type : question.type = .a)
    (asked : question.asked = lower host.toList ∨
      question.asked = lower (host ++ "." ++ served.name).toList) :
    ∃ records, ownRecords served (instances statusOf store tables) question =
      some (some (records, .success)) ∧ .a question.name address ∈ records := by
  refine ownRecords_host answers domain plain type asked
    (List.mem_map.mpr ⟨(spec, address), ?_, rfl⟩)
  refine mem_answerable.mpr ⟨answerable, ?_⟩
  have same (name : String) (isHost : host = name) :
      Instance.equalFold Char.toLower name (String.ofList (lower host.toList)) = true := by
    rw [Instance.equalFold, decide_eq_true_eq, String.toList_ofList, isHost]
    exact (lower_lower _).symm
  rw [Bool.or_eq_true]
  exact isName.imp (same _) (same _)

theorem asked_dot (spelled : String) (type : RecordType) (internet : Bool) :
    (⟨spelled ++ ".", type, internet⟩ : Question).asked = lower spelled.toList := by
  rw [Question.asked, String.toList_append]
  exact congrArg lower (trimDot_dot _)

theorem ownRecords_ptr {resolver : Resolver} (type : question.type = .ptr)
    (reverse : reverseAddr question.asked = some address)
    (answered : ownRecords served resolver question = some (some (records, .success))) :
    records = (ptrTargets served resolver address).map (.ptr question.name) := by
  unfold ownRecords at answered
  simp only [type, reverse, if_true] at answered
  split at answered
  · obtain ⟨made, isMade, answered⟩ := Option.bind_eq_some_iff.mp answered
    rw [← eq_of_mapM_ptrRecord isMade]
    split at answered
    · exact nomatch answered
    · cases answered
      rfl
  · exact nomatch answered

theorem ownRecords_gateway (resolver : Resolver) (outward : served.internal = false) :
    ownRecords served resolver ⟨"host." ++ internalDomain ++ ".", .a, true⟩ =
      some (some ([.a ("host." ++ internalDomain ++ ".") served.gateway], .success)) := by
  rw [ownRecords, asked_dot]
  have internal : isInternal (lower ("host." ++ internalDomain).toList) = true := by decide
  have known : lower ("host." ++ internalDomain).toList ∈ hostNames.map String.toList := by decide
  simp only [internal, known, outward, addressRecords, reduceCtorEq, if_false, if_true, not_true,
    or_self, Bool.false_eq_true, true_or, List.map_cons, List.map_nil]

end

section

variable (statusOf : Spec → Except Err Status) (store : Store) (tables : Tables)
    (served : ServedNetwork)

/-- A query asks the server one question, of the Internet class. -/
def Asks (library : Library) (query : List UInt8) (question : Question) : Prop :=
  ∃ header, library.start query = some header ∧ header.response = false ∧
    library.allQuestions query = some [question] ∧ question.internet = true

/-- A query for a name is answered with an address. -/
def Resolves (spelled : String) (address : Address) : Prop :=
  ∃ records, ownRecords served (instances statusOf store tables) ⟨spelled, .a, true⟩ =
    some (some (records, .success)) ∧ .a spelled address ∈ records

/-- A running instance is found by a name, bare and under the network's name, in any case, exactly
if the name is of one label and not taken for the host's; and the names that are given out for its
address lead back to it exactly if they all are. -/
theorem names_resolve {network : Network} {other : String → Option (Option Address)}
    (isServed : networkOf network = some served) (answers : network.isolated = false)
    (reached : Tables.Reached other tables) :
    (∀ spec address, Answerable statusOf store tables network.name spec address →
      address ≠ served.gateway → ∀ host, host = spec.name ∨ host = spec.hostname →
        ((∀ spelled : String, lower spelled.toList = lower host.toList ∨
            lower spelled.toList = lower (host ++ "." ++ network.name).toList →
            Resolves statusOf store tables served (spelled ++ ".") address) ↔
          Plain served host)) ∧
      ∀ question address records, question.type = .ptr → reverseAddr question.asked = some address →
        ownRecords served (instances statusOf store tables) question =
          some (some (records, .success)) →
        ((∀ host ∈ lookupAddr statusOf Char.toLower store tables network.name address,
          Plain served host) → ∀ target, .ptr question.name target ∈ records →
            Resolves statusOf store tables served target address) ∧
        (address ≠ served.gateway → (∀ target, .ptr question.name target ∈ records →
            Resolves statusOf store tables served target address) →
          ∀ host ∈ lookupAddr statusOf Char.toLower store tables network.name address,
            Plain served host) := by
  obtain ⟨name, domain, isolated⟩ := networkOf_eq isServed
  rw [answers, Bool.not_false] at isolated
  rw [← name]
  have under (host : String) (address : Address) (guest : address ≠ served.gateway)
      (found : Resolves statusOf store tables served (host ++ "." ++ served.name ++ ".") address) :
      Plain served host := by
    obtain ⟨records, answered, member⟩ := found
    exact plain_of_ownRecords isolated domain rfl (asked_dot _ _ _) guest answered member
  refine ⟨fun spec address answerable guest host isName =>
      ⟨fun all => under host address guest (all _ (.inr rfl)), fun plain spelled asked => ?_⟩,
    fun question address records type reverse answered => ⟨fun plain target member => ?_,
      fun guest all host known => under host address guest (all _ ?_)⟩⟩
  · exact ownRecords_instance isolated domain answerable isName plain rfl (by rwa [asked_dot])
  · rw [ownRecords_ptr type reverse answered] at member
    obtain ⟨_, isTarget, same⟩ := List.mem_map.mp member
    cases same
    unfold ptrTargets at isTarget
    split at isTarget
    case isTrue gateway =>
      obtain rfl := List.mem_singleton.mp isTarget
      rw [gateway.1]
      exact ⟨_, ownRecords_gateway _ (by simpa using gateway.2), List.mem_singleton.mpr rfl⟩
    case isFalse =>
      obtain ⟨host, known, rfl⟩ := List.mem_map.mp isTarget
      obtain ⟨spec, held, answerable, isName, found⟩ := mem_lookupAddr known
      obtain rfl := address_of_instanceAt reached.orderly found answerable.holds
      exact ownRecords_instance isolated domain answerable isName (plain host known) rfl
        (.inr (asked_dot _ _ _))
  · rw [ownRecords_ptr type reverse answered, ptrTargets, if_neg fun gateway => guest gateway.1,
      if_pos isolated]
    exact List.mem_map_of_mem (List.mem_map_of_mem known)

end

def only (instanceName networkName : String) : Spec :=
  { (default : Spec) with id := "i1", name := instanceName, networkName := networkName }

def withOnly (spec : Spec) : Store := { Store.empty with instances := ⟨[spec], fun _ => none⟩ }

def running (_ : Spec) : Except Err Status := .ok { Status.stopped with state := .running }

/-- A network's server, with an instance at 10.1.0.7. -/
def serving (networkName : String) : ServedNetwork :=
  ⟨networkName, lower networkName.toList, .around 0x0a010000#32 16 (Nat.le_add_right 16 16),
    0x0a010001#32, true, false⟩

def onlyInstance (instanceName networkName : String) : Resolver :=
  instances running (withOnly (only instanceName networkName))
    (Tables.empty.save networkName [⟨"n1", "i1", "10.1.0.7", "m1"⟩])

/-- A library that reads one question out of every query. -/
def asks (question : Question) : Library :=
    ⟨fun _ => some ⟨1, false, 0, true⟩, fun _ => some [question], fun _ => some []⟩

def reverseLookup : Question := ⟨"7.0.1.10.in-addr.arpa.", .ptr, true⟩

theorem names_resolve_web : ∃ tables address records,
    ownRecords (serving "default") (instances running (withOnly (only "web" "default")) tables)
        ⟨"WEB.default.", .a, true⟩ = some (some (records, .success)) ∧ .a "WEB.default." address ∈
        records := by
  obtain ⟨⟨allocation, after⟩, allocated, holds⟩ := exists_ok_of_any
    (fun given => Instance.addressOf given.2 "default" (only "web" "default") = some 0x0a010007#32)
    (Tables.empty.allocate (fun _ => none) Instance.onlyNetwork "i1" "" ⟨[6], "m1"⟩)
      (by decide +kernel)
  have isServed : networkOf Instance.onlyNetwork = some (serving "default") := by decide +kernel
  have resolves := (names_resolve running (withOnly (only "web" "default")) after
    (serving "default") isServed rfl (.allocated _ _ _ _ _ .empty allocated)).1
    (only "web" "default") _ ⟨List.mem_singleton.mpr rfl, rfl, ⟨_, rfl, rfl⟩, holds⟩ (by decide)
    "web" (.inl rfl)
  exact ⟨after, _, resolves.mpr ⟨by decide, by decide, by decide +kernel⟩ "WEB.default"
    (.inr (by decide))⟩

/-- A name with a dot is given out for the address, and found neither bare nor under the network's
name.  And an instance may have a name that is the host's domain. -/
theorem names_unresolved : ownRecords (serving "default") (onlyInstance "web.v1" "default")
        reverseLookup = some (some ([.ptr reverseLookup.name "web.v1.default."], .success)) ∧
      ownRecords (serving "default") (onlyInstance "web.v1" "default")
      ⟨"web.v1.default.", .a, true⟩ = some none ∧
      ownRecords (serving "default") (onlyInstance "web.v1" "default") ⟨"web.v1.", .a, true⟩ =
      some none ∧
      ownRecords (serving "internal") (onlyInstance "dicer" "internal")
        ⟨"dicer.internal.", .a, true⟩ = some (some ([], .nameError)) := by
  decide +kernel

end Dicer.DNS
