import Dicer.Networks.Address
import Mathlib.Data.List.TakeWhile

namespace Dicer.Compose

open Networks

/-!
# Published ports, in a compose file and on the command line

Both are written "[HOST_IP:]HOST_PORT:GUEST_PORT[/PROTOCOL]", and each has its own parser.  Lower
case is that of ASCII letters: no other character has a letter of "tcp" or "udp" as its lower case.
-/

structure PortMapping where
  hostIP : String
  hostPort : Nat
  guestPort : Nat
  protocol : String
  deriving DecidableEq, Repr

abbrev Parsed := Except String

/-- A failure is reported after what was read. -/
def wrap {Value : Type} (context : String) : Parsed Value → Parsed Value :=
    Except.mapError (context ++ ": " ++ ·)

/-- What comes before the separator and after it, and if there is one. -/
def cut (separator : Char) (text : List Char) : List Char × List Char × Bool :=
  (text.takeWhile (· ≠ separator), (text.dropWhile (· ≠ separator)).tail, text.contains separator)

def index (pattern : List Char) : List Char → Option Nat
  | [] => none
  | first :: rest => if pattern.isPrefixOf (first :: rest) then some 0
    else (index pattern rest).map (· + 1)

def quote (text : List Char) : String := quoted (String.ofList text)

/-- A number in base 10 that fits 16 bits. -/
def parseUint16 (text : List Char) : Option Nat :=
  if text = [] ∨ !text.all Char.isDigit ∨ 2 ^ 16 ≤ number text then none else some (number text)

def parsePort (text : List Char) : Parsed Nat :=
  match parseUint16 text with
  | none | some 0 => throw ("invalid port " ++ quote text ++ ": want a number from 1 to 65535")
  | some port => pure port

/-- A port that is no range. -/
def parsePortNumber (text : List Char) : Parsed Nat :=
  if '-' ∈ text then throw (quote text ++ " is a range: publish each port on its own")
    else parsePort text

def parseProtocol (text : List Char) : Parsed String :=
  match String.ofList text with
  | "" => pure ""
  | "tcp" => pure "tcp"
  | "udp" => pure "udp"
  | name => throw ("invalid protocol " ++ quoted name ++ ": want tcp or udp")

def normalChoice (text : List Char) : List Char := text.map fun c => if c = '_' then '-'
    else c.toLower

def orList : List String → String
  | [name] => name
  | names => ", ".intercalate names.dropLast ++ " or " ++ names.getLastD ""

def parseChoice (what : String) (text : List Char) (values : List String) : Parsed String :=
  match values.find? (fun value => normalChoice value.toList = normalChoice text) with
  | some value => pure value
  | none => throw ("invalid " ++ what ++ " " ++ quote text ++ ": want " ++ orList values)

/-- The compose file's parser, which also takes an IPv6 address in brackets. -/
def parseShortPort (text : String) : Parsed PortMapping := do
  let (spec, protocol, _) := cut '/' text.toList
  let (hostIP, spec) ←
    if spec.head? = some '[' then
      match index "]:".toList spec with
      | none => throw ("invalid port " ++ quoted text)
      | some ends => pure ((spec.take ends).tail, spec.drop (ends + 2))
    else pure ([], spec)
  let (hostIP, hostPort, guestPort) ←
    match spec.splitOn ':' with
    | [port] =>
      throw ("port " ++ quoted text ++ ": publish it on a port of the host, as HOST_PORT:" ++
        String.ofList port)
    | [hostPort, guestPort] => pure (hostIP, hostPort, guestPort)
    | [address, hostPort, guestPort] =>
      if hostIP = [] then pure (address, hostPort, guestPort)
      else throw ("invalid port " ++ quoted text ++
        ": want [HOST_IP:]HOST_PORT:GUEST_PORT[/tcp|udp]")
    | _ => throw ("invalid port " ++ quoted text ++
      ": want [HOST_IP:]HOST_PORT:GUEST_PORT[/tcp|udp]")
  let hostPort ← wrap ("port " ++ quoted text ++ ": host port") (parsePortNumber hostPort)
  let guestPort ← wrap ("port " ++ quoted text ++ ": guest port") (parsePortNumber guestPort)
  let protocol ← wrap ("port " ++ quoted text) (parseProtocol protocol)
  pure ⟨String.ofList hostIP, hostPort, guestPort, protocol⟩

/-- The command line's parser. -/
def parsePortMapping (text : String) : Parsed PortMapping := do
  let (spec, protoName, hasProto) := cut '/' text.toList
  let (hostIP, hostPort, guestPort) ←
    match spec.splitOn ':' with
    | [hostPort, guestPort] => pure ([], hostPort, guestPort)
    | [hostIP, hostPort, guestPort] => pure (hostIP, hostPort, guestPort)
    | _ => throw ("invalid port mapping " ++ quoted text ++
        ": want [hostIP:]hostPort:guestPort[/tcp|udp], e.g. 8080:80")
  let hostPort ← wrap ("invalid port mapping " ++ quoted text ++ ": host port") (parsePort hostPort)
  let guestPort ← wrap ("invalid port mapping " ++ quoted text ++ ": guest port")
    (parsePort guestPort)
  let protocol ← wrap ("invalid port mapping " ++ quoted text)
    (if hasProto then parseChoice "protocol" protoName ["tcp", "udp"] else pure "")
  pure ⟨String.ofList hostIP, hostPort, guestPort, protocol⟩

variable {text : List Char} {port : Nat} {mapping : PortMapping}

theorem wrap_eq_ok {Value : Type} {context : String} {call : Parsed Value} {value : Value} :
    wrap context call = .ok value ↔ call = .ok value := by
  cases call with
  | error | ok => simp [wrap, Except.mapError]

/-- No number has a hyphen. -/
theorem parsePortNumber_eq_ok : parsePortNumber text = .ok port ↔ parsePort text = .ok port := by
  unfold parsePortNumber
  split
  · rename_i range
    have refused : parseUint16 text = none := by
      refine if_pos (.inr (.inl ?_))
      simp only [Bool.not_eq_true', List.all_eq_false]
      exact ⟨'-', range, by decide⟩
    simp [parsePort, refused]
  · rfl

/-- The name of a protocol is there, and in lower case. -/
def Plain (name : List Char) : Prop :=
  name ≠ [] ∧ ∀ protocol ∈ ["tcp", "udp"], normalChoice name = protocol.toList →
    name = protocol.toList

instance : DecidablePred Plain := fun _ => inferInstanceAs (Decidable (_ ∧ _))

/-- The two readings of a protocol's name agree exactly on names that are plain. -/
theorem protocols_agree {name : List Char} :
    (∀ protocol, parseProtocol name = .ok protocol ↔
      parseChoice "protocol" name ["tcp", "udp"] = .ok protocol) ↔ Plain name := by
  constructor
  · intro agree
    refine ⟨?_, ?_⟩
    · rintro rfl
      exact absurd ((agree "").mp rfl) (by decide)
    · intro protocol member lower
      have chosen : parseChoice "protocol" name ["tcp", "udp"] = .ok protocol := by
        rcases List.mem_pair.mp member with rfl | rfl <;> simp [parseChoice, lower] <;> rfl
      have read := (agree protocol).mpr chosen
      unfold parseProtocol at read
      split at read
      all_goals
        rename_i same
        first
          | exact absurd read throw_ne_ok
          | exact (String.ofList_eq.mp same).trans (congrArg String.toList (pure_eq_ok.mp read))
  rintro ⟨named, lower⟩ protocol
  by_cases known : ∃ protocol ∈ ["tcp", "udp"], name = protocol.toList
  · rcases known with ⟨known, member, rfl⟩
    rcases List.mem_pair.mp member with rfl | rfl <;> rfl
  have refused : parseProtocol name = .error
      ("invalid protocol " ++ quote name ++ ": want tcp or udp") := by
    unfold parseProtocol
    split
    · rename_i isEmpty
      exact absurd (String.ofList_eq.mp isEmpty) named
    · rename_i isTcp
      exact absurd ⟨"tcp", by simp, String.ofList_eq.mp isTcp⟩ known
    · rename_i isUdp
      exact absurd ⟨"udp", by simp, String.ofList_eq.mp isUdp⟩ known
    · rfl
  have unlisted : ["tcp", "udp"].find?
      (fun value => normalChoice value.toList = normalChoice name) = none := by
    refine List.find?_eq_none.mpr ?_
    intro value member same
    refine known ⟨value, member, lower value member ?_⟩
    rcases List.mem_pair.mp member with rfl | rfl <;> exact (of_decide_eq_true same).symm
  simp [refused, parseChoice, unlisted]

/-- What stands before the slash: the two ports of a mapping, after its address if it has one. -/
def Ports (spec : List Char) (mapping : PortMapping) : Prop :=
  ∃ hostIP hostPort guestPort,
    ((hostIP = [] ∧ spec.splitOn ':' = [hostPort, guestPort]) ∨
      spec.splitOn ':' = [hostIP, hostPort, guestPort]) ∧
    parsePort hostPort = .ok mapping.hostPort ∧ parsePort guestPort = .ok mapping.guestPort ∧
    mapping.hostIP = String.ofList hostIP

theorem exists_mapping {hostIP : String} {host guest : Nat → Prop} {name : String → Prop} :
    (∃ hostPort, host hostPort ∧ ∃ guestPort, guest guestPort ∧ ∃ protocol, name protocol ∧
      (⟨hostIP, hostPort, guestPort, protocol⟩ : PortMapping) = mapping) ↔
      (host mapping.hostPort ∧ guest mapping.guestPort ∧ mapping.hostIP = hostIP) ∧
        name mapping.protocol := by
  constructor
  · rintro ⟨_, isHost, _, isGuest, _, isName, rfl⟩
    exact ⟨⟨isHost, isGuest, rfl⟩, isName⟩
  · rintro ⟨⟨isHost, isGuest, rfl⟩, isName⟩
    exact ⟨_, isHost, _, isGuest, _, isName, rfl⟩

theorem parseShortPort_eq_ok {text : String} (unbracketed : '[' ∉ text.toList) :
    parseShortPort text = .ok mapping ↔ Ports (cut '/' text.toList).1 mapping ∧
      parseProtocol (cut '/' text.toList).2.1 = .ok mapping.protocol := by
  have bare : (cut '/' text.toList).1.head? ≠ some '[' :=
    fun bracket => unbracketed (List.takeWhile_subset _ (List.mem_of_head? bracket))
  rcases isCut : cut '/' text.toList with ⟨spec, name, found⟩
  simp only [isCut] at bare
  simp only [parseShortPort, Ports, isCut, bare, if_false, pure_bind]
  rcases spec.splitOn ':' with _ | ⟨first, _ | ⟨second, _ | ⟨third, _ | more⟩⟩⟩ <;>
    simp only [if_true, bind_eq_ok, wrap_eq_ok, parsePortNumber_eq_ok, throw_ne_ok] <;> simp
  all_goals exact exists_mapping

theorem parsePortMapping_eq_ok {text : String} :
    parsePortMapping text = .ok mapping ↔ Ports (cut '/' text.toList).1 mapping ∧
      (if '/' ∈ text.toList then parseChoice "protocol" (cut '/' text.toList).2.1 ["tcp", "udp"]
        else pure "") = .ok mapping.protocol := by
  have isFound : (cut '/' text.toList).2.2 = true ↔ '/' ∈ text.toList := List.contains_iff_mem
  rcases isCut : cut '/' text.toList with ⟨spec, name, found⟩
  simp only [isCut] at isFound
  simp only [parsePortMapping, Ports, isCut, isFound]
  rcases spec.splitOn ':' with _ | ⟨first, _ | ⟨second, _ | ⟨third, _ | more⟩⟩⟩ <;>
    simp only [bind_eq_ok, wrap_eq_ok, throw_ne_ok] <;> simp
  all_goals exact exists_mapping

/-- The two parsers take a text without a bracket for the same ports, or both refuse it, exactly if
no ports stand before the slash or a protocol follows it that is not empty and has no capital
letter. -/
theorem parsers_agree (text : String) (unbracketed : '[' ∉ text.toList) :
    (∀ mapping, parseShortPort text = .ok mapping ↔ parsePortMapping text = .ok mapping) ↔
      ((∃ mapping, Ports (cut '/' text.toList).1 mapping) → '/' ∈ text.toList →
        Plain (cut '/' text.toList).2.1) := by
  simp only [parseShortPort_eq_ok unbracketed, parsePortMapping_eq_ok]
  by_cases named : '/' ∈ text.toList
  · simp only [named, if_true, forall_const, ← protocols_agree]
    constructor
    · rintro agree ⟨mapping, ports⟩ protocol
      have same := agree { mapping with protocol := protocol }
      exact ⟨fun read => (same.mp ⟨ports, read⟩).2, fun read => (same.mpr ⟨ports, read⟩).2⟩
    · exact fun agree mapping => and_congr_right fun ports => agree ⟨mapping, ports⟩ _
  · have nothing : (cut '/' text.toList).2.1 = [] := by
      have all := List.dropWhile_eq_nil_iff.mpr fun c member =>
        decide_eq_true (ne_of_mem_of_not_mem member named)
      exact congrArg List.tail all
    simp only [named, if_false, nothing, false_implies, implies_true, iff_true]
    exact fun _ => Iff.rfl

theorem parsers_agree_udp : parseShortPort "127.0.0.1:53:53/udp" = .ok
    ⟨"127.0.0.1", 53, 53, "udp"⟩ ∧ parsePortMapping "127.0.0.1:53:53/udp" = .ok
    ⟨"127.0.0.1", 53, 53, "udp"⟩ := by
  have parsed : parseShortPort "127.0.0.1:53:53/udp" = .ok ⟨"127.0.0.1", 53, 53, "udp"⟩ :=
    by decide +kernel
  have agree := (parsers_agree "127.0.0.1:53:53/udp" (by decide +kernel)).mpr
    fun _ _ => by decide +kernel
  exact ⟨parsed, (agree _).mp parsed⟩

/-- A slash at the end is taken by the one, and a protocol in capitals by the other. -/
theorem parsers_differ : parseShortPort "80:80/" = .ok ⟨"", 80, 80, ""⟩ ∧
    parsePortMapping "80:80/" = .error "invalid port mapping \"80:80/\": invalid protocol \"\": want tcp or udp" ∧
    parsePortMapping "80:80/TCP" = .ok ⟨"", 80, 80, "tcp"⟩ ∧
    parseShortPort "80:80/TCP" = .error "port \"80:80/TCP\": invalid protocol \"TCP\": want tcp or udp" := by
  decide +kernel

end Dicer.Compose
