import Dicer.Maps
import Dicer.PacketFilter.Chains

namespace Dicer.HostNet

open PacketFilter

/-!
# The host's packet filter rules

Dicer's chains are reached by jumps from the host's own, at their head.  A rule is found again by
its comment, which names what it is for and the bridge or the instance it is for; changing a rule
removes every rule with its comment and appends the new one.  Every command is taken to succeed, and
nothing else to change the chains.  What the rest of the host has in its own chains is left open.
-/

inductive Table
  | filter
  | nat
  deriving DecidableEq, Repr

inductive Chain
  | forward
  | input
  | output
  | prerouting
  | postrouting
  | dicerUser
  | dicerIsolationStage1
  | dicerIsolationStage2
  | dicerForward
  | dicerInput
  | dicerDNAT
  | host (name : String)
  deriving DecidableEq, Repr

/-- The states of a connection a rule may ask for; `dnat` is that its destination was rewritten. -/
inductive CtState
  | new
  | related
  | established
  | invalid
  | dnat
  deriving DecidableEq, Repr

/-- One match of a rule.  What rules of the host's own match is not looked into. -/
inductive Match
  | inInterface (name : String)
  | outInterface (name : String)
  | notOutInterface (name : String)
  | source (subnet : String)
  | destination (address : String)
  | notDestination (subnet : String)
  | protocol (name : String)
  | dport (port : Nat)
  | ctstate (states : List CtState)
  | notCtstate (states : List CtState)
  | dstTypeLocal
  | host (text : String)
  deriving DecidableEq, Repr

inductive Target
  | accept
  | drop
  | jump (chain : Chain)
  | masquerade
  | dnat (address : String) (port : Nat)
  | host (text : String)
  deriving DecidableEq, Repr

structure Rule where
  matchers : List Match
  comment : String
  target : Target
  deriving DecidableEq, Repr

structure Packet where
  inInterface : String
  outInterface : String
  destination : String
  protocol : String
  dport : Nat
  state : CtState
  dnat : Bool
  deriving DecidableEq, Repr

/-- What only the host knows: its own rules, its subnets and which addresses are its own. -/
structure Surroundings where
  inSubnet : String → Packet → Bool
  fromSubnet : String → Packet → Bool
  isLocal : Packet → Bool
  hostMatch : String → Packet → Bool
  hostAction : String → Packet → Action Chain

def CtState.holds (packet : Packet) : CtState → Bool
  | dnat => packet.dnat
  | state => packet.state == state

def Match.holds (surroundings : Surroundings) (packet : Packet) : Match → Bool
  | inInterface name => packet.inInterface == name
  | outInterface name => packet.outInterface == name
  | notOutInterface name => packet.outInterface != name
  | source subnet => surroundings.fromSubnet subnet packet
  | destination address => packet.destination == address
  | notDestination subnet => !surroundings.inSubnet subnet packet
  | protocol name => packet.protocol == name
  | dport port => packet.dport == port
  | ctstate states => states.any (CtState.holds packet)
  | notCtstate states => !states.any (CtState.holds packet)
  | dstTypeLocal => surroundings.isLocal packet
  | host text => surroundings.hostMatch text packet

def meaning (surroundings : Surroundings) : Meaning Chain Rule Packet where
  applies := fun rule packet => rule.matchers.all (Match.holds surroundings packet)
  action := fun rule packet =>
    match rule.target with
    | .accept => .decide .accept
    | .drop => .decide .drop
    | .jump chain => .jump chain
    | .masquerade => .decide .accept
    | .dnat _ _ => .decide .accept
    | .host text => surroundings.hostAction text packet

/-! ## Changing rules -/

abbrev Tables := Table → Chain → List Rule

namespace Tables

variable (tables : Tables) (table : Table) (chain : Chain)

def set (rules : List Rule) : Tables :=
  fun otherTable otherChain =>
    if otherTable = table ∧ otherChain = chain then rules else tables otherTable otherChain

variable (rule : Rule)

def ruleExists : Bool :=
  (tables table chain).contains rule

def appendRule : Tables :=
  tables.set table chain (tables table chain ++ [rule])

def insertFirst : Tables :=
  tables.set table chain (rule :: tables table chain)

def deleteRulesWithComment (comment : String) : Tables :=
  tables.set table chain ((tables table chain).filter fun rule => rule.comment ≠ comment)

/-- Append a rule unless it is there, instead of the rules with its comment. -/
def ensureRule : Tables :=
  if tables.ruleExists table chain rule then tables
  else (tables.deleteRulesWithComment table chain rule.comment).appendRule table chain rule

end Tables

variable (bridge : String)

def natComment : String := "dicer-nat-" ++ bridge
def forwardOutComment : String := "dicer-fwd-out-" ++ bridge
def forwardInComment : String := "dicer-fwd-in-" ++ bridge
def iccComment : String := "dicer-icc-" ++ bridge
def isolationStage1Comment : String := "dicer-isolation-s1-" ++ bridge
def isolationStage2Comment : String := "dicer-isolation-s2-" ++ bridge
def internalComment : String := "dicer-internal-" ++ bridge
def inputAcceptComment : String := "dicer-input-accept-" ++ bridge
def inputDropComment : String := "dicer-input-drop-" ++ bridge
def inputListenerDropComment : String := "dicer-input-listener-drop-" ++ bridge
def inputDNSComment : String := "dicer-input-dns-" ++ bridge
def inputRepliesComment : String := "dicer-input-replies-" ++ bridge
def inputInternalComment : String := "dicer-input-internal-" ++ bridge
def portComment (instanceID : String) : String := "dicer-port-" ++ instanceID

structure ChainJump where
  parent : Chain
  comment : String
  target : Chain

def dicerJumps : List ChainJump :=
  [⟨.forward, "dicer-jump-user", .dicerUser⟩,
    ⟨.forward, "dicer-jump-isolation", .dicerIsolationStage1⟩,
    ⟨.forward, "dicer-jump-forward", .dicerForward⟩, ⟨.input, "dicer-jump-input", .dicerInput⟩]

def jumpRule (jump : ChainJump) : Rule := ⟨[], jump.comment, .jump jump.target⟩

variable (tables : Tables)

/-- Put the jumps from one parent chain back at its head, in order, if any is missing. -/
def ensureJumps (parent : Chain) : Tables :=
  let jumps := dicerJumps.filter fun jump => jump.parent = parent
  if jumps.any fun jump => !tables.ruleExists .filter parent (jumpRule jump) then
    let deleted := jumps.foldl (fun tables jump => tables.deleteRulesWithComment .filter parent
      jump.comment) tables
    jumps.foldr (fun jump tables => tables.insertFirst .filter parent (jumpRule jump)) deleted
  else tables

def ensureDicerChains : Tables :=
  ensureJumps (ensureJumps tables .forward) .input

structure Network where
  bridge : String
  subnet : String
  gateway : String
  internal : Bool
  deriving DecidableEq, Repr

def natRule (bridge subnet uplink : String) : Rule :=
  ⟨[.source subnet, .outInterface uplink], natComment bridge, .masquerade⟩

def iccRule : Rule :=
  ⟨[.inInterface bridge, .outInterface bridge], iccComment bridge, .accept⟩

def forwardOutRule (bridge uplink : String) : Rule :=
  ⟨[.inInterface bridge, .outInterface uplink, .ctstate [.new, .related, .established]],
    forwardOutComment bridge, .accept⟩

def forwardInRule (bridge uplink : String) : Rule :=
  ⟨[.inInterface uplink, .outInterface bridge, .ctstate [.related, .established]],
    forwardInComment bridge, .accept⟩

def ensureForwardRules (bridge uplink : String) : Tables :=
  ((tables.ensureRule .filter .dicerForward (iccRule bridge)).ensureRule .filter .dicerForward
    (forwardOutRule bridge uplink)).ensureRule .filter .dicerForward (forwardInRule bridge uplink)

def removeForwardRules (bridge : String) : Tables :=
  [iccComment bridge, forwardOutComment bridge, forwardInComment bridge].foldl
    (fun tables comment => tables.deleteRulesWithComment .filter .dicerForward comment) tables

def internalRule : Rule :=
  ⟨[.inInterface bridge, .notOutInterface bridge, .notCtstate [.established, .related]],
    internalComment bridge, .drop⟩

def isolationStage1Rule : Rule :=
  ⟨[.inInterface bridge, .notOutInterface bridge], isolationStage1Comment bridge,
    .jump .dicerIsolationStage2⟩

def isolationStage2Rule : Rule :=
  ⟨[.outInterface bridge], isolationStage2Comment bridge, .drop⟩

def ensureIsolationRules (bridge : String) (internal : Bool) : Tables :=
  let tables :=
    if internal then tables.ensureRule .filter .dicerIsolationStage1 (internalRule bridge)
    else tables.deleteRulesWithComment .filter .dicerIsolationStage1 (internalComment bridge)
  (tables.ensureRule .filter .dicerIsolationStage1 (isolationStage1Rule bridge)).ensureRule .filter
    .dicerIsolationStage2 (isolationStage2Rule bridge)

def removeIsolationRules (bridge : String) : Tables :=
  ((tables.deleteRulesWithComment .filter .dicerIsolationStage1 (isolationStage1Comment bridge)
    ).deleteRulesWithComment .filter .dicerIsolationStage1 (internalComment bridge)
    ).deleteRulesWithComment .filter .dicerIsolationStage2 (isolationStage2Comment bridge)

/-- What `SetupBridge` does to the tables before it looks to the gateway, with the uplink it
found. -/
def setupIPTables (bridge subnet : String) (internal : Bool) (uplink : String) : Tables :=
  let tables := ensureDicerChains tables
  let tables := tables.ensureRule .nat .postrouting (natRule bridge subnet uplink)
  let tables := ensureForwardRules tables bridge uplink
  ensureIsolationRules tables bridge internal

def teardownIPTables (bridge : String) : Tables :=
  removeIsolationRules
    (removeForwardRules (tables.deleteRulesWithComment .nat .postrouting (natComment bridge))
    bridge) bridge

variable (listenerPort : Nat)

def inputListenerDropRule : Rule :=
  ⟨[.inInterface bridge, .protocol "tcp", .dport listenerPort], inputListenerDropComment bridge,
    .drop⟩

def inputAcceptRule (bridge gateway : String) : Rule :=
  ⟨[.inInterface bridge, .destination gateway], inputAcceptComment bridge, .accept⟩

def inputDNSRule (bridge gateway protocol : String) : Rule :=
  ⟨[.inInterface bridge, .destination gateway, .protocol protocol, .dport 53],
    inputDNSComment bridge, .accept⟩

def inputRepliesRule : Rule :=
  ⟨[.inInterface bridge, .ctstate [.established, .related]], inputRepliesComment bridge, .accept⟩

def inputInternalRule : Rule :=
  ⟨[.inInterface bridge], inputInternalComment bridge, .drop⟩

def inputDropRule (bridge gateway : String) : Rule :=
  ⟨[.destination gateway], inputDropComment bridge, .drop⟩

/-- A bridge's rules in DICER-INPUT, in order. -/
def inputRules (bridge gateway : String) (listenerPort : Nat) (internal : Bool) : List Rule :=
  (if listenerPort ≠ 0 then [inputListenerDropRule bridge listenerPort] else []) ++
      (if internal then
      [inputDNSRule bridge gateway "udp", inputDNSRule bridge gateway "tcp",
        inputRepliesRule bridge, inputInternalRule bridge]
    else [inputAcceptRule bridge gateway]) ++
    [inputDropRule bridge gateway]

def inputComments : List String :=
  [inputListenerDropComment bridge, inputDNSComment bridge, inputRepliesComment bridge,
    inputInternalComment bridge, inputAcceptComment bridge, inputDropComment bridge]

def removeInputRules (bridge : String) : Tables :=
  (inputComments bridge).foldl (fun tables comment => tables.deleteRulesWithComment .filter
    .dicerInput comment) tables

/-- A daemon without a TCP listener has no rule for it. -/
def removeListenerRule (bridge : String) (listenerPort : Nat) : Tables :=
  if listenerPort ≠ 0 then tables
  else tables.deleteRulesWithComment .filter .dicerInput (inputListenerDropComment bridge)

/-- The rule that only a network of the other kind has: one deleted and created again under the same
name, as the other kind, may still have it. -/
def staleInputRule (bridge gateway : String) (internal : Bool) : Rule :=
  if internal then inputAcceptRule bridge gateway else inputInternalRule bridge

def inputRulesInPlace (bridge gateway : String) (listenerPort : Nat) (internal : Bool) :
    Bool :=
  !tables.ruleExists .filter .dicerInput (staleInputRule bridge gateway internal) &&
    (inputRules bridge gateway listenerPort internal).all (tables.ruleExists .filter .dicerInput)

/-- Replace a bridge's input rules together, to keep their order, unless they are all there. -/
def ensureInputRules (bridge gateway : String) (listenerPort : Nat) (internal : Bool) :
    Tables :=
  let tables := removeListenerRule tables bridge listenerPort
  if inputRulesInPlace tables bridge gateway listenerPort internal then tables
  else
    (inputRules bridge gateway listenerPort internal).foldl
      (fun tables rule => tables.appendRule .filter .dicerInput rule)
      (removeInputRules tables bridge)

structure PortMapping where
  hostIP : String
  hostPort : Nat
  guestPort : Nat
  protocol : String
  deriving DecidableEq, Repr

/-- The mapping's protocol, filling in the default. -/
def PortMapping.effectiveProtocol (mapping : PortMapping) : String :=
  if mapping.protocol = "" then "tcp" else mapping.protocol

structure DNATJump where
  parent : Chain
  comment : String
  matchers : List Match

def dnatJumps : List DNATJump :=
  [⟨.prerouting, "dicer-jump-dnat-prerouting", [.dstTypeLocal]⟩,
    ⟨.output, "dicer-jump-dnat-output", [.notDestination "127.0.0.0/8", .dstTypeLocal]⟩]

def dnatJumpRule (jump : DNATJump) : Rule := ⟨jump.matchers, jump.comment, .jump .dicerDNAT⟩

def ensureDNATChain : Tables :=
  dnatJumps.foldl (fun tables jump =>
      if tables.ruleExists .nat jump.parent (dnatJumpRule jump) then tables
      else tables.insertFirst .nat jump.parent (dnatJumpRule jump)) tables

def dnatRule (instanceID ip : String) (mapping : PortMapping) : Rule :=
  ⟨[.protocol mapping.effectiveProtocol] ++
      (if mapping.hostIP = "" then [] else [.destination mapping.hostIP]) ++
      [.dport mapping.hostPort],
    portComment instanceID, .dnat ip mapping.guestPort⟩

/-- The rule that lets through only the connections the port's rewriting redirected. -/
def portForwardRule (instanceID ip bridge : String) (mapping : PortMapping) : Rule :=
  ⟨[.destination ip, .outInterface bridge, .protocol mapping.effectiveProtocol,
      .dport mapping.guestPort, .ctstate [.dnat]], portComment instanceID, .accept⟩

def unpublishPorts (instanceID : String) : Tables :=
  (tables.deleteRulesWithComment .nat .dicerDNAT (portComment instanceID)).deleteRulesWithComment
    .filter .dicerForward (portComment instanceID)

/-- Publish an instance's ports instead of those it had; `inUse` are the host ports something
listens on. -/
def publishPorts (bridge instanceID ip : String) (ports : List PortMapping)
    (inUse : PortMapping → Bool) : Tables :=
  let tables := unpublishPorts (ensureDNATChain tables) instanceID
  if ports.any inUse then tables
  else
    ports.foldl (fun tables mapping =>
        (tables.appendRule .filter .dicerForward
          (portForwardRule instanceID ip bridge mapping)).appendRule .nat .dicerDNAT
          (dnatRule instanceID ip mapping)) tables

/-! ## The operations -/

/-- The rules, and the networks that are set up, by bridge. -/
structure Host where
  tables : Tables
  networks : String → Option Network

inductive Operation
  /-- A setup that gives up before it changes rules (forwarding is off, there is no uplink) has
  none. -/
  | setupBridge (network : Network) (uplink : Option String)
  | teardownBridge (network : Network)
  | publishPorts (network : Network) (instanceID ip : String) (ports : List PortMapping)
      (inUse : PortMapping → Bool)
  | unpublishPorts (instanceID : String)

def Host.apply (host : Host) : Operation → Host
  | .setupBridge _ none => host
  | .setupBridge network (some uplink) =>
    { tables := ensureInputRules
        (setupIPTables host.tables network.bridge network.subnet network.internal uplink)
        network.bridge network.gateway listenerPort network.internal
      networks := Function.update host.networks network.bridge (some network) }
  | .teardownBridge network =>
    { tables := teardownIPTables (removeInputRules host.tables network.bridge) network.bridge
      networks := Function.update host.networks network.bridge none }
  | .publishPorts network instanceID ip ports inUse =>
    { host with tables := HostNet.publishPorts host.tables network.bridge instanceID ip ports inUse }
  | .unpublishPorts instanceID => { host with tables := HostNet.unpublishPorts host.tables instanceID }

def Host.run (operations : List Operation) (host : Host) : Host :=
  operations.foldl (Host.apply listenerPort) host

end Dicer.HostNet
