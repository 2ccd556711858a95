import Dicer.Concurrency.Calls
import Dicer.Errors
import Dicer.HostNet.Rules

namespace Dicer.HostNet

open Concurrency Function Concurrency.Calls

/-!
# Watching firewalld

A firewalld that reloads flushes Dicer's rules.  The host network remembers which networks are set
up, and when it hears of a reload it copies them and sets each up again.  It does so without the
lock under which a network is set up for an instance and torn down after the last.

Any number of setups and teardowns of any networks are under way at once, with a network's own one
at a time under its lock, and one handler at a time, since reloads are handled one after the other.
The source's locks go by a network's name; by its bridge, as here, they exclude no more.
A step of a setup may fail and then has no effect; those of a teardown succeed.  The rules are
changed step by step, whether or not another change of rules would have to wait.  A bridge's place
in firewalld's zones is left out.

What is kept of history is which copied networks the handler has not finished with, and which
networks are down: torn down, with no setup called for an instance or by recovery since.
-/

/-- Dicer's chains, which a flush empties. -/
def dicerChains : List Chain :=
  [.dicerUser, .dicerIsolationStage1, .dicerIsolationStage2, .dicerForward, .dicerInput, .dicerDNAT]

/-- Dicer's rules are told by their comments. -/
def Rule.isDicers (rule : Rule) : Bool := "dicer-".toList.isPrefixOf rule.comment.toList

/-- What a reload of firewalld leaves of the rules. -/
def Tables.flush (tables : Tables) : Tables := fun table chain =>
  if chain ∈ dicerChains then [] else (tables table chain).filter fun rule => !rule.isDicers

namespace Watching

/-- The rules, the bridges there are, the host's uplink, the networks that are remembered, the
holders of the networks' locks, and the handler at work. -/
structure World where
  tables : Tables
  links : String → Bool
  uplink : Option String
  networks : List Network
  holder : String → Option Nat
  handler : Option Nat
  copied : List Network
  down : String → Bool

/-- A host on which nothing is under way. -/
def World.resting (tables : Tables) (links : String → Bool) (uplink : Option String)
    (networks : List Network) : World where
  tables := tables
  links := links
  uplink := uplink
  networks := networks
  holder := fun _ => none
  handler := none
  copied := []
  down := fun _ => false

abbrev Op := Program Nat World

abbrev Call := Calls.Call Nat World Err

def lock (bridge : String) : Op Unit :=
  Program.perform fun thread world =>
    match world.holder bridge with
    | none => [((), { world with holder := update world.holder bridge (some thread) })]
    | some _ => []

def unlock (bridge : String) : Op Unit :=
  change fun world => { world with holder := update world.holder bridge none }

def rules (failure : Err) (effect : Tables → Tables) : Call Unit :=
  mayChange failure fun world => { world with tables := effect world.tables }

variable (network : Network)

/-- A bridge that is there stays, and is brought up with the gateway's address all the same. -/
def ensureBridge : Call Unit := do
  mayFail (.host ("look up bridge " ++ network.bridge))
  mayChange (.host ("create bridge " ++ network.bridge)) fun world => { world with
    links := update world.links network.bridge true }
  mayFail (.host ("set bridge " ++ network.bridge ++ " up"))
  mayFail (.host ("add gateway to bridge " ++ network.bridge))

/-- The networks remembered, by their bridges. -/
def remembered (networks : List Network) (network : Network) : List Network :=
  network :: networks.filter fun other => other.bridge ≠ network.bridge

def forgotten (networks : List Network) (bridge : String) : List Network :=
  networks.filter fun other => other.bridge ≠ bridge

def setupIPTables (bridge subnet : String) (internal : Bool) : Call Unit := do
  mayFail (.host "IP forwarding is disabled")
  match ← always (observe World.uplink) with
  | none => throw (.host "the host has no default route")
  | some uplink =>
    rules (.host "set up Dicer's chains") ensureDicerChains
    rules (.host "set up NAT") fun tables => tables.ensureRule .nat .postrouting
      (natRule bridge subnet uplink)
    rules (.host "set up forward rules") fun tables => ensureForwardRules tables bridge uplink
    rules (.host "set up isolation rules") fun tables => ensureIsolationRules tables bridge internal

variable (listenerPort : Nat)

def ensureGatewayAccess (network : Network) : Call Unit := do
  rules (.host "set up input rules") fun tables =>
    ensureInputRules tables network.bridge network.gateway listenerPort network.internal
  mayFail (.host ("bind " ++ network.bridge ++ " to firewalld zone \"dicer\""))

def setupBridge (network : Network) : Call Unit := do
  mayFail (.invalidArgument "invalid subnet")
  ensureBridge network
  always (change fun world => { world with networks := remembered world.networks network })
  setupIPTables network.bridge network.subnet network.internal
  ensureGatewayAccess listenerPort network

def teardownBridge : Op Unit := do
  change fun world => { world with networks := forgotten world.networks network.bridge }
  change fun world => { world with tables := removeInputRules world.tables network.bridge }
  change fun world => { world with links := update world.links network.bridge false }
  change fun world => { world with tables := teardownIPTables world.tables network.bridge }

/-- For an instance that is attached, or by recovery. -/
def setUp (network : Network) : Call Unit := do
  always (lock network.bridge)
  always (change fun world => { world with down := update world.down network.bridge false })
  finally_ (unlock network.bridge) (setupBridge listenerPort network)

/-- After the last instance on the network. -/
def tearDown : Op Unit := do
  lock network.bridge
  teardownBridge network
  change fun world => { world with down := update world.down network.bridge true }
  unlock network.bridge

/-- The networks are copied, in whatever order. -/
def copyNetworks : Op (List Network) :=
  Program.perform fun thread world =>
    match world.handler with
    | none => world.networks.permutations.map fun networks =>
      (networks, { world with handler := some thread, copied := networks })
    | some _ => []

def setUpAgain (listenerPort : Nat) : List Network → Op Unit
  | [] => change fun world => { world with handler := none }
  | network :: rest => do
    bestEffort (setupBridge listenerPort network)
    change fun world => { world with copied := rest }
    setUpAgain listenerPort rest

def reloaded : Op Unit := do
  let networks ← copyNetworks
  setUpAgain listenerPort networks

inductive Request
  | setUp (network : Network)
  | tearDown (network : Network)
  | reloaded
  deriving DecidableEq, Repr

/-- firewalld flushes the rules, and the host's default route changes. -/
inductive Event
  | flushed
  | rerouted (uplink : Option String)
  deriving DecidableEq, Repr

def system : System Nat World Request Event where
  program := fun
    | .setUp network => do
      let _ ← (setUp listenerPort network).run
      return ()
    | .tearDown network => tearDown network
    | .reloaded => reloaded listenerPort
  admits := fun _ _ => true
  event := fun
    | .flushed, world => some { world with tables := world.tables.flush }
    | .rerouted uplink, world => some { world with uplink := uplink }
  crash := fun _ => none

end Watching
end Dicer.HostNet
