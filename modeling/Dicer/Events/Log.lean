import Dicer.Concurrency.Safety
import Dicer.Errors

namespace Dicer.Events

open Concurrency

open Function (update)

/-!
# The event log

A log keeps the most recent events in memory, appends each to a file by a goroutine of its own, and
passes it on to its subscribers.  Recording an event, subscribing, ending a subscription and closing
the log each hold the log's lock throughout and are one atomic action.  The writer holds it only to
look at what was dropped and to copy the events kept, and has the file to itself.

The file is a list of lines, each an event or something that cannot be read.  A write that fails may
leave nothing, part of a line or the whole of it; replacing the file leaves it whole, the old or the
new one.

What the source only logs is left out: how many events were dropped, and whether that was warned of.
-/

inductive Kind
  | kindInstance
  | kindSnapshot
  | kindImage
  | kindNetwork
  | kindVolume
  | kindKernel
  deriving DecidableEq, Repr

structure Event where
  time : Nat
  kind : Kind
  id : String
  name : String
  action : String
  message : String
  attributes : List (String × String)
  deriving DecidableEq, Repr

structure Filter where
  kind : Option Kind
  id : String
  names : List String
  since : Nat
  deriving DecidableEq, Repr

/-- Whether the filter picks an event. -/
def Filter.matches (filter : Filter) (event : Event) : Bool :=
  (filter.kind.isNone || filter.kind == some event.kind) &&
    (filter.id == "" || event.id == filter.id) &&
    (filter.names.isEmpty || filter.names.contains event.name) &&
    !decide (event.time < filter.since)

/-- How many events are kept, for how long (zero is no limit), and how many may wait to be
written. -/
structure Config where
  maxCount : Nat
  maxAge : Nat
  buffer : Nat
  deriving DecidableEq, Repr

def subscriptionBuffer : Nat := 256

/-- Thirty seconds. -/
def compactionRetryDelay : Nat := 30

/-- Why a subscription ended. -/
inductive Ending
  | closed
  | fellBehind
  deriving DecidableEq, Repr

/-- A subscription: the events waiting for its reader and why it ended.  How many events were no
longer kept when it was made, how many there had been when it ended, and the event there was no room
for are kept for stating what holds of it. -/
structure Subscription where
  filter : Filter
  events : List Event
  ended : Option Ending
  first : Nat
  last : Option Nat
  refused : Option Event
  deriving DecidableEq, Repr

/-- An event waiting to be written, with its number. -/
structure Pending where
  number : Nat
  event : Event
  deriving DecidableEq, Repr

/-- The log, the file as the writer sees it, and then history: the events no longer kept, how many
were there when the log was opened, how many were recorded while it was not closed, which event the
writer has at hand and which it has done with, what was kept when the log was closed, what its
closing returned, and what was returned to the owner of each subscription. -/
structure World where
  clock : Nat
  events : List Event
  recorded : Nat
  droppedThrough : Nat
  closed : Bool
  writes : List Pending
  subscriptions : List Subscription
  stopped : Option (List Err)
  file : List (Option Event)
  isOpen : Bool
  written : Nat
  compactedThrough : Nat
  retryAt : Nat
  writer : Option Nat
  past : List Event
  loaded : Nat
  offered : Nat
  hand : Option Pending
  handled : Nat
  keptAtClose : Option (List Event)
  closes : List (List Err)
  heard : Nat → List Event

/-- Every event there has been since the log was opened, in order. -/
def World.all (world : World) : List Event := world.past ++ world.events

/-- The events of a file that can be read. -/
def readable (lines : List (Option Event)) : List Event := lines.filterMap id

namespace Config

variable (config : Config)

/-- How many events are past the log's limits, oldest first. -/
def excess (clock : Nat) (events : List Event) : Nat :=
  let drop := events.length - config.maxCount
  if config.maxAge = 0 then drop
  else drop + ((events.drop drop).takeWhile fun event => event.time + config.maxAge < clock).length

/-- Drop the events past the log's limits. -/
def trim (world : World) : World :=
  let drop := config.excess world.clock world.events
  { world with events := world.events.drop drop, past := world.past ++ world.events.take drop }

/-- A log opened on a file: it keeps what the file has within its limits, and has rewritten the file
with it. -/
def opened (clock : Nat) (file : List (Option Event)) : World :=
  let events := (readable file).drop (config.excess clock (readable file))
  { clock := clock, events := events, recorded := 0, droppedThrough := 0, closed := false, writes := []
    subscriptions := [], stopped := none, file := events.map some, isOpen := true, written :=
    events.length
    compactedThrough := 0, retryAt := 0, writer := none, past := [], loaded :=
      events.length, offered := 0
    hand := none, handled := 0, keptAtClose := none, closes := [], heard := fun _ => [] }

end Config

/-! ## Subscriptions -/

/-- End a subscription, once, after so many events. -/
def Subscription.end_ (sub : Subscription) (ending : Ending) (count : Nat) : Subscription :=
  match sub.ended with
  | some _ => sub
  | none => { sub with ended := some ending, last := some count }

/-- Pass an event on, or end the subscription if its reader has fallen too far behind. -/
def Subscription.send (sub : Subscription) (event : Event) (count : Nat) : Subscription :=
  match sub.ended with
  | some _ => sub
  | none =>
    if sub.events.length < subscriptionBuffer then { sub with events := sub.events ++ [event] }
    else { sub.end_ .fellBehind count with refused := some event }

/-- What a subscription gets of a new event, the one after so many. -/
def Subscription.notify (event : Event) (count : Nat) (sub : Subscription) : Subscription :=
  if sub.filter.matches event then sub.send event count else sub

/-- A new event is kept, numbered and passed on. -/
def Config.keep (config : Config) (event : Event) (world : World) : World :=
  { config.trim { world with events := world.events ++ [event] } with
    recorded := world.recorded + 1
    subscriptions := world.subscriptions.map (Subscription.notify event world.all.length) }

abbrev Op := Program Nat World

abbrev Call := ExceptT Err Op

/-- Wait for ever. -/
def never {Value : Type} : Op Value :=
  Program.atomic (fun _ _ => ([] : List (Empty × World))) fun answer => nomatch answer

def now : Op Nat :=
  Program.perform fun _ world => [(world.clock, world)]

/-- The ways of queueing an event: it is passed to the writer, or dropped because too many wait.
Without room for any, it is passed on only to a writer that waits for one. -/
def queued (config : Config) (pending : Pending) (world : World) : List World :=
  if world.closed then [world]
  else
    let offered := { world with offered := pending.number }
    (if world.writes.length < config.buffer ∨ config.buffer = 0 ∧ world.writes = [] then
      [{ offered with writes := world.writes ++ [pending] }] else []) ++
    if config.buffer ≤ world.writes.length then [{ offered with droppedThrough := pending.number }]
      else []

/-- An event is kept, passed on and queued to be written, under the lock throughout. -/
def recordEvent (config : Config) (event : Event) : Op Unit :=
  Program.perform fun _ world =>
    (queued config ⟨world.recorded + 1, event⟩ (config.keep event world)).map fun after =>
      ((), after)

/-- Record an event, at this time if it has none. -/
def record (config : Config) (event : Event) : Op Unit := do
  if event.time = 0 then do
    let at_ ← now
    recordEvent config { event with time := at_ }
  else recordEvent config event

variable (filter : Filter)

/-- The events a filter picks of those kept, all of them. -/
def list (world : World) : List Event :=
  world.events.filter filter.matches

/-- A new subscription, which has ended already if the log is closed. -/
def subscribed (world : World) : Subscription :=
  let sub : Subscription := ⟨filter, [], none, world.past.length, none, none⟩
  if world.closed then sub.end_ .closed world.all.length else sub

/-- The events kept that the filter picks, and a new subscription. -/
def subscribe (world : World) : List ((List Event × Nat) × World) :=
  [((list filter world, world.subscriptions.length), { world with
    subscriptions := world.subscriptions ++ [subscribed filter world] })]

/-- The owner of a subscription ends it. -/
def closeSubscription (id : Nat) : Op Unit :=
  Program.perform fun _ world =>
    [((), { world with
      subscriptions := world.subscriptions.modify id fun sub =>
        sub.end_ .closed world.all.length })]

/-- Receive an event, or find the subscription ended. -/
def receive (id : Nat) (world : World) : List (Option Event × World) :=
  match world.subscriptions[id]? with
  | none => []
  | some sub =>
    match sub.events with
    | event :: rest =>
      [(some event, { world with
        subscriptions := world.subscriptions.set id { sub with events := rest } })]
    | [] => if sub.ended.isSome then [(none, world)] else []

def closeLog : Op Unit :=
  Program.perform fun _ world =>
    if world.closed then [((), world)]
    else
      [((), { world with
        closed := true
        keptAtClose := some world.events
        subscriptions := world.subscriptions.map fun sub => sub.end_ .closed world.all.length })]

/-- Wait for the writer, and return why it failed. -/
def awaitStopped (world : World) : List (List Err × World) :=
  match world.stopped with
  | some errors => [(errors, world)]
  | none => []

/-! ## What callers are returned -/

/-- A call under the lock, and what its caller makes of the answer. -/
def noting {Value : Type} (call : World → List (Value × World)) (note : Value → World → World) :
    Op Unit :=
  Program.perform fun _ world => (call world).map fun answer => ((), note answer.1 answer.2)

def follow : Op Unit :=
  noting (subscribe filter) fun answer world =>
    { world with heard := update world.heard answer.2 answer.1 }

def hearNext (id : Nat) : Op Unit :=
  noting (receive id) fun answer world =>
    { world with heard := update world.heard id (world.heard id ++ answer.toList) }

def close : Op Unit := do
  closeLog
  noting awaitStopped fun errors world => { world with closes := errors :: world.closes }

end Dicer.Events
