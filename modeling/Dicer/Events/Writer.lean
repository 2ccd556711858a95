import Dicer.Events.Log

namespace Dicer.Events

open Concurrency
open Program (perform)

/-!
# The writer

The writer takes the events that wait one by one, appends each to the file unless the file has it
already, and rewrites the file with the events kept when a write to it failed, when it has grown,
and when events were dropped. It does so once more at the end if the file lacks any.

The loop is gone through as often as it is said to; a writer that would go through it once more
waits for ever, so every finite run is one for a writer patient enough.
-/

section

variable (config : Config)

/-- The one writer of a log starts. -/
def startWriter : Op Unit :=
  perform fun thread world =>
    match world.writer with
    | none => [((), { world with writer := some thread })]
    | some _ => []

/-- The next event that waits, or nothing once the log is closed and none is left. -/
def takePending : Op (Option Pending) :=
  perform fun _ world =>
    match world.writes with
    | pending :: rest => [(some pending, { world with writes := rest, hand := some pending })]
    | [] => if world.closed then [(none, world)] else []

/-- Append an event to the file, unless it was compacted with it or is not open.  If that fails the
file is discarded, with what was written of the line. -/
def writePending (pending : Pending) : Op Unit :=
  perform fun _ world =>
    let done := { world with hand := none, handled := pending.number }
    let whole := world.file ++ [some pending.event]
    if world.compactedThrough < pending.number ∧ world.isOpen then
      [((), { done with file := whole, written := world.written + 1 }),
        ((), { done with isOpen := false }),
        ((), { done with file := world.file ++ [none], isOpen := false }),
        ((), { done with file := whole, isOpen := false })]
    else [((), done)]

/-- Whether no event waits. -/
def noneWaits : Op Bool :=
  perform fun _ world => [(world.writes.isEmpty, world)]

/-- Whether an event was dropped since the one the file was last compacted with. -/
def droppedSince : Op Bool :=
  perform fun _ world => [(decide (world.compactedThrough < world.droppedThrough), world)]

def fileIsOpen : Op Bool :=
  perform fun _ world => [(world.isOpen, world)]

/-- Whether the file has grown a quarter past its limit. -/
def hasGrown : Op Bool :=
  perform fun _ world => [(decide (config.maxCount + config.maxCount / 4 < world.written), world)]

def keptEvents : Op (List Event × Nat) :=
  perform fun _ world => [((world.events, world.recorded), world)]

/-- Replace the file whole. -/
def replaceFile (events : List Event) (last : Nat) : Call Unit :=
  perform fun _ world =>
    [(.ok (), { world with file := events.map some, compactedThrough := last }),
      (.error (.host "write events"), world)]

/-- Open the file for appending. -/
def openFile (count : Nat) : Call Unit :=
  perform fun _ world =>
    [(.ok (), { world with isOpen := true, written := count }),
      (.error (.host "open events"), { world with isOpen := false })]

/-- Rewrite the file with the events kept, and reopen it. -/
def compact : Call Unit := do
  let (events, last) ← keptEvents
  replaceFile events last
  openFile events.length

def retryTime : Op Nat :=
  perform fun _ world => [(world.retryAt, world)]

def putOff (until_ : Nat) : Op Unit :=
  perform fun _ world => [((), { world with retryAt := until_ })]

/-- Compact the file, unless that failed too recently. -/
def tryCompact : Op Unit := do
  let at_ ← now
  let retryAt ← retryTime
  if at_ < retryAt then return ()
  else do
    match ← compact.run with
    | .ok _ => return ()
    | .error _ => putOff (at_ + compactionRetryDelay)

/-- Whether no event waits though some were dropped. -/
def hasCaughtUp : Op Bool := do
  if ← noneWaits then droppedSince else return false

/-- Whether the file is to be compacted after an event. -/
def needsCompacting : Op Bool := do
  let caughtUp ← hasCaughtUp
  if ← fileIsOpen then
    if ← hasGrown config then return true else return caughtUp
  else return true

/-- Close the file, and tell how all this went. -/
def stop (errors : List Err) : Op Unit :=
  perform fun _ world =>
    let stopped := { world with isOpen := false, stopped := some errors }
    if world.isOpen then
      [((), stopped), ((), { stopped with stopped := some (errors ++ [.host "close events"]) })]
    else [((), stopped)]

/-- Whether the file lacks an event at the end. -/
def lacksEvents : Op Bool := do
  if ← fileIsOpen then droppedSince else return true

def finish : Op Unit := do
  if ← lacksEvents then
    match ← compact.run with
    | .ok _ => stop []
    | .error error => stop [error]
  else stop []

def writeLoop : Nat → Op Unit
  | 0 => never
  | rounds + 1 => do
    match ← takePending with
    | none => finish
    | some pending => do
      writePending pending
      if ← needsCompacting config then do
        tryCompact
        writeLoop rounds
      else writeLoop rounds

def write (rounds : Nat) : Op Unit := do
  startWriter
  writeLoop config rounds

inductive Request
  | record (event : Event)
  | subscribe (filter : Filter)
  | closeSubscription (id : Nat)
  | receive (id : Nat)
  | close
  | write (rounds : Nat)

def system : System Nat World Request Nat where
  program := fun
    | .record event => record config event
    | .subscribe filter => follow filter
    | .closeSubscription id => closeSubscription id
    | .receive id => hearNext id
    | .close => close
    | .write rounds => write config rounds
  admits := fun _ _ => true
  event := fun time world => some { world with clock := world.clock + time }
  crash := fun _ => none

end

end Dicer.Events
