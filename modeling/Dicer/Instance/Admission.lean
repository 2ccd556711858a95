import Dicer.Instance.Actions

namespace Dicer.Instance

open Concurrency

/-!
# Status and admission

An instance's state is what its status file says, except that one that is stopped or has failed is
on standby if a frozen guest is in its directory.  These are two reads, between which either may
change.

Admission lets one instance at a time become Starting, after adding up what the others hold and
comparing its ports and volumes with theirs.  It holds the admission lock throughout, but each
status it reads is the other instance's own, which that instance's operations go on changing under
their own lock.
-/

/-- The status a read of the file and a look for a frozen guest give between them. -/
def reported (read : Op Status) (look : Op Bool) : Op Status := do
  let status ← read
  if status.state.isDown then
    if ← look then return { status with state := .standby } else return status
  else return status

def statusOf (spec : Spec) : Op Status :=
  reported (readStatus spec.id) (onStandby spec)

def transitionWith (spec : Spec) (target : State) (update : Status → Status) : Call Unit := do
  let status ← always (statusOf spec)
  if status.state ≠ target ∧ !status.state.canTransitionTo target then
    throw (.invalidState ("instance " ++ quoted spec.name ++ " is " ++ status.state.lowercase ++
      ", and cannot become " ++ target.lowercase))
  else writeStatus spec.id (update { status with state := target, stateError := "" })

def transition (spec : Spec) (target : State) : Call Unit :=
  transitionWith spec target id

def holding (need : Resources) (status : Status) : Status :=
  { status with vcpus := need.vcpus, memoryBytes := need.memoryBytes }

/-- Record that the instance failed; a failure to record it is only logged.  One with a frozen guest
is on standby, and has not stopped. -/
def fail (id : String) (cause : Err) : Op Unit := do
  let status ← readStatus id
  bestEffort (writeStatus id
    { status.forgetProcess with state := .failed, stateError := cause.message })
  match ← (storeInstance id).run with
  | .error _ => notifyWaiters id
  | .ok spec => if ← onStandby spec then return () else notifyWaiters id

/-! ## Admission -/

/-- Whether an instance may share its volumes with another: only those both mount read-only. -/
def sharesVolumes (spec other : Spec) : Bool :=
  spec.mounts.all fun mine =>
    !mine.isVolume || match other.volumeMount mine.source with
      | some theirs => mine.readOnly && theirs.readOnly
      | none => true

/-- The first port of an instance that another publishes. -/
def clashingPort (spec other : Spec) : Option PortMapping :=
  spec.ports.find? fun port => other.ports.any port.overlaps

namespace Exclusive

/-- The instance has some of this. -/
def uses : Exclusive → Spec → Bool
  | ports, spec => spec.ports ≠ []
  | volumes, spec => spec.mounts.any Mount.isVolume

/-- Two instances may have theirs at the same time. -/
def compatible : Exclusive → Spec → Spec → Bool
  | ports, spec, other => (clashingPort spec other).isNone
  | volumes, spec, other => sharesVolumes spec other

end Exclusive

namespace Admission

def counted (id : String) (held : Resources) (admission : Admission) : Admission :=
  { admission with
    counting := admission.counting.map (·.erase id)
    total := admission.total.add held }

variable (kind : Exclusive)

/-- The instances to compare with are listed. -/
def listed (others : List Spec) (admission : Admission) : Admission :=
  admission.compare kind { admission.comparison kind with comparing := some others }

/-- Another instance need not be compared with any more. -/
def compared (other : Spec) (admission : Admission) : Admission :=
  admission.compare kind ⟨(admission.comparison kind).comparing.map (·.erase other), none⟩

/-- Another instance is down, and may be on standby. -/
def foundDown (other : Spec) (admission : Admission) : Admission :=
  admission.compare kind { admission.comparison kind with looking := some other }

/-- The two cannot both have theirs. -/
def clashed (admission : Admission) : Admission :=
  admission.compare kind { admission.comparison kind with looking := none }

end Admission

def enterAdmission (spec : Spec) : Op Unit :=
  Program.perform fun thread world =>
    match world.admission with
    | some _ => []
    | none => [((), { world with admission := some (.entering thread spec) })]

/-- A refusal that leaves a Restarting instance without its restart is counted. -/
def leaveAdmission (spec : Spec) (result : Except Err Unit) : Op Unit :=
  change fun _ world => { world with
    admission := none
    refusals := world.refusals + if !result.toBool && world.isReplaced spec.id then 1 else 0 }

/-- Hold the admission lock during a call. -/
def admitting (spec : Spec) (call : Call Unit) : Call Unit := do
  always (enterAdmission spec)
  let result ← attempt call
  always (leaveAdmission spec result)
  match result with
  | .ok _ => return ()
  | .error error => throw error

/-- The instances other than this one, to add up what they hold. -/
def instancesToCount (spec : Spec) : Op (List Spec) :=
  Program.perform fun _ world =>
    let others := world.sorted.filter fun other => other.id ≠ spec.id
    [(others, world.noteAdmission fun admission =>
      { admission with counting := some (others.map Spec.id), total := .zero })]

def countStatus (other : Spec) : Op Status :=
  Program.perform fun _ world =>
    let status := (world.status other.id).getD .stopped
    [(status, world.noteAdmission (.counted other.id status.heldResources))]

/-- What instances hold between them. -/
def allocated : List Spec → Resources → Op Resources
  | [], total => return total
  | other :: rest, total => do
    let status ← reported (countStatus other) (onStandby other)
    allocated rest (total.add status.heldResources)

def checkRoom (capacity : Capacity) (spec : Spec) (need : Resources) : Call Unit :=
  whenever capacity.limited do
    let others ← always (instancesToCount spec)
    let total ← always (allocated others .zero)
    if (total.add need).fits capacity.allocatable then return ()
    else
      throw (.resourceExhausted ("instance " ++ quoted spec.name ++ " needs " ++ need.text ++
        ", but " ++ total.text ++ " of the " ++ capacity.allocatable.text ++
        " this host allows is committed"))

variable (kind : Exclusive)

/-- The other instances with ports or with volumes, to compare them. -/
def instancesToCompare (spec : Spec) : Op (List Spec) :=
  Program.perform fun _ world =>
    let others := world.sorted.filter fun other => other.id ≠ spec.id ∧ kind.uses other
    [(others, world.noteAdmission (.listed kind others))]

variable (spec other : Spec)

/-- Read the status of an instance to compare with.  One that is down may still be on standby. -/
def compareStatus : Op Status :=
  Program.perform fun _ world =>
    let status := (world.status other.id).getD .stopped
    [(status, world.noteAdmission fun admission =>
      if status.state.isDown then admission.foundDown kind other
      else if !status.state.holdsPortsAndVolumes || kind.compatible spec other
        then admission.compared kind other
      else admission)]

def compareStandby : Op Bool :=
  Program.perform fun _ world =>
    let frozen := (world.dirs other.name).standby.isSome
    [(frozen, world.noteAdmission fun admission =>
      if !frozen || kind.compatible spec other then admission.compared kind other
      else admission.clashed kind)]

/-- The status of an instance to compare with. -/
def comparedStatus : Op Status :=
  reported (compareStatus kind spec other) (compareStandby kind spec other)

def portTaken (other : Spec) (status : Status) (port : PortMapping) : Err :=
  .invalidState ("port " ++ port.text ++ " is already published by instance " ++
    quoted other.name ++ ", which is " ++ status.state.lowercase)

def checkPortsAgainst (spec : Spec) : List Spec → Call Unit
  | [] => return ()
  | other :: rest => do
    let status ← always (comparedStatus .ports spec other)
    if status.state.holdsPortsAndVolumes then
      match clashingPort spec other with
      | some port => throw (portTaken other status port)
      | none => checkPortsAgainst spec rest
    else checkPortsAgainst spec rest

def checkPorts (spec : Spec) : Call Unit :=
  whenever (spec.ports ≠ []) do
    let others ← always (instancesToCompare .ports spec)
    checkPortsAgainst spec others

/-- The volume of an instance that another holds and the two cannot share. -/
def clashingVolume : Option Mount :=
  spec.mounts.find? fun mine =>
    mine.isVolume && match other.volumeMount mine.source with
      | some theirs => !mine.readOnly || !theirs.readOnly
      | none => false

def volumeTaken (other : Spec) (status : Status) (mine : Mount) : Err :=
  .invalidState ("volume " ++ quoted mine.source ++ " is attached to instance " ++
    quoted other.name ++ ", which is " ++ status.state.lowercase ++
    ", and a volume can be shared only while every instance mounts it read-only")

def checkVolumesAgainst (spec : Spec) : List Spec → Call Unit
  | [] => return ()
  | other :: rest => do
    let status ← always (comparedStatus .volumes spec other)
    if status.state.holdsPortsAndVolumes then
      match clashingVolume spec other with
      | some mine => throw (volumeTaken other status mine)
      | none => checkVolumesAgainst spec rest
    else checkVolumesAgainst spec rest

def checkVolumes (spec : Spec) : Call Unit :=
  whenever (spec.mounts.any Mount.isVolume) do
    let others ← always (instancesToCompare .volumes spec)
    checkVolumesAgainst spec others

section

variable (capacity : Capacity)

/-- Record the instance as Starting, holding `need`. -/
def admitInstance (spec : Spec) (need : Resources) : Call Unit :=
  admitting spec do
    let _ ← storeInstance spec.id
    checkRoom capacity spec need
    checkPorts spec
    checkVolumes spec
    transitionWith spec .starting (holding need)

/-- Make a running instance hold `need` in place of what it holds. -/
def reserve (spec : Spec) (need : Resources) : Call Unit :=
  admitting spec do
    checkRoom capacity spec need
    transitionWith spec .running (holding need)

/-- Whether an instance that asks for this much could ever start on the host. -/
def checkResources (asked : Resources) : Except Err Unit :=
  if !capacity.limited then pure ()
  else if capacity.hostVCPUs < asked.vcpus then
    throw (.invalidArgument (toString asked.vcpus ++ " vCPUs is more than the host's " ++
      toString capacity.hostVCPUs ++ " CPUs"))
  else if !asked.fits capacity.allocatable then
    throw (.invalidArgument (asked.text ++
      " is more than this host can give instances in total (" ++ capacity.allocatable.text ++ ")"))
  else pure ()

end

end Dicer.Instance
