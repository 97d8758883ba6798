import FirmwareAgent.Fleet
import FirmwareAgent.Progress

/-!
# The coordinator

A coordinator updates every device that shares one package. It has at most one session per
endpoint, routes the requests of the targets to them, and keeps count of the progress.

An endpoint is busy from the start of its update until a wait has collected the report. A wait takes
the session's end for itself: while it lasts, and when it is abandoned, no other wait can have it.
-/

namespace FirmwareAgent

/-- An update whose report has not been collected. -/
structure ActiveUpdate where
  /-- The place of the run. -/
  run : Nat
  /-- Whether a wait has taken the run's end. -/
  isTaken : Bool := false
  startedAt : Instant
  deriving DecidableEq, Repr

/-- A call that waits for an update to end. -/
structure Wait where
  ticket : Nat
  endpoint : EndpointId
  /-- The place of the run. -/
  run : Nat
  startedAt : Instant
  deriving DecidableEq, Repr

/-- The updates of all devices that share one package. -/
structure Coordinator where
  fleet : Fleet
  /-- The updates that have not been collected, by endpoint. -/
  active : List (EndpointId × ActiveUpdate) := []
  tracker : ProgressTracker := {}
  /-- The calls that wait for an update to end. -/
  waits : List Wait := []

/-- What others see of a coordinator. -/
inductive CoordinatorEvent
  /-- The run at a place sent a request. -/
  | sent (place : Nat) (exchange : Exchange)
  /-- The subscribers were told of the progress. -/
  | published (progress : UpdateProgress)
  /-- A target's request was answered. -/
  | answered (caller : Caller) (response : Response)
  /-- A target's request, put to the session itself, will get no answer. -/
  | unanswered (caller : Caller)
  deriving DecidableEq, Repr

namespace Coordinator

/-- A coordinator over a given pool. Its configuration has to be in range. -/
def withPool (clockEnd : Instant) (config : UpdateConfig) (pool : InstanceIdPool)
    (package : PackageSource) (components : ComponentTable) : Except UpdateError Coordinator := do
  config.validate
  return { fleet := { context := ⟨config, components, package, clockEnd⟩, pool := pool } }

/-- A coordinator with a pool of its own. -/
def new (clockEnd : Instant) (config : UpdateConfig) (package : PackageSource)
    (components : ComponentTable) : Except UpdateError Coordinator :=
  withPool clockEnd config { expiry := config.instanceIdExpiry } package components

def active? (coordinator : Coordinator) (endpoint : EndpointId) : Option ActiveUpdate :=
  coordinator.active.lookup endpoint

/-- The answer to a request that was put to the coordinator and finds no session. -/
def absence (ticket : Nat) (request : Request) : CoordinatorEvent :=
  .answered (.coordinator ticket) (request.refuse CompletionCode.notInUpdateMode)

/-- Passes on what others see of the run at a place. Notifications become progress events. A request
that was put to the coordinator and finds its session gone is answered all the same. -/
def observe (place : Nat) (coordinator : Coordinator) :
    Occurrence → Coordinator × CoordinatorEvent
  | .sent exchange => (coordinator, .sent place exchange)
  | .notified notification =>
    let (tracker, progress) := coordinator.tracker.record notification
    ({ coordinator with tracker := tracker }, .published progress)
  | .answered caller response => (coordinator, .answered caller response)
  | .unanswered (.handle ticket) _ => (coordinator, .unanswered (.handle ticket))
  | .unanswered (.coordinator ticket) request => (coordinator, absence ticket request)

/-- Passes on, one after another, what others see of the run at a place. -/
def observeAll (place : Nat) :
    Coordinator → List Occurrence → Coordinator × List CoordinatorEvent
  | coordinator, [] => (coordinator, [])
  | coordinator, occurrence :: occurrences =>
    let (coordinator, event) := coordinator.observe place occurrence
    let (coordinator, events) := coordinator.observeAll place occurrences
    (coordinator, event :: events)

def act (coordinator : Coordinator) (place : Nat) (action : RunAction) :
    Coordinator × List CoordinatorEvent :=
  let (fleet, occurrences) := coordinator.fleet.act place action
  { coordinator with fleet := fleet }.observeAll place occurrences

/-- Starts the update of a device, unless the endpoint is busy. -/
def start (coordinator : Coordinator) (record : DeviceRecord) :
    Except UpdateError (Coordinator × UpdateProgress) :=
  if (coordinator.active? record.endpoint).isSome then
    .error (.updateInProgress record.endpoint)
  else
    let (tracker, progress) :=
      coordinator.tracker.register record.endpoint record.componentCount
    let update : ActiveUpdate :=
      { run := coordinator.fleet.runs.length, startedAt := coordinator.fleet.now }
    .ok ({ coordinator with
      fleet := coordinator.fleet.add record
      active := (record.endpoint, update) :: coordinator.active
      tracker := tracker }, progress)

/-- Gives an endpoint's update up. There must be one whose session is still there. -/
def cancel (coordinator : Coordinator) (endpoint : EndpointId) :
    Except UpdateError (Coordinator × List CoordinatorEvent) :=
  match coordinator.active? endpoint with
  | none => .error .sessionClosed
  | some update =>
    if coordinator.fleet.runs[update.run]?.any (·.isOpen) then
      .ok (coordinator.act update.run .cancel)
    else .error .sessionClosed

/-- Routes a target's request to the session of its endpoint. -/
def inbound (coordinator : Coordinator) (endpoint : EndpointId) (ticket : Nat)
    (request : Request) : Coordinator × List CoordinatorEvent :=
  match coordinator.active? endpoint with
  | some update => coordinator.act update.run (.inbound (.coordinator ticket) request)
  | none => (coordinator, [absence ticket request])

/-- Reads the bytes of a target's request. -/
def readInbound (bytes : Bytes) : Except UpdateError Request :=
  (Request.ofBytes bytes).mapError fun error =>
    .decode "inbound request" (.malformed error)

/-- Routes the bytes of a target's request. Bytes that are no request are refused, and no session
hears of them. -/
def inboundBytes (coordinator : Coordinator) (endpoint : EndpointId) (ticket : Nat)
    (bytes : Bytes) : Except UpdateError (Coordinator × List CoordinatorEvent) :=
  (readInbound bytes).map (coordinator.inbound endpoint ticket)

/-- Begins to wait for the end of an endpoint's update. There must be one that no wait has taken. -/
def wait (coordinator : Coordinator) (endpoint : EndpointId) (ticket : Nat) :
    Except UpdateError Coordinator :=
  match coordinator.active? endpoint with
  | none => .error .sessionClosed
  | some update =>
    if update.isTaken then .error .sessionClosed
    else
      .ok { coordinator with
        active := coordinator.active.map fun (key, other) =>
          (key, if key = endpoint then { other with isTaken := true } else other)
        waits := coordinator.waits ++ [⟨ticket, endpoint, update.run, update.startedAt⟩] }

/-- The report of an ended run. -/
def report (coordinator : Coordinator) (wait : Wait) (state : SessionState)
    (components : List ComponentOutcome) : DeviceUpdateReport :=
  let (success, error) :=
    match state with
    | .completed => (true, none)
    | .failed reason => (false, some reason.message)
    | other => (false, some ("session stopped in state " ++ other.describe))
  ⟨wait.endpoint, success, components, .ofNanos (coordinator.fleet.now - wait.startedAt), error⟩

/-- Ends a wait whose run has ended: the endpoint is free again, and the wait returns the report.
There is none if the session broke down. -/
def resume? (coordinator : Coordinator) (ticket : Nat) :
    Option (Coordinator × Except UpdateError DeviceUpdateReport) := do
  let wait ← coordinator.waits.find? (·.ticket == ticket)
  let run ← coordinator.fleet.runs[wait.run]?
  if run.isOpen then none
  else
    -- The outcomes count as collected even if the session broke down.
    let (tracker, components) := coordinator.tracker.collect wait.endpoint
    let rest : Coordinator :=
      { coordinator with
        active := coordinator.active.filter (·.1 ≠ wait.endpoint)
        tracker := tracker
        waits := coordinator.waits.filter (·.ticket ≠ ticket) }
    if run.status = .crashed then return (rest, .error .sessionClosed)
    else return (rest, .ok (coordinator.report wait run.session.state components))

/-- Drops a wait before its run has ended. What it had taken is lost. -/
def abandon (coordinator : Coordinator) (ticket : Nat) : Coordinator :=
  { coordinator with waits := coordinator.waits.filter (·.ticket ≠ ticket) }

/-- Takes the collected devices out of the aggregate progress. -/
def clearFinishedProgress (coordinator : Coordinator) : Coordinator :=
  { coordinator with tracker := coordinator.tracker.clearCollected }

/-- The endpoints whose report has not been collected, in ascending order. -/
def activeEndpoints (coordinator : Coordinator) : List EndpointId :=
  (coordinator.active.map (·.1)).mergeSort (· ≤ ·)

/-- Whether an update that has not been collected is still under way. -/
def isUpdateInProgress (coordinator : Coordinator) : Bool :=
  coordinator.active.any fun (_, update) =>
    coordinator.fleet.runs[update.run]?.any (!·.session.state.isTerminal)

end Coordinator

end FirmwareAgent
