import FirmwareAgent.Coordinator

/-!
# Hosts

What a rehearsal runs: a fleet of sessions on their own, or a coordinator. Both show the same kinds
of sights to the rehearsal.
-/

namespace FirmwareAgent

/-- What a rehearsal runs. -/
inductive Host
  | fleet (own : Fleet)
  | coordinator (agent : Coordinator)

/-- What a rehearsal sees of its host. -/
inductive Sight
  /-- The run at a place sent a request. -/
  | sent (place : Nat) (exchange : Exchange)
  /-- A session told its observer something. -/
  | notified (notification : Notification)
  /-- The coordinator told its subscribers something. -/
  | published (progress : UpdateProgress)
  /-- A target's request was answered, or lost with its session. -/
  | answered (ticket : Nat) (answer : Except UpdateError Response)

namespace Caller

/-- The ticket under which the answer is waited for. -/
def ticket : Caller → Nat
  | .handle ticket | .coordinator ticket => ticket

end Caller

namespace Sight

/-- What a fleet shows of the run at a place. A request that is lost counts as answered by the
session's end. -/
def ofOccurrence (place : Nat) : Occurrence → Sight
  | .sent exchange => .sent place exchange
  | .notified notification => .notified notification
  | .answered caller response => .answered caller.ticket (.ok response)
  | .unanswered caller _ => .answered caller.ticket (.error .sessionClosed)

/-- What a coordinator shows. -/
def ofCoordinatorEvent : CoordinatorEvent → Sight
  | .sent place exchange => .sent place exchange
  | .published progress => .published progress
  | .answered caller response => .answered caller.ticket (.ok response)
  | .unanswered caller => .answered caller.ticket (.error .sessionClosed)

end Sight

namespace Host

def sessions : Host → Fleet
  | .fleet own => own
  | .coordinator agent => agent.fleet

/-- Changes the sessions in a way that nobody sees. -/
def modifySessions (change : Fleet → Fleet) : Host → Host
  | .fleet own => .fleet (change own)
  | .coordinator agent => .coordinator { agent with fleet := change agent.fleet }

def act (host : Host) (place : Nat) (action : RunAction) : Host × List Sight :=
  match host with
  | .fleet own =>
    let (own, occurrences) := own.act place action
    (.fleet own, occurrences.map (Sight.ofOccurrence place))
  | .coordinator agent =>
    let (agent, events) := agent.act place action
    (.coordinator agent, events.map Sight.ofCoordinatorEvent)

def newest? (host : Host) (endpoint : EndpointId) : Option (Nat × Run) := do
  let place ← host.sessions.newest? endpoint
  let run ← host.sessions.runs[place]?
  return (place, run)

/-- The endpoints that have or had a session, in ascending order. -/
def endpoints (host : Host) : List EndpointId :=
  ((host.sessions.runs.map (·.endpoint)).eraseDups).mergeSort (· ≤ ·)

/-- For every endpoint the state of its newest session and the number of its held ids. -/
def overview (host : Host) : List (EndpointId × SessionState × Nat) :=
  host.endpoints.filterMap fun endpoint =>
    (host.newest? endpoint).map fun (_, run) =>
      (endpoint, run.session.state, host.sessions.pool.heldCount endpoint)

/-- The endpoints that the coordinator has not collected, and whether an update is under way. -/
def coordination? : Host → Option (List EndpointId × Bool)
  | .fleet _ => none
  | .coordinator agent => some (agent.activeEndpoints, agent.isUpdateInProgress)

end Host

end FirmwareAgent
