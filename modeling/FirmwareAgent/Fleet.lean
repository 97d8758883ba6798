import FirmwareAgent.Session.Run

/-!
# Fleets

The runs of an agent share a configuration, a component table, a package, a pool of instance ids
and a clock. A run is known by its place in the order in which the runs were started.
-/

namespace FirmwareAgent

/-- Runs that share a clock and a pool of instance ids. -/
structure Fleet where
  context : SessionContext
  now : Instant := 0
  pool : InstanceIdPool
  /-- The runs in the order of their start. -/
  runs : List Run := []

namespace Fleet

/-- Adds a run for a device. It starts later, by an action of its own. -/
def add (fleet : Fleet) (record : DeviceRecord) : Fleet :=
  { fleet with runs := fleet.runs ++ [{ session := { record := record } }] }

/-- What an action of one run does. The other runs stay as they are. -/
def act (fleet : Fleet) (place : Nat) (action : RunAction) : Fleet × List Occurrence :=
  match fleet.runs[place]? with
  | none => (fleet, [])
  | some run =>
    let step := run.act fleet.context fleet.now fleet.pool action
    ({ fleet with pool := step.pool, runs := fleet.runs.set place step.run }, step.occurrences)

/-- The place of the newest run of an endpoint. -/
def newest? (fleet : Fleet) (endpoint : EndpointId) : Option Nat :=
  (List.range fleet.runs.length).reverse.find? fun place =>
    fleet.runs[place]?.any (·.endpoint == endpoint)

/-- Lets time pass. -/
def elapse (fleet : Fleet) (nanos : Nat) : Fleet :=
  { fleet with now := fleet.now + nanos }

/-- Someone other than a session acquires an instance id. -/
def acquire (fleet : Fleet) (endpoint : EndpointId) : Except UpdateError (InstanceId × Fleet) :=
  match fleet.pool.acquire endpoint fleet.now with
  | .ok (lease, pool) => .ok (lease.id, { fleet with pool := pool })
  | .error error => .error error

/-- Someone releases an instance id by hand. -/
def release (fleet : Fleet) (endpoint : EndpointId) (id : InstanceId) : Fleet :=
  { fleet with pool := fleet.pool.release endpoint id }

end Fleet

end FirmwareAgent
