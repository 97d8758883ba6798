import FirmwareAgent.Duration
import FirmwareAgent.Error
import FirmwareAgent.Wire.Message

/-!
# Instance ids on loan

Every request of the agent holds an instance id of its endpoint while its exchange lasts. An
endpoint has 32 ids, so a holder that never gives its id back would in the end starve the endpoint.
When all ids are held, the one held longest is taken back, provided it has been held for longer
than the expiry.

Each acquisition has a generation number of its own. A lease remembers it, so that a lease whose id
was taken back, or released by hand and acquired again, never frees the new holder.
-/

namespace FirmwareAgent

/-- Who holds an instance id, and since when. -/
structure Holder where
  acquiredAt : Instant
  /-- The number of the acquisition. -/
  generation : UInt64
  deriving DecidableEq, Repr

/-- The right of one acquisition to an instance id. -/
structure Lease where
  endpoint : EndpointId
  id : InstanceId
  /-- The number of the acquisition that made the lease. -/
  generation : UInt64
  deriving DecidableEq, Repr

/-- The instance ids on loan, by endpoint. -/
structure InstanceIdPool where
  /-- The age past which a holder may lose its id. -/
  expiry : Duration
  /-- The holders. No endpoint and id occur twice. -/
  holders : List ((EndpointId × InstanceId) × Holder) := []
  /-- The number of the next acquisition. -/
  nextGeneration : UInt64 := 0
  deriving DecidableEq, Repr

namespace InstanceIdPool

def holder? (pool : InstanceIdPool) (endpoint : EndpointId) (id : InstanceId) : Option Holder :=
  pool.holders.lookup (endpoint, id)

def isHeld (pool : InstanceIdPool) (endpoint : EndpointId) (id : InstanceId) : Bool :=
  (pool.holder? endpoint id).isSome

/-- The held ids of an endpoint, in ascending order. -/
def heldIds (pool : InstanceIdPool) (endpoint : EndpointId) : List InstanceId :=
  InstanceId.all.filter (pool.isHeld endpoint)

/-- The number of held ids of an endpoint. -/
def heldCount (pool : InstanceIdPool) (endpoint : EndpointId) : Nat :=
  (pool.heldIds endpoint).length

/-- Gives an id back, whoever holds it. -/
def release (pool : InstanceIdPool) (endpoint : EndpointId) (id : InstanceId) : InstanceIdPool :=
  { pool with holders := pool.holders.filter (·.1 ≠ (endpoint, id)) }

/-- Makes a new acquisition the holder of an id. -/
def hold (pool : InstanceIdPool) (endpoint : EndpointId) (id : InstanceId) (now : Instant) :
    Lease × InstanceIdPool :=
  let generation := pool.nextGeneration
  (⟨endpoint, id, generation⟩,
    { pool.release endpoint id with
      holders := ((endpoint, id), ⟨now, generation⟩) :: (pool.release endpoint id).holders
      nextGeneration := generation + 1 })

def lowestFree? (pool : InstanceIdPool) (endpoint : EndpointId) : Option InstanceId :=
  InstanceId.all.find? fun id => !pool.isHeld endpoint id

/-- Of two holders the one that has held its id longer, the first one if they are equally old. -/
def older (first second : InstanceId × Holder) : InstanceId × Holder :=
  if second.2.acquiredAt < first.2.acquiredAt then second else first

/-- The holder of an endpoint that has held its id longest, and of equally old ones the one with
the lowest id. -/
def oldest? (pool : InstanceIdPool) (endpoint : EndpointId) : Option (InstanceId × Holder) :=
  match InstanceId.all.filterMap fun id => (pool.holder? endpoint id).map (id, ·) with
  | [] => none
  | first :: others => some (others.foldl older first)

/-- Acquires the lowest free id of an endpoint, or takes back the oldest one if it has expired. -/
def acquire (pool : InstanceIdPool) (endpoint : EndpointId) (now : Instant) :
    Except UpdateError (Lease × InstanceIdPool) :=
  match pool.lowestFree? endpoint with
  | some id => .ok (pool.hold endpoint id now)
  | none =>
    match pool.oldest? endpoint with
    | none => .error (.resourceExhausted endpoint)
    | some (id, holder) =>
      -- The subtraction stops at zero: an id acquired later than `now` has no age.
      if pool.expiry.nanos < now - holder.acquiredAt then .ok (pool.hold endpoint id now)
      else .error (.resourceExhausted endpoint)

/-- Whether a lease is still the recorded holder of its id. -/
def isHolder (pool : InstanceIdPool) (lease : Lease) : Bool :=
  (pool.holder? lease.endpoint lease.id).any (·.generation == lease.generation)

/-- Ends a lease. Its id is given back only if the lease is still the recorded holder. -/
def drop (pool : InstanceIdPool) (lease : Lease) : InstanceIdPool :=
  if pool.isHolder lease then pool.release lease.endpoint lease.id else pool

end InstanceIdPool

end FirmwareAgent
