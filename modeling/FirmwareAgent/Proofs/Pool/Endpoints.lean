import Mathlib.Data.List.Nodup
import FirmwareAgent.Proofs.Pool.Allocation
import FirmwareAgent.Proofs.Pool.Ledger
import FirmwareAgent.Proofs.Pool.Mirror

/-!
# One pool, many endpoints

A pool serves any number of endpoints, in any order. The leases of an endpoint are known by their
place among the live ones of that endpoint, so that its calls of the pool mean the same whatever the
other endpoints do in between.

* `PoolHistory.Serves`: what a pool does with whatever it is asked next.
* `Ledger.Twins`: the pool of all endpoints beside one that only a single endpoint calls.
* `allocates_through`: every call is served by the rules, and to an endpoint it is as if it had the
  pool for itself.
-/

namespace FirmwareAgent

/-- What can be asked of the pool for one endpoint. -/
inductive EndpointCall where
  /-- Acquires an id without a lease. -/
  | acquire (now : Instant)
  | lease (now : Instant)
  /-- Ends the live lease of the endpoint at the given place, the latest one first. -/
  | drop (place : Nat)
  | release (id : InstanceId)

namespace Ledger

variable {ledger : Ledger} {endpoint other : EndpointId}

/-- The live leases of an endpoint, the latest first. -/
def liveOf (ledger : Ledger) (endpoint : EndpointId) : List (Nat × Lease) :=
  ledger.live.filter (·.2.endpoint = endpoint)

/-- The call of the pool that the call of an endpoint is. -/
def callFor (ledger : Ledger) (endpoint : EndpointId) : EndpointCall → PoolCall
  | .acquire now => .acquire endpoint now
  | .lease now => .lease endpoint now
  | .drop place =>
    match (ledger.liveOf endpoint)[place]? with
    | some entry => .drop (ledger.live.idxOf entry)
    | none => .drop ledger.live.length
  | .release id => .release endpoint id

/-- Serves an endpoint. -/
def serve (ledger : Ledger) (endpoint : EndpointId) (call : EndpointCall) : Ledger :=
  ledger.call (ledger.callFor endpoint call)

end Ledger

/-- What an acquisition comes to. -/
def EndpointCall.outcome? (pool : InstanceIdPool) (endpoint : EndpointId) :
    EndpointCall → Option (Except UpdateError InstanceId)
  | .acquire now | .lease now => some ((pool.acquire endpoint now).map (·.1.id))
  | .drop _ | .release _ => none

theorem EndpointCall.outcome?_of_asked {call : EndpointCall} {now : Instant}
    (asked : call = .acquire now ∨ call = .lease now) (pool : InstanceIdPool)
    (endpoint : EndpointId) :
    call.outcome? pool endpoint = some ((pool.acquire endpoint now).map (·.1.id)) := by
  rcases asked with rfl | rfl <;> rfl

/-- A ledger, and how it came about. -/
structure PoolHistory where
  ledger : Ledger
  /-- What the acquisitions came to, the oldest first, each with its endpoint. -/
  outcomes : List (EndpointId × Except UpdateError InstanceId) := []

namespace PoolHistory

/-- The history with one more call of the pool. -/
def extend (history : PoolHistory) (call : EndpointId × EndpointCall) : PoolHistory where
  ledger := history.ledger.serve call.1 call.2
  outcomes := history.outcomes ++
    ((call.2.outcome? history.ledger.pool call.1).map (call.1, ·)).toList

/-- The history of a new pool through a list of calls, each for an endpoint. -/
def through (expiry : Duration) (calls : List (EndpointId × EndpointCall)) : PoolHistory :=
  calls.foldl extend { ledger := { pool := { expiry } } }

/-- What the acquisitions of an endpoint came to, the oldest first. -/
def outcomesOf (history : PoolHistory) (endpoint : EndpointId) :
    List (Except UpdateError InstanceId) :=
  (history.outcomes.filter (·.1 = endpoint)).map (·.2)

/-- What a pool does with whatever it is asked next. -/
structure Serves (history : PoolHistory) : Prop where
  ids : ∀ entry ∈ history.ledger.pool.holders, entry.1.2.val ≤ 31
  records : ∀ endpoint, (history.ledger.pool.holders.filter (·.1.1 = endpoint)).length ≤ 32
  held : ∀ endpoint, history.ledger.pool.heldCount endpoint ≤ 32
  acquires : ∀ endpoint now call, call = .acquire now ∨ call = .lease now → ∃ outcome,
    (history.extend (endpoint, call)).outcomes = history.outcomes ++ [(endpoint, outcome)] ∧
      history.ledger.pool.Allocates endpoint now outcome
        (history.extend (endpoint, call)).ledger.pool
  /-- A release frees its id and nothing else. -/
  releases : ∀ endpoint id key,
    (history.extend (endpoint, .release id)).ledger.pool.holder? key.1 key.2 =
      if key = (endpoint, id) then none else history.ledger.pool.holder? key.1 key.2
  releases_free : ∀ endpoint id, history.ledger.pool.holder? endpoint id = none →
    (history.extend (endpoint, .release id)).ledger.pool = history.ledger.pool
  releases_twice : ∀ endpoint id,
    ((history.extend (endpoint, .release id)).extend (endpoint, .release id)).ledger.pool =
      (history.extend (endpoint, .release id)).ledger.pool
  /-- The end of a lease frees the id of the lease if the lease still holds it, and nothing else. -/
  drops : ∀ endpoint place number lease,
    (history.ledger.liveOf endpoint)[place]? = some (number, lease) → ∀ key,
      (history.extend (endpoint, .drop place)).ledger.pool.holder? key.1 key.2 =
        if key = lease.key ∧ history.ledger.pool.isHolder lease = true then none
        else history.ledger.pool.holder? key.1 key.2
  elsewhere : ∀ endpoint call other, other ≠ endpoint → ∀ id,
    (history.extend (endpoint, call)).ledger.pool.holder? other id =
      history.ledger.pool.holder? other id

end PoolHistory

namespace Ledger

variable {ledger : Ledger} {endpoint other : EndpointId} {now : Instant} {call : EndpointCall}
  {lease : Lease} {lent : InstanceIdPool}

/-! ## What a call comes to -/

theorem serve_acquire_ok (acquired : ledger.pool.acquire endpoint now = .ok (lease, lent)) :
    ledger.serve endpoint (.acquire now) = ledger.acquired lease lent := by
  simp only [serve, callFor, Ledger.call, acquired]

theorem serve_lease_ok (acquired : ledger.pool.acquire endpoint now = .ok (lease, lent)) :
    ledger.serve endpoint (.lease now) =
      (ledger.acquired lease lent).lends ledger.acquisitions lease := by
  simp only [serve, callFor, Ledger.call, acquired]

/-- With or without a lease, the pool is what the acquisition leaves. -/
theorem pool_serve_ok (asked : call = .acquire now ∨ call = .lease now)
    (acquired : ledger.pool.acquire endpoint now = .ok (lease, lent)) :
    (ledger.serve endpoint call).pool = lent := by
  rcases asked with rfl | rfl
  · rw [serve_acquire_ok acquired]
    rfl
  · rw [serve_lease_ok acquired]
    rfl

theorem serve_refused {error : UpdateError} (asked : call = .acquire now ∨ call = .lease now)
    (refused : ledger.pool.acquire endpoint now = .error error) :
    ledger.serve endpoint call = ledger := by
  rcases asked with rfl | rfl <;> simp only [serve, callFor, Ledger.call, refused]

theorem serve_drop {place : Nat} {entry : Nat × Lease}
    (found : (ledger.liveOf endpoint)[place]? = some entry) :
    ledger.serve endpoint (.drop place) = ledger.ends (ledger.live.idxOf entry) entry.2 := by
  have live : entry ∈ ledger.live := (List.mem_filter.mp (List.mem_of_getElem? found)).1
  simp only [serve, callFor, found, Ledger.call, List.getElem?_idxOf live]

theorem serve_drop_none {place : Nat} (none_there : (ledger.liveOf endpoint)[place]? = none) :
    ledger.serve endpoint (.drop place) = ledger := by
  simp only [serve, callFor, none_there, Ledger.call, List.getElem?_length]

theorem liveOf_ends (entry : Nat × Lease) :
    (ledger.ends (ledger.live.idxOf entry) entry.2).liveOf endpoint =
      (ledger.liveOf endpoint).erase entry := by
  rw [liveOf, ends, List.eraseIdx_idxOf_eq_erase]
  exact List.erase_filter.symm

theorem liveOf_lends_own (own : lease.endpoint = endpoint) (number : Nat) :
    (ledger.lends number lease).liveOf endpoint = (number, lease) :: ledger.liveOf endpoint :=
  List.filter_cons_of_pos (by simpa using own)

theorem liveOf_lends_other (ne : lease.endpoint ≠ other) (number : Nat) :
    (ledger.lends number lease).liveOf other = ledger.liveOf other :=
  List.filter_cons_of_neg (by simpa using ne)

/-! ## What a call leaves as it was -/

/-- A call leaves an endpoint alone. -/
structure Spares (endpoint : EndpointId) (ledger after : Ledger) : Prop where
  pool : InstanceIdPool.Spares endpoint ledger.pool after.pool
  live : after.liveOf endpoint = ledger.liveOf endpoint
  acquisitions : after.acquisitions = ledger.acquisitions ∧
      after.pool.nextGeneration = ledger.pool.nextGeneration ∨
    after.acquisitions = ledger.acquisitions + 1 ∧ ledger.pool.Follows after.pool

theorem Spares.refl (endpoint : EndpointId) (ledger : Ledger) : ledger.Spares endpoint ledger :=
  ⟨.refl endpoint ledger.pool, rfl, .inl ⟨rfl, rfl⟩⟩

/-- An acquisition, with or without a lease, leaves the other endpoints alone. -/
theorem spares_asked (asked : call = .acquire now ∨ call = .lease now) (ne : other ≠ endpoint) :
    ledger.Spares other (ledger.serve endpoint call) := by
  cases acquired : ledger.pool.acquire endpoint now with
  | error error =>
    rw [serve_refused asked acquired]
    exact .refl other ledger
  | ok lent =>
    have pool := InstanceIdPool.spares_acquire ne.symm acquired
    have follows := InstanceIdPool.follows_acquire acquired
    rcases asked with rfl | rfl
    · rw [serve_acquire_ok acquired]
      exact ⟨pool, rfl, .inr ⟨rfl, follows⟩⟩
    · have foreign : lent.1.endpoint ≠ other :=
        InstanceIdPool.endpoint_of_acquire acquired ▸ ne.symm
      rw [serve_lease_ok acquired]
      exact ⟨pool, liveOf_lends_other foreign _, .inr ⟨rfl, follows⟩⟩

variable (ledger) in
/-- The calls of one endpoint leave the others alone. -/
theorem spares_serve (call : EndpointCall) (ne : other ≠ endpoint) :
    ledger.Spares other (ledger.serve endpoint call) := by
  cases call with
  | acquire now => exact spares_asked (.inl rfl) ne
  | lease now => exact spares_asked (.inr rfl) ne
  | drop place =>
    cases found : (ledger.liveOf endpoint)[place]? with
    | none =>
      rw [serve_drop_none found]
      exact .refl other ledger
    | some entry =>
      rw [serve_drop found]
      have own : entry.2.endpoint = endpoint :=
        of_decide_eq_true (List.mem_filter.mp (List.mem_of_getElem? found)).2
      have foreign : entry ∉ ledger.liveOf other := fun mem =>
        ne ((of_decide_eq_true (List.mem_filter.mp mem).2).symm.trans own)
      exact ⟨InstanceIdPool.spares_drop (own ▸ ne.symm),
        (liveOf_ends entry).trans (List.erase_of_not_mem foreign),
        .inl ⟨rfl, InstanceIdPool.nextGeneration_drop⟩⟩
  | release id => exact ⟨InstanceIdPool.spares_release ne.symm id, rfl, .inl ⟨rfl, rfl⟩⟩

theorem distinct_acquired (distinct : ledger.pool.Distinct)
    (acquired : ledger.pool.acquire endpoint now = .ok (lease, lent)) : lent.Distinct := by
  obtain ⟨id, _, rfl⟩ := InstanceIdPool.eq_hold_of_acquire acquired
  exact distinct.hold endpoint id now

theorem distinct_call (distinct : ledger.pool.Distinct) (call : PoolCall) :
    (ledger.call call).pool.Distinct := by
  cases call with
  | acquire endpoint now | lease endpoint now =>
    unfold Ledger.call
    dsimp only
    split
    · rename_i acquired
      exact distinct_acquired distinct acquired
    · exact distinct
  | drop place =>
    unfold Ledger.call
    dsimp only
    split
    · exact distinct.drop _
    · exact distinct
  | release endpoint id => exact distinct.release endpoint id

/-- No holder has the generation of the next acquisition. -/
theorem Agrees.fresh (agrees : ledger.Agrees) (few : ledger.acquisitions < UInt64.size)
    (key : EndpointId × InstanceId) (holder : Holder)
    (found : ledger.pool.holder? key.1 key.2 = some holder) :
    holder.generation ≠ ledger.pool.nextGeneration := by
  obtain ⟨number, latest, generation_eq⟩ := agrees.held key holder found
  have past := agrees.past key number latest
  rw [generation_eq, agrees.counted]
  intro same
  have values := congrArg UInt64.toNat same
  rw [UInt64.toNat_ofNat_of_lt' (Nat.lt_trans past few), UInt64.toNat_ofNat_of_lt' few] at values
  exact absurd past (values ▸ Nat.lt_irrefl _)

end Ledger

/-! ## Every call is served by the rules -/

namespace PoolHistory

variable {history : PoolHistory}

theorem serves (agrees : history.ledger.Agrees) (distinct : history.ledger.pool.Distinct)
    (few : history.ledger.acquisitions < UInt64.size) : history.Serves where
  ids entry _ := Nat.le_of_lt_succ entry.1.2.isLt
  records := distinct.length_le
  held := history.ledger.pool.heldCount_le
  acquires := by
    intro endpoint now call asked
    refine ⟨_, by rw [extend, EndpointCall.outcome?_of_asked asked]; rfl, ?_⟩
    rcases InstanceIdPool.allocates_acquire endpoint now (agrees.fresh few) with
      ⟨lease, lent, acquired, allocates⟩ | ⟨refused, allocates⟩
    · have pool_eq : (history.extend (endpoint, call)).ledger.pool = lent :=
        Ledger.pool_serve_ok asked acquired
      rw [pool_eq, acquired]
      exact allocates
    · have pool_eq : (history.extend (endpoint, call)).ledger.pool = history.ledger.pool :=
        congrArg Ledger.pool (Ledger.serve_refused asked refused)
      rw [pool_eq, refused]
      exact allocates
  releases endpoint id key := InstanceIdPool.holder?_release history.ledger.pool endpoint id key
  releases_free _ _ := InstanceIdPool.release_of_free
  releases_twice _ _ := InstanceIdPool.release_release
  drops := by
    intro endpoint place number lease found key
    have pool_eq : (history.extend (endpoint, .drop place)).ledger.pool =
        history.ledger.pool.drop lease := congrArg Ledger.pool (Ledger.serve_drop found)
    rw [pool_eq, InstanceIdPool.holder?_drop]
  elsewhere endpoint call other ne id := (history.ledger.spares_serve call ne).pool.holder id

end PoolHistory

/-! ## One endpoint has the pool for itself -/

namespace Ledger

/-- To an endpoint, a ledger that notes the calls of others too is like one of its own. -/
structure Twins (endpoint : EndpointId) (paired : LeasePairing) (ledger own : Ledger) : Prop where
  pools : InstanceIdPool.Mirrors paired ledger.acquisitions endpoint ledger.pool own.pool
  live : List.Forall₂ (fun entry entry' => paired entry.2 entry'.2) (ledger.liveOf endpoint)
    (own.liveOf endpoint)
  fewer : own.acquisitions ≤ ledger.acquisitions

theorem twins_self (endpoint : EndpointId) (pool : InstanceIdPool) :
    Twins endpoint (fun _ _ => False) { pool } { pool } :=
  ⟨InstanceIdPool.mirrors_self endpoint pool, .nil, Nat.le_refl 0⟩

theorem erase_liveOf {ledger : Ledger} {endpoint : EndpointId} {place : Nat} {entry : Nat × Lease}
    (distinct : (ledger.live.map Prod.fst).Nodup)
    (found : (ledger.liveOf endpoint)[place]? = some entry) :
    (ledger.liveOf endpoint).erase entry = (ledger.liveOf endpoint).eraseIdx place := by
  obtain ⟨within, rfl⟩ := List.getElem?_eq_some_iff.mp found
  exact (distinct.of_map.filter _).erase_getElem place within

namespace Twins

variable {endpoint other : EndpointId} {paired : LeasePairing} {ledger own : Ledger}
  (twins : Twins endpoint paired ledger own)

include twins

/-- What the others do is nothing to the endpoint. -/
theorem serve_other (ne : endpoint ≠ other) (call : EndpointCall) :
    Twins endpoint paired (ledger.serve other call) own := by
  obtain ⟨pool, live, acquisitions⟩ := ledger.spares_serve call ne
  rcases acquisitions with ⟨same, generation⟩ | ⟨more, follows⟩
  · refine ⟨?_, live ▸ twins.live, same ▸ twins.fewer⟩
    refine same ▸ twins.pools.aside pool (Nat.le_refl _) fun recent => ?_
    rwa [InstanceIdPool.IsRecent, generation]
  · refine ⟨?_, live ▸ twins.live, more ▸ Nat.le_succ_of_le twins.fewer⟩
    exact more ▸ twins.pools.other pool follows

theorem acquired {lease lease' : Lease} {lent lent' : InstanceIdPool}
    (pools : InstanceIdPool.Mirrors (paired.add lease lease') (ledger.acquisitions + 1) endpoint
      lent lent') :
    Twins endpoint (paired.add lease lease') (ledger.acquired lease lent)
      (own.acquired lease' lent') :=
  ⟨pools, twins.live.imp fun _ _ => .inl, Nat.succ_le_succ twins.fewer⟩

theorem lends {lease lease' : Lease} (pair : paired lease lease') (number number' : Nat) :
    Twins endpoint paired (ledger.lends number lease) (own.lends number' lease') := by
  obtain ⟨endpoint_eq, key⟩ := twins.pools.key pair
  have endpoint_eq' : lease'.endpoint = endpoint := (congrArg Prod.fst key).trans endpoint_eq
  refine ⟨twins.pools, ?_, twins.fewer⟩
  rw [liveOf_lends_own endpoint_eq, liveOf_lends_own endpoint_eq']
  exact .cons pair twins.live

theorem ends (distinct : (ledger.live.map Prod.fst).Nodup)
    (distinct' : (own.live.map Prod.fst).Nodup) {place : Nat} {entry entry' : Nat × Lease}
    (found : (ledger.liveOf endpoint)[place]? = some entry)
    (found' : (own.liveOf endpoint)[place]? = some entry') (pair : paired entry.2 entry'.2) :
    Twins endpoint paired (ledger.ends (ledger.live.idxOf entry) entry.2)
      (own.ends (own.live.idxOf entry') entry'.2) := by
  refine ⟨twins.pools.drop pair, ?_, twins.fewer⟩
  rw [liveOf_ends, liveOf_ends, erase_liveOf distinct found, erase_liveOf distinct' found']
  exact rel_eraseIdx twins.live place

/-- The same acquisition, with or without a lease, comes to the same. -/
theorem asks (few : ledger.acquisitions < UInt64.size) {call : EndpointCall} {now : Instant}
    (asked : call = .acquire now ∨ call = .lease now) :
    call.outcome? own.pool endpoint = call.outcome? ledger.pool endpoint ∧
      ∃ paired', Twins endpoint paired' (ledger.serve endpoint call) (own.serve endpoint call) := by
  rw [EndpointCall.outcome?_of_asked asked, EndpointCall.outcome?_of_asked asked]
  rcases twins.pools.acquire few now with ⟨error, refused, refused'⟩ |
    ⟨lease, lent, lease', lent', acquired, acquired', id_eq, pools⟩
  · refine ⟨by rw [refused, refused'], paired, ?_⟩
    rwa [serve_refused asked refused, serve_refused asked refused']
  · refine ⟨by simp only [acquired, acquired', Except.map, id_eq], paired.add lease lease', ?_⟩
    rcases asked with rfl | rfl
    · rw [serve_acquire_ok acquired, serve_acquire_ok acquired']
      exact twins.acquired pools
    · rw [serve_lease_ok acquired, serve_lease_ok acquired']
      exact (twins.acquired pools).lends (.inr ⟨rfl, rfl⟩) _ _

/-- The same call comes to the same, and leaves the ledgers alike. -/
theorem serve (few : ledger.acquisitions < UInt64.size)
    (distinct : (ledger.live.map Prod.fst).Nodup) (distinct' : (own.live.map Prod.fst).Nodup)
    (call : EndpointCall) :
    call.outcome? own.pool endpoint = call.outcome? ledger.pool endpoint ∧
      ∃ paired', Twins endpoint paired' (ledger.serve endpoint call) (own.serve endpoint call) := by
  cases call with
  | acquire now => exact twins.asks few (.inl rfl)
  | lease now => exact twins.asks few (.inr rfl)
  | drop place =>
    refine ⟨rfl, paired, ?_⟩
    have same := rel_getElem? twins.live place
    generalize found : (ledger.liveOf endpoint)[place]? = entry at same
    generalize found' : (own.liveOf endpoint)[place]? = entry' at same
    cases same with
    | none => rwa [serve_drop_none found, serve_drop_none found']
    | some pair =>
      rw [serve_drop found, serve_drop found']
      exact twins.ends distinct distinct' found found' pair
  | release id => exact ⟨rfl, paired, twins.pools.release id, twins.live, twins.fewer⟩

end Twins

end Ledger

namespace PoolHistory

variable {history : PoolHistory} {endpoint : EndpointId} {expiry : Duration}
  {calls : List (EndpointId × EndpointCall)}

theorem through_concat (last : EndpointId × EndpointCall) :
    through expiry (calls ++ [last]) = (through expiry calls).extend last :=
  List.foldl_concat ..

theorem outcomesOf_extend (call : EndpointId × EndpointCall) :
    (history.extend call).outcomesOf endpoint = history.outcomesOf endpoint ++
      if call.1 = endpoint then (call.2.outcome? history.ledger.pool call.1).toList else [] := by
  unfold outcomesOf extend
  rw [List.filter_append, List.map_append]
  cases outcome : call.2.outcome? history.ledger.pool call.1 with
  | none => simp
  | some result => by_cases own : call.1 = endpoint <;> simp [own]

/-- What the ledger of a history notes is what the pool has recorded. -/
theorem sound_ledger_through (few : (through expiry calls).ledger.acquisitions < UInt64.size) :
    (through expiry calls).ledger.Agrees ∧ (through expiry calls).ledger.pool.Distinct := by
  induction calls using List.reverseRecOn with
  | nil => exact ⟨Ledger.agrees_opened expiry, List.nodup_nil⟩
  | append_singleton calls last ih =>
    rw [through_concat] at few ⊢
    have few_before := Nat.lt_of_le_of_lt (Ledger.acquisitions_le_call _) few
    obtain ⟨agrees, distinct⟩ := ih few_before
    exact ⟨Ledger.agrees_call agrees few_before _, Ledger.distinct_call distinct _⟩

/-- A history beside the one of an endpoint that has the pool for itself. -/
theorem twins_through (endpoint : EndpointId)
    (few : (through expiry calls).ledger.acquisitions < UInt64.size) :
    let own := through expiry (calls.filter (·.1 = endpoint))
    own.outcomesOf endpoint = (through expiry calls).outcomesOf endpoint ∧
      ∃ paired, Ledger.Twins endpoint paired (through expiry calls).ledger own.ledger := by
  induction calls using List.reverseRecOn with
  | nil => exact ⟨rfl, _, Ledger.twins_self endpoint _⟩
  | append_singleton calls last ih =>
    obtain ⟨caller, call⟩ := last
    rw [through_concat] at few ⊢
    have few_before := Nat.lt_of_le_of_lt (Ledger.acquisitions_le_call _) few
    obtain ⟨outcomes, paired, twins⟩ := ih few_before
    by_cases own : caller = endpoint
    · subst own
      have few_own := Nat.lt_of_le_of_lt twins.fewer few_before
      obtain ⟨same, served⟩ := twins.serve few_before (sound_ledger_through few_before).1.distinct
        (sound_ledger_through few_own).1.distinct call
      rw [List.filter_append, List.filter_cons_of_pos (by simp), List.filter_nil, through_concat]
      refine ⟨?_, served⟩
      rw [outcomesOf_extend, outcomesOf_extend, outcomes, same]
    · rw [List.filter_append, List.filter_cons_of_neg (by simpa using own), List.filter_nil,
        List.append_nil]
      refine ⟨?_, paired, twins.serve_other (Ne.symm own) call⟩
      rw [outcomesOf_extend, if_neg own, List.append_nil]
      exact outcomes

/-- However a pool is called: whatever it is asked next is served by the rules, and an endpoint gets
the ids that it would get, and holds them since when it would hold them, if no other endpoint ever
called the pool. -/
theorem allocates_through (expiry : Duration) (calls : List (EndpointId × EndpointCall))
    (few : (through expiry calls).ledger.acquisitions < UInt64.size) :
    (through expiry calls).Serves ∧
      ∀ endpoint,
        let own := through expiry (calls.filter (·.1 = endpoint))
        own.outcomesOf endpoint = (through expiry calls).outcomesOf endpoint ∧
          ∀ id, own.ledger.pool.since? endpoint id =
            (through expiry calls).ledger.pool.since? endpoint id := by
  obtain ⟨agrees, distinct⟩ := sound_ledger_through few
  refine ⟨serves agrees distinct few, fun endpoint => ?_⟩
  obtain ⟨outcomes, paired, twins⟩ := twins_through endpoint few
  exact ⟨outcomes, twins.pools.since⟩

/-- The ids of an endpoint are used up, and another endpoint has one too. The first id is asked for
when it has just been held as long as it may be, and again a little later. -/
def usedUp : List (EndpointId × EndpointCall) :=
  (2, .lease 0) :: (3, .lease 0) :: List.replicate 31 (2, .acquire nanosPerSecond) ++
    [(2, .acquire (5 * nanosPerSecond)), (3, .drop 0), (2, .lease (5 * nanosPerSecond + 1)),
      (2, .drop 1)]

theorem allocates_usedUp :
    (through (.ofSeconds 5) usedUp).ledger.acquisitions < UInt64.size ∧
      (through (.ofSeconds 5) usedUp).Serves ∧
      (through (.ofSeconds 5) usedUp).outcomesOf 2 =
        InstanceId.all.map .ok ++ [.error (.resourceExhausted 2), .ok 0] ∧
      (through (.ofSeconds 5) (usedUp.filter (·.1 = 2))).outcomesOf 2 =
        (through (.ofSeconds 5) usedUp).outcomesOf 2 ∧
      (through (.ofSeconds 5) usedUp).ledger.pool.holder? 2 0 =
        some ⟨5 * nanosPerSecond + 1, 33⟩ ∧
      (through (.ofSeconds 5) usedUp).ledger.pool.holder? 3 0 = none := by
  have few : (through (.ofSeconds 5) usedUp).ledger.acquisitions < UInt64.size := by
    decide +kernel
  obtain ⟨serves, alone⟩ := allocates_through (.ofSeconds 5) usedUp few
  exact ⟨few, serves, by decide +kernel, (alone 2).1, by decide +kernel, by decide +kernel⟩

end PoolHistory

end FirmwareAgent
