import Mathlib.Data.List.Induction
import Mathlib.Data.List.Perm.Basic
import FirmwareAgent.Proofs.Pool.Holders

/-!
# Nobody else's id is given back

Anybody may call the pool, in any order and with any times. The ledger notes beside the pool what
the pool does not know: which leases are alive, and which acquisition took an id last. It counts
the acquisitions without a bound, whereas the generations of the pool start over after 2⁶⁴.

* `Ledger.Agrees` is the invariant: what the pool has recorded is what the ledger says.
* `frees_own_through`: a lease that ends gives its id back if nobody else took or released the id
  since, and changes nothing otherwise.
-/

namespace FirmwareAgent

/-- A call of the pool. -/
inductive PoolCall where
  /-- Acquires an id without a lease. Only a release gives it back. -/
  | acquire (endpoint : EndpointId) (now : Instant)
  | lease (endpoint : EndpointId) (now : Instant)
  /-- Ends the live lease at the given place of the ledger. -/
  | drop (place : Nat)
  | release (endpoint : EndpointId) (id : InstanceId)

structure Ledger where
  pool : InstanceIdPool
  /-- The leases that have not ended, each with the number of its acquisition. -/
  live : List (Nat × Lease) := []
  /-- How many acquisitions succeeded. They are numbered from zero. -/
  acquisitions : Nat := 0
  /-- The acquisition that took an id last, unless the id was released by hand since. The end of a
  lease does not show here. -/
  latest : EndpointId × InstanceId → Option Nat := fun _ => none

namespace Ledger

variable {ledger : Ledger} {expiry : Duration} {endpoint : EndpointId} {now : Instant}
  {lease : Lease} {lent : InstanceIdPool} {number : Nat}

/-- Notes an acquisition that succeeded. -/
def acquired (ledger : Ledger) (lease : Lease) (lent : InstanceIdPool) : Ledger :=
  { ledger with
    pool := lent
    acquisitions := ledger.acquisitions + 1
    latest := fun key => if key = lease.key then some ledger.acquisitions else ledger.latest key }

/-- Notes that a lease is alive. -/
def lends (ledger : Ledger) (number : Nat) (lease : Lease) : Ledger :=
  { ledger with live := (number, lease) :: ledger.live }

/-- Ends the live lease at a place. -/
def ends (ledger : Ledger) (place : Nat) (lease : Lease) : Ledger :=
  { ledger with
    pool := ledger.pool.drop lease
    live := ledger.live.eraseIdx place }

/-- Releases an id, whoever holds it. -/
def released (ledger : Ledger) (endpoint : EndpointId) (id : InstanceId) : Ledger :=
  { ledger with
    pool := ledger.pool.release endpoint id
    latest := fun key => if key = (endpoint, id) then none else ledger.latest key }

def call (ledger : Ledger) : PoolCall → Ledger
  | .acquire endpoint now =>
    match ledger.pool.acquire endpoint now with
    | .ok (lease, lent) => ledger.acquired lease lent
    | .error _ => ledger
  | .lease endpoint now =>
    match ledger.pool.acquire endpoint now with
    | .ok (lease, lent) => (ledger.acquired lease lent).lends ledger.acquisitions lease
    | .error _ => ledger
  | .drop place =>
    match ledger.live[place]? with
    | some (_, lease) => ledger.ends place lease
    | none => ledger
  | .release endpoint id => ledger.released endpoint id

/-- The ledger after some calls of a new pool. -/
def through (expiry : Duration) (calls : List PoolCall) : Ledger :=
  calls.foldl call { pool := { expiry } }

/-! ## The pool agrees with the ledger -/

/-- What the pool has recorded is what the ledger says. -/
structure Agrees (ledger : Ledger) : Prop where
  counted : ledger.pool.nextGeneration = UInt64.ofNat ledger.acquisitions
  past : ∀ key number, ledger.latest key = some number → number < ledger.acquisitions
  /-- Only the acquisition that took an id last can hold it. -/
  held : ∀ key holder, ledger.pool.holder? key.1 key.2 = some holder →
    ∃ number, ledger.latest key = some number ∧ holder.generation = UInt64.ofNat number
  issued : ∀ entry ∈ ledger.live,
    entry.1 < ledger.acquisitions ∧ entry.2.generation = UInt64.ofNat entry.1
  distinct : (ledger.live.map Prod.fst).Nodup
  /-- A live lease whose acquisition took the id last is the recorded holder. -/
  good : ∀ entry ∈ ledger.live, ledger.latest entry.2.key = some entry.1 →
    ledger.pool.isHolder entry.2 = true

theorem generation_inj {first second : Nat} (few : ledger.acquisitions < UInt64.size)
    (first_past : first < ledger.acquisitions) (second_past : second < ledger.acquisitions)
    (same : UInt64.ofNat first = UInt64.ofNat second) : first = second := by
  have values := congrArg UInt64.toNat same
  rwa [UInt64.toNat_ofNat_of_lt' (Nat.lt_trans first_past few),
    UInt64.toNat_ofNat_of_lt' (Nat.lt_trans second_past few)] at values

/-- The recorded holder is the acquisition that took the id last. -/
theorem Agrees.latest_of_isHolder (agrees : ledger.Agrees) (few : ledger.acquisitions < UInt64.size)
    (live : (number, lease) ∈ ledger.live) (good : ledger.pool.isHolder lease = true) :
    ledger.latest lease.key = some number := by
  rw [InstanceIdPool.isHolder_eq, Option.any_eq_true] at good
  obtain ⟨holder, found, own⟩ := good
  obtain ⟨last, latest_eq, recorded⟩ := agrees.held lease.key holder found
  obtain ⟨issued, generation_eq⟩ := agrees.issued _ live
  have same : UInt64.ofNat last = UInt64.ofNat number :=
    recorded.symm.trans ((eq_of_beq own).trans generation_eq)
  rw [latest_eq, generation_inj few (agrees.past _ _ latest_eq) issued same]

theorem Agrees.isHolder_iff (agrees : ledger.Agrees) (few : ledger.acquisitions < UInt64.size)
    (live : (number, lease) ∈ ledger.live) :
    ledger.pool.isHolder lease = true ↔ ledger.latest lease.key = some number :=
  ⟨agrees.latest_of_isHolder few live, agrees.good (number, lease) live⟩

theorem agrees_opened (expiry : Duration) : Agrees { pool := { expiry } } where
  counted := rfl
  past key number last := by cases last
  held key holder found := by cases found
  issued entry live := by cases live
  distinct := List.nodup_nil
  good entry live := by cases live

/-- An acquisition has a new number, and takes its id from whoever held it. -/
theorem Agrees.acquired (agrees : ledger.Agrees)
    (acquired : ledger.pool.acquire endpoint now = .ok (lease, lent)) :
    (ledger.acquired lease lent).Agrees := by
  obtain ⟨id, rfl, rfl⟩ := InstanceIdPool.eq_hold_of_acquire acquired
  refine ⟨?counted, ?past, ?held, ?issued, agrees.distinct, ?good⟩
  case counted =>
    change ledger.pool.nextGeneration + 1 = UInt64.ofNat (ledger.acquisitions + 1)
    rw [agrees.counted, UInt64.ofNat_add]
    rfl
  case past =>
    intro key number last
    change (if key = (endpoint, id) then some ledger.acquisitions else ledger.latest key) =
      some number at last
    split at last
    · cases last
      exact Nat.lt_succ_self _
    · exact Nat.lt_succ_of_lt (agrees.past key number last)
  case held =>
    intro key holder found
    change (ledger.pool.hold endpoint id now).2.holder? key.1 key.2 = some holder at found
    rw [InstanceIdPool.holder?_hold] at found
    change ∃ number, (if key = (endpoint, id) then some ledger.acquisitions
      else ledger.latest key) = some number ∧ holder.generation = UInt64.ofNat number
    by_cases here : key = (endpoint, id)
    · rw [if_pos here] at found
      cases found
      exact ⟨ledger.acquisitions, if_pos here, agrees.counted⟩
    · rw [if_neg here] at found ⊢
      exact agrees.held key holder found
  case issued =>
    intro entry live
    obtain ⟨issued, generation_eq⟩ := agrees.issued entry live
    exact ⟨Nat.lt_succ_of_lt issued, generation_eq⟩
  case good =>
    intro entry live last
    change (if entry.2.key = (endpoint, id) then some ledger.acquisitions
      else ledger.latest entry.2.key) = some entry.1 at last
    by_cases here : entry.2.key = (endpoint, id)
    · -- An older lease of this id is not the last one.
      rw [if_pos here] at last
      obtain ⟨issued, _⟩ := agrees.issued entry live
      rw [Option.some.inj last] at issued
      exact absurd issued (Nat.lt_irrefl _)
    · rw [if_neg here] at last
      exact (InstanceIdPool.isHolder_acquire_of_ne acquired here).trans
        (agrees.good entry live last)

/-- The lease of the last acquisition joins the live ones. -/
theorem Agrees.lends (agrees : ledger.Agrees)
    (acquired : ledger.pool.acquire endpoint now = .ok (lease, lent)) :
    ((ledger.acquired lease lent).lends ledger.acquisitions lease).Agrees := by
  have noted := agrees.acquired acquired
  refine ⟨noted.counted, noted.past, noted.held, List.forall_mem_cons.mpr ⟨?_, noted.issued⟩,
    List.nodup_cons.mpr ⟨?_, noted.distinct⟩, List.forall_mem_cons.mpr ⟨?_, noted.good⟩⟩
  · obtain ⟨id, rfl, _⟩ := InstanceIdPool.eq_hold_of_acquire acquired
    exact ⟨Nat.lt_succ_self _, agrees.counted⟩
  · intro taken
    obtain ⟨entry, live, same⟩ := List.mem_map.mp taken
    obtain ⟨issued, _⟩ := agrees.issued entry live
    exact absurd (same ▸ issued) (Nat.lt_irrefl _)
  · intro _
    exact InstanceIdPool.isHolder_acquire acquired

/-- The leases that stay alive when one ends. -/
theorem live_perm {place : Nat} (found : ledger.live[place]? = some (number, lease)) :
    ((number, lease) :: (ledger.ends place lease).live).Perm ledger.live := by
  obtain ⟨within, entry_eq⟩ := List.getElem?_eq_some_iff.mp found
  rw [← entry_eq]
  exact List.getElem_cons_eraseIdx_perm within

theorem Agrees.ends (agrees : ledger.Agrees) (few : ledger.acquisitions < UInt64.size) {place : Nat}
    (found : ledger.live[place]? = some (number, lease)) : (ledger.ends place lease).Agrees := by
  have perm := live_perm found
  have stays (entry) (live : entry ∈ (ledger.ends place lease).live) : entry ∈ ledger.live :=
    perm.subset (List.mem_cons_of_mem _ live)
  have distinct := (perm.map Prod.fst).nodup_iff.mpr agrees.distinct
  obtain ⟨alone, distinct⟩ := List.nodup_cons.mp distinct
  refine ⟨?counted, agrees.past, ?held, ?issued, distinct, ?good⟩
  case counted =>
    exact InstanceIdPool.nextGeneration_drop.trans agrees.counted
  case held =>
    intro key holder kept
    refine agrees.held key holder ?_
    change (ledger.pool.drop lease).holder? key.1 key.2 = some holder at kept
    rw [InstanceIdPool.holder?_drop] at kept
    split at kept
    · cases kept
    · exact kept
  case issued =>
    intro entry live
    exact agrees.issued entry (stays entry live)
  case good =>
    intro entry live last
    have entry_good := agrees.good entry (stays entry live) last
    change (ledger.pool.drop lease).isHolder entry.2 = true
    by_cases same : entry.2.key = lease.key
    · -- The lease that ends is an older one of the same id, so it gives nothing back.
      have stale : ledger.pool.isHolder lease = false := by
        refine Bool.eq_false_iff.mpr fun good => ?_
        have own := agrees.latest_of_isHolder few (perm.subset List.mem_cons_self) good
        have number_eq : entry.1 = number := by
          rw [← same] at own
          exact Option.some.inj (last.symm.trans own)
        have number_live : entry.1 ∈ (ledger.ends place lease).live.map Prod.fst :=
          List.mem_map_of_mem live
        exact alone (number_eq ▸ number_live)
      unfold InstanceIdPool.drop
      rwa [stale]
    · rwa [InstanceIdPool.isHolder_drop_of_ne same]

theorem Agrees.released (agrees : ledger.Agrees) (endpoint : EndpointId) (id : InstanceId) :
    (ledger.released endpoint id).Agrees := by
  have latest_eq (key) : (ledger.released endpoint id).latest key =
      if key = (endpoint, id) then none else ledger.latest key := rfl
  have holder_eq (key : EndpointId × InstanceId) :
      (ledger.released endpoint id).pool.holder? key.1 key.2 =
        if key = (endpoint, id) then none else ledger.pool.holder? key.1 key.2 :=
    InstanceIdPool.holder?_release ledger.pool endpoint id key
  refine ⟨agrees.counted, ?past, ?held, agrees.issued, agrees.distinct, ?good⟩
  case past =>
    intro key number last
    rw [latest_eq] at last
    split at last
    · cases last
    · exact agrees.past key number last
  case held =>
    intro key holder found
    rw [holder_eq] at found
    rw [latest_eq]
    split at found
    · cases found
    · rename_i other
      rw [if_neg other]
      exact agrees.held key holder found
  case good =>
    intro entry live last
    rw [latest_eq] at last
    split at last
    · cases last
    · rename_i other
      rw [InstanceIdPool.isHolder_eq, holder_eq, if_neg other]
      exact agrees.good entry live last

theorem agrees_call (agrees : ledger.Agrees) (few : ledger.acquisitions < UInt64.size)
    (call : PoolCall) : (ledger.call call).Agrees := by
  cases call with
  | acquire endpoint now =>
    unfold Ledger.call
    dsimp only
    split
    · rename_i acquired
      exact agrees.acquired acquired
    · exact agrees
  | lease endpoint now =>
    unfold Ledger.call
    dsimp only
    split
    · rename_i acquired
      exact agrees.lends acquired
    · exact agrees
  | drop place =>
    unfold Ledger.call
    dsimp only
    split
    · rename_i found
      exact agrees.ends few found
    · exact agrees
  | release endpoint id => exact agrees.released endpoint id

theorem acquisitions_le_call (call : PoolCall) :
    ledger.acquisitions ≤ (ledger.call call).acquisitions := by
  cases call with
  | acquire endpoint now | lease endpoint now =>
    unfold Ledger.call
    dsimp only
    split
    · exact Nat.le_succ _
    · exact Nat.le_refl _
  | drop place =>
    unfold Ledger.call
    dsimp only
    split <;> exact Nat.le_refl _
  | release endpoint id => exact Nat.le_refl _

theorem through_concat (calls : List PoolCall) (last : PoolCall) :
    through expiry (calls ++ [last]) = (through expiry calls).call last :=
  List.foldl_concat ..

theorem agrees_through (calls : List PoolCall)
    (few : (through expiry calls).acquisitions < UInt64.size) : (through expiry calls).Agrees := by
  induction calls using List.reverseRecOn with
  | nil => exact agrees_opened expiry
  | append_singleton calls last ih =>
    rw [through_concat] at few ⊢
    have few_before := Nat.lt_of_le_of_lt (acquisitions_le_call last) few
    exact agrees_call (ih few_before) few_before last

/-! ## What the end of a lease changes -/

/-- A live lease gives back nobody's id but its own. -/
structure FreesOwn (ledger : Ledger) : Prop where
  /-- The recorded holder is the lease whose acquisition took the id last. -/
  isHolder_iff : ∀ number lease, (number, lease) ∈ ledger.live →
    (ledger.pool.isHolder lease = true ↔ ledger.latest lease.key = some number)
  /-- That lease frees its id when it ends, and no other id. -/
  frees : ∀ number lease, (number, lease) ∈ ledger.live → ledger.latest lease.key = some number →
    ledger.pool.isHeld lease.endpoint lease.id = true ∧
    ledger.pool.drop lease = ledger.pool.release lease.endpoint lease.id ∧
    ∀ key, (ledger.pool.drop lease).holder? key.1 key.2 =
      if key = lease.key then none else ledger.pool.holder? key.1 key.2
  /-- The end of any other lease changes nothing. -/
  spares : ∀ number lease, (number, lease) ∈ ledger.live → ledger.latest lease.key ≠ some number →
    ledger.pool.drop lease = ledger.pool
  /-- Of the live leases of an id at most one is the recorded holder. -/
  alone : ledger.live.Pairwise fun first second => first.2.key = second.2.key →
    ¬(ledger.pool.isHolder first.2 = true ∧ ledger.pool.isHolder second.2 = true)

theorem frees_own_through (expiry : Duration) (calls : List PoolCall)
    (few : (through expiry calls).acquisitions < UInt64.size) :
    (through expiry calls).FreesOwn := by
  have agrees := agrees_through calls few
  generalize through expiry calls = ledger at agrees few ⊢
  refine ⟨?isHolder_iff, ?frees, ?spares, ?alone⟩
  case isHolder_iff =>
    intro number lease live
    exact agrees.isHolder_iff few live
  case frees =>
    intro number lease live last
    have good : ledger.pool.isHolder lease = true := (agrees.isHolder_iff few live).mpr last
    have drop_eq : ledger.pool.drop lease = ledger.pool.release lease.endpoint lease.id :=
      if_pos good
    refine ⟨InstanceIdPool.isHeld_of_isHolder good, drop_eq, fun key => ?_⟩
    rw [drop_eq]
    exact InstanceIdPool.holder?_release ledger.pool lease.endpoint lease.id key
  case spares =>
    intro number lease live other
    have stale : ¬ledger.pool.isHolder lease = true := fun good =>
      other ((agrees.isHolder_iff few live).mp good)
    exact if_neg stale
  case alone =>
    have distinct : ledger.live.Pairwise fun first second => first.1 ≠ second.1 :=
      List.pairwise_map.mp agrees.distinct
    refine distinct.imp_of_mem fun {first second} first_live second_live ne same both => ne ?_
    have first_last := (agrees.isHolder_iff few first_live).mp both.1
    have second_last := (agrees.isHolder_iff few second_live).mp both.2
    rw [same, second_last] at first_last
    exact Option.some.inj first_last.symm

/-- The ids of an endpoint are used up, and the first one expires and is leased again. -/
def reclaimed : List PoolCall :=
  .lease 2 0 :: List.replicate 31 (.acquire 2 nanosPerSecond) ++ [.lease 2 (10 * nanosPerSecond)]

/-- Of the two live leases of the reclaimed id the first one does not free the second one's. -/
theorem frees_own_reclaimed :
    (through (.ofSeconds 5) reclaimed).acquisitions < UInt64.size ∧
    (through (.ofSeconds 5) reclaimed).FreesOwn ∧
    (through (.ofSeconds 5) reclaimed).live = [(32, ⟨2, 0, 32⟩), (0, ⟨2, 0, 0⟩)] ∧
    (through (.ofSeconds 5) reclaimed).pool.drop ⟨2, 0, 0⟩ =
      (through (.ofSeconds 5) reclaimed).pool := by
  have few : (through (.ofSeconds 5) reclaimed).acquisitions < UInt64.size := by decide +kernel
  have live : (through (.ofSeconds 5) reclaimed).live = [(32, ⟨2, 0, 32⟩), (0, ⟨2, 0, 0⟩)] := by
    decide +kernel
  have own := frees_own_through (.ofSeconds 5) reclaimed few
  refine ⟨few, own, live, own.spares 0 ⟨2, 0, 0⟩ ?_ ?_⟩
  · rw [live]
    decide
  · decide +kernel

end Ledger

end FirmwareAgent
