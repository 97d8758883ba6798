import FirmwareAgent.Proofs.Pool.Mirror

/-!
# One user of the pool among others

A record of the pool says since when an id is held, but not by whom. The notes of a shared pool tell
the records of one user from those of everyone else, whoever that is and whatever they do.

* `SharedPool.Account` is the invariant for a user with at most one lease. It is kept when the user
  gives its lease back (`Account.gives`) and when it takes a new one (`Account.takes`), and when
  anybody else writes a record (`Account.written`), be it that of the user's id.
* `Account.initial_of` and `Account.others_of`: what the user does not hold is as it was at first,
  or as the others have left it.
-/

namespace FirmwareAgent

/-- A pool that a user shares with others. -/
structure SharedPool where
  pool : InstanceIdPool
  /-- The ids that the user has acquired, and that nobody else has acquired or released since. -/
  own : EndpointId × InstanceId → Bool := fun _ => false
  /-- What the others have left recorded: the records found at first and those written since, less
  those of the ids that the user took. -/
  others : EndpointId × InstanceId → Option Holder
  /-- The ids whose record somebody else has written, or has lost to the user. -/
  touched : EndpointId × InstanceId → Bool := fun _ => false

namespace SharedPool

/-- A pool that the user has not used yet. -/
def opened (pool : InstanceIdPool) : SharedPool where
  pool := pool
  others key := pool.holder? key.1 key.2

/-- The user has used the pool: it has acquired some ids, each from whoever held it before. -/
def used (shared : SharedPool) (before after : InstanceIdPool)
    (taken : List (EndpointId × InstanceId)) : SharedPool where
  pool := after
  own key := shared.own key || taken.contains key
  others key := if taken.contains key then none else shared.others key
  touched key := shared.touched key || taken.contains key && before.isHeld key.1 key.2

/-- Somebody else has written the record of an id. -/
def written (shared : SharedPool) (key : EndpointId × InstanceId) (after : InstanceIdPool) :
    SharedPool where
  pool := after
  own other := shared.own other && other != key
  others other := if other = key then after.holder? key.1 key.2 else shared.others other
  touched other := shared.touched other || other == key

/-- An id is recorded as held, and it was the user who acquired it. -/
def Holds (shared : SharedPool) (key : EndpointId × InstanceId) : Prop :=
  shared.own key = true ∧ shared.pool.isHeld key.1 key.2 = true

/-- What the records of a pool have to do with the only lease of the user, after `count` uses. -/
structure Account (initial : InstanceIdPool) (count : Nat) (lease? : Option Lease)
    (shared : SharedPool) : Prop where
  leased : ∀ key, shared.Holds key → ∃ lease, lease? = some lease ∧ lease.key = key
  /-- The lease is good unless somebody else has written the record of its id. -/
  good : ∀ lease, lease? = some lease → shared.own lease.key = true →
    shared.pool.isHolder lease = true
  lost : ∀ lease, lease? = some lease → shared.own lease.key = false →
    shared.touched lease.key = true
  recent : ∀ lease, lease? = some lease → shared.pool.IsRecent count lease
  stale : count < UInt64.size → ∀ lease, lease? = some lease → shared.own lease.key = false →
    shared.pool.isHolder lease = false
  /-- An id that the user took from nobody was free at first. -/
  free : ∀ key, shared.own key = true → shared.touched key = false →
    initial.holder? key.1 key.2 = none
  kept : ∀ key, shared.own key = false → shared.touched key = false →
    shared.pool.holder? key.1 key.2 = initial.holder? key.1 key.2
  own_others : ∀ key, shared.own key = true → shared.others key = none
  kept_others : count < UInt64.size → ∀ key, shared.own key = false →
    shared.pool.holder? key.1 key.2 = shared.others key

end SharedPool

/-! ## What the operations write -/

namespace InstanceIdPool

variable {pool lent : InstanceIdPool} {endpoint : EndpointId} {now : Instant} {lease : Lease}

theorem isHeld_of_isHeld_drop {key : EndpointId × InstanceId}
    (held : (pool.drop lease).isHeld key.1 key.2 = true) : pool.isHeld key.1 key.2 = true := by
  unfold isHeld at held ⊢
  rw [holder?_drop] at held
  split at held
  · cases held
  · exact held

/-- Only the record of an id is written. A lease of that id is good afterwards only if this is its
acquisition. -/
structure Writes (pool : InstanceIdPool) (key : EndpointId × InstanceId)
    (after : InstanceIdPool) : Prop where
  elsewhere : ∀ other, other ≠ key → after.holder? other.1 other.2 = pool.holder? other.1 other.2
  fresh : ∀ lease : Lease, lease.key = key → after.isHolder lease = true →
    lease.generation = pool.nextGeneration
  follows : pool.Follows after

theorem writes_acquire (acquired : pool.acquire endpoint now = .ok (lease, lent)) :
    pool.Writes lease.key lent := by
  have follows := follows_acquire acquired
  obtain ⟨id, rfl, rfl⟩ := eq_hold_of_acquire acquired
  refine ⟨fun other ne => ?_, fun lease same good => ?_, follows⟩
  · rw [holder?_hold]
    exact if_neg ne
  · have same : lease.key = (endpoint, id) := same
    rw [isHolder_eq, holder?_hold, if_pos same] at good
    exact (eq_of_beq good).symm

theorem writes_release (pool : InstanceIdPool) (endpoint : EndpointId) (id : InstanceId) :
    pool.Writes (endpoint, id) (pool.release endpoint id) := by
  refine ⟨fun other ne => ?_, fun lease same good => ?_, follows_release pool endpoint id⟩
  · rw [holder?_release, if_neg ne]
  · rw [isHolder_eq, holder?_release, if_pos same] at good
    cases good

variable {after : InstanceIdPool} {key : EndpointId × InstanceId}

theorem Writes.isHolder_of_ne (writes : pool.Writes key after) (ne : lease.key ≠ key) :
    after.isHolder lease = pool.isHolder lease := by
  rw [isHolder_eq, writes.elsewhere lease.key ne, isHolder_eq]

end InstanceIdPool

/-! ## The invariant -/

namespace SharedPool

variable {initial pool lent after : InstanceIdPool} {count : Nat} {shared : SharedPool}
  {lease : Lease} {lease? : Option Lease} {key : EndpointId × InstanceId}

theorem used_nil (before : InstanceIdPool) :
    shared.used before after [] = { shared with pool := after } := by
  simp [used]

theorem holder?_of_not_holds (own : shared.own key = true) (idle : ¬ shared.Holds key) :
    shared.pool.holder? key.1 key.2 = none := by
  have free : shared.pool.isHeld key.1 key.2 = false :=
    Bool.eq_false_iff.mpr fun held => idle ⟨own, held⟩
  simpa [InstanceIdPool.isHeld] using free

namespace Account

variable (account : shared.Account initial count lease?)

include account

/-- An id that the user does not hold, and that nobody else has had to do with, has its first
record. -/
theorem initial_of (idle : ¬ shared.Holds key) (untouched : shared.touched key = false) :
    shared.pool.holder? key.1 key.2 = initial.holder? key.1 key.2 := by
  cases own : shared.own key with
  | true => rw [holder?_of_not_holds own idle, account.free key own untouched]
  | false => exact account.kept key own untouched

/-- An id that the user does not hold has the record that the others have left it. -/
theorem others_of (few : count < UInt64.size) (idle : ¬ shared.Holds key) :
    shared.pool.holder? key.1 key.2 = shared.others key := by
  cases own : shared.own key with
  | true => rw [holder?_of_not_holds own idle, account.own_others key own]
  | false => exact account.kept_others few key own

/-- A use that changes nothing. -/
theorem later : shared.Account initial (count + 1) lease? :=
  { account with
    recent := fun lease slot =>
      (InstanceIdPool.Follows.refl shared.pool).isRecent (account.recent lease slot)
    stale := fun few => account.stale (Nat.lt_of_succ_lt few)
    kept_others := fun few => account.kept_others (Nat.lt_of_succ_lt few) }

end Account

theorem account_opened (pool : InstanceIdPool) : (opened pool).Account pool 0 none where
  leased key holds := by cases holds.1
  good lease slot := by cases slot
  lost lease slot := by cases slot
  recent lease slot := by cases slot
  stale few lease slot := by cases slot
  free key own := by cases own
  kept key own untouched := rfl
  own_others key own := by cases own
  kept_others few key own := rfl

/-- The user gives its lease back. A lease that is not good any more gives nobody's id back. -/
theorem Account.gives (account : shared.Account initial count (some lease)) :
    { shared with pool := shared.pool.drop lease }.Account initial count none := by
  refine ⟨?leased, nofun, nofun, nofun, fun _ => nofun, account.free, ?kept, account.own_others,
    ?kept_others⟩
  case leased =>
    rintro key ⟨own, held⟩
    obtain ⟨lease, slot, rfl⟩ :=
      account.leased key ⟨own, InstanceIdPool.isHeld_of_isHeld_drop held⟩
    cases slot
    have good := account.good lease rfl own
    simp [InstanceIdPool.isHeld, InstanceIdPool.holder?_drop, good] at held
  case kept =>
    intro key own untouched
    have ne : key ≠ lease.key := by
      rintro rfl
      simp [account.lost lease rfl own] at untouched
    change (shared.pool.drop lease).holder? key.1 key.2 = _
    rw [InstanceIdPool.holder?_drop, if_neg fun both => ne both.1]
    exact account.kept key own untouched
  case kept_others =>
    intro few key own
    change (shared.pool.drop lease).holder? key.1 key.2 = _
    rw [InstanceIdPool.holder?_drop, if_neg]
    · exact account.kept_others few key own
    · rintro ⟨rfl, good⟩
      simp [account.stale few lease rfl own] at good

/-- The user, who has no lease, takes one. -/
theorem Account.takes {endpoint : EndpointId} {now : Instant}
    (account : shared.Account initial count none)
    (acquired : shared.pool.acquire endpoint now = .ok (lease, lent)) :
    (shared.used shared.pool lent [lease.key]).Account initial (count + 1) (some lease) := by
  have writes := InstanceIdPool.writes_acquire acquired
  have idle (key : EndpointId × InstanceId) : ¬ shared.Holds key := fun holds => by
    obtain ⟨_, slot, _⟩ := account.leased key holds
    cases slot
  have old {key : EndpointId × InstanceId}
      (own : (shared.own key || [lease.key].contains key) = false) :
      shared.own key = false ∧ key ≠ lease.key := by
    simpa using own
  refine ⟨?leased, ?good, ?lost, ?recent, fun few => ?stale, ?free, ?kept, ?own_others,
    fun few => ?kept_others⟩
  case leased =>
    rintro key ⟨own, held⟩
    rcases Bool.or_eq_true_iff.mp own with before | taken
    · by_cases same : lease.key = key
      · exact ⟨lease, rfl, same⟩
      · have held : lent.isHeld key.1 key.2 = true := held
        rw [InstanceIdPool.isHeld, writes.elsewhere key (Ne.symm same)] at held
        exact absurd ⟨before, held⟩ (idle key)
    · exact ⟨lease, rfl, by simpa using Eq.symm (by simpa using taken)⟩
  case good =>
    rintro lease ⟨⟩ _
    exact InstanceIdPool.isHolder_acquire acquired
  case lost =>
    rintro lease ⟨⟩ own
    exact absurd rfl (old own).2
  case recent =>
    rintro lease ⟨⟩
    exact InstanceIdPool.isRecent_acquire acquired count
  case stale =>
    rintro lease ⟨⟩ own
    exact absurd rfl (old own).2
  case free =>
    intro key own untouched
    obtain ⟨untouched, from_nobody⟩ := Bool.or_eq_false_iff.mp untouched
    rw [← account.initial_of (idle key) untouched]
    rcases Bool.or_eq_true_iff.mp own with before | taken
    · exact holder?_of_not_holds before (idle key)
    · rw [taken, Bool.true_and] at from_nobody
      simpa [InstanceIdPool.isHeld] using from_nobody
  case kept =>
    intro key own untouched
    obtain ⟨own, ne⟩ := old own
    exact (writes.elsewhere key ne).trans
      (account.kept key own (Bool.or_eq_false_iff.mp untouched).1)
  case own_others =>
    intro key own
    change (if [lease.key].contains key then none else shared.others key) = none
    split
    · rfl
    · rename_i other
      exact account.own_others key ((Bool.or_eq_true_iff.mp own).resolve_right other)
  case kept_others =>
    intro key own
    obtain ⟨own, ne⟩ := old own
    change lent.holder? key.1 key.2 = if [lease.key].contains key then none else shared.others key
    rw [writes.elsewhere key ne, if_neg (by simpa using ne)]
    exact account.kept_others (Nat.lt_of_succ_lt few) key own

/-- Somebody else writes a record. If it is that of the user's id, the lease is good for nothing
from then on. -/
theorem Account.written (account : shared.Account initial count lease?)
    (writes : shared.pool.Writes key after) :
    (shared.written key after).Account initial (count + 1) lease? := by
  have old {other : EndpointId × InstanceId}
      (own : (shared.own other && other != key) = true) :
      shared.own other = true ∧ other ≠ key := by
    simpa using own
  have not_own {other : EndpointId × InstanceId}
      (foreign : (shared.own other && other != key) = false) :
      other = key ∨ other ≠ key ∧ shared.own other = false := by
    by_cases same : other = key
    · exact .inl same
    · exact .inr ⟨same, by simpa [same] using foreign⟩
  have unwritten {other : EndpointId × InstanceId}
      (untouched : (shared.touched other || other == key) = false) :
      shared.touched other = false ∧ other ≠ key := by
    simpa using untouched
  refine ⟨?leased, ?good, ?lost, ?recent, fun few => ?stale, ?free, ?kept, ?own_others,
    fun few => ?kept_others⟩
  case leased =>
    rintro other ⟨own, held⟩
    obtain ⟨own, ne⟩ := old own
    have held : after.isHeld other.1 other.2 = true := held
    rw [InstanceIdPool.isHeld, writes.elsewhere other ne] at held
    exact account.leased other ⟨own, held⟩
  case good =>
    intro lease slot own
    obtain ⟨own, ne⟩ := old own
    exact (writes.isHolder_of_ne ne).trans (account.good lease slot own)
  case lost =>
    intro lease slot foreign
    refine Bool.or_eq_true_iff.mpr ?_
    rcases not_own foreign with same | ⟨_, foreign⟩
    · exact .inr (beq_iff_eq.mpr same)
    · exact .inl (account.lost lease slot foreign)
  case recent =>
    intro lease slot
    exact writes.follows.isRecent (account.recent lease slot)
  case stale =>
    intro lease slot foreign
    have few := Nat.lt_of_succ_lt few
    rcases not_own foreign with same | ⟨ne, foreign⟩
    · refine Bool.eq_false_iff.mpr fun good => ?_
      exact (account.recent lease slot).generation_ne few (writes.fresh lease same good)
    · exact (writes.isHolder_of_ne ne).trans (account.stale few lease slot foreign)
  case free =>
    intro other own untouched
    exact account.free other (old own).1 (unwritten untouched).1
  case kept =>
    intro other foreign untouched
    obtain ⟨untouched, ne⟩ := unwritten untouched
    have foreign := ((not_own foreign).resolve_left ne).2
    exact (writes.elsewhere other ne).trans (account.kept other foreign untouched)
  case own_others =>
    intro other own
    obtain ⟨own, ne⟩ := old own
    exact (if_neg ne).trans (account.own_others other own)
  case kept_others =>
    intro other foreign
    change after.holder? other.1 other.2 =
      if other = key then after.holder? key.1 key.2 else shared.others other
    rcases not_own foreign with rfl | ⟨ne, foreign⟩
    · rw [if_pos rfl]
    · rw [if_neg ne, writes.elsewhere other ne]
      exact account.kept_others (Nat.lt_of_succ_lt few) other foreign

end SharedPool

end FirmwareAgent
