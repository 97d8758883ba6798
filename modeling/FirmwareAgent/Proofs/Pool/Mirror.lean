import Mathlib.Data.List.Forall2
import FirmwareAgent.Proofs.Pool.Holders

/-!
# Two pools that are alike at an endpoint

Two pools have lent the same ids of an endpoint at the same times, whatever else they have lent, and
however often. The generations differ then, so a lease of the one stands for a lease of the other,
and both are good or neither is.

* `Mirrors.acquire` and `Mirrors.drop`: the pools stay alike if both are asked for the same.
* `Mirrors.other`: they stay alike if one of them serves another endpoint.
-/

namespace FirmwareAgent

/-! ## Lists that are related place by place -/

section

variable {α β : Type} {related : α → β → Prop} {items : List α} {others : List β}

theorem rel_getElem? (same : List.Forall₂ related items others) (place : Nat) :
    Option.Rel related items[place]? others[place]? := by
  induction same generalizing place with
  | nil => exact .none
  | cons first _ ih =>
    cases place with
    | zero => exact .some first
    | succ place => exact ih place

theorem rel_set {item : α} {other : β} (same : List.Forall₂ related items others)
    (new : related item other) (place : Nat) :
    List.Forall₂ related (items.set place item) (others.set place other) := by
  induction same generalizing place with
  | nil => exact .nil
  | cons first rest ih =>
    cases place with
    | zero => exact .cons new rest
    | succ place => exact .cons first (ih place)

theorem rel_eraseIdx (same : List.Forall₂ related items others) (place : Nat) :
    List.Forall₂ related (items.eraseIdx place) (others.eraseIdx place) := by
  induction same generalizing place with
  | nil => exact .nil
  | cons first rest ih =>
    cases place with
    | zero => exact rest
    | succ place => exact .cons first (ih place)

end

/-! ## Pairs of leases -/

/-- Which lease of one pool stands for which lease of another. -/
def LeasePairing :=
  Lease → Lease → Prop

/-- The pairing with one more pair. -/
def LeasePairing.add (paired : LeasePairing) (lease lease' : Lease) : LeasePairing :=
  fun other other' => paired other other' ∨ other = lease ∧ other' = lease'

namespace InstanceIdPool

/-- Since when an id is held. -/
def since? (pool : InstanceIdPool) (endpoint : EndpointId) (id : InstanceId) : Option Instant :=
  (pool.holder? endpoint id).map (·.acquiredAt)

/-- The held ids of an endpoint, and since when they are held. -/
def loans (pool : InstanceIdPool) (endpoint : EndpointId) : List (InstanceId × Instant) :=
  InstanceId.all.filterMap fun id => (pool.since? endpoint id).map (id, ·)

/-! ## An acquisition reads nothing but the loans -/

/-- The id that an acquisition takes, free or not. -/
def choice? (pool : InstanceIdPool) (endpoint : EndpointId) (now : Instant) : Option InstanceId :=
  match pool.lowestFree? endpoint with
  | some id => some id
  | none =>
    ((pool.oldest? endpoint).filter fun held =>
      decide (pool.expiry.nanos < now - held.2.acquiredAt)).map (·.1)

theorem acquire_eq (pool : InstanceIdPool) (endpoint : EndpointId) (now : Instant) :
    pool.acquire endpoint now =
      match pool.choice? endpoint now with
      | some id => .ok (pool.hold endpoint id now)
      | none => .error (.resourceExhausted endpoint) := by
  unfold acquire choice?
  cases pool.lowestFree? endpoint with
  | some id => rfl
  | none =>
    cases pool.oldest? endpoint with
    | none => rfl
    | some held =>
      by_cases expired : pool.expiry.nanos < now - held.2.acquiredAt <;>
        simp [Option.filter, expired]

/-- Of two loans the one that has lasted longer, the first one if they are equally old. -/
def olderLoan (first second : InstanceId × Instant) : InstanceId × Instant :=
  if second.2 < first.2 then second else first

theorem stamp_foldl_older (first : InstanceId × Holder) (others : List (InstanceId × Holder)) :
    Prod.map id Holder.acquiredAt (others.foldl older first) =
      (others.map (Prod.map id Holder.acquiredAt)).foldl olderLoan
        (Prod.map id Holder.acquiredAt first) := by
  induction others generalizing first with
  | nil => rfl
  | cons other others ih =>
    rw [List.foldl_cons, ih]
    refine congrArg (List.foldl olderLoan · _) ?_
    simp only [older, olderLoan, Prod.map_snd]
    split <;> rfl

theorem stamp_oldest? (pool : InstanceIdPool) (endpoint : EndpointId) :
    (pool.oldest? endpoint).map (Prod.map id Holder.acquiredAt) =
      match pool.loans endpoint with
      | [] => none
      | first :: others => some (others.foldl olderLoan first) := by
  have loans_eq : pool.loans endpoint =
      (InstanceId.all.filterMap fun id => (pool.holder? endpoint id).map (id, ·)).map
        (Prod.map id Holder.acquiredAt) := by
    simp only [loans, since?, List.map_filterMap, Option.map_map]
    rfl
  rw [loans_eq]
  unfold oldest?
  split
  · rename_i none_held
    rw [none_held]
    rfl
  · rename_i first others held
    rw [held]
    exact congrArg some (stamp_foldl_older first others)

section

variable {pool pool' : InstanceIdPool} {endpoint : EndpointId}

theorem loans_congr (since : ∀ id, pool'.since? endpoint id = pool.since? endpoint id) :
    pool'.loans endpoint = pool.loans endpoint := by
  simp only [loans, since]

theorem choice?_congr (expiry : pool'.expiry = pool.expiry)
    (since : ∀ id, pool'.since? endpoint id = pool.since? endpoint id) (now : Instant) :
    pool'.choice? endpoint now = pool.choice? endpoint now := by
  have held (id : InstanceId) : pool'.isHeld endpoint id = pool.isHeld endpoint id := by
    have same := congrArg Option.isSome (since id)
    rwa [since?, since?, Option.isSome_map, Option.isSome_map] at same
  have free : pool'.lowestFree? endpoint = pool.lowestFree? endpoint := by
    simp only [lowestFree?, held]
  -- Whether the oldest loan has expired, and which it is, can be read off its stamp.
  have picked (pool : InstanceIdPool) :
      ((pool.oldest? endpoint).filter fun held =>
        decide (pool.expiry.nanos < now - held.2.acquiredAt)).map (·.1) =
      (((pool.oldest? endpoint).map (Prod.map id Holder.acquiredAt)).filter fun loan =>
        decide (pool.expiry.nanos < now - loan.2)).map (·.1) := by
    cases pool.oldest? endpoint with
    | none => rfl
    | some held =>
      by_cases expired : pool.expiry.nanos < now - held.2.acquiredAt <;>
        simp [Option.filter, expired]
  unfold choice?
  rw [free, picked, picked, stamp_oldest?, stamp_oldest?, loans_congr since, expiry]

end

/-! ## What the operations do to the loans of an endpoint -/

variable {pool pool' lent after : InstanceIdPool} {endpoint : EndpointId} {now : Instant}
  {lease lease' : Lease}

theorem since?_release (pool : InstanceIdPool) (endpoint : EndpointId) (id other : InstanceId) :
    (pool.release endpoint id).since? endpoint other =
      if other = id then none else pool.since? endpoint other := by
  have holder := holder?_release pool endpoint id (endpoint, other)
  simp only [Prod.mk.injEq, true_and] at holder
  rw [since?, holder]
  split <;> rfl

theorem since?_hold (pool : InstanceIdPool) (endpoint : EndpointId) (now : Instant)
    (id other : InstanceId) : (pool.hold endpoint id now).2.since? endpoint other =
      if other = id then some now else pool.since? endpoint other := by
  have holder : (pool.hold endpoint id now).2.holder? endpoint other =
      if (endpoint, other) = (endpoint, id) then some ⟨now, pool.nextGeneration⟩
      else pool.holder? endpoint other := holder?_hold id (endpoint, other)
  simp only [Prod.mk.injEq, true_and] at holder
  rw [since?, holder]
  split <;> rfl

theorem isHolder_release (id : InstanceId) : (pool.release endpoint id).isHolder lease =
    if lease.key = (endpoint, id) then false else pool.isHolder lease := by
  rw [isHolder_eq, holder?_release, isHolder_eq]
  split <;> rfl

theorem isHolder_hold (id : InstanceId) : (pool.hold endpoint id now).2.isHolder lease =
    if lease.key = (endpoint, id) then pool.nextGeneration == lease.generation
    else pool.isHolder lease := by
  rw [isHolder_eq, holder?_hold, isHolder_eq]
  split <;> rfl

/-- What a pool has lent of an endpoint is the same later. -/
structure Spares (endpoint : EndpointId) (pool after : InstanceIdPool) : Prop where
  expiry : after.expiry = pool.expiry
  holder : ∀ id, after.holder? endpoint id = pool.holder? endpoint id

theorem Spares.refl (endpoint : EndpointId) (pool : InstanceIdPool) : pool.Spares endpoint pool :=
  ⟨rfl, fun _ => rfl⟩

theorem Spares.trans (spares : Spares endpoint pool lent)
    (then_spares : Spares endpoint lent after) : Spares endpoint pool after :=
  ⟨then_spares.expiry.trans spares.expiry, fun id =>
    (then_spares.holder id).trans (spares.holder id)⟩

theorem spares_release {other : EndpointId} (ne : other ≠ endpoint) (id : InstanceId) :
    Spares endpoint pool (pool.release other id) := by
  refine ⟨rfl, fun held => ?_⟩
  have holder := holder?_release pool other id (endpoint, held)
  rwa [if_neg fun same => ne (congrArg Prod.fst same).symm] at holder

theorem spares_drop (ne : lease.endpoint ≠ endpoint) : Spares endpoint pool (pool.drop lease) := by
  unfold drop
  split
  · exact spares_release ne lease.id
  · exact .refl endpoint pool

theorem spares_acquire {other : EndpointId} (ne : other ≠ endpoint)
    (acquired : pool.acquire other now = .ok (lease, lent)) : Spares endpoint pool lent := by
  obtain ⟨id, _, rfl⟩ := eq_hold_of_acquire acquired
  refine ⟨rfl, fun held => ?_⟩
  have holder : (pool.hold other id now).2.holder? endpoint held =
      if (endpoint, held) = (other, id) then some ⟨now, pool.nextGeneration⟩
      else pool.holder? endpoint held := holder?_hold id (endpoint, held)
  rwa [if_neg fun same => ne (congrArg Prod.fst same).symm] at holder

theorem follows_release (pool : InstanceIdPool) (endpoint : EndpointId) (id : InstanceId) :
    pool.Follows (pool.release endpoint id) := by
  refine ⟨.inl rfl, fun lease good => .inl ?_⟩
  rw [isHolder_release] at good
  split at good
  · cases good
  · exact good

/-! ## Pools that are alike -/

/-- Both pools have lent the same of an endpoint. Each has made at most `count` acquisitions since
the first lease of the pairing. -/
structure Mirrors (paired : LeasePairing) (count : Nat) (endpoint : EndpointId)
    (pool pool' : InstanceIdPool) : Prop where
  expiry : pool'.expiry = pool.expiry
  since : ∀ id, pool'.since? endpoint id = pool.since? endpoint id
  key : ∀ {lease lease'}, paired lease lease' →
    lease.endpoint = endpoint ∧ lease'.key = lease.key
  good : ∀ {lease lease'}, paired lease lease' → pool'.isHolder lease' = pool.isHolder lease
  recent : ∀ {lease lease'}, paired lease lease' →
    pool.IsRecent count lease ∧ pool'.IsRecent count lease'

variable {paired : LeasePairing} {count : Nat}

/-- A pool is like itself before any lease is made. -/
theorem mirrors_self (endpoint : EndpointId) (pool : InstanceIdPool) :
    Mirrors (fun _ _ => False) 0 endpoint pool pool :=
  ⟨rfl, fun _ => rfl, False.elim, False.elim, False.elim⟩

namespace Mirrors

variable (mirrors : Mirrors paired count endpoint pool pool')

include mirrors

theorem loans : pool'.loans endpoint = pool.loans endpoint :=
  loans_congr mirrors.since

/-- What the first pool does for another endpoint is nothing to this one. -/
theorem aside {more : Nat} (spares : Spares endpoint pool after) (grows : count ≤ more)
    (recent : ∀ {lease}, pool.IsRecent count lease → after.IsRecent more lease) :
    Mirrors paired more endpoint after pool' where
  expiry := mirrors.expiry.trans spares.expiry.symm
  since id := by
    rw [mirrors.since, since?, since?, spares.holder]
  key := mirrors.key
  good {lease lease'} pair := by
    rw [mirrors.good pair, isHolder, isHolder, (mirrors.key pair).1, spares.holder]
  recent pair :=
    ⟨recent (mirrors.recent pair).1, (mirrors.recent pair).2.mono grows⟩

theorem other (spares : Spares endpoint pool after) (follows : pool.Follows after) :
    Mirrors paired (count + 1) endpoint after pool' :=
  mirrors.aside spares (Nat.le_succ count) follows.isRecent

theorem later : Mirrors paired (count + 1) endpoint pool pool' :=
  mirrors.other (.refl endpoint pool) (.refl pool)

theorem release (id : InstanceId) :
    Mirrors paired count endpoint (pool.release endpoint id) (pool'.release endpoint id) where
  expiry := mirrors.expiry
  since other := by rw [since?_release, since?_release, mirrors.since]
  key := mirrors.key
  good pair := by rw [isHolder_release, isHolder_release, (mirrors.key pair).2, mirrors.good pair]
  recent := mirrors.recent

/-- Leases that stand for each other give the same id back, or both do nothing. -/
theorem drop (pair : paired lease lease') :
    Mirrors paired count endpoint (pool.drop lease) (pool'.drop lease') := by
  obtain ⟨rfl, key⟩ := mirrors.key pair
  obtain ⟨endpoint_eq, id_eq⟩ := Prod.mk.inj key
  unfold InstanceIdPool.drop
  rw [mirrors.good pair, endpoint_eq, id_eq]
  split
  · exact mirrors.release lease.id
  · exact mirrors

theorem hold (few : count < UInt64.size) (id : InstanceId) (now : Instant) :
    Mirrors (paired.add (pool.hold endpoint id now).1 (pool'.hold endpoint id now).1) (count + 1)
      endpoint (pool.hold endpoint id now).2 (pool'.hold endpoint id now).2 := by
  have next (pool : InstanceIdPool) {lease : Lease} (recent : pool.IsRecent count lease) :
      (pool.hold endpoint id now).2.IsRecent (count + 1) lease := by
    obtain ⟨age, positive, bounded, generation_eq⟩ := recent
    refine ⟨age + 1, Nat.succ_pos _, Nat.succ_le_succ bounded, ?_⟩
    rw [UInt64.ofNat_add, ← UInt64.add_assoc, generation_eq]
    rfl
  have newest (pool : InstanceIdPool) :
      (pool.hold endpoint id now).2.IsRecent (count + 1) (pool.hold endpoint id now).1 :=
    ⟨1, Nat.one_pos, Nat.succ_le_succ (Nat.zero_le _), rfl⟩
  -- No lease that is recent has the generation of this acquisition, so none is good for its id.
  have stale (pool : InstanceIdPool) {lease : Lease} (recent : pool.IsRecent count lease) :
      (pool.nextGeneration == lease.generation) = false := by
    simpa using (recent.generation_ne few).symm
  refine ⟨mirrors.expiry, fun other => ?_, ?_, ?_, ?_⟩
  · rw [since?_hold, since?_hold, mirrors.since]
  · rintro lease lease' (pair | ⟨rfl, rfl⟩)
    · exact mirrors.key pair
    · exact ⟨rfl, rfl⟩
  · rintro lease lease' (pair | ⟨rfl, rfl⟩)
    · rw [isHolder_hold, isHolder_hold, (mirrors.key pair).2, mirrors.good pair,
        stale pool (mirrors.recent pair).1, stale pool' (mirrors.recent pair).2]
    · have good (pool : InstanceIdPool) :
          (pool.hold endpoint id now).2.isHolder (pool.hold endpoint id now).1 = true := by
        have key : (pool.hold endpoint id now).1.key = (endpoint, id) := rfl
        rw [isHolder_hold, if_pos key]
        exact beq_self_eq_true _
      rw [good, good]
  · rintro lease lease' (pair | ⟨rfl, rfl⟩)
    · exact ⟨next pool (mirrors.recent pair).1, next pool' (mirrors.recent pair).2⟩
    · exact ⟨newest pool, newest pool'⟩

/-- Both pools lend the same id, or neither lends any. -/
theorem acquire (few : count < UInt64.size) (now : Instant) :
    (∃ error, pool.acquire endpoint now = .error error ∧
        pool'.acquire endpoint now = .error error) ∨
      ∃ lease lent lease' lent', pool.acquire endpoint now = .ok (lease, lent) ∧
        pool'.acquire endpoint now = .ok (lease', lent') ∧ lease'.id = lease.id ∧
        Mirrors (paired.add lease lease') (count + 1) endpoint lent lent' := by
  rw [acquire_eq, acquire_eq, choice?_congr mirrors.expiry mirrors.since]
  cases pool.choice? endpoint now with
  | none => exact .inl ⟨_, rfl, rfl⟩
  | some id => exact .inr ⟨_, _, _, _, rfl, rfl, rfl, mirrors.hold few id now⟩

end Mirrors

end InstanceIdPool

end FirmwareAgent
