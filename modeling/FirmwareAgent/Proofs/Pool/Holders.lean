import FirmwareAgent.InstanceIdPool

/-!
# Who holds an instance id

What the operations of the pool do to its holders, and what that means for leases. A lease is good
as long as it is the recorded holder of its id.

* `Lends`: leases that are good at the same time. `Lends.drop` and `Lends.acquire` say how the
  leases outside the pool follow the pool.
* `Follows`: nobody becomes a holder except by the next acquisition. A lease that is no longer good
  stays so, until the generations are used up (`Follows.lost`).
-/

namespace FirmwareAgent

/-- What a lease is a lease of. -/
def Lease.key (lease : Lease) : EndpointId × InstanceId :=
  (lease.endpoint, lease.id)

namespace InstanceIdPool

variable {pool lent later : InstanceIdPool} {endpoint : EndpointId} {now : Instant}
  {lease other : Lease}

/-! ## Holders -/

theorem lookup_filter_ne {α β : Type} [BEq α] [LawfulBEq α] [DecidableEq α] (removed key : α)
    (entries : List (α × β)) :
    (entries.filter (·.1 ≠ removed)).lookup key =
      if key = removed then none else entries.lookup key := by
  induction entries with
  | nil => simp
  | cons entry entries ih =>
    obtain ⟨found, value⟩ := entry
    by_cases gone : found = removed
    · have kept : ((found, value) :: entries).filter (·.1 ≠ removed) =
          entries.filter (·.1 ≠ removed) := by simp [gone]
      rw [kept, ih]
      split
      · rfl
      · rename_i ne
        have differs : (key == found) = false := by simp [gone, ne]
        rw [List.lookup_cons, differs]
    · have kept : ((found, value) :: entries).filter (·.1 ≠ removed) =
          (found, value) :: entries.filter (·.1 ≠ removed) := by simp [gone]
      rw [kept, List.lookup_cons, List.lookup_cons, ih]
      by_cases here : key = found
      · simp [here, gone]
      · have differs : (key == found) = false := by simpa using here
        rw [differs]

variable (pool endpoint) in
theorem holder?_release (id : InstanceId) (key : EndpointId × InstanceId) :
    (pool.release endpoint id).holder? key.1 key.2 =
      if key = (endpoint, id) then none else pool.holder? key.1 key.2 :=
  lookup_filter_ne (endpoint, id) key pool.holders

theorem holder?_hold (id : InstanceId) (key : EndpointId × InstanceId) :
    (pool.hold endpoint id now).2.holder? key.1 key.2 =
      if key = (endpoint, id) then some ⟨now, pool.nextGeneration⟩
      else pool.holder? key.1 key.2 := by
  have others := holder?_release pool endpoint id key
  simp only [holder?, hold, List.lookup_cons] at others ⊢
  by_cases same : key = (endpoint, id)
  · simp [same]
  · have differs : (key == (endpoint, id)) = false := by simpa using same
    rw [if_neg same] at others
    rw [if_neg same, differs]
    exact others

/-- The end of a lease removes at most its own record. -/
theorem holder?_drop (key : EndpointId × InstanceId) :
    (pool.drop lease).holder? key.1 key.2 =
      if key = lease.key ∧ pool.isHolder lease = true then none
      else pool.holder? key.1 key.2 := by
  unfold drop
  split
  · rename_i good
    rw [holder?_release]
    simp only [Lease.key, good, and_true]
  · rename_i stale
    rw [if_neg fun both => stale both.2]

/-- An acquisition holds some id. -/
theorem eq_hold_of_acquire (acquired : pool.acquire endpoint now = .ok (lease, lent)) :
    ∃ id, lease = ⟨endpoint, id, pool.nextGeneration⟩ ∧ lent = (pool.hold endpoint id now).2 := by
  unfold acquire at acquired
  split at acquired
  · rename_i id free
    cases acquired
    exact ⟨id, rfl, rfl⟩
  · split at acquired
    · cases acquired
    · rename_i id holder oldest
      split at acquired
      · cases acquired
        exact ⟨id, rfl, rfl⟩
      · cases acquired

theorem endpoint_of_acquire (acquired : pool.acquire endpoint now = .ok (lease, lent)) :
    lease.endpoint = endpoint := by
  obtain ⟨id, rfl, _⟩ := eq_hold_of_acquire acquired
  rfl

theorem isHolder_eq : pool.isHolder lease =
    (pool.holder? lease.key.1 lease.key.2).any (·.generation == lease.generation) :=
  rfl

/-! ## Good leases -/

/-- A lease is not good once it is dropped. -/
theorem isHolder_drop_self : (pool.drop lease).isHolder lease = false := by
  unfold drop
  split
  · rw [isHolder_eq, holder?_release, Lease.key, if_pos rfl]
    rfl
  · rename_i lost
    simpa using lost

/-- Dropping a lease leaves the leases of other ids alone. -/
theorem isHolder_drop_of_ne (ne : other.key ≠ lease.key) :
    (pool.drop lease).isHolder other = pool.isHolder other := by
  unfold drop
  split
  · rw [isHolder_eq, holder?_release, isHolder_eq]
    exact congrArg _ (if_neg ne)
  · rfl

theorem isHolder_of_drop (good : (pool.drop lease).isHolder other = true) :
    pool.isHolder other = true := by
  by_cases same : other.key = lease.key
  · unfold drop at good
    split at good
    · rw [isHolder_eq, holder?_release, if_pos (by simpa [Lease.key] using same)] at good
      cases good
    · exact good
  · rwa [isHolder_drop_of_ne same] at good

theorem nextGeneration_drop : (pool.drop lease).nextGeneration = pool.nextGeneration := by
  unfold drop
  split <;> rfl

/-- What an acquisition hands out is good. -/
theorem isHolder_acquire (acquired : pool.acquire endpoint now = .ok (lease, lent)) :
    lent.isHolder lease = true := by
  obtain ⟨id, rfl, rfl⟩ := eq_hold_of_acquire acquired
  rw [isHolder_eq, holder?_hold, Lease.key, if_pos rfl]
  simp

/-- An acquisition leaves the leases of other ids alone. -/
theorem isHolder_acquire_of_ne (acquired : pool.acquire endpoint now = .ok (lease, lent))
    (ne : other.key ≠ lease.key) : lent.isHolder other = pool.isHolder other := by
  obtain ⟨id, rfl, rfl⟩ := eq_hold_of_acquire acquired
  rw [isHolder_eq, holder?_hold, isHolder_eq]
  exact congrArg _ (if_neg ne)

theorem isHeld_of_isHolder (good : pool.isHolder lease = true) :
    pool.isHeld lease.endpoint lease.id = true :=
  Option.isSome_of_any good

/-! ## Leases that are good at the same time -/

/-- The leases are good, and they are of different ids. -/
structure Lends (pool : InstanceIdPool) (leases : List Lease) : Prop where
  good : ∀ lease ∈ leases, pool.isHolder lease = true
  distinct : (leases.map Lease.key).Nodup

theorem Lends.perm {leases leases' : List Lease} (lends : pool.Lends leases)
    (perm : leases.Perm leases') : pool.Lends leases' :=
  ⟨fun lease mem => lends.good lease (perm.mem_iff.mpr mem),
    (perm.map Lease.key).nodup_iff.mp lends.distinct⟩

theorem Lends.sublist {leases leases' : List Lease} (lends : pool.Lends leases)
    (sublist : leases'.Sublist leases) : pool.Lends leases' :=
  ⟨fun lease mem => lends.good lease (sublist.subset mem),
    (sublist.map Lease.key).nodup lends.distinct⟩

/-- When one of the leases is dropped, the others stay good. -/
theorem Lends.drop {leases : List Lease} (lends : pool.Lends (lease :: leases)) :
    (pool.drop lease).Lends leases := by
  obtain ⟨fresh, distinct⟩ := List.nodup_cons.mp lends.distinct
  refine ⟨fun other mem => ?_, distinct⟩
  have ne : other.key ≠ lease.key := fun same =>
    fresh (same ▸ List.mem_map_of_mem mem)
  rw [isHolder_drop_of_ne ne]
  exact lends.good other (List.mem_cons_of_mem _ mem)

/-- An acquisition that takes nobody's id leaves all leases good, and hands out one more. -/
theorem Lends.acquire {leases : List Lease} (lends : pool.Lends leases)
    (acquired : pool.acquire endpoint now = .ok (lease, lent))
    (free : pool.isHeld lease.endpoint lease.id = false) : lent.Lends (lease :: leases) := by
  have ne (other : Lease) (mem : other ∈ leases) : other.key ≠ lease.key := by
    intro same
    obtain ⟨endpoint_eq, id_eq⟩ := Prod.mk.injEq .. ▸ same
    have held := isHeld_of_isHolder (lends.good other mem)
    rw [endpoint_eq, id_eq, free] at held
    cases held
  refine ⟨List.forall_mem_cons.mpr ⟨isHolder_acquire acquired, fun other mem => ?_⟩,
    List.nodup_cons.mpr ⟨fun mem => ?_, lends.distinct⟩⟩
  · rw [isHolder_acquire_of_ne acquired (ne other mem)]
    exact lends.good other mem
  · obtain ⟨other, found, same⟩ := List.mem_map.mp mem
    exact ne other found same

/-! ## Leases that are no longer good -/

/-- At most one acquisition happened in between, and nobody else became a holder. -/
structure Follows (pool later : InstanceIdPool) : Prop where
  generation : later.nextGeneration = pool.nextGeneration ∨
    later.nextGeneration = pool.nextGeneration + 1
  holder : ∀ lease, later.isHolder lease = true →
    pool.isHolder lease = true ∨ lease.generation = pool.nextGeneration

theorem Follows.refl (pool : InstanceIdPool) : pool.Follows pool :=
  ⟨.inl rfl, fun _ good => .inl good⟩

theorem follows_drop (pool : InstanceIdPool) (lease : Lease) : pool.Follows (pool.drop lease) :=
  ⟨.inl nextGeneration_drop, fun _ good => .inl (isHolder_of_drop good)⟩

theorem follows_acquire (acquired : pool.acquire endpoint now = .ok (lease, lent)) :
    pool.Follows lent := by
  refine ⟨?_, fun other good => ?_⟩
  · obtain ⟨id, _, rfl⟩ := eq_hold_of_acquire acquired
    exact .inr rfl
  · by_cases same : other.key = lease.key
    · obtain ⟨id, rfl, rfl⟩ := eq_hold_of_acquire acquired
      have same : other.key = (endpoint, id) := same
      rw [isHolder_eq, holder?_hold, if_pos same] at good
      exact .inr (eq_of_beq good).symm
    · rw [isHolder_acquire_of_ne acquired same] at good
      exact .inl good

/-- The lease was made by one of the last acquisitions, of which there were at most `count`. -/
def IsRecent (pool : InstanceIdPool) (count : Nat) (lease : Lease) : Prop :=
  ∃ age, 0 < age ∧ age ≤ count ∧ lease.generation + UInt64.ofNat age = pool.nextGeneration

theorem isRecent_acquire (acquired : pool.acquire endpoint now = .ok (lease, lent)) (count : Nat) :
    lent.IsRecent (count + 1) lease := by
  obtain ⟨id, rfl, rfl⟩ := eq_hold_of_acquire acquired
  exact ⟨1, Nat.one_pos, Nat.succ_le_succ (Nat.zero_le _), rfl⟩

theorem IsRecent.mono {count more : Nat} (recent : pool.IsRecent count lease)
    (grows : count ≤ more) : pool.IsRecent more lease := by
  obtain ⟨age, positive, bounded, generation_eq⟩ := recent
  exact ⟨age, positive, Nat.le_trans bounded grows, generation_eq⟩

theorem Follows.isRecent {count : Nat} (follows : pool.Follows later)
    (recent : pool.IsRecent count lease) : later.IsRecent (count + 1) lease := by
  obtain ⟨age, positive, bounded, generation_eq⟩ := recent
  rcases follows.generation with same | next
  · exact ⟨age, positive, Nat.le_succ_of_le bounded, generation_eq.trans same.symm⟩
  · refine ⟨age + 1, Nat.succ_pos _, Nat.succ_le_succ bounded, ?_⟩
    rw [next, ← generation_eq, UInt64.ofNat_add, UInt64.add_assoc]
    rfl

/-- The next acquisition has a generation that no recent one had. -/
theorem IsRecent.generation_ne {count : Nat} (recent : pool.IsRecent count lease)
    (few : count < UInt64.size) : lease.generation ≠ pool.nextGeneration := by
  obtain ⟨age, positive, bounded, generation_eq⟩ := recent
  intro same
  -- Both have the generation, so the acquisitions in between are a multiple of all generations.
  have none_passed : (UInt64.ofNat age).toNat = 0 := by
    have sum := congrArg UInt64.toNat (generation_eq.trans same.symm)
    rw [UInt64.toNat_add] at sum
    have bound := (UInt64.ofNat age).toNat_lt
    have bound' := lease.generation.toNat_lt
    omega
  rw [UInt64.toNat_ofNat_of_lt' (Nat.lt_of_le_of_lt bounded few)] at none_passed
  omega

/-- A lease that is no longer good does not become good again. -/
theorem Follows.lost {count : Nat} (follows : pool.Follows later)
    (recent : pool.IsRecent count lease) (few : count < UInt64.size)
    (lost : pool.isHolder lease = false) : later.isHolder lease = false := by
  refine Bool.eq_false_iff.mpr fun good => ?_
  rcases follows.holder lease good with still | fresh
  · simp [lost] at still
  · exact recent.generation_ne few fresh

end InstanceIdPool

end FirmwareAgent
