import Mathlib.Data.Fintype.Card
import FirmwareAgent.Proofs.Pool.Holders

/-!
# Which id an acquisition gets

The lowest free id, or else the one that has been held longest, if that is too long. `Allocates` says
so by the recorded holders alone: what comes of an acquisition, and what is recorded afterwards.

* `isOldest_of_oldest?`: the search for the oldest holder finds it, of equally old ones the one with
  the lowest id.
* `allocates_acquire`: every acquisition is one that `Allocates` describes.
* `release_of_free`: releasing a free id changes nothing at all.
-/

namespace FirmwareAgent

namespace InstanceIdPool

/-! ## Acquisitions -/

/-- No holder of the endpoint is older, and of equally old ones none has a lower id. -/
structure IsOldest (pool : InstanceIdPool) (endpoint : EndpointId) (id : InstanceId)
    (holder : Holder) : Prop where
  held : pool.holder? endpoint id = some holder
  first : ∀ other holder', pool.holder? endpoint other = some holder' →
    holder.acquiredAt < holder'.acquiredAt ∨
      holder.acquiredAt = holder'.acquiredAt ∧ id ≤ other

/-- An id goes to an acquisition that holds nothing so far, and no other id changes hands. -/
structure Takes (pool lent : InstanceIdPool) (endpoint : EndpointId) (id : InstanceId)
    (now : Instant) : Prop where
  recorded : lent.holder? endpoint id = some ⟨now, pool.nextGeneration⟩
  others : ∀ key : EndpointId × InstanceId, key ≠ (endpoint, id) →
    lent.holder? key.1 key.2 = pool.holder? key.1 key.2
  fresh : ∀ (key : EndpointId × InstanceId) holder, pool.holder? key.1 key.2 = some holder →
    holder.generation ≠ pool.nextGeneration

/-- What comes of an acquisition, with the pool afterwards. -/
inductive Allocates (pool : InstanceIdPool) (endpoint : EndpointId) (now : Instant) :
    Except UpdateError InstanceId → InstanceIdPool → Prop
  | free {id : InstanceId} {lent : InstanceIdPool} (free : pool.holder? endpoint id = none)
      (lowest : ∀ other < id, pool.isHeld endpoint other = true)
      (takes : pool.Takes lent endpoint id now) :
      Allocates pool endpoint now (.ok id) lent
  | reclaimed {id : InstanceId} {holder : Holder} {lent : InstanceIdPool}
      (full : ∀ other, pool.isHeld endpoint other = true)
      (oldest : pool.IsOldest endpoint id holder)
      (expired : pool.expiry.nanos < now - holder.acquiredAt)
      (takes : pool.Takes lent endpoint id now) :
      Allocates pool endpoint now (.ok id) lent
  | exhausted {id : InstanceId} {holder : Holder}
      (full : ∀ other, pool.isHeld endpoint other = true)
      (oldest : pool.IsOldest endpoint id holder)
      (young : now - holder.acquiredAt ≤ pool.expiry.nanos) :
      Allocates pool endpoint now (.error (.resourceExhausted endpoint)) pool

variable {pool : InstanceIdPool} {endpoint : EndpointId} {now : Instant} {id : InstanceId}
  {holder : Holder}

theorem pairwise_all : InstanceId.all.Pairwise (· < ·) := by decide

theorem mem_all (id : InstanceId) : id ∈ InstanceId.all :=
  List.mem_finRange id

/-! ## The lowest free id -/

theorem lowest_of_lowestFree? (found : pool.lowestFree? endpoint = some id) :
    pool.holder? endpoint id = none ∧ ∀ other < id, pool.isHeld endpoint other = true := by
  obtain ⟨free, before, after, all_eq, held⟩ := List.find?_eq_some_iff_append.mp found
  refine ⟨by simpa [isHeld] using free, fun other lower => ?_⟩
  have ordered := pairwise_all
  have listed := mem_all other
  rw [all_eq] at ordered listed
  rcases List.mem_append.mp listed with earlier | later
  · simpa using held other earlier
  · -- What comes after the found id is higher.
    obtain ⟨_, ordered, _⟩ := List.pairwise_append.mp ordered
    rcases List.mem_cons.mp later with rfl | later
    · exact absurd lower (Nat.lt_irrefl _)
    · exact absurd lower (Nat.lt_asymm ((List.pairwise_cons.mp ordered).1 other later))

theorem full_of_lowestFree? (none_free : pool.lowestFree? endpoint = none) (other : InstanceId) :
    pool.isHeld endpoint other = true := by
  simpa using List.find?_eq_none.mp none_free other (mem_all other)

/-! ## The oldest holder -/

/-- Whether a holder comes before another one when ids are taken back. -/
def Precedes (first second : InstanceId × Holder) : Prop :=
  first.2.acquiredAt < second.2.acquiredAt ∨
    first.2.acquiredAt = second.2.acquiredAt ∧ first.1 ≤ second.1

theorem Precedes.refl (held : InstanceId × Holder) : Precedes held held :=
  .inr ⟨rfl, Nat.le_refl _⟩

theorem Precedes.trans {first second third : InstanceId × Holder} (one : Precedes first second)
    (two : Precedes second third) : Precedes first third := by
  rcases one with earlier | ⟨same, lower⟩
  · rcases two with later | ⟨same, _⟩
    · exact .inl (Nat.lt_trans earlier later)
    · exact .inl (same ▸ earlier)
  · rcases two with later | ⟨same', lower'⟩
    · exact .inl (same ▸ later)
    · exact .inr ⟨same.trans same', Nat.le_trans lower lower'⟩

/-- The older one of two is one of them, and precedes both. -/
theorem older_cases {first second : InstanceId × Holder} (ordered : first.1 < second.1) :
    (older first second = first ∨ older first second = second) ∧
      Precedes (older first second) first ∧ Precedes (older first second) second := by
  unfold older
  split
  · rename_i younger
    exact ⟨.inr rfl, .inl younger, .refl second⟩
  · rename_i not_younger
    refine ⟨.inl rfl, .refl first, ?_⟩
    rcases Nat.lt_or_eq_of_le (Nat.not_lt.mp not_younger) with earlier | same
    · exact .inl earlier
    · exact .inr ⟨same, Nat.le_of_lt ordered⟩

/-- The oldest of the holders in a list is in it, and precedes all of them. The induction keeps the
oldest one so far at the head of the list. -/
theorem precedes_foldl_older (others : List (InstanceId × Holder)) (first : InstanceId × Holder)
    (ordered : (first :: others).Pairwise (·.1 < ·.1)) :
    others.foldl older first ∈ first :: others ∧
      ∀ held ∈ first :: others, Precedes (others.foldl older first) held := by
  induction others generalizing first with
  | nil =>
    refine ⟨List.mem_singleton_self first, fun held mem => ?_⟩
    rw [List.mem_singleton.mp mem]
    exact .refl first
  | cons second others ih =>
    obtain ⟨first_lt, rest⟩ := List.pairwise_cons.mp ordered
    obtain ⟨second_lt, others_ordered⟩ := List.pairwise_cons.mp rest
    obtain ⟨chosen, precedes_first, precedes_second⟩ :=
      older_cases (first_lt second List.mem_cons_self)
    have kept : (older first second :: others).Pairwise (·.1 < ·.1) := by
      refine List.pairwise_cons.mpr ⟨fun held mem => ?_, others_ordered⟩
      rcases chosen with eq | eq <;> rw [eq]
      · exact first_lt held (List.mem_cons_of_mem _ mem)
      · exact second_lt held mem
    obtain ⟨mem, precedes⟩ := ih (older first second) kept
    have precedes_chosen := precedes _ List.mem_cons_self
    refine ⟨?_, fun held held_mem => ?_⟩
    · rcases List.mem_cons.mp mem with eq | mem
      · rw [List.foldl_cons, eq]
        rcases chosen with eq | eq <;> simp [eq]
      · exact List.mem_cons_of_mem _ (List.mem_cons_of_mem _ mem)
    · rcases List.mem_cons.mp held_mem with rfl | held_mem
      · exact precedes_chosen.trans precedes_first
      · rcases List.mem_cons.mp held_mem with rfl | held_mem
        · exact precedes_chosen.trans precedes_second
        · exact precedes held (List.mem_cons_of_mem _ held_mem)

variable (pool endpoint) in
/-- The holders of an endpoint, in the order of their ids. -/
theorem mem_filterMap_holder? (held : InstanceId × Holder) :
    held ∈ (InstanceId.all.filterMap fun id => (pool.holder? endpoint id).map (id, ·)) ↔
      pool.holder? endpoint held.1 = some held.2 := by
  obtain ⟨id, holder⟩ := held
  simp [List.mem_filterMap, mem_all]

theorem isOldest_of_oldest? (found : pool.oldest? endpoint = some (id, holder)) :
    pool.IsOldest endpoint id holder := by
  have members := mem_filterMap_holder? pool endpoint
  have ordered : (InstanceId.all.filterMap fun id =>
      (pool.holder? endpoint id).map (id, ·)).Pairwise (·.1 < ·.1) := by
    refine pairwise_all.filterMap _ fun first second lower held mem other mem' => ?_
    obtain ⟨_, _, rfl⟩ := Option.map_eq_some_iff.mp mem
    obtain ⟨_, _, rfl⟩ := Option.map_eq_some_iff.mp mem'
    exact lower
  unfold oldest? at found
  split at found
  · cases found
  · rename_i first others listed
    rw [listed] at members ordered
    obtain ⟨mem, precedes⟩ := precedes_foldl_older others first ordered
    rw [Option.some.inj found] at mem precedes
    exact ⟨(members _).mp mem, fun other holder' held =>
      precedes (other, holder') ((members _).mpr held)⟩

theorem exists_oldest? (full : ∀ other, pool.isHeld endpoint other = true) :
    ∃ id holder, pool.oldest? endpoint = some (id, holder) := by
  obtain ⟨holder, held⟩ := Option.isSome_iff_exists.mp (full 0)
  have mem := (mem_filterMap_holder? pool endpoint (0, holder)).mpr held
  unfold oldest?
  split
  · rename_i none_held
    rw [none_held] at mem
    cases mem
  · exact ⟨_, _, rfl⟩

/-! ## What comes of an acquisition -/

theorem takes_hold (id : InstanceId) (now : Instant)
    (fresh : ∀ (key : EndpointId × InstanceId) holder, pool.holder? key.1 key.2 = some holder →
      holder.generation ≠ pool.nextGeneration) :
    pool.Takes (pool.hold endpoint id now).2 endpoint id now where
  recorded := (holder?_hold id (endpoint, id)).trans (if_pos rfl)
  others key ne := (holder?_hold id key).trans (if_neg ne)
  fresh := fresh

variable (endpoint now) in
/-- An acquisition lends the id that is due and says which, or it is refused. -/
theorem allocates_acquire
    (fresh : ∀ (key : EndpointId × InstanceId) holder, pool.holder? key.1 key.2 = some holder →
      holder.generation ≠ pool.nextGeneration) :
    (∃ lease lent, pool.acquire endpoint now = .ok (lease, lent) ∧
        pool.Allocates endpoint now (.ok lease.id) lent) ∨
      pool.acquire endpoint now = .error (.resourceExhausted endpoint) ∧
        pool.Allocates endpoint now (.error (.resourceExhausted endpoint)) pool := by
  unfold acquire
  cases found : pool.lowestFree? endpoint with
  | some id =>
    obtain ⟨free, lowest⟩ := lowest_of_lowestFree? found
    exact .inl ⟨_, _, rfl, .free free lowest (takes_hold id now fresh)⟩
  | none =>
    have full := full_of_lowestFree? found
    obtain ⟨id, holder, oldest⟩ := exists_oldest? full
    rw [oldest]
    dsimp only
    split
    · rename_i expired
      exact .inl ⟨_, _, rfl,
        .reclaimed full (isOldest_of_oldest? oldest) expired (takes_hold id now fresh)⟩
    · rename_i young
      exact .inr ⟨rfl, .exhausted full (isOldest_of_oldest? oldest) (Nat.not_lt.mp young)⟩

/-! ## Releases -/

/-- There is no record of an id that is free. -/
theorem release_of_free (free : pool.holder? endpoint id = none) :
    pool.release endpoint id = pool := by
  have unrecorded : ∀ entry ∈ pool.holders, entry.1 ≠ (endpoint, id) := by
    intro entry mem same
    simpa [same] using List.lookup_eq_none_iff.mp free entry mem
  have kept : pool.holders.filter (·.1 ≠ (endpoint, id)) = pool.holders :=
    List.filter_eq_self.mpr fun entry mem => decide_eq_true (unrecorded entry mem)
  rw [release, kept]

theorem release_release : (pool.release endpoint id).release endpoint id = pool.release endpoint id :=
  release_of_free ((holder?_release pool endpoint id (endpoint, id)).trans (if_pos rfl))

/-! ## Records -/

/-- No id is recorded twice. -/
def Distinct (pool : InstanceIdPool) : Prop :=
  (pool.holders.map Prod.fst).Nodup

theorem Distinct.release (distinct : pool.Distinct) (endpoint : EndpointId) (id : InstanceId) :
    (pool.release endpoint id).Distinct :=
  (List.filter_sublist.map Prod.fst).nodup distinct

theorem Distinct.drop (distinct : pool.Distinct) (lease : Lease) : (pool.drop lease).Distinct := by
  unfold InstanceIdPool.drop
  split
  · exact distinct.release lease.endpoint lease.id
  · exact distinct

theorem Distinct.hold (distinct : pool.Distinct) (endpoint : EndpointId) (id : InstanceId)
    (now : Instant) : (pool.hold endpoint id now).2.Distinct := by
  refine List.nodup_cons.mpr ⟨fun mem => ?_, distinct.release endpoint id⟩
  obtain ⟨entry, kept, same⟩ := List.mem_map.mp mem
  exact of_decide_eq_true (List.mem_filter.mp kept).2 same

/-- An endpoint has no more records than it has ids. -/
theorem Distinct.length_le (distinct : pool.Distinct) (endpoint : EndpointId) :
    (pool.holders.filter (·.1.1 = endpoint)).length ≤ 32 := by
  have keys : (pool.holders.filter (·.1.1 = endpoint)).Pairwise fun entry other =>
      entry.1 ≠ other.1 := List.pairwise_map.mp ((List.filter_sublist.map Prod.fst).nodup distinct)
  have ids : ((pool.holders.filter (·.1.1 = endpoint)).map (·.1.2)).Nodup := by
    refine List.pairwise_map.mpr (keys.imp_of_mem fun {entry other} mem mem' ne same => ne ?_)
    have own : entry.1.1 = endpoint := of_decide_eq_true (List.mem_filter.mp mem).2
    have own' : other.1.1 = endpoint := of_decide_eq_true (List.mem_filter.mp mem').2
    exact Prod.ext (own.trans own'.symm) same
  rw [← List.length_map (·.1.2)]
  exact ids.length_le_card

theorem heldCount_le (pool : InstanceIdPool) (endpoint : EndpointId) :
    pool.heldCount endpoint ≤ 32 :=
  Nat.le_trans (List.length_filter_le _ _) (Nat.le_of_eq List.length_finRange)

end InstanceIdPool

end FirmwareAgent
