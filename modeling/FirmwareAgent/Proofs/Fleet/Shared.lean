import FirmwareAgent.Proofs.Coordinator.History
import FirmwareAgent.Proofs.Fleet.HeldIds
import FirmwareAgent.Proofs.Run.Mirror

/-!
# A fleet as one endpoint sees it

A fleet with runs of several endpoints, and a fleet that has only the runs of one of them. To that
endpoint both are the same: its runs differ in the generations of their leases at most, and a run is
known by its number among the runs of its endpoint.

* `Fleet.Shares` says so. `Shares.act` and `Shares.act_other` are the actions of a run of the
  endpoint and of any other run.
-/

namespace FirmwareAgent

/-! ## Numbers among the runs of an endpoint -/

section

variable {α : Type} {items : List α} {place : Nat} {item other : α} {chosen : α → Bool}

/-- The item at a place is found among the chosen items by how many of these come before it. -/
theorem getElem?_filter (found : items[place]? = some item) (own : chosen item = true) :
    (items.filter chosen)[(items.take place).countP chosen]? = some item := by
  obtain ⟨front, back, before, rfl, _⟩ := Fleet.exists_split_of_getElem? found
  rw [before, List.filter_append, List.filter_cons_of_pos own, List.countP_eq_length_filter]
  simp

theorem filter_set (found : items[place]? = some item) (own : chosen item = true)
    (still : chosen other = true) : (items.set place other).filter chosen =
      (items.filter chosen).set ((items.take place).countP chosen) other := by
  obtain ⟨front, back, before, items_eq, set_eq⟩ := Fleet.exists_split_of_getElem? found
  rw [set_eq, before, items_eq, List.filter_append, List.filter_append,
    List.filter_cons_of_pos own, List.filter_cons_of_pos still, List.countP_eq_length_filter]
  simp

theorem filter_set_of_not (found : items[place]? = some item) (foreign : ¬ chosen item = true)
    (still : ¬ chosen other = true) :
    (items.set place other).filter chosen = items.filter chosen := by
  obtain ⟨front, back, _, items_eq, set_eq⟩ := Fleet.exists_split_of_getElem? found
  rw [set_eq, items_eq, List.filter_append, List.filter_append, List.filter_cons_of_neg foreign,
    List.filter_cons_of_neg still]

/-- Every chosen item has a place. -/
theorem exists_getElem?_of_filter {number : Nat}
    (found : (items.filter chosen)[number]? = some item) :
    ∃ place, items[place]? = some item ∧ (items.take place).countP chosen = number := by
  induction items generalizing number with
  | nil => cases found
  | cons head items ih =>
    cases own : chosen head with
    | false =>
      rw [List.filter_cons_of_neg (by simp [own])] at found
      obtain ⟨place, at_place, count⟩ := ih found
      exact ⟨place + 1, at_place, by simp [own, count]⟩
    | true =>
      rw [List.filter_cons_of_pos own] at found
      cases number with
      | zero => exact ⟨0, found, rfl⟩
      | succ number =>
        obtain ⟨place, at_place, count⟩ := ih found
        exact ⟨place + 1, at_place, by simp [own, count]⟩

/-- The numbers of the chosen items grow. -/
theorem countP_take_lt {later : Nat} (found : items[place]? = some item)
    (own : chosen item = true) (lt : place < later) :
    (items.take place).countP chosen < (items.take later).countP chosen := by
  have next : (items.take (place + 1)).countP chosen = (items.take place).countP chosen + 1 := by
    rw [List.take_add_one, found, List.countP_append]
    simp [own]
  have grown : (items.take (place + 1)).Sublist (items.take later) :=
    (List.take_prefix_take_left lt).sublist
  have bound : (items.take (place + 1)).countP chosen ≤ (items.take later).countP chosen :=
    grown.countP_le
  omega

end

namespace Fleet

variable {fleet other : Fleet} {endpoint : EndpointId} {place number : Nat}

/-- The runs of an endpoint, oldest first. -/
def runsOf (fleet : Fleet) (endpoint : EndpointId) : List Run :=
  fleet.runs.filter (·.endpoint == endpoint)

theorem endpoints_eq_some : fleet.endpoints[place]? = some endpoint ↔
    ∃ run, fleet.runs[place]? = some run ∧ run.endpoint = endpoint := by
  simp [endpoints, List.getElem?_map, Option.map_eq_some_iff]

theorem numberOf_eq (fleet : Fleet) (endpoint : EndpointId) (place : Nat) :
    fleet.numberOf endpoint place = (fleet.endpoints.take place).countP (· == endpoint) := by
  rw [endpoints, ← List.map_take, List.countP_map]
  rfl

theorem numberOf_congr (same : other.endpoints = fleet.endpoints) (endpoint : EndpointId) :
    other.numberOf endpoint = fleet.numberOf endpoint := by
  funext place
  rw [numberOf_eq, numberOf_eq, same]

/-- The numbers of the runs stay what they are when something happens to one of them. -/
theorem numberOf_act (sound : fleet.IsSound) (place : Nat) (action : RunAction)
    (endpoint : EndpointId) :
    (fleet.act place action).1.numberOf endpoint = fleet.numberOf endpoint :=
  numberOf_congr (endpoints_act sound) endpoint

theorem numberOf_lt {run : Run} {later : Nat} (found : fleet.runs[place]? = some run)
    (own : run.endpoint = endpoint) (lt : place < later) :
    fleet.numberOf endpoint place < fleet.numberOf endpoint later :=
  countP_take_lt found (beq_iff_eq.mpr own) lt

/-- A run is known by its endpoint and its number. -/
theorem place?_eq_some : fleet.place? endpoint number = some place ↔
    fleet.endpoints[place]? = some endpoint ∧ fleet.numberOf endpoint place = number := by
  constructor
  · intro found
    have holds := List.find?_some found
    rw [Bool.and_eq_true, beq_iff_eq, Option.any_eq_true] at holds
    obtain ⟨⟨run, at_place, own⟩, count⟩ := holds
    exact ⟨endpoints_eq_some.mpr ⟨run, at_place, eq_of_beq own⟩, count⟩
  · rintro ⟨own, count⟩
    obtain ⟨run, at_place, endpoint_eq⟩ := endpoints_eq_some.mp own
    have bound := (List.getElem?_eq_some_iff.mp at_place).1
    cases found : fleet.place? endpoint number with
    | none =>
      have none_there := List.find?_eq_none.mp found place (List.mem_range.mpr bound)
      simp [at_place, endpoint_eq, count] at none_there
    | some there =>
      have holds := List.find?_some found
      rw [Bool.and_eq_true, beq_iff_eq, Option.any_eq_true] at holds
      obtain ⟨⟨twin, at_there, twin_own⟩, same_count⟩ := holds
      rcases Nat.lt_trichotomy there place with before | rfl | after
      · have lt := numberOf_lt at_there (eq_of_beq twin_own) before
        omega
      · rfl
      · have lt := numberOf_lt at_place endpoint_eq after
        omega

theorem numberOf_le (fleet : Fleet) (endpoint : EndpointId) (place : Nat) :
    fleet.numberOf endpoint place ≤ (fleet.runsOf endpoint).length := by
  rw [runsOf, ← List.countP_eq_length_filter]
  exact (List.take_sublist place fleet.runs).countP_le

/-- In a fleet of one endpoint the runs are numbered by their places. -/
theorem numberOf_self (alone : ∀ run ∈ fleet.runs, run.endpoint = endpoint)
    (bound : place ≤ fleet.runs.length) : fleet.numberOf endpoint place = place := by
  have all : (fleet.runs.take place).countP (·.endpoint == endpoint) =
      (fleet.runs.take place).length :=
    List.countP_eq_length.mpr fun run mem =>
      beq_iff_eq.mpr (alone run (List.mem_of_mem_take mem))
  rw [numberOf, all, List.length_take_of_le bound]

/-- A new run leaves the numbers of the others alone. -/
theorem numberOf_add {record : DeviceRecord} (bound : place ≤ fleet.runs.length) :
    (fleet.add record).numberOf endpoint place = fleet.numberOf endpoint place := by
  simp only [numberOf, add]
  rw [List.take_append_of_le_length bound]

theorem numberOf_add_other {record : DeviceRecord} (elsewhere : record.endpoint ≠ endpoint)
    (place : Nat) : (fleet.add record).numberOf endpoint place = fleet.numberOf endpoint place := by
  rcases Nat.le_total place fleet.runs.length with bound | beyond
  · exact numberOf_add bound
  · simp only [numberOf, add]
    rw [List.take_of_length_le beyond, List.take_append, List.take_of_length_le beyond,
      List.countP_append]
    refine Nat.add_eq_left.mpr (List.countP_eq_zero.mpr fun run mem => ?_)
    obtain rfl := List.mem_singleton.mp (List.mem_of_mem_take mem)
    simpa [Run.endpoint, Session.endpoint] using elsewhere

/-- A fleet in which the run at a place has changed. -/
def change (fleet : Fleet) (place : Nat) (step : RunStep) : Fleet :=
  { fleet with pool := step.pool, runs := fleet.runs.set place step.run }

theorem act_eq {run : Run} (found : fleet.runs[place]? = some run) (action : RunAction) :
    fleet.act place action =
      (fleet.change place (run.act fleet.context fleet.now fleet.pool action),
        (run.act fleet.context fleet.now fleet.pool action).occurrences) := by
  rw [act, found]
  rfl

theorem runsOf_change {run : Run} {step : RunStep} (found : fleet.runs[place]? = some run)
    (own : run.endpoint = endpoint) (still : step.run.endpoint = endpoint) :
    (fleet.change place step).runsOf endpoint =
      (fleet.runsOf endpoint).set (fleet.numberOf endpoint place) step.run :=
  filter_set found (beq_iff_eq.mpr own) (beq_iff_eq.mpr still)

theorem runsOf_change_other {run : Run} {step : RunStep} (found : fleet.runs[place]? = some run)
    (elsewhere : run.endpoint ≠ endpoint) (still : step.run.endpoint = run.endpoint) :
    (fleet.change place step).runsOf endpoint = fleet.runsOf endpoint :=
  filter_set_of_not found (by simpa using elsewhere) (by simpa [still] using elsewhere)

/-! ## Fleets that are the same to an endpoint -/

/-- The second fleet has the runs of the endpoint and no others. -/
structure Shares (paired : LeasePairing) (count : Nat) (endpoint : EndpointId)
    (fleet other : Fleet) : Prop where
  context : other.context = fleet.context
  now : other.now = fleet.now
  pool : fleet.pool.Mirrors paired count endpoint other.pool
  runs : List.Forall₂ (Run.Matches paired) (fleet.runsOf endpoint) other.runs

variable {paired : LeasePairing} {count : Nat}

namespace Shares

variable (shares : fleet.Shares paired count endpoint other)

include shares

theorem exists_twin {run : Run} (found : other.runs[number]? = some run) :
    ∃ twin, (fleet.runsOf endpoint)[number]? = some twin ∧ twin.Matches paired run := by
  have same := rel_getElem? shares.runs number
  rw [found] at same
  generalize (fleet.runsOf endpoint)[number]? = own at same
  cases same with
  | some matched => exact ⟨_, rfl, matched⟩

theorem alone : ∀ run ∈ other.runs, run.endpoint = endpoint := by
  intro run mem
  obtain ⟨number, found⟩ := List.getElem?_of_mem mem
  obtain ⟨twin, own, matched⟩ := shares.exists_twin found
  rw [Run.endpoint, matched.session.alike.endpoint]
  exact eq_of_beq (List.mem_filter.mp (List.mem_of_getElem? own)).2

theorem length : other.runs.length = (fleet.runsOf endpoint).length :=
  shares.runs.length_eq.symm

/-- The numbers of the first fleet are the places of the second. -/
theorem numberOf_numberOf (place : Nat) :
    other.numberOf endpoint (fleet.numberOf endpoint place) = fleet.numberOf endpoint place :=
  numberOf_self shares.alone (by rw [shares.length]; exact numberOf_le fleet endpoint place)

/-- What the one fleet has at a place of the endpoint, the other has at its number. -/
theorem exists_run {run : Run} (found : fleet.runs[place]? = some run)
    (own : run.endpoint = endpoint) :
    ∃ twin, other.runs[fleet.numberOf endpoint place]? = some twin ∧ run.Matches paired twin := by
  have at_number : (fleet.runsOf endpoint)[fleet.numberOf endpoint place]? = some run :=
    getElem?_filter found (beq_iff_eq.mpr own)
  have same := rel_getElem? shares.runs (fleet.numberOf endpoint place)
  rw [at_number] at same
  generalize other.runs[fleet.numberOf endpoint place]? = there at same
  cases same with
  | some matched => exact ⟨_, rfl, matched⟩

theorem place?_eq (number : Nat) : other.place? endpoint number =
    (fleet.place? endpoint number).map (fleet.numberOf endpoint) := by
  have at_own {place : Nat} (own : other.endpoints[place]? = some endpoint) :
      other.numberOf endpoint place = place := by
    obtain ⟨run, found, _⟩ := endpoints_eq_some.mp own
    exact numberOf_self shares.alone (Nat.le_of_lt (List.getElem?_eq_some_iff.mp found).1)
  cases found : fleet.place? endpoint number with
  | some place =>
    obtain ⟨own, count⟩ := place?_eq_some.mp found
    obtain ⟨run, at_place, endpoint_eq⟩ := endpoints_eq_some.mp own
    obtain ⟨twin, at_number, _⟩ := shares.exists_run at_place endpoint_eq
    have twin_own := shares.alone twin (List.mem_of_getElem? at_number)
    refine place?_eq_some.mpr ⟨endpoints_eq_some.mpr ⟨twin, at_number, twin_own⟩, ?_⟩
    rw [shares.numberOf_numberOf, count]
  | none =>
    refine Option.eq_none_iff_forall_ne_some.mpr fun there found_there => ?_
    obtain ⟨own, count⟩ := place?_eq_some.mp found_there
    obtain ⟨twin, at_number, _⟩ := endpoints_eq_some.mp own
    obtain rfl : there = number := (at_own own).symm.trans count
    obtain ⟨run, at_own_number, _⟩ := shares.exists_twin at_number
    obtain ⟨place, at_place, place_count⟩ := exists_getElem?_of_filter at_own_number
    have run_own : run.endpoint = endpoint :=
      eq_of_beq (List.mem_filter.mp (List.mem_of_getElem? at_own_number)).2
    have found_place : fleet.place? endpoint there = some place :=
      place?_eq_some.mpr ⟨endpoints_eq_some.mpr ⟨run, at_place, run_own⟩, place_count⟩
    cases found.symm.trans found_place

theorem later : fleet.Shares paired (count + 1) endpoint other :=
  ⟨shares.context, shares.now, shares.pool.later, shares.runs⟩

/-! ## What happens in the fleets -/

/-- A run of the endpoint does the same in both fleets. -/
theorem act (few : count < UInt64.size) {run : Run} (found : fleet.runs[place]? = some run)
    (own : run.endpoint = endpoint) (action : RunAction) :
    paired.Grows fun paired =>
      (fleet.act place action).1.Shares paired (count + 1) endpoint
        (other.act (fleet.numberOf endpoint place) action).1 ∧
      List.Forall₂ (Occurrence.Matches paired) (fleet.act place action).2
        (other.act (fleet.numberOf endpoint place) action).2 := by
  obtain ⟨twin, found_twin, matched⟩ := shares.exists_run found own
  rw [act_eq found, act_eq found_twin, shares.context, shares.now]
  have idle : RunStep.Matches paired count endpoint ⟨run, fleet.pool, []⟩ ⟨twin, other.pool, []⟩ :=
    ⟨own, matched, shares.pool, .nil⟩
  obtain ⟨paired', within, same⟩ := Run.matches_act few idle action
  refine ⟨paired', within, ⟨shares.context, shares.now, same.pool, ?_⟩, same.occurrences⟩
  rw [runsOf_change found own same.home]
  exact rel_set (shares.runs.imp fun _ _ old => old.mono within) same.run _

/-- What any other run does is nothing to the endpoint. -/
theorem act_other {run : Run} (found : fleet.runs[place]? = some run)
    (elsewhere : run.endpoint ≠ endpoint) (sound : run.Sound) (atHome : run.IsAtHome)
    (action : RunAction) :
    (fleet.act place action).1.Shares paired (count + 1) endpoint other := by
  rw [act_eq found]
  have still : (run.act fleet.context fleet.now fleet.pool action).run.endpoint = run.endpoint :=
    congrArg DeviceRecord.endpoint (record_act sound)
  have lending : run.Lending fleet.now fleet.pool
      (run.act fleet.context fleet.now fleet.pool action) := Run.lending_act sound
  refine ⟨shares.context, shares.now,
    shares.pool.other (lending.spares atHome elsewhere) lending.follows, ?_⟩
  rw [runsOf_change_other found elsewhere still]
  exact shares.runs

theorem add {record : DeviceRecord} (own : record.endpoint = endpoint) :
    (fleet.add record).Shares paired (count + 1) endpoint (other.add record) := by
  refine ⟨shares.context, shares.now, shares.pool.later, ?_⟩
  have runs_eq : (fleet.add record).runsOf endpoint =
      fleet.runsOf endpoint ++ [{ session := { record := record } }] := by
    simp [runsOf, Fleet.add, Run.endpoint, Session.endpoint, own]
  rw [runs_eq]
  exact List.rel_append shares.runs (.cons ⟨⟨rfl, .none⟩, rfl, rfl, .nil, rfl⟩ .nil)

theorem add_other {record : DeviceRecord} (elsewhere : record.endpoint ≠ endpoint) :
    (fleet.add record).Shares paired (count + 1) endpoint other := by
  refine ⟨shares.context, shares.now, shares.pool.later, ?_⟩
  have runs_eq : (fleet.add record).runsOf endpoint = fleet.runsOf endpoint := by
    simp [runsOf, Fleet.add, Run.endpoint, Session.endpoint, elsewhere]
  rw [runs_eq]
  exact shares.runs

theorem elapse (nanos : Nat) :
    (fleet.elapse nanos).Shares paired (count + 1) endpoint (other.elapse nanos) :=
  ⟨shares.context, congrArg (· + nanos) shares.now, shares.pool.later, shares.runs⟩

/-- Someone other than a session gets the same id in both fleets, or none. -/
theorem acquire (few : count < UInt64.size) :
    (∃ error, fleet.acquire endpoint = .error error ∧ other.acquire endpoint = .error error) ∨
      ∃ id lent lent', fleet.acquire endpoint = .ok (id, { fleet with pool := lent }) ∧
        other.acquire endpoint = .ok (id, { other with pool := lent' }) ∧
        paired.Grows fun paired => Fleet.Shares paired (count + 1) endpoint
          { fleet with pool := lent } { other with pool := lent' } := by
  unfold Fleet.acquire
  rw [shares.now]
  rcases shares.pool.acquire few fleet.now with
    ⟨error, own, others⟩ | ⟨lease, lent, lease', lent', own, others, same_id, mirrors⟩
  · rw [own, others]
    exact .inl ⟨error, rfl, rfl⟩
  · rw [own, others]
    dsimp only
    rw [same_id]
    have within := paired.within_add lease lease'
    exact .inr ⟨_, lent, lent', rfl, rfl, _, within, shares.context, rfl, mirrors,
      shares.runs.imp fun _ _ old => old.mono within⟩

theorem acquire_other {elsewhere : EndpointId} (ne : elsewhere ≠ endpoint) {lease : Lease}
    {lent : InstanceIdPool}
    (acquired : fleet.pool.acquire elsewhere fleet.now = .ok (lease, lent)) :
    Fleet.Shares paired (count + 1) endpoint { fleet with pool := lent } other :=
  ⟨shares.context, shares.now, shares.pool.other (InstanceIdPool.spares_acquire ne acquired)
    (InstanceIdPool.follows_acquire acquired), shares.runs⟩

theorem release (id : InstanceId) : (fleet.release endpoint id).Shares paired (count + 1) endpoint
    (other.release endpoint id) :=
  ⟨shares.context, shares.now, (shares.pool.release id).later, shares.runs⟩

theorem release_other {elsewhere : EndpointId} (ne : elsewhere ≠ endpoint) (id : InstanceId) :
    (fleet.release elsewhere id).Shares paired (count + 1) endpoint other :=
  ⟨shares.context, shares.now, shares.pool.other (InstanceIdPool.spares_release ne id)
    (InstanceIdPool.follows_release fleet.pool elsewhere id), shares.runs⟩

end Shares

/-- The leases of every run are of its endpoint. -/
def IsAtHome (fleet : Fleet) : Prop :=
  ∀ run ∈ fleet.runs, run.IsAtHome

theorem isAtHome_act {action : RunAction} (sound : fleet.IsSound) (atHome : fleet.IsAtHome) :
    (fleet.act place action).1.IsAtHome := by
  unfold Fleet.act
  cases found : fleet.runs[place]? with
  | none => exact atHome
  | some run =>
    have mem := List.mem_of_getElem? found
    intro changed changed_mem
    rcases List.mem_or_eq_of_mem_set changed_mem with old | rfl
    · exact atHome changed old
    · exact (Run.lending_act (sound run mem)).isAtHome (atHome run mem)
        (congrArg DeviceRecord.endpoint (record_act (sound run mem)))

theorem isAtHome_add (atHome : fleet.IsAtHome) (record : DeviceRecord) :
    (fleet.add record).IsAtHome := by
  intro run mem
  rcases List.mem_append.mp mem with old | new
  · exact atHome run old
  · obtain rfl := List.mem_singleton.mp new
    exact fun lease lent => by simp [Run.leases, Run.withdrawals] at lent

end Fleet

end FirmwareAgent
