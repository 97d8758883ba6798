import FirmwareAgent.Proofs.Coordinator.History

/-!
# The life of an update

An update begins with a call that starts it and is over when the one wait that has taken its end
returns. In between its endpoint is busy, whatever else is called, and even if the session has long
ended.

* `Booked` is the invariant that ties the coordinator's records to what has been called,
  `booked_extend` its step.
* `lifecycle_through`: the result.
-/

namespace FirmwareAgent

/-! ## Updates as they are seen from outside -/

/-- The endpoint and the place of the run whose end a wait takes. -/
def CoordinatorEntry.takes? (entry : CoordinatorEntry) : Option (EndpointId × Nat) :=
  match entry.action, entry.step.result with
  | .wait endpoint, .done =>
    (entry.coordinator.active? endpoint).map fun update => (endpoint, update.run)
  | _, _ => none

/-- The place of the run whose end is reported by a wait that returns. -/
def CoordinatorEntry.collects? (entry : CoordinatorEntry) : Option Nat :=
  match entry.action, entry.step.result with
  | .wake endpoint ticket, .returned _ =>
    (entry.coordinator.wait? endpoint ticket).map (·.run)
  | _, _ => none

namespace CoordinatorHistory

/-- The places of the runs whose end a wait has taken. -/
def taken (history : CoordinatorHistory) : List Nat :=
  history.entries.filterMap fun entry => entry.takes?.map Prod.snd

/-- The places of the runs whose end a wait has returned. -/
def collected (history : CoordinatorHistory) : List Nat :=
  history.entries.filterMap CoordinatorEntry.collects?

/-- The run at a place belongs to the endpoint, and no wait has returned its end. -/
def IsUncollected (history : CoordinatorHistory) (endpoint : EndpointId) (place : Nat) : Prop :=
  history.coordinator.fleet.endpoints[place]? = some endpoint ∧ place ∉ history.collected

/-- The action with the number is a wait that took the end of the run at a place. -/
def Took (history : CoordinatorHistory) (ticket : Nat) (endpoint : EndpointId) (place : Nat) :
    Prop :=
  ∃ entry, history.entries[ticket]? = some entry ∧ entry.takes? = some (endpoint, place)

/-- The session of the run at a place has ended, or it has broken down. -/
def IsOver (history : CoordinatorHistory) (place : Nat) : Prop :=
  ∃ run, history.coordinator.fleet.runs[place]? = some run ∧
    (run.status = .crashed ∨ run.status = .ended ∧ run.session.state.isTerminal = true)

/-- What a wait for the run at a place is to return: the report of its session, or an error if the
session has broken down. -/
def Reports (history : CoordinatorHistory) (endpoint : EndpointId) (place : Nat)
    (result : Except UpdateError DeviceUpdateReport) : Prop :=
  ∃ run, history.coordinator.fleet.runs[place]? = some run ∧
    (run.status = .crashed ∧ result = .error .sessionClosed ∨
      run.status = .ended ∧ ∃ report, result = .ok report ∧ report.endpoint = endpoint ∧
        (report.success = true ↔ run.session.state = .completed))

/-- What holds of every update of a coordinator, whatever is called next. -/
structure Lifecycle (history : CoordinatorHistory) : Prop where
  /-- An endpoint has at most one session that has not been collected. -/
  single : ∀ endpoint place other, history.IsUncollected endpoint place →
    history.IsUncollected endpoint other → place = other
  /-- The coordinator lists the endpoints that have one. -/
  listed : ∀ endpoint, endpoint ∈ history.coordinator.activeEndpoints ↔
    ∃ place, history.IsUncollected endpoint place
  /-- An update is refused exactly while its endpoint has one, and then nothing changes and nobody
  hears of it. -/
  refused : ∀ record, (∃ place, history.IsUncollected record.endpoint place) →
    history.next (.start record) =
      ⟨history.coordinator, [], .refused (.updateInProgress record.endpoint)⟩
  /-- Any other update starts. -/
  started : ∀ record, (¬ ∃ place, history.IsUncollected record.endpoint place) →
    (history.next (.start record)).result = .done ∧
      (history.extend (.start record)).IsUncollected record.endpoint
        history.coordinator.fleet.runs.length
  /-- A wait is taken if its endpoint has a session whose end no wait has taken. -/
  waits : ∀ endpoint place, history.IsUncollected endpoint place → place ∉ history.taken →
    (history.next (.wait endpoint)).result = .done ∧
      (history.extend (.wait endpoint)).Took history.entries.length endpoint place
  /-- Any other wait is told that the session is closed, and changes nothing. -/
  closed : ∀ endpoint,
    (¬ ∃ place, history.IsUncollected endpoint place ∧ place ∉ history.taken) →
      history.next (.wait endpoint) = ⟨history.coordinator, [], .refused .sessionClosed⟩
  /-- No session's end is taken by two waits, or returned twice. -/
  once : history.taken.Nodup ∧ history.collected.Nodup
  /-- A wait returns the report of the session whose end it took, once that is over. -/
  returns : ∀ endpoint ticket result,
    (history.next (.wake endpoint ticket)).result = .returned result →
      ∃ place, history.Took ticket endpoint place ∧ history.IsUncollected endpoint place ∧
        history.IsOver place ∧
        history.Reports endpoint place result ∧
        (history.extend (.wake endpoint ticket)).collected = history.collected ++ [place]
  /-- In no other way is an endpoint free again. -/
  leaves : ∀ action endpoint place, history.IsUncollected endpoint place →
    (history.extend action).IsUncollected endpoint place ∨
      ∃ ticket result, action = .wake endpoint ticket ∧
        (history.next action).result = .returned result ∧ history.Took ticket endpoint place ∧
        history.IsOver place

end CoordinatorHistory

/-! ## The coordinator's records -/

/-- Whether a call starts an update, begins a wait or goes on from one. -/
def CoordinatorAction.isBooking : CoordinatorAction → Bool
  | start _ | wait _ | wake .. => true
  | _ => false

namespace CoordinatorHistory

/-- The coordinator's records say what has been called. -/
structure Booked (history : CoordinatorHistory) : Prop where
  active : ∀ endpoint update, history.coordinator.active? endpoint = some update →
    history.IsUncollected endpoint update.run ∧
      (update.isTaken = true ↔ update.run ∈ history.taken)
  tracked : ∀ endpoint place, history.IsUncollected endpoint place →
    ∃ update, history.coordinator.active? endpoint = some update ∧ update.run = place
  taken : history.taken.Nodup
  started : ∀ place ∈ history.taken, place < history.coordinator.fleet.endpoints.length
  collected : history.collected.Nodup
  owned : ∀ place ∈ history.collected, place ∈ history.taken
  waits : ∀ wait ∈ history.coordinator.waits, history.IsUncollected wait.endpoint wait.run ∧
    wait.run ∈ history.taken ∧ history.Took wait.ticket wait.endpoint wait.run
  distinct : ∀ wait ∈ history.coordinator.waits, ∀ other ∈ history.coordinator.waits,
    wait.run = other.run → wait.ticket = other.ticket

variable {history : CoordinatorHistory} {action : CoordinatorAction}

theorem taken_extend : (history.extend action).taken =
    history.taken ++ ((CoordinatorEntry.takes? ⟨history.coordinator, action,
      history.next action⟩).map Prod.snd).toList := by
  simp only [taken, extend, List.filterMap_append, filterMap_singleton]

theorem collected_extend : (history.extend action).collected =
    history.collected ++ (CoordinatorEntry.collects? ⟨history.coordinator, action,
      history.next action⟩).toList := by
  simp only [collected, extend, List.filterMap_append, filterMap_singleton]

theorem Took.extend {ticket place : Nat} {endpoint : EndpointId}
    (took : history.Took ticket endpoint place) :
    (history.extend action).Took ticket endpoint place := by
  obtain ⟨entry, found, takes⟩ := took
  refine ⟨entry, ?_, takes⟩
  rw [CoordinatorHistory.extend]
  exact List.getElem?_append_left (List.getElem?_eq_some_iff.mp found).1 ▸ found

/-- An action that leaves the records alone, but for waits that it drops. -/
structure Keeps (history : CoordinatorHistory) (action : CoordinatorAction) : Prop where
  endpoints : (history.next action).coordinator.fleet.endpoints =
    history.coordinator.fleet.endpoints
  active : (history.next action).coordinator.active = history.coordinator.active
  waits : (history.next action).coordinator.waits.Sublist history.coordinator.waits
  takes : CoordinatorEntry.takes? ⟨history.coordinator, action, history.next action⟩ = none
  collects : CoordinatorEntry.collects? ⟨history.coordinator, action, history.next action⟩ = none

theorem Keeps.taken (keeps : history.Keeps action) :
    (history.extend action).taken = history.taken := by
  rw [taken_extend, keeps.takes]
  exact List.append_nil _

theorem Keeps.collected (keeps : history.Keeps action) :
    (history.extend action).collected = history.collected := by
  rw [collected_extend, keeps.collects]
  exact List.append_nil _

theorem Keeps.isUncollected (keeps : history.Keeps action) {endpoint : EndpointId} {place : Nat} :
    (history.extend action).IsUncollected endpoint place ↔
      history.IsUncollected endpoint place := by
  unfold IsUncollected
  rw [keeps.collected, CoordinatorHistory.extend, keeps.endpoints]

theorem Keeps.booked (keeps : history.Keeps action) (booked : history.Booked) :
    (history.extend action).Booked where
  active endpoint update found := by
    have found_before : history.coordinator.active? endpoint = some update := by
      rw [Coordinator.active?, ← keeps.active]
      exact found
    rw [keeps.isUncollected, keeps.taken]
    exact booked.active endpoint update found_before
  tracked endpoint place uncollected := by
    rw [keeps.isUncollected] at uncollected
    rw [Coordinator.active?, CoordinatorHistory.extend, keeps.active]
    exact booked.tracked endpoint place uncollected
  taken := keeps.taken ▸ booked.taken
  started := by
    rw [keeps.taken, CoordinatorHistory.extend, keeps.endpoints]
    exact booked.started
  collected := keeps.collected ▸ booked.collected
  owned := by
    rw [keeps.taken, keeps.collected]
    exact booked.owned
  waits wait mem := by
    obtain ⟨uncollected, taken, took⟩ := booked.waits wait (keeps.waits.subset mem)
    rw [keeps.isUncollected, keeps.taken]
    exact ⟨uncollected, taken, took.extend⟩
  distinct wait mem other also :=
    booked.distinct wait (keeps.waits.subset mem) other (keeps.waits.subset also)

/-! ## Calls that book nothing -/

/-- A call that is refused, or finds nothing to do, leaves the records alone. -/
theorem keeps_of_unchanged (unchanged : (history.next action).coordinator = history.coordinator)
    (takes : CoordinatorEntry.takes? ⟨history.coordinator, action, history.next action⟩ = none)
    (collects : CoordinatorEntry.collects? ⟨history.coordinator, action, history.next action⟩ =
      none) : history.Keeps action :=
  ⟨by rw [unchanged], by rw [unchanged], by simp [unchanged], takes, collects⟩

/-- So does a step of a session. -/
theorem keeps_of_act (place : Nat) (step : RunAction) (sound : history.coordinator.fleet.IsSound)
    (acts : (history.next action).coordinator = (history.coordinator.act place step).1)
    (takes : CoordinatorEntry.takes? ⟨history.coordinator, action, history.next action⟩ = none)
    (collects : CoordinatorEntry.collects? ⟨history.coordinator, action, history.next action⟩ =
      none) : history.Keeps action := by
  refine ⟨?_, ?_, ?_, takes, collects⟩
  · rw [acts, Coordinator.fleet_act, Fleet.endpoints_act sound]
  · rw [acts, Coordinator.active_act]
  · simp [acts]

/-- Every other call leaves the records alone, but for a wait that it drops. -/
theorem keeps_of_other (sound : history.coordinator.fleet.IsSound)
    (other : action.isBooking = false) : history.Keeps action := by
  have takes : CoordinatorEntry.takes? ⟨history.coordinator, action, history.next action⟩ =
      none := by
    cases action <;> first | rfl | cases other
  have collects : CoordinatorEntry.collects? ⟨history.coordinator, action, history.next action⟩ =
      none := by
    cases action <;> first | rfl | cases other
  cases action with
  | start | wait | wake => cases other
  | cancel endpoint =>
    cases found : history.coordinator.active? endpoint with
    | none =>
      exact keeps_of_unchanged (by simp [next, Coordinator.apply, Coordinator.cancel, found]) takes
        collects
    | some update =>
      by_cases live : history.coordinator.fleet.runs[update.run]?.any (·.isOpen) = true
      · exact keeps_of_act update.run .cancel sound
          (by simp [next, Coordinator.apply, Coordinator.cancel, found, live]) takes collects
      · exact keeps_of_unchanged
          (by simp [next, Coordinator.apply, Coordinator.cancel, found, live]) takes collects
  | inbound endpoint request =>
    cases found : history.coordinator.active? endpoint with
    | none =>
      exact keeps_of_unchanged (by simp [next, Coordinator.apply, Coordinator.inbound, found]) takes
        collects
    | some update =>
      exact keeps_of_act update.run
        (.inbound (.coordinator history.entries.length) request) sound
        (by simp only [next, Coordinator.apply, Coordinator.inbound, found]) takes collects
  | abandon endpoint ticket =>
    cases found : history.coordinator.wait? endpoint ticket with
    | none => exact keeps_of_unchanged (by simp [next, Coordinator.apply, found]) takes collects
    | some wait =>
      refine ⟨?_, ?_, ?_, takes, collects⟩ <;>
        simp [next, Coordinator.apply, found, Coordinator.abandon]
  | act endpoint number step =>
    cases found : history.coordinator.fleet.place? endpoint number with
    | none => exact keeps_of_unchanged (by simp [next, Coordinator.apply, found]) takes collects
    | some place =>
      exact keeps_of_act place step sound (by simp only [next, Coordinator.apply, found]) takes
        collects
  | acquire endpoint =>
    cases acquired : history.coordinator.fleet.acquire endpoint with
    | error error =>
      exact keeps_of_unchanged (by simp [next, Coordinator.apply, acquired]) takes collects
    | ok lent =>
      obtain ⟨id, fleet⟩ := lent
      have runs : fleet.endpoints = history.coordinator.fleet.endpoints := by
        unfold Fleet.acquire at acquired
        split at acquired <;> cases acquired
        rfl
      refine ⟨?_, ?_, ?_, takes, collects⟩ <;> simp [next, Coordinator.apply, acquired, runs]
  | clearFinishedProgress | elapse | release => exact ⟨rfl, rfl, .refl _, takes, collects⟩

/-! ## Starting -/

variable {record : DeviceRecord} {endpoint : EndpointId} {ticket : Nat}

/-- An update is refused while the coordinator has one for its endpoint. -/
theorem next_start_of_busy {update : ActiveUpdate}
    (busy : history.coordinator.active? record.endpoint = some update) :
    history.next (.start record) =
      ⟨history.coordinator, [], .refused (.updateInProgress record.endpoint)⟩ := by
  simp [next, Coordinator.apply, Coordinator.start, busy]

theorem keeps_of_busy {update : ActiveUpdate}
    (busy : history.coordinator.active? record.endpoint = some update) :
    history.Keeps (.start record) :=
  keeps_of_unchanged (by rw [next_start_of_busy busy]) rfl rfl

/-- Otherwise it is started. -/
theorem next_start_of_free (free : history.coordinator.active? record.endpoint = none) :
    let step := history.next (.start record)
    step.result = .done ∧ step.coordinator.fleet = history.coordinator.fleet.add record ∧
      step.coordinator.waits = history.coordinator.waits ∧
      step.coordinator.active =
        (record.endpoint, ⟨history.coordinator.fleet.runs.length, false,
          history.coordinator.fleet.now⟩) :: history.coordinator.active := by
  simp [next, Coordinator.apply, Coordinator.start, free]

theorem endpoints_add {fleet : Fleet} :
    (fleet.add record).endpoints = fleet.endpoints ++ [record.endpoint] := by
  simp [Fleet.endpoints, Fleet.add, Run.endpoint, Session.endpoint]

theorem length_endpoints {fleet : Fleet} : fleet.endpoints.length = fleet.runs.length :=
  List.length_map _

theorem taken_extend_start : (history.extend (.start record)).taken = history.taken := by
  rw [taken_extend]
  exact List.append_nil _

theorem collected_extend_start :
    (history.extend (.start record)).collected = history.collected := by
  rw [collected_extend]
  exact List.append_nil _

theorem getElem?_concat_eq_some {α : Type} {items : List α} {item other : α} {place : Nat} :
    (items ++ [item])[place]? = some other ↔
      items[place]? = some other ∨ other = item ∧ place = items.length := by
  rcases Nat.lt_trichotomy place items.length with old | rfl | beyond
  · rw [List.getElem?_append_left old]
    exact ⟨.inl, fun known => known.resolve_right fun new => absurd new.2 (Nat.ne_of_lt old)⟩
  · simp [eq_comm]
  · have outside : (items ++ [item]).length ≤ place := by
      simp only [List.length_append, List.length_singleton]
      omega
    rw [List.getElem?_eq_none outside, List.getElem?_eq_none (Nat.le_of_lt beyond)]
    simp [Nat.ne_of_gt beyond]

/-- The new session is the only one that is uncollected now and was not before. -/
theorem isUncollected_start (booked : history.Booked)
    (free : history.coordinator.active? record.endpoint = none) {place : Nat} :
    (history.extend (.start record)).IsUncollected endpoint place ↔
      history.IsUncollected endpoint place ∨
        endpoint = record.endpoint ∧ place = history.coordinator.fleet.runs.length := by
  obtain ⟨_, fleet, _⟩ := next_start_of_free free
  have fresh : history.coordinator.fleet.runs.length ∉ history.collected := fun collected =>
    Nat.lt_irrefl _ (length_endpoints ▸ booked.started _ (booked.owned _ collected))
  unfold IsUncollected
  rw [collected_extend_start, CoordinatorHistory.extend, fleet, endpoints_add,
    getElem?_concat_eq_some, length_endpoints]
  constructor
  · rintro ⟨old | new, uncollected⟩
    · exact .inl ⟨old, uncollected⟩
    · exact .inr new
  · rintro (⟨old, uncollected⟩ | ⟨rfl, rfl⟩)
    · exact ⟨.inl old, uncollected⟩
    · exact ⟨.inr ⟨rfl, rfl⟩, fresh⟩

theorem booked_start (booked : history.Booked)
    (free : history.coordinator.active? record.endpoint = none) :
    (history.extend (.start record)).Booked := by
  obtain ⟨_, fleet, waits, active⟩ := next_start_of_free free
  have active?_eq (endpoint : EndpointId) :
      (history.extend (.start record)).coordinator.active? endpoint =
        if endpoint = record.endpoint then
          some ⟨history.coordinator.fleet.runs.length, false, history.coordinator.fleet.now⟩
        else history.coordinator.active? endpoint := by
    rw [Coordinator.active?, CoordinatorHistory.extend, active, List.lookup_cons]
    by_cases same : endpoint = record.endpoint
    · simp [same]
    · rw [if_neg same, beq_false_of_ne same]
      rfl
  constructor
  case active =>
    intro endpoint update found
    rw [active?_eq] at found
    rw [isUncollected_start booked free, taken_extend_start]
    split at found
    · rename_i same
      obtain rfl := Option.some.inj found
      refine ⟨.inr ⟨same, rfl⟩, iff_of_false Bool.false_ne_true fun taken => ?_⟩
      exact (Nat.lt_irrefl _ (length_endpoints ▸ booked.started _ taken)).elim
    · exact ⟨.inl (booked.active endpoint update found).1, (booked.active endpoint update found).2⟩
  case tracked =>
    intro endpoint place uncollected
    rw [active?_eq]
    rcases (isUncollected_start booked free).mp uncollected with old | ⟨rfl, rfl⟩
    · obtain ⟨update, found, run⟩ := booked.tracked endpoint place old
      have other : endpoint ≠ record.endpoint := by
        rintro rfl
        cases free.symm.trans found
      exact ⟨update, by rw [if_neg other, found], run⟩
    · exact ⟨_, if_pos rfl, rfl⟩
  case taken =>
    rw [taken_extend_start]
    exact booked.taken
  case started =>
    intro place taken
    rw [taken_extend_start] at taken
    rw [CoordinatorHistory.extend, fleet, endpoints_add, List.length_append]
    exact Nat.lt_succ_of_lt (booked.started place taken)
  case collected =>
    rw [collected_extend_start]
    exact booked.collected
  case owned =>
    rw [taken_extend_start, collected_extend_start]
    exact booked.owned
  case waits =>
    intro wait mem
    rw [CoordinatorHistory.extend, waits] at mem
    obtain ⟨uncollected, taken, took⟩ := booked.waits wait mem
    rw [isUncollected_start booked free, taken_extend_start]
    exact ⟨.inl uncollected, taken, took.extend⟩
  case distinct =>
    intro wait mem other also
    rw [CoordinatorHistory.extend, waits] at mem also
    exact booked.distinct wait mem other also

/-! ## Waiting -/

/-- A wait is refused if the endpoint has no update, or if another wait has taken it. -/
theorem next_wait_of_closed
    (closed : ∀ update, history.coordinator.active? endpoint = some update →
      update.isTaken = true) :
    history.next (.wait endpoint) = ⟨history.coordinator, [], .refused .sessionClosed⟩ := by
  rw [next, Coordinator.apply_wait]
  cases found : history.coordinator.active? endpoint with
  | none => rfl
  | some update => simp [closed update found, Option.filter]

variable (history endpoint) in
theorem next_wait_cases :
    history.Keeps (.wait endpoint) ∨
      ∃ update, history.coordinator.active? endpoint = some update ∧ update.isTaken = false := by
  cases found : history.coordinator.active? endpoint with
  | none =>
    have refused := next_wait_of_closed fun update busy => nomatch found.symm.trans busy
    exact .inl (keeps_of_unchanged (by rw [refused]) (by rw [refused]; rfl) rfl)
  | some update =>
    cases taken : update.isTaken with
    | false => exact .inr ⟨update, rfl, taken⟩
    | true =>
      have refused := next_wait_of_closed fun other busy => by
        rwa [← Option.some.inj (found.symm.trans busy)]
      exact .inl (keeps_of_unchanged (by rw [refused]) (by rw [refused]; rfl) rfl)

section

variable {update : ActiveUpdate} (found : history.coordinator.active? endpoint = some update)
  (open_end : update.isTaken = false)

include found open_end

theorem next_wait_of_open : history.next (.wait endpoint) =
    ⟨history.coordinator.waiting endpoint history.entries.length update, [], .done⟩ := by
  simp [next, Coordinator.apply_wait, found, open_end, Option.filter]

theorem taken_extend_wait :
    (history.extend (.wait endpoint)).taken = history.taken ++ [update.run] := by
  rw [taken_extend, CoordinatorEntry.takes?, next_wait_of_open found open_end]
  simp [found]

omit found open_end in
theorem collected_extend_wait :
    (history.extend (.wait endpoint)).collected = history.collected := by
  rw [collected_extend]
  exact List.append_nil _

theorem took_extend_wait :
    (history.extend (.wait endpoint)).Took history.entries.length endpoint update.run := by
  refine ⟨_, List.getElem?_concat_length, ?_⟩
  rw [CoordinatorEntry.takes?, next_wait_of_open found open_end]
  simp [found]

theorem isUncollected_wait {other : EndpointId} {place : Nat} :
    (history.extend (.wait endpoint)).IsUncollected other place ↔
      history.IsUncollected other place := by
  unfold IsUncollected
  rw [collected_extend_wait, CoordinatorHistory.extend, next_wait_of_open found open_end]
  rfl

/-- A wait marks the update of its endpoint. -/
theorem active?_wait (other : EndpointId) :
    (history.extend (.wait endpoint)).coordinator.active? other =
      if other = endpoint then some { update with isTaken := true }
      else history.coordinator.active? other := by
  rw [CoordinatorHistory.extend, next_wait_of_open found open_end, Coordinator.active?_waiting]
  split
  · rename_i same
    rw [same, found]
    rfl
  · exact congrFun Option.map_id _

theorem booked_wait (booked : history.Booked) : (history.extend (.wait endpoint)).Booked := by
  obtain ⟨held, mark⟩ := booked.active endpoint update found
  have untaken : update.run ∉ history.taken := fun taken => by
    rw [mark.mpr taken] at open_end
    cases open_end
  constructor
  case active =>
    intro other entry found_after
    rw [active?_wait found open_end] at found_after
    rw [isUncollected_wait found open_end, taken_extend_wait found open_end, List.mem_append,
      List.mem_singleton]
    split at found_after
    · rename_i same
      obtain rfl := Option.some.inj found_after
      subst same
      exact ⟨held, iff_of_true rfl (.inr rfl)⟩
    · rename_i different
      obtain ⟨uncollected, mark⟩ := booked.active other entry found_after
      refine ⟨uncollected, mark.trans (or_iff_left fun same => different ?_).symm⟩
      -- One run has one endpoint.
      exact Option.some.inj (uncollected.1.symm.trans (same ▸ held.1))
  case tracked =>
    intro other place uncollected
    rw [isUncollected_wait found open_end] at uncollected
    obtain ⟨entry, found_before, run⟩ := booked.tracked other place uncollected
    rw [active?_wait found open_end]
    split
    · rename_i same
      subst same
      obtain rfl := Option.some.inj (found.symm.trans found_before)
      exact ⟨_, rfl, run⟩
    · exact ⟨entry, found_before, run⟩
  case taken =>
    rw [taken_extend_wait found open_end]
    exact List.nodup_append.mpr ⟨booked.taken, List.pairwise_singleton _ _,
      fun place old other new same => untaken (List.mem_singleton.mp new ▸ same ▸ old)⟩
  case started =>
    intro place taken
    rw [CoordinatorHistory.extend, next_wait_of_open found open_end]
    rw [taken_extend_wait found open_end, List.mem_append, List.mem_singleton] at taken
    rcases taken with old | rfl
    · exact booked.started place old
    · exact (List.getElem?_eq_some_iff.mp held.1).1
  case collected =>
    rw [collected_extend_wait]
    exact booked.collected
  case owned =>
    rw [collected_extend_wait, taken_extend_wait found open_end]
    exact fun place collected => List.mem_append_left _ (booked.owned place collected)
  case waits =>
    intro wait mem
    rw [CoordinatorHistory.extend, next_wait_of_open found open_end] at mem
    rw [isUncollected_wait found open_end, taken_extend_wait found open_end]
    rcases List.mem_append.mp mem with old | new
    · obtain ⟨uncollected, taken, took⟩ := booked.waits wait old
      exact ⟨uncollected, List.mem_append_left _ taken, took.extend⟩
    · obtain rfl := List.mem_singleton.mp new
      exact ⟨held, List.mem_append_right _ (List.mem_singleton_self _),
        took_extend_wait found open_end⟩
  case distinct =>
    intro wait mem other also
    rw [CoordinatorHistory.extend, next_wait_of_open found open_end] at mem also
    rcases List.mem_append.mp mem with old | new <;>
      rcases List.mem_append.mp also with old' | new'
    · exact booked.distinct wait old other old'
    · obtain rfl := List.mem_singleton.mp new'
      intro same
      replace same : wait.run = update.run := same
      exact absurd (same ▸ (booked.waits wait old).2.1) untaken
    · obtain rfl := List.mem_singleton.mp new
      intro same
      replace same : update.run = other.run := same
      exact absurd (same ▸ (booked.waits other old').2.1) untaken
    · rw [List.mem_singleton.mp new, List.mem_singleton.mp new']
      exact fun _ => rfl

end

/-! ## Going on from a wait -/

theorem success_report {coordinator : Coordinator} {wait : Wait} {state : SessionState}
    {components : List ComponentOutcome} :
    (coordinator.report wait state components).success = true ↔ state = .completed := by
  cases state <;> simp [Coordinator.report]

/-- A run that takes no more events has ended, or it has broken down. -/
theorem status_of_closed {run : Run} (closed : run.isOpen = false) :
    run.status = .crashed ∨ run.status = .ended := by
  cases status : run.status <;> simp_all [Run.isOpen]

variable (history) in
/-- A wait that goes on before its run has ended, or that there is none of, changes nothing. -/
theorem next_wake_cases (endpoint : EndpointId) (ticket : Nat) :
    history.next (.wake endpoint ticket) = ⟨history.coordinator, [], .done⟩ ∨
      ∃ wait result, history.coordinator.wait? endpoint ticket = some wait ∧
        history.Reports endpoint wait.run result ∧
        (history.next (.wake endpoint ticket)).result = .returned result ∧
        (history.next (.wake endpoint ticket)).coordinator.fleet = history.coordinator.fleet ∧
        (history.next (.wake endpoint ticket)).coordinator.active =
          history.coordinator.active.filter (·.1 ≠ endpoint) ∧
        (history.next (.wake endpoint ticket)).coordinator.waits =
          history.coordinator.waits.filter (·.ticket ≠ ticket) := by
  rw [next, Coordinator.apply_wake]
  cases found : history.coordinator.wait? endpoint ticket with
  | none => exact .inl rfl
  | some wait =>
    obtain ⟨_, _, rfl, rfl⟩ := Coordinator.wait?_eq_some found
    dsimp only
    cases finished : history.coordinator.fleet.runs[wait.run]?.filter (!·.isOpen) with
    | none => exact .inl rfl
    | some run =>
      obtain ⟨located, closed⟩ := Option.filter_eq_some_iff.mp finished
      refine .inr ⟨wait, history.coordinator.outcome wait run, rfl, ⟨run, located, ?_⟩,
        rfl, rfl, rfl, rfl⟩
      rw [Coordinator.outcome]
      rcases status_of_closed (by simpa using closed) with crashed | ended
      · exact .inl ⟨crashed, if_pos crashed⟩
      · refine .inr ⟨ended, _, if_neg (by simp [ended]), rfl, success_report⟩

theorem keeps_of_idle_wake
    (idle : history.next (.wake endpoint ticket) = ⟨history.coordinator, [], .done⟩) :
    history.Keeps (.wake endpoint ticket) :=
  keeps_of_unchanged (by rw [idle]) rfl (by rw [idle]; rfl)

section

variable {wait : Wait} {result : Except UpdateError DeviceUpdateReport}
  (found : history.coordinator.wait? endpoint ticket = some wait)
  (returned : (history.next (.wake endpoint ticket)).result = .returned result)

include found returned

omit found returned in
theorem taken_extend_wake : (history.extend (.wake endpoint ticket)).taken = history.taken := by
  rw [taken_extend]
  exact List.append_nil _

theorem collected_extend_wake :
    (history.extend (.wake endpoint ticket)).collected = history.collected ++ [wait.run] := by
  rw [collected_extend, CoordinatorEntry.collects?, returned]
  simp [found]

variable (fleet : (history.next (.wake endpoint ticket)).coordinator.fleet =
    history.coordinator.fleet)

include fleet

theorem isUncollected_wake {other : EndpointId} {place : Nat} :
    (history.extend (.wake endpoint ticket)).IsUncollected other place ↔
      history.IsUncollected other place ∧ place ≠ wait.run := by
  unfold IsUncollected
  rw [collected_extend_wake found returned, CoordinatorHistory.extend, fleet, List.mem_append,
    List.mem_singleton, not_or, and_assoc]

variable (active : (history.next (.wake endpoint ticket)).coordinator.active =
    history.coordinator.active.filter (·.1 ≠ endpoint))
  (waits : (history.next (.wake endpoint ticket)).coordinator.waits =
    history.coordinator.waits.filter (·.ticket ≠ ticket))

include active waits

theorem booked_wake (booked : history.Booked) :
    (history.extend (.wake endpoint ticket)).Booked := by
  obtain ⟨_, listed, ticket_eq, own⟩ := Coordinator.wait?_eq_some found
  obtain ⟨held, taken, _⟩ := booked.waits wait listed
  rw [own] at held
  have active?_eq (other : EndpointId) :
      (history.extend (.wake endpoint ticket)).coordinator.active? other =
        if other = endpoint then none else history.coordinator.active? other := by
    rw [Coordinator.active?, CoordinatorHistory.extend, active, InstanceIdPool.lookup_filter_ne]
    rfl
  constructor
  case active =>
    intro other update found_after
    rw [active?_eq] at found_after
    rw [isUncollected_wake found returned fleet, taken_extend_wake]
    split at found_after
    · cases found_after
    · rename_i different
      obtain ⟨uncollected, mark⟩ := booked.active other update found_after
      refine ⟨⟨uncollected, fun same => different ?_⟩, mark⟩
      exact Option.some.inj (uncollected.1.symm.trans (same ▸ held.1))
  case tracked =>
    intro other place uncollected
    obtain ⟨uncollected, different⟩ := (isUncollected_wake found returned fleet).mp uncollected
    obtain ⟨update, found_before, run⟩ := booked.tracked other place uncollected
    refine ⟨update, ?_, run⟩
    rw [active?_eq, if_neg, found_before]
    -- The endpoint has one entry, and it is that of the wait.
    rintro rfl
    obtain ⟨entry, found_entry, run_eq⟩ := booked.tracked other wait.run held
    obtain rfl := Option.some.inj (found_before.symm.trans found_entry)
    exact different (run.symm.trans run_eq)
  case taken =>
    rw [taken_extend_wake]
    exact booked.taken
  case started =>
    rw [taken_extend_wake, CoordinatorHistory.extend, fleet]
    exact booked.started
  case collected =>
    rw [collected_extend_wake found returned]
    exact List.nodup_append.mpr ⟨booked.collected, List.pairwise_singleton _ _,
      fun place old other new same => held.2 (List.mem_singleton.mp new ▸ same ▸ old)⟩
  case owned =>
    rw [collected_extend_wake found returned, taken_extend_wake]
    intro place collected
    rcases List.mem_append.mp collected with old | new
    · exact booked.owned place old
    · exact List.mem_singleton.mp new ▸ taken
  case waits =>
    intro other mem
    rw [CoordinatorHistory.extend, waits] at mem
    obtain ⟨mem, different⟩ := List.mem_filter.mp mem
    obtain ⟨uncollected, taken, took⟩ := booked.waits other mem
    rw [isUncollected_wake found returned fleet, taken_extend_wake]
    refine ⟨⟨uncollected, fun same => ?_⟩, taken, took.extend⟩
    have same_ticket := booked.distinct other mem wait listed same
    simp [same_ticket, ticket_eq] at different
  case distinct =>
    intro other mem another also
    rw [CoordinatorHistory.extend, waits] at mem also
    exact booked.distinct other (List.mem_filter.mp mem).1 another (List.mem_filter.mp also).1

end

/-! ## The result -/

/-- Every action keeps the coordinator's records. -/
theorem booked_extend (sound : history.coordinator.fleet.IsSound) (booked : history.Booked)
    (action : CoordinatorAction) : (history.extend action).Booked := by
  cases action with
  | start record =>
    cases found : history.coordinator.active? record.endpoint with
    | none => exact booked_start booked found
    | some update => exact (keeps_of_busy found).booked booked
  | wait endpoint =>
    rcases next_wait_cases history endpoint with keeps | ⟨update, found, open_end⟩
    · exact keeps.booked booked
    · exact booked_wait found open_end booked
  | wake endpoint ticket =>
    rcases next_wake_cases history endpoint ticket with
      unchanged | ⟨wait, result, found, _, returned, fleet, active, waits⟩
    · exact (keeps_of_idle_wake unchanged).booked booked
    · exact booked_wake found returned fleet active waits booked
  | _ => exact (keeps_of_other sound rfl).booked booked

/-- The records of a session that has been started but not collected. -/
theorem Booked.exists_update (booked : history.Booked) {place : Nat}
    (uncollected : history.IsUncollected endpoint place) :
    ∃ update, history.coordinator.active? endpoint = some update ∧ update.run = place ∧
      (update.isTaken = true ↔ place ∈ history.taken) := by
  obtain ⟨update, found, rfl⟩ := booked.tracked endpoint place uncollected
  exact ⟨update, found, rfl, (booked.active endpoint update found).2⟩

/-- An endpoint is free exactly if all its sessions have been collected. -/
theorem Booked.free_iff (booked : history.Booked) :
    history.coordinator.active? endpoint = none ↔
      ¬ ∃ place, history.IsUncollected endpoint place := by
  constructor
  · rintro free ⟨place, uncollected⟩
    obtain ⟨update, found, _⟩ := booked.tracked endpoint place uncollected
    cases free.symm.trans found
  · intro none_left
    cases found : history.coordinator.active? endpoint with
    | none => rfl
    | some update => exact absurd ⟨_, (booked.active endpoint update found).1⟩ none_left

theorem mem_activeEndpoints {coordinator : Coordinator} :
    endpoint ∈ coordinator.activeEndpoints ↔ coordinator.active? endpoint ≠ none := by
  have listed (entries : List (EndpointId × ActiveUpdate)) :
      endpoint ∈ entries.map (·.1) ↔ entries.lookup endpoint ≠ none := by
    induction entries with
    | nil => simp
    | cons entry entries ih =>
      rw [List.map_cons, List.mem_cons, ih, List.lookup_cons]
      by_cases same : endpoint = entry.1
      · simp [same]
      · simp [same, beq_false_of_ne same]
  rw [Coordinator.activeEndpoints, List.mem_mergeSort, listed, Coordinator.active?]

/-- A session whose end is reported is over. -/
theorem isOver_of_reports {place : Nat} {result : Except UpdateError DeviceUpdateReport}
    (sound : history.coordinator.fleet.IsSound)
    (reports : history.Reports endpoint place result) : history.IsOver place := by
  obtain ⟨run, located, ⟨crashed, _⟩ | ⟨ended, _⟩⟩ := reports
  · exact ⟨run, located, .inl crashed⟩
  · refine ⟨run, located, .inr ⟨ended, ?_⟩⟩
    cases sound run (List.mem_of_getElem? located) with
    | waiting status | running status => cases status.symm.trans ended
    | stopped _ _ _ _ terminal => exact terminal ended

theorem Booked.lifecycle (booked : history.Booked)
    (sound : history.coordinator.fleet.IsSound) : history.Lifecycle where
  single endpoint place other uncollected also := by
    obtain ⟨update, found, rfl, _⟩ := booked.exists_update uncollected
    obtain ⟨entry, found_entry, rfl, _⟩ := booked.exists_update also
    rw [Option.some.inj (found.symm.trans found_entry)]
  listed endpoint := by
    rw [mem_activeEndpoints, ne_eq, booked.free_iff, not_not]
  refused record busy := by
    obtain ⟨place, uncollected⟩ := busy
    obtain ⟨update, found, _⟩ := booked.exists_update uncollected
    exact next_start_of_busy found
  started record free := by
    have none_left := booked.free_iff.mpr free
    exact ⟨(next_start_of_free none_left).1,
      (isUncollected_start booked none_left).mpr (.inr ⟨rfl, rfl⟩)⟩
  waits endpoint place uncollected untaken := by
    obtain ⟨update, found, rfl, mark⟩ := booked.exists_update uncollected
    have open_end : update.isTaken = false := by
      cases taken : update.isTaken with
      | false => rfl
      | true => exact absurd (mark.mp taken) untaken
    exact ⟨by rw [next_wait_of_open found open_end], took_extend_wait found open_end⟩
  closed endpoint none_open := by
    refine next_wait_of_closed fun update found => ?_
    obtain ⟨uncollected, mark⟩ := booked.active endpoint update found
    cases taken : update.isTaken with
    | true => rfl
    | false =>
      refine absurd ⟨update.run, uncollected, fun among => ?_⟩ none_open
      cases taken.symm.trans (mark.mpr among)
  once := ⟨booked.taken, booked.collected⟩
  returns endpoint ticket result returned := by
    rcases next_wake_cases history endpoint ticket with
      unchanged | ⟨wait, other, found, reports, returned', _⟩
    · rw [unchanged] at returned
      cases returned
    · obtain rfl : other = result := by
        rw [returned'] at returned
        exact CallResult.returned.inj returned
      obtain ⟨_, listed, rfl, rfl⟩ := Coordinator.wait?_eq_some found
      obtain ⟨uncollected, _, took⟩ := booked.waits wait listed
      exact ⟨wait.run, took, uncollected, isOver_of_reports sound reports, reports,
        collected_extend_wake found returned'⟩
  leaves action endpoint place uncollected := by
    cases action with
    | start record =>
      cases found : history.coordinator.active? record.endpoint with
      | none => exact .inl ((isUncollected_start booked found).mpr (.inl uncollected))
      | some update => exact .inl ((keeps_of_busy found).isUncollected.mpr uncollected)
    | wait asked =>
      left
      rcases next_wait_cases history asked with keeps | ⟨update, found, open_end⟩
      · exact keeps.isUncollected.mpr uncollected
      · exact (isUncollected_wait found open_end).mpr uncollected
    | wake asked ticket =>
      rcases next_wake_cases history asked ticket with
        unchanged | ⟨wait, result, found, reports, returned, fleet, _⟩
      · exact .inl ((keeps_of_idle_wake unchanged).isUncollected.mpr uncollected)
      · by_cases same : place = wait.run
        · obtain ⟨_, listed, rfl, rfl⟩ := Coordinator.wait?_eq_some found
          obtain ⟨held, _, took⟩ := booked.waits wait listed
          subst same
          obtain rfl := Option.some.inj (uncollected.1.symm.trans held.1)
          exact .inr ⟨_, result, rfl, returned, took, isOver_of_reports sound reports⟩
        · exact .inl ((isUncollected_wake found returned fleet).mpr ⟨uncollected, same⟩)
    | _ => exact .inl ((keeps_of_other sound rfl).isUncollected.mpr uncollected)

theorem booked_opened (context : SessionContext) (pool : InstanceIdPool) :
    Booked { coordinator := .opened context pool } where
  active _ _ found := nomatch found
  tracked _ _ uncollected := nomatch uncollected.1
  taken := .nil
  started _ taken := nomatch taken
  collected := .nil
  owned _ collected := nomatch collected
  waits _ listed := nomatch listed
  distinct _ listed := nomatch listed

/-- At all times the sessions are sound, and the records say what has been called. -/
theorem booked_through (context : SessionContext) (pool : InstanceIdPool)
    (actions : List CoordinatorAction) :
    (through context pool actions).coordinator.fleet.IsSound ∧
      (through context pool actions).Booked := by
  refine induct (motive := fun history =>
    history.coordinator.fleet.IsSound ∧ history.Booked) ?_ ?_ actions
  · exact ⟨fun run mem => absurd mem List.not_mem_nil, booked_opened context pool⟩
  · rintro history action ⟨sound, booked⟩
    exact ⟨isSound_extend sound action, booked_extend sound booked action⟩

/-- Whatever is called and whatever the sessions do, in whatever order: an endpoint has at most one
session that has not been collected, and is busy exactly as long as it has one. The end of a session
is taken by at most one wait, which alone returns its report, once the session is over, and so frees
the endpoint. -/
theorem lifecycle_through (context : SessionContext) (pool : InstanceIdPool)
    (actions : List CoordinatorAction) : (through context pool actions).Lifecycle :=
  let ⟨sound, booked⟩ := booked_through context pool actions
  booked.lifecycle sound

end CoordinatorHistory

end FirmwareAgent
