import FirmwareAgent.Proofs.Coordinator.EndpointView
import FirmwareAgent.Proofs.Fleet.Shared
import FirmwareAgent.Proofs.Run.Inbound

/-!
# Updates of different endpoints do not influence each other

The updates of a coordinator share the pool of instance ids, the count of the progress and the
coordinator's records. Still an endpoint cannot tell a history with many endpoints from one in which
nothing else happens than what concerns the endpoint, at the same times.

* `Coordinator.Shares` relates the coordinators of the two histories.
* `Coordinator.Shares.apply_own` and `Coordinator.Shares.apply_other`: actions that concern the
  endpoint keep it, and so do the others.
* `CoordinatorHistory.isolated_through`: the result.
-/

namespace FirmwareAgent

namespace Coordinator

variable {coordinator other : Coordinator} {endpoint : EndpointId} {place number : Nat}
  {paired : LeasePairing}

/-! ## Coordinators that are the same to an endpoint -/

/-- The second coordinator knows the endpoint and no other. -/
structure Shares (paired : LeasePairing) (count : Nat) (endpoint : EndpointId)
    (coordinator other : Coordinator) : Prop where
  fleet : coordinator.fleet.Shares paired count endpoint other.fleet
  active : other.active? endpoint =
    (coordinator.active? endpoint).map (ActiveUpdate.renumber coordinator.fleet endpoint)
  waits : other.waits = (coordinator.waits.filter (·.endpoint == endpoint)).map
    (Wait.renumber coordinator.fleet endpoint)
  devices : other.tracker.devicesOf endpoint = coordinator.tracker.devicesOf endpoint

/-- Two steps come to the same for the endpoint. -/
structure StepsAlike (paired : LeasePairing) (count : Nat) (endpoint : EndpointId)
    (coordinator other : Coordinator) (step step' : CoordinatorStep) : Prop where
  shares : step.coordinator.Shares paired count endpoint step'.coordinator
  events : step'.events.map (·.seenBy other.fleet endpoint) =
    step.events.map (·.seenBy coordinator.fleet endpoint)
  result : step'.result = step.result

/-- A step is nothing to the endpoint. -/
structure IsForeign (paired : LeasePairing) (count : Nat) (endpoint : EndpointId)
    (coordinator other : Coordinator) (step : CoordinatorStep) : Prop where
  shares : step.coordinator.Shares paired count endpoint other
  events : ∀ event ∈ step.events, ¬ event.IsAbout coordinator.fleet endpoint

theorem renumber_congr {fleet later : Fleet} {endpoint : EndpointId}
    (numbers : later.numberOf endpoint = fleet.numberOf endpoint) :
    ActiveUpdate.renumber later endpoint = ActiveUpdate.renumber fleet endpoint ∧
      Wait.renumber later endpoint = Wait.renumber fleet endpoint :=
  ⟨funext fun update => by rw [ActiveUpdate.renumber, ActiveUpdate.renumber, numbers],
    funext fun wait => by rw [Wait.renumber, Wait.renumber, numbers]⟩

namespace Shares

variable {count : Nat} (shares : coordinator.Shares paired count endpoint other)

include shares

theorem keys (lease lease' : Lease) (pair : paired lease lease') : lease'.key = lease.key :=
  (shares.fleet.pool.key pair).2

/-- Nothing happens. -/
theorem stays : coordinator.Shares paired (count + 1) endpoint other :=
  ⟨shares.fleet.later, shares.active, shares.waits, shares.devices⟩

theorem stepsAlike {events events' : List CoordinatorEvent}
    (same : events'.map (·.seenBy other.fleet endpoint) =
      events.map (·.seenBy coordinator.fleet endpoint)) (result : CallResult) :
    paired.Grows fun paired => StepsAlike paired (count + 1) endpoint coordinator other
      ⟨coordinator, events, result⟩ ⟨other, events', result⟩ :=
  ⟨paired, paired.within_refl, shares.stays, same, rfl⟩

/-- The endpoint is busy in both coordinators, or in neither. -/
theorem isSome_active :
    (other.active? endpoint).isSome = (coordinator.active? endpoint).isSome := by
  rw [shares.active, Option.isSome_map]

/-- A run of the endpoint does the same in both coordinators. -/
theorem act (few : count < UInt64.size) (sound : coordinator.fleet.IsSound)
    (own : coordinator.fleet.endpoints[place]? = some endpoint) (action : RunAction) :
    paired.Grows fun paired => StepsAlike paired (count + 1) endpoint coordinator other
      ⟨(coordinator.act place action).1, (coordinator.act place action).2, .done⟩
      ⟨(other.act (coordinator.fleet.numberOf endpoint place) action).1,
        (other.act (coordinator.fleet.numberOf endpoint place) action).2, .done⟩ := by
  obtain ⟨run, found, endpoint_eq⟩ := Fleet.endpoints_eq_some.mp own
  obtain ⟨paired', within, fleets, occurrences⟩ :=
    shares.fleet.act few found endpoint_eq action
  obtain ⟨active_eq, waits_eq⟩ :=
    renumber_congr (Fleet.numberOf_act sound place action endpoint)
  have told (notification : Notification)
      (mem : .notified notification ∈ (coordinator.fleet.act place action).2) :
      notification.endpoint = endpoint := by
    rw [Fleet.act_eq found] at mem
    rw [endpoint_of_notified (sound run (List.mem_of_getElem? found)) mem, endpoint_eq]
  have keys (lease lease' : Lease) (pair : paired' lease lease') : lease'.key = lease.key :=
    (fleets.pool.key pair).2
  obtain ⟨devices, events⟩ := observeAll_congr
    { coordinator with fleet := (coordinator.fleet.act place action).1 }
    { other with fleet := (other.fleet.act (coordinator.fleet.numberOf endpoint place) action).1 }
    occurrences keys (shares.fleet.numberOf_numberOf place) told shares.devices
  refine ⟨paired', within, ⟨?_, ?_, ?_, devices⟩, events, rfl⟩
  · rw [fleet_act, fleet_act]
    exact fleets
  · dsimp only [active?]
    rw [active_act, active_act, fleet_act, active_eq]
    exact shares.active
  · rw [waits_act, waits_act, fleet_act, waits_eq]
    exact shares.waits

/-- What a run does that is not of the endpoint is nothing to it. -/
theorem act_other (sound : coordinator.fleet.IsSound) (atHome : coordinator.fleet.IsAtHome)
    (foreign : coordinator.fleet.endpoints[place]? ≠ some endpoint) (action : RunAction) :
    IsForeign paired (count + 1) endpoint coordinator other
      ⟨(coordinator.act place action).1, (coordinator.act place action).2, .done⟩ := by
  obtain ⟨active_eq, waits_eq⟩ :=
    renumber_congr (Fleet.numberOf_act sound place action endpoint)
  have fleets : (coordinator.fleet.act place action).1.Shares paired (count + 1) endpoint
      other.fleet := by
    cases found : coordinator.fleet.runs[place]? with
    | none =>
      rw [Fleet.act, found]
      exact shares.fleet.later
    | some run =>
      have mem := List.mem_of_getElem? found
      refine shares.fleet.act_other found (fun own => foreign ?_) (sound run mem) (atHome run mem)
        action
      exact Fleet.endpoints_eq_some.mpr ⟨run, found, own⟩
  have told (notification : Notification)
      (mem : .notified notification ∈ (coordinator.fleet.act place action).2) :
      notification.endpoint ≠ endpoint := by
    cases found : coordinator.fleet.runs[place]? with
    | none =>
      rw [Fleet.act, found] at mem
      cases mem
    | some run =>
      rw [Fleet.act_eq found] at mem
      rw [endpoint_of_notified (sound run (List.mem_of_getElem? found)) mem]
      exact fun own => foreign (Fleet.endpoints_eq_some.mpr ⟨run, found, own⟩)
  obtain ⟨devices, events⟩ := observeAll_other
    { coordinator with fleet := (coordinator.fleet.act place action).1 } foreign told
  refine ⟨⟨?_, ?_, ?_, shares.devices.trans devices.symm⟩, events⟩
  · rw [fleet_act]
    exact fleets
  · dsimp only [active?]
    rw [active_act, fleet_act, active_eq]
    exact shares.active
  · rw [waits_act, fleet_act, waits_eq]
    exact shares.waits

end Shares

/-- The coordinator's records point to runs of the right endpoints, and so do the leases of the
runs. -/
structure InOrder (coordinator : Coordinator) : Prop where
  sound : coordinator.fleet.IsSound
  atHome : coordinator.fleet.IsAtHome
  active : ∀ endpoint update, coordinator.active? endpoint = some update →
    coordinator.fleet.endpoints[update.run]? = some endpoint
  waits : ∀ wait ∈ coordinator.waits,
    coordinator.fleet.endpoints[wait.run]? = some wait.endpoint
  tickets : ∀ wait ∈ coordinator.waits, ∀ another ∈ coordinator.waits,
    wait.ticket = another.ticket → wait.endpoint = another.endpoint

/-! ## Waits -/

/-- Tickets tell the waits of different endpoints apart. -/
theorem find?_filter_endpoint {waits : List Wait} {ticket : Nat}
    (tickets : ∀ wait ∈ waits, ∀ another ∈ waits, wait.ticket = another.ticket →
      wait.endpoint = another.endpoint) (endpoint : EndpointId) :
    (waits.filter (·.endpoint == endpoint)).find? (·.ticket == ticket) =
      (waits.find? (·.ticket == ticket)).filter (·.endpoint == endpoint) := by
  induction waits with
  | nil => rfl
  | cons wait waits ih =>
    have rest := ih fun one mem another also =>
      tickets one (List.mem_cons_of_mem _ mem) another (List.mem_cons_of_mem _ also)
    rw [List.find?_cons, List.filter_cons]
    cases same : wait.ticket == ticket with
    | false =>
      cases own : wait.endpoint == endpoint with
      | false => exact rest
      | true =>
        rw [if_pos rfl, List.find?_cons, same]
        exact rest
    | true =>
      cases own : wait.endpoint == endpoint with
      | true => simp only [if_true, List.find?_cons, same, Option.filter_some, own]
      | false =>
        -- No later wait with the ticket is of the endpoint either.
        simp only [Bool.false_eq_true, if_false, Option.filter_some, own]
        refine List.find?_eq_none.mpr fun another mem another_ticket => ?_
        obtain ⟨also, another_own⟩ := List.mem_filter.mp mem
        have one := tickets wait List.mem_cons_self another (List.mem_cons_of_mem _ also)
          ((eq_of_beq same).trans (eq_of_beq another_ticket).symm)
        rw [one, another_own] at own
        cases own

namespace Shares

variable {count : Nat} (shares : coordinator.Shares paired count endpoint other)

include shares

theorem wait?_eq (order : coordinator.InOrder) (ticket : Nat) :
    other.wait? endpoint ticket =
      (coordinator.wait? endpoint ticket).map (Wait.renumber coordinator.fleet endpoint) := by
  have renumbered : (fun wait : Wait => wait.ticket == ticket) ∘
      Wait.renumber coordinator.fleet endpoint = fun wait => wait.ticket == ticket := rfl
  unfold wait?
  rw [shares.waits, List.find?_map, renumbered, find?_filter_endpoint order.tickets]
  cases found : (coordinator.waits.find? (·.ticket == ticket)).filter (·.endpoint == endpoint) with
  | none => rfl
  | some wait =>
    have own : (wait.renumber coordinator.fleet endpoint).endpoint = endpoint :=
      eq_of_beq (Option.filter_eq_some_iff.mp found).2
    simp [Option.filter, own]

theorem waits_without (ticket : Nat) : other.waits.filter (·.ticket ≠ ticket) =
    ((coordinator.waits.filter (·.ticket ≠ ticket)).filter (·.endpoint == endpoint)).map
      (Wait.renumber coordinator.fleet endpoint) := by
  rw [shares.waits, List.filter_map, List.filter_filter, List.filter_filter]
  simp only [Bool.and_comm]
  rfl

/-! ## Calls and steps of the endpoint -/

theorem start {record : DeviceRecord} (own : record.endpoint = endpoint)
    (order : coordinator.InOrder) (number : Nat) :
    paired.Grows fun paired => StepsAlike paired (count + 1) endpoint coordinator other
      (coordinator.apply number (.start record)) (other.apply number (.start record)) := by
  subst own
  cases busy : (coordinator.active? record.endpoint).isSome with
  | true =>
    have also_busy := shares.isSome_active.trans busy
    simp only [apply, Coordinator.start, busy, also_busy, if_true]
    exact shares.stepsAlike rfl _
  | false =>
    have also_free := shares.isSome_active.trans busy
    simp only [apply, Coordinator.start, busy, also_free, if_false, Bool.false_eq_true]
    have registered : (other.tracker.register record.endpoint record.componentCount).1.devicesOf
        record.endpoint = (coordinator.tracker.register record.endpoint
          record.componentCount).1.devicesOf record.endpoint := by
      rw [ProgressTracker.devicesOf_register, ProgressTracker.devicesOf_register]
    refine ⟨paired, paired.within_refl, ⟨shares.fleet.add rfl, ?_, ?_, registered⟩, ?_, rfl⟩
    · have newest : (coordinator.fleet.add record).numberOf record.endpoint
          coordinator.fleet.runs.length = other.fleet.runs.length := by
        rw [Fleet.numberOf_add (Nat.le_refl _), shares.fleet.length, Fleet.numberOf, Fleet.runsOf,
          List.take_length, List.countP_eq_length_filter]
      simp only [active?, List.lookup_cons, beq_self_eq_true, Option.map_some,
        ActiveUpdate.renumber, newest, shares.fleet.now]
    · rw [shares.waits]
      refine List.map_congr_left fun wait mem => ?_
      have placed := order.waits wait (List.mem_filter.mp mem).1
      obtain ⟨run, found, _⟩ := Fleet.endpoints_eq_some.mp placed
      rw [Wait.renumber, Wait.renumber,
        Fleet.numberOf_add (Nat.le_of_lt (List.getElem?_eq_some_iff.mp found).1)]
    · have event := ProgressTracker.event_congr registered .started "Update started"
      exact congrArg (fun progress => [CoordinatorEvent.published progress]) event

theorem cancel (few : count < UInt64.size) (order : coordinator.InOrder) (number : Nat) :
    paired.Grows fun paired => StepsAlike paired (count + 1) endpoint coordinator other
      (coordinator.apply number (.cancel endpoint)) (other.apply number (.cancel endpoint)) := by
  cases found : coordinator.active? endpoint with
  | none =>
    have also_none : other.active? endpoint = none := by rw [shares.active, found]; rfl
    simp only [apply, Coordinator.cancel, found, also_none]
    exact shares.stepsAlike rfl _
  | some update =>
    have also_found : other.active? endpoint =
        some (update.renumber coordinator.fleet endpoint) := by rw [shares.active, found]; rfl
    have own := order.active endpoint update found
    obtain ⟨run, at_place, endpoint_eq⟩ := Fleet.endpoints_eq_some.mp own
    obtain ⟨twin, at_number, matched⟩ := shares.fleet.exists_run at_place endpoint_eq
    have at_number : other.fleet.runs[(update.renumber coordinator.fleet endpoint).run]? =
      some twin := at_number
    simp only [apply, Coordinator.cancel, found, also_found, at_place, at_number, Option.any_some,
      matched.isOpen]
    cases run.isOpen with
    | true => exact shares.act few order.sound own .cancel
    | false => exact shares.stepsAlike rfl _

theorem inbound (few : count < UInt64.size) (order : coordinator.InOrder) (number : Nat)
    (request : Request) :
    paired.Grows fun paired => StepsAlike paired (count + 1) endpoint coordinator other
      (coordinator.apply number (.inbound endpoint request))
      (other.apply number (.inbound endpoint request)) := by
  cases found : coordinator.active? endpoint with
  | none =>
    have also_none : other.active? endpoint = none := by rw [shares.active, found]; rfl
    simp only [apply, Coordinator.inbound, found, also_none]
    exact shares.stepsAlike rfl _
  | some update =>
    have also_found : other.active? endpoint =
        some (update.renumber coordinator.fleet endpoint) := by rw [shares.active, found]; rfl
    simp only [apply, Coordinator.inbound, found, also_found]
    exact shares.act few order.sound (order.active endpoint update found)
      (.inbound (.coordinator number) request)

theorem act_numbered (few : count < UInt64.size) (order : coordinator.InOrder)
    (number among : Nat) (action : RunAction) :
    paired.Grows fun paired => StepsAlike paired (count + 1) endpoint coordinator other
      (coordinator.apply number (.act endpoint among action))
      (other.apply number (.act endpoint among action)) := by
  have places := shares.fleet.place?_eq among
  cases found : coordinator.fleet.place? endpoint among with
  | none =>
    rw [found] at places
    simp only [apply, found, places, Option.map_none]
    exact shares.stepsAlike rfl _
  | some place =>
    rw [found] at places
    simp only [apply, found, places, Option.map_some]
    exact shares.act few order.sound (Fleet.place?_eq_some.mp found).1 action

theorem wait (number : Nat) :
    paired.Grows fun paired => StepsAlike paired (count + 1) endpoint coordinator other
      (coordinator.apply number (.wait endpoint)) (other.apply number (.wait endpoint)) := by
  have openings : (other.active? endpoint).filter (!·.isTaken) =
      ((coordinator.active? endpoint).filter (!·.isTaken)).map
        (ActiveUpdate.renumber coordinator.fleet endpoint) := by
    rw [shares.active]
    cases coordinator.active? endpoint with
    | none => rfl
    | some update =>
      cases taken : update.isTaken <;> simp [taken, ActiveUpdate.renumber, Option.filter]
  rw [apply_wait, apply_wait, openings]
  cases (coordinator.active? endpoint).filter (!·.isTaken) with
  | none => exact shares.stepsAlike rfl _
  | some update =>
    refine ⟨paired, paired.within_refl, ⟨shares.fleet.later, ?_, ?_, shares.devices⟩, rfl, rfl⟩
    · dsimp only [Option.map_some]
      rw [active?_waiting, active?_waiting, shares.active, Option.map_map, Option.map_map]
      simp only [if_true]
      rfl
    · simp only [Option.map_some, waiting]
      rw [List.filter_append, List.map_append, shares.waits]
      simp [ActiveUpdate.renumber, Wait.renumber]

theorem wake (order : coordinator.InOrder) (number ticket : Nat) :
    paired.Grows fun paired => StepsAlike paired (count + 1) endpoint coordinator other
      (coordinator.apply number (.wake endpoint ticket))
      (other.apply number (.wake endpoint ticket)) := by
  rw [apply_wake, apply_wake, shares.wait?_eq order]
  cases found : coordinator.wait? endpoint ticket with
  | none => exact shares.stepsAlike rfl _
  | some wait =>
    obtain ⟨_, listed, rfl, rfl⟩ := wait?_eq_some found
    obtain ⟨run, located, own⟩ := Fleet.endpoints_eq_some.mp (order.waits wait listed)
    obtain ⟨twin, at_number, matched⟩ := shares.fleet.exists_run located own
    have at_number : other.fleet.runs[(wait.renumber coordinator.fleet wait.endpoint).run]? =
      some twin := at_number
    simp only [Option.map_some, located, at_number, Option.filter_some, matched.isOpen]
    cases run.isOpen with
    | true => exact shares.stepsAlike rfl _
    | false =>
      have collects := ProgressTracker.collect_congr shares.devices
      have outcome : other.outcome (wait.renumber coordinator.fleet wait.endpoint) twin =
          coordinator.outcome wait run := by
        have components : (other.tracker.collect
            (wait.renumber coordinator.fleet wait.endpoint).endpoint).2 = _ := collects.2
        unfold Coordinator.outcome report
        rw [components, matched.status, matched.session.alike.state, shares.fleet.now]
        rfl
      simp only [Bool.not_false, if_true]
      refine ⟨paired, paired.within_refl, ⟨shares.fleet.later, ?_, ?_, collects.1⟩, rfl, ?_⟩
      · rw [active?_collected, active?_collected]
        simp [Wait.renumber]
      · exact shares.waits_without wait.ticket
      · exact congrArg CallResult.returned outcome

theorem abandon (order : coordinator.InOrder) (number ticket : Nat) :
    paired.Grows fun paired => StepsAlike paired (count + 1) endpoint coordinator other
      (coordinator.apply number (.abandon endpoint ticket))
      (other.apply number (.abandon endpoint ticket)) := by
  have waits := shares.wait?_eq order ticket
  cases found : coordinator.wait? endpoint ticket with
  | none =>
    rw [found] at waits
    simp only [apply, found, waits, Option.map_none]
    exact shares.stepsAlike rfl _
  | some wait =>
    rw [found] at waits
    simp only [apply, found, waits, Option.map_some]
    exact ⟨paired, paired.within_refl, ⟨shares.fleet.later, shares.active,
      shares.waits_without ticket, shares.devices⟩, rfl, rfl⟩

theorem elapse (number nanos : Nat) :
    paired.Grows fun paired => StepsAlike paired (count + 1) endpoint coordinator other
      (coordinator.apply number (.elapse nanos)) (other.apply number (.elapse nanos)) :=
  ⟨paired, paired.within_refl,
    ⟨shares.fleet.elapse nanos, shares.active, shares.waits, shares.devices⟩, rfl, rfl⟩

theorem clearFinishedProgress (number : Nat) :
    paired.Grows fun paired => StepsAlike paired (count + 1) endpoint coordinator other
      (coordinator.apply number .clearFinishedProgress)
      (other.apply number .clearFinishedProgress) := by
  refine ⟨paired, paired.within_refl,
    ⟨shares.fleet.later, shares.active, shares.waits, ?_⟩, rfl, rfl⟩
  simp only [apply, Coordinator.clearFinishedProgress]
  rw [ProgressTracker.devicesOf_clearCollected, ProgressTracker.devicesOf_clearCollected,
    shares.devices]

theorem acquire (few : count < UInt64.size) (number : Nat) :
    paired.Grows fun paired => StepsAlike paired (count + 1) endpoint coordinator other
      (coordinator.apply number (.acquire endpoint)) (other.apply number (.acquire endpoint)) := by
  rcases shares.fleet.acquire few with
    ⟨error, own, others⟩ | ⟨id, lent, lent', own, others, paired', within, fleets⟩
  · simp only [apply, own, others]
    exact shares.stepsAlike rfl _
  · simp only [apply, own, others]
    exact ⟨paired', within, ⟨fleets, shares.active, shares.waits, shares.devices⟩, rfl, rfl⟩

theorem release (number : Nat) (id : InstanceId) :
    paired.Grows fun paired => StepsAlike paired (count + 1) endpoint coordinator other
      (coordinator.apply number (.release endpoint id))
      (other.apply number (.release endpoint id)) :=
  ⟨paired, paired.within_refl,
    ⟨shares.fleet.release id, shares.active, shares.waits, shares.devices⟩, rfl, rfl⟩

/-- Whatever concerns the endpoint comes to the same in both coordinators. -/
theorem apply_own (few : count < UInt64.size) (order : coordinator.InOrder) (number : Nat)
    {action : CoordinatorAction} (own : action.concerns endpoint = true) :
    paired.Grows fun paired => StepsAlike paired (count + 1) endpoint coordinator other
      (coordinator.apply number action) (other.apply number action) := by
  cases action with
  | start record => exact shares.start (eq_of_beq own) order number
  | cancel =>
    obtain rfl := eq_of_beq own
    exact shares.cancel few order number
  | inbound other request =>
    obtain rfl := eq_of_beq own
    exact shares.inbound few order number request
  | wait =>
    obtain rfl := eq_of_beq own
    exact shares.wait number
  | wake other ticket =>
    obtain rfl := eq_of_beq own
    exact shares.wake order number ticket
  | abandon other ticket =>
    obtain rfl := eq_of_beq own
    exact shares.abandon order number ticket
  | clearFinishedProgress => exact shares.clearFinishedProgress number
  | act other among action =>
    obtain rfl := eq_of_beq own
    exact shares.act_numbered few order number among action
  | elapse nanos => exact shares.elapse number nanos
  | acquire =>
    obtain rfl := eq_of_beq own
    exact shares.acquire few number
  | release other id =>
    obtain rfl := eq_of_beq own
    exact shares.release number id

/-! ## Calls and steps of other endpoints -/

theorem foreign_of_unchanged (result : CallResult) :
    IsForeign paired (count + 1) endpoint coordinator other ⟨coordinator, [], result⟩ :=
  ⟨shares.stays, List.forall_mem_nil _⟩

theorem start_other {record : DeviceRecord} (ne : record.endpoint ≠ endpoint) (number : Nat) :
    IsForeign paired (count + 1) endpoint coordinator other
      (coordinator.apply number (.start record)) := by
  cases busy : (coordinator.active? record.endpoint).isSome with
  | true =>
    simp only [apply, Coordinator.start, busy, if_true]
    exact shares.foreign_of_unchanged _
  | false =>
    simp only [apply, Coordinator.start, busy, if_false, Bool.false_eq_true]
    obtain ⟨active_eq, waits_eq⟩ := renumber_congr
      (funext (Fleet.numberOf_add_other ne) : (coordinator.fleet.add record).numberOf endpoint = _)
    refine ⟨⟨shares.fleet.add_other ne, ?_, ?_, ?_⟩, ?_⟩
    · have differs : (endpoint == record.endpoint) = false := by simpa using ne.symm
      simp only [active?, List.lookup_cons, differs, active_eq]
      exact shares.active
    · rw [waits_eq]
      exact shares.waits
    · rw [shares.devices]
      exact (ProgressTracker.devicesOf_register_other ne _).symm
    · rintro event published
      obtain rfl := List.mem_singleton.mp published
      exact ne

variable {elsewhere : EndpointId} (ne : elsewhere ≠ endpoint)

include ne

theorem act_elsewhere (order : coordinator.InOrder)
    (belongs : coordinator.fleet.endpoints[place]? = some elsewhere) (action : RunAction) :
    IsForeign paired (count + 1) endpoint coordinator other
      ⟨(coordinator.act place action).1, (coordinator.act place action).2, .done⟩ := by
  refine shares.act_other order.sound order.atHome ?_ action
  rw [belongs]
  exact fun same => ne (Option.some.inj same)

theorem cancel_other (order : coordinator.InOrder) (number : Nat) :
    IsForeign paired (count + 1) endpoint coordinator other
      (coordinator.apply number (.cancel elsewhere)) := by
  cases found : coordinator.active? elsewhere with
  | none =>
    simp only [apply, Coordinator.cancel, found]
    exact shares.foreign_of_unchanged _
  | some update =>
    simp only [apply, Coordinator.cancel, found]
    cases coordinator.fleet.runs[update.run]?.any (·.isOpen) with
    | true => exact shares.act_elsewhere ne order (order.active elsewhere update found) .cancel
    | false => exact shares.foreign_of_unchanged _

theorem inbound_other (order : coordinator.InOrder) (number : Nat) (request : Request) :
    IsForeign paired (count + 1) endpoint coordinator other
      (coordinator.apply number (.inbound elsewhere request)) := by
  cases found : coordinator.active? elsewhere with
  | none =>
    simp only [apply, Coordinator.inbound, found]
    refine ⟨shares.stays, ?_⟩
    rintro event answered
    obtain rfl := List.mem_singleton.mp answered
    exact id
  | some update =>
    simp only [apply, Coordinator.inbound, found]
    exact shares.act_elsewhere ne order (order.active elsewhere update found) _

theorem act_numbered_other (order : coordinator.InOrder) (number among : Nat)
    (action : RunAction) :
    IsForeign paired (count + 1) endpoint coordinator other
      (coordinator.apply number (.act elsewhere among action)) := by
  cases found : coordinator.fleet.place? elsewhere among with
  | none =>
    simp only [apply, found]
    exact shares.foreign_of_unchanged _
  | some place =>
    simp only [apply, found]
    exact shares.act_elsewhere ne order (Fleet.place?_eq_some.mp found).1 action

theorem wait_other (number : Nat) :
    IsForeign paired (count + 1) endpoint coordinator other
      (coordinator.apply number (.wait elsewhere)) := by
  rw [apply_wait]
  cases (coordinator.active? elsewhere).filter (!·.isTaken) with
  | none => exact shares.foreign_of_unchanged _
  | some update =>
    refine ⟨⟨shares.fleet.later, ?_, ?_, shares.devices⟩, List.forall_mem_nil _⟩
    · dsimp only
      rw [active?_waiting, shares.active]
      simp only [ne.symm, if_false]
      rw [Option.map_id']
      rfl
    · simp only [waiting]
      rw [List.filter_append, shares.waits]
      simp [ne]

/-- The waits of other endpoints can go. -/
theorem waits_without_other {wait : Wait} (order : coordinator.InOrder)
    (listed : wait ∈ coordinator.waits) (own : wait.endpoint = elsewhere) :
    other.waits = ((coordinator.waits.filter (·.ticket ≠ wait.ticket)).filter
      (·.endpoint == endpoint)).map (Wait.renumber coordinator.fleet endpoint) := by
  rw [shares.waits, List.filter_filter]
  refine congrArg _ (List.filter_congr fun another mem => ?_)
  by_cases same : another.ticket = wait.ticket
  · have elsewhere_too : another.endpoint ≠ endpoint := by
      rw [order.tickets another mem wait listed same, own]
      exact ne
    simp [elsewhere_too]
  · simp [same]

theorem wake_other (order : coordinator.InOrder) (number ticket : Nat) :
    IsForeign paired (count + 1) endpoint coordinator other
      (coordinator.apply number (.wake elsewhere ticket)) := by
  rw [apply_wake]
  cases found : coordinator.wait? elsewhere ticket with
  | none => exact shares.foreign_of_unchanged _
  | some wait =>
    obtain ⟨_, listed, _, own⟩ := wait?_eq_some found
    dsimp only
    cases coordinator.fleet.runs[wait.run]?.filter (!·.isOpen) with
    | none => exact shares.foreign_of_unchanged _
    | some run =>
      refine ⟨⟨shares.fleet.later, ?_, shares.waits_without_other ne order listed own, ?_⟩,
        List.forall_mem_nil _⟩
      · dsimp only
        rw [active?_collected, if_neg (own ▸ ne.symm)]
        exact shares.active
      · rw [shares.devices]
        exact (ProgressTracker.devicesOf_modify_other (own ▸ ne) _).symm

theorem abandon_other (order : coordinator.InOrder) (number ticket : Nat) :
    IsForeign paired (count + 1) endpoint coordinator other
      (coordinator.apply number (.abandon elsewhere ticket)) := by
  cases found : coordinator.wait? elsewhere ticket with
  | none =>
    simp only [apply, found]
    exact shares.foreign_of_unchanged _
  | some wait =>
    obtain ⟨_, listed, rfl, own⟩ := wait?_eq_some found
    simp only [apply, found]
    exact ⟨⟨shares.fleet.later, shares.active, shares.waits_without_other ne order listed own,
      shares.devices⟩, List.forall_mem_nil _⟩

theorem acquire_other (number : Nat) :
    IsForeign paired (count + 1) endpoint coordinator other
      (coordinator.apply number (.acquire elsewhere)) := by
  cases acquired : coordinator.fleet.pool.acquire elsewhere coordinator.fleet.now with
  | error error =>
    simp only [apply, Fleet.acquire, acquired]
    exact shares.foreign_of_unchanged _
  | ok lent =>
    simp only [apply, Fleet.acquire, acquired]
    exact ⟨⟨shares.fleet.acquire_other ne acquired, shares.active, shares.waits, shares.devices⟩,
      List.forall_mem_nil _⟩

theorem release_other (number : Nat) (id : InstanceId) :
    IsForeign paired (count + 1) endpoint coordinator other
      (coordinator.apply number (.release elsewhere id)) :=
  ⟨⟨shares.fleet.release_other ne id, shares.active, shares.waits, shares.devices⟩,
    List.forall_mem_nil _⟩

omit ne in
/-- Whatever concerns other endpoints is nothing to this one. -/
theorem apply_other (order : coordinator.InOrder) (number : Nat) {action : CoordinatorAction}
    (foreign : action.concerns endpoint = false) :
    IsForeign paired (count + 1) endpoint coordinator other (coordinator.apply number action) := by
  cases action with
  | start record => exact shares.start_other (ne_of_beq_false foreign) number
  | cancel => exact shares.cancel_other (ne_of_beq_false foreign) order number
  | inbound elsewhere request =>
    exact shares.inbound_other (ne_of_beq_false foreign) order number request
  | wait => exact shares.wait_other (ne_of_beq_false foreign) number
  | wake elsewhere ticket => exact shares.wake_other (ne_of_beq_false foreign) order number ticket
  | abandon elsewhere ticket =>
    exact shares.abandon_other (ne_of_beq_false foreign) order number ticket
  | act elsewhere among action =>
    exact shares.act_numbered_other (ne_of_beq_false foreign) order number among action
  | acquire => exact shares.acquire_other (ne_of_beq_false foreign) number
  | release elsewhere id => exact shares.release_other (ne_of_beq_false foreign) number id
  | clearFinishedProgress | elapse => cases foreign

/-! ## What the endpoint sees -/

omit ne in
theorem view_eq : other.view endpoint = coordinator.view endpoint := by
  have all_own : other.fleet.runsOf endpoint = other.fleet.runs :=
    List.filter_eq_self.mpr fun run mem => beq_iff_eq.mpr (shares.fleet.alone run mem)
  have runs : (other.fleet.runsOf endpoint).map Run.erased =
      (coordinator.fleet.runsOf endpoint).map Run.erased := by
    rw [all_own]
    have matched := shares.fleet.runs
    generalize coordinator.fleet.runsOf endpoint = own, other.fleet.runs = others at matched
    induction matched with
    | nil => rfl
    | cons first _ ih => rw [List.map_cons, List.map_cons, ih, first.erased shares.keys]
  have numbers := shares.fleet.numberOf_numberOf
  have active : (other.active? endpoint).map (ActiveUpdate.renumber other.fleet endpoint) =
      (coordinator.active? endpoint).map (ActiveUpdate.renumber coordinator.fleet endpoint) := by
    rw [shares.active, Option.map_map]
    refine congrArg (Option.map · _) (funext fun update => ?_)
    simp only [Function.comp_apply, ActiveUpdate.renumber, numbers]
  have waits : (other.waits.filter (·.endpoint == endpoint)).map
        (Wait.renumber other.fleet endpoint) =
      (coordinator.waits.filter (·.endpoint == endpoint)).map
        (Wait.renumber coordinator.fleet endpoint) := by
    rw [shares.waits, List.filter_map, List.map_map]
    have still_own : (fun wait : Wait => wait.endpoint == endpoint) ∘
        Wait.renumber coordinator.fleet endpoint = fun wait => wait.endpoint == endpoint := rfl
    rw [still_own, List.filter_filter]
    simp only [Bool.and_self]
    refine List.map_congr_left fun wait _ => ?_
    simp only [Function.comp_apply, Wait.renumber, numbers]
  rw [view, view, runs, active, waits, shares.fleet.now,
    ProgressTracker.device?_congr shares.devices, shares.fleet.pool.loans]

end Shares

end Coordinator

/-! ## The result -/

/-- A history with many endpoints is for one of them what it would be without the others. -/
structure Isolated (endpoint : EndpointId) (history alone : CoordinatorHistory) : Prop where
  view : alone.coordinator.view endpoint = history.coordinator.view endpoint
  /-- Every call comes to the same, and others see the same of every action. -/
  entries : alone.entries.map (·.seenBy endpoint) = history.entries.map (·.seenBy endpoint)
  /-- What does not concern the endpoint shows nothing of it. -/
  others : ∀ entry ∈ history.entries, entry.action.concerns endpoint = false →
    ∀ event ∈ entry.step.events, ¬ event.IsAbout entry.coordinator.fleet endpoint
  /-- Nor does it answer anyone but those who have asked others. -/
  answers : ∀ entry ∈ history.entries, entry.action.concerns endpoint = false →
    ∀ event ∈ entry.step.events, ∀ caller ∈ event.caller?,
      ∃ elsewhere, elsewhere ≠ endpoint ∧ history.HasAsked elsewhere caller

namespace CoordinatorHistory

variable {context : SessionContext} {pool : InstanceIdPool} {history : CoordinatorHistory}
  {endpoint : EndpointId}

/-- The records of a coordinator are in order if they say what has been called. -/
theorem Booked.inOrder (booked : history.Booked) (sound : history.coordinator.fleet.IsSound)
    (atHome : history.coordinator.fleet.IsAtHome) : history.coordinator.InOrder where
  sound := sound
  atHome := atHome
  active endpoint update found := (booked.active endpoint update found).1.1
  waits wait listed := (booked.waits wait listed).1.1
  tickets wait listed another also same := by
    obtain ⟨entry, found, takes⟩ := (booked.waits wait listed).2.2
    obtain ⟨entry', found', takes'⟩ := (booked.waits another also).2.2
    rw [same, found'] at found
    obtain rfl := Option.some.inj found
    exact congrArg Prod.fst (Option.some.inj (takes.symm.trans takes'))

theorem isAtHome_extend (sound : history.coordinator.fleet.IsSound)
    (atHome : history.coordinator.fleet.IsAtHome) (action : CoordinatorAction) :
    (history.extend action).coordinator.fleet.IsAtHome := by
  rw [CoordinatorHistory.extend]
  rcases history.coordinator.runs_apply history.entries.length action with
    runs | ⟨record, fleet⟩ | ⟨place, step, fleet⟩
  · rw [Fleet.IsAtHome, CoordinatorHistory.next, runs]
    exact atHome
  · rw [CoordinatorHistory.next, fleet]
    exact Fleet.isAtHome_add atHome record
  · rw [CoordinatorHistory.next, fleet]
    exact Fleet.isAtHome_act sound atHome

/-- At all times the coordinator's records are in order. -/
theorem inOrder_through (context : SessionContext) (pool : InstanceIdPool)
    (actions : List CoordinatorAction) : (through context pool actions).coordinator.InOrder := by
  obtain ⟨sound, booked⟩ := booked_through context pool actions
  suffices atHome : (through context pool actions).coordinator.fleet.IsAtHome from
    booked.inOrder sound atHome
  induction actions using List.reverseRecOn with
  | nil => exact fun run mem => absurd mem List.not_mem_nil
  | append_singleton actions action ih =>
    obtain ⟨sound_before, booked_before⟩ := booked_through context pool actions
    rw [through_concat]
    exact isAtHome_extend sound_before (ih sound_before booked_before) action

/-- What does not concern an endpoint answers those who have asked others. -/
theorem answers_elsewhere (context : SessionContext) (pool : InstanceIdPool)
    (actions : List CoordinatorAction) (endpoint : EndpointId) :
    ∀ entry ∈ (through context pool actions).entries, entry.action.concerns endpoint = false →
      ∀ event ∈ entry.step.events, ∀ caller ∈ event.caller?, ∃ elsewhere, elsewhere ≠ endpoint ∧
        (through context pool actions).HasAsked elsewhere caller := by
  intro entry mem foreign event happened caller concerns
  obtain ⟨elsewhere, of, asked⟩ :=
    asked_through context pool actions entry mem event happened caller concerns
  refine ⟨elsewhere, ?_, asked⟩
  simpa [CoordinatorAction.concerns, of] using foreign

/-- What holds of the two histories after the same number of actions. -/
structure GoesAlong (endpoint : EndpointId) (count : Nat) (history alone : CoordinatorHistory) :
    Prop where
  shares : ∃ paired, history.coordinator.Shares paired count endpoint alone.coordinator
  number : alone.entries.length = history.entries.length
  entries : alone.entries.map (·.seenBy endpoint) = history.entries.map (·.seenBy endpoint)
  others : ∀ entry ∈ history.entries, entry.action.concerns endpoint = false →
    ∀ event ∈ entry.step.events, ¬ event.IsAbout entry.coordinator.fleet endpoint

theorem GoesAlong.extend {count : Nat} {alone : CoordinatorHistory}
    (along : GoesAlong endpoint count history alone) (few : count < UInt64.size)
    (order : history.coordinator.InOrder) (action : CoordinatorAction) :
    GoesAlong endpoint (count + 1) (history.extend action)
      (alone.extend (action.onlyFor endpoint)) := by
  obtain ⟨⟨paired, shares⟩, number, entries, others⟩ := along
  have longer : (alone.extend (action.onlyFor endpoint)).entries.length =
      (history.extend action).entries.length := by
    simp [CoordinatorHistory.extend, number]
  cases own : action.concerns endpoint with
  | true =>
    have same : action.onlyFor endpoint = action := if_pos own
    obtain ⟨paired', _, alike⟩ := shares.apply_own few order history.entries.length own
    rw [same] at longer ⊢
    refine ⟨⟨paired', ?_⟩, longer, ?_, fun entry mem foreign => ?_⟩
    · simp only [CoordinatorHistory.extend, CoordinatorHistory.next, number]
      exact alike.shares
    · simp only [CoordinatorHistory.extend, List.map_append, entries, List.map_cons, List.map_nil]
      simp only [CoordinatorEntry.seenBy, own, if_true, CoordinatorHistory.next, number,
        alike.events, alike.result]
    · rcases List.mem_append.mp mem with old | new
      · exact others entry old foreign
      · obtain rfl := List.mem_singleton.mp new
        cases foreign.symm.trans own
  | false =>
    have same : action.onlyFor endpoint = .elapse 0 := if_neg (by simp [own])
    have foreign := shares.apply_other order history.entries.length own
    rw [same] at longer ⊢
    refine ⟨⟨paired, foreign.shares⟩, longer, ?_, fun entry mem foreign_entry => ?_⟩
    · simp only [CoordinatorHistory.extend, List.map_append, entries, List.map_cons, List.map_nil]
      have quiet : CoordinatorEntry.seenBy endpoint
          ⟨history.coordinator, action, history.next action⟩ = ([], .done) := if_neg (by simp [own])
      exact congrArg (_ ++ [·]) quiet.symm
    · rcases List.mem_append.mp mem with old | new
      · exact others entry old foreign_entry
      · obtain rfl := List.mem_singleton.mp new
        exact foreign.events

/-- Whatever is called and whatever the sessions do, in whatever order: an endpoint gets the same
requests, answers, states and reports as in a history in which nothing happens but what concerns it.
Only the numbers of the acquisitions differ. They tell a lease that has lost its id from the next
holder, but they start over after 2⁶⁴. -/
theorem isolated_through (context : SessionContext) (pool : InstanceIdPool)
    (actions : List CoordinatorAction) (endpoint : EndpointId)
    (few : actions.length < UInt64.size) :
    Isolated endpoint (through context pool actions)
      (through context pool (actions.map (·.onlyFor endpoint))) := by
  suffices along : GoesAlong endpoint actions.length (through context pool actions)
      (through context pool (actions.map (·.onlyFor endpoint))) from
    let ⟨_, shares⟩ := along.shares
    ⟨shares.view_eq, along.entries, along.others, answers_elsewhere context pool actions endpoint⟩
  induction actions using List.reverseRecOn with
  | nil =>
    refine ⟨⟨fun _ _ => False, ?_⟩, rfl, rfl, fun entry mem => absurd mem List.not_mem_nil⟩
    exact ⟨⟨rfl, rfl, InstanceIdPool.mirrors_self endpoint pool, .nil⟩, rfl, rfl, rfl⟩
  | append_singleton actions action ih =>
    rw [List.length_append, List.length_singleton] at few ⊢
    rw [List.map_append, List.map_singleton, through_concat, through_concat]
    have fewer := Nat.lt_of_succ_lt few
    exact (ih fewer).extend fewer (inOrder_through context pool actions) action

/-- An update starts when that of another device has come to its only component, which its target
does not take. -/
def startedHalfway : List CoordinatorAction :=
  .start ⟨8, #[0], #[], "set"⟩ ::
    ([ .begin,
      .granted 0 .requestUpdate [0, 0, 0], .handle,
      .handle, .granted 1 .passComponentTable [0, 0], .handle,
      .handle, .granted 2 .updateComponent [1, 0, 0, 0, 0, 0, 0, 0], .handle ] :
        List RunAction).map (.act 8 0) ++
    [.start ⟨9, #[0], #[], "set"⟩]

/-- The progress of all devices together is half done, but for the device alone it begins. -/
theorem isolated_startedHalfway :
    startedHalfway.length < UInt64.size ∧
      Isolated 9 (through (oneComponent (.memory #[])) { expiry := .ofSeconds 5 } startedHalfway)
        (through (oneComponent (.memory #[])) { expiry := .ofSeconds 5 }
          (startedHalfway.map (·.onlyFor 9))) ∧
      (through (oneComponent (.memory #[])) { expiry := .ofSeconds 5 }
          startedHalfway).entries[10]?.map (·.step.events) =
        some [.published ⟨9, .started, 0, 1, 50, "Update started"⟩] ∧
      (through (oneComponent (.memory #[])) { expiry := .ofSeconds 5 }
          (startedHalfway.map (·.onlyFor 9))).entries[10]?.map (·.step.events) =
        some [.published ⟨9, .started, 0, 1, 0, "Update started"⟩] :=
  ⟨by decide, isolated_through _ _ startedHalfway 9 (by decide), by decide +kernel,
    by decide +kernel⟩

end CoordinatorHistory

end FirmwareAgent
