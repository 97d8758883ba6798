import FirmwareAgent.Proofs.Coordinator.Callers
import FirmwareAgent.Proofs.Run.Mirror
import FirmwareAgent.Proofs.Run.Notifications

/-!
# What an endpoint sees of a coordinator

An endpoint sees its own runs, its update and the waits for it, its progress and its instance ids.
It knows its runs by their numbers among its own, and it sees neither which acquisition a lease
comes from nor the progress of all devices together.

* `Coordinator.view` is what there is of an endpoint in a coordinator, `CoordinatorEntry.seenBy`
  what it sees of an action.
* `Coordinator.observeAll_congr`: what matching runs show looks the same to their endpoint.
-/

namespace FirmwareAgent

/-! ## What concerns an endpoint -/

/-- Whether an action is about the endpoint, or about all endpoints. -/
def CoordinatorAction.concerns (endpoint : EndpointId) (action : CoordinatorAction) : Bool :=
  action.endpoint?.all (· == endpoint)

/-- What is left of an action if nothing happens but what concerns the endpoint. -/
def CoordinatorAction.onlyFor (endpoint : EndpointId) (action : CoordinatorAction) :
    CoordinatorAction :=
  if action.concerns endpoint then action else .elapse 0

/-! ## What an endpoint sees -/

/-- A lease without the number of its acquisition. -/
def Lease.erased (lease : Lease) : Lease :=
  { lease with generation := 0 }

def PendingCommand.erased (pending : PendingCommand) : PendingCommand :=
  { pending with lease := pending.lease.erased }

def Exchange.erased (exchange : Exchange) : Exchange :=
  { exchange with lease := exchange.lease.erased }

/-- A run without the numbers of the acquisitions of its leases. -/
def Run.erased (run : Run) : Run :=
  { run with
    session := { run.session with pending := run.session.pending.map PendingCommand.erased }
    exchanges := run.exchanges.map Exchange.erased }

/-- An event with the number of the run in the place of its place, and without the progress of all
devices together. -/
def CoordinatorEvent.seenBy (fleet : Fleet) (endpoint : EndpointId) :
    CoordinatorEvent → CoordinatorEvent
  | sent place exchange => .sent (fleet.numberOf endpoint place) exchange.erased
  | published progress => .published { progress with progressPercent := 0 }
  | event => event

/-- Whether a request goes to an endpoint, or the progress is that of its device. -/
def CoordinatorEvent.IsAbout (fleet : Fleet) (endpoint : EndpointId) : CoordinatorEvent → Prop
  | sent place _ => fleet.endpoints[place]? = some endpoint
  | published progress => progress.endpoint = endpoint
  | answered .. | unanswered _ => False

/-- An update with the number of its run in the place of its place. -/
def ActiveUpdate.renumber (fleet : Fleet) (endpoint : EndpointId) (update : ActiveUpdate) :
    ActiveUpdate :=
  { update with run := fleet.numberOf endpoint update.run }

def Wait.renumber (fleet : Fleet) (endpoint : EndpointId) (wait : Wait) : Wait :=
  { wait with run := fleet.numberOf endpoint wait.run }

/-- What there is of an endpoint in a coordinator. -/
structure EndpointView where
  now : Instant
  /-- The runs of the endpoint, oldest first. -/
  runs : List Run
  /-- The update that has not been collected. -/
  active : Option ActiveUpdate
  waits : List Wait
  device : Option DeviceProgress
  /-- The held instance ids, and since when they are held. -/
  loans : List (InstanceId × Instant)

/-- What there is of an endpoint in a coordinator. -/
def Coordinator.view (coordinator : Coordinator) (endpoint : EndpointId) : EndpointView where
  now := coordinator.fleet.now
  runs := (coordinator.fleet.runsOf endpoint).map Run.erased
  active := (coordinator.active? endpoint).map (ActiveUpdate.renumber coordinator.fleet endpoint)
  waits := (coordinator.waits.filter (·.endpoint == endpoint)).map
    (Wait.renumber coordinator.fleet endpoint)
  device := coordinator.tracker.device? endpoint
  loans := coordinator.fleet.pool.loans endpoint

/-- What an endpoint sees of an action: nothing if it does not concern the endpoint. -/
def CoordinatorEntry.seenBy (endpoint : EndpointId) (entry : CoordinatorEntry) :
    List CoordinatorEvent × CallResult :=
  if entry.action.concerns endpoint then
    (entry.step.events.map (·.seenBy entry.coordinator.fleet endpoint), entry.step.result)
  else ([], .done)

/-! ## The progress -/

namespace ProgressTracker

/-- What is tracked of an endpoint. -/
def devicesOf (tracker : ProgressTracker) (endpoint : EndpointId) :
    List (EndpointId × DeviceProgress) :=
  tracker.devices.filter (·.1 == endpoint)

variable {tracker other : ProgressTracker} {endpoint : EndpointId}

theorem device?_eq (tracker : ProgressTracker) (endpoint : EndpointId) :
    tracker.device? endpoint = (tracker.devicesOf endpoint).lookup endpoint := by
  unfold device? devicesOf
  induction tracker.devices with
  | nil => rfl
  | cons entry devices ih =>
    by_cases own : entry.1 = endpoint
    · rw [List.filter_cons_of_pos (by simpa using own), List.lookup_cons, List.lookup_cons]
      simp [own]
    · rw [List.filter_cons_of_neg (by simpa using own), List.lookup_cons]
      have differs : (endpoint == entry.1) = false := by simpa using Ne.symm own
      rw [differs, ih]

theorem devicesOf_modify (tracker : ProgressTracker) (endpoint changed : EndpointId)
    (change : DeviceProgress → DeviceProgress) :
    (tracker.modify changed change).devicesOf endpoint =
      (tracker.devicesOf endpoint).map fun (key, device) =>
        (key, if key = changed then change device else device) := by
  rw [devicesOf, modify, List.filter_map]
  rfl

theorem devicesOf_modify_other {changed : EndpointId} (elsewhere : changed ≠ endpoint)
    (change : DeviceProgress → DeviceProgress) :
    (tracker.modify changed change).devicesOf endpoint = tracker.devicesOf endpoint := by
  rw [devicesOf_modify]
  refine (List.map_congr_left fun entry mem => ?_).trans (List.map_id _)
  obtain ⟨key, device⟩ := entry
  obtain rfl : key = endpoint := eq_of_beq (List.mem_filter.mp mem).2
  simp [elsewhere.symm]

theorem devicesOf_register_other {started : EndpointId} (elsewhere : started ≠ endpoint)
    (total : Nat) : (tracker.register started total).1.devicesOf endpoint =
      tracker.devicesOf endpoint := by
  simp only [register, devicesOf]
  rw [List.filter_cons_of_neg (by simpa using elsewhere), List.filter_filter]
  refine List.filter_congr fun entry _ => ?_
  by_cases own : entry.1 = endpoint
  · simp [own, elsewhere.symm]
  · simp [own]

theorem devicesOf_register (tracker : ProgressTracker) (endpoint : EndpointId) (total : Nat) :
    (tracker.register endpoint total).1.devicesOf endpoint =
      [(endpoint, { componentsTotal := total })] := by
  simp only [register, devicesOf]
  rw [List.filter_cons_of_pos (by simp), List.filter_filter]
  simp

theorem devicesOf_clearCollected (tracker : ProgressTracker) (endpoint : EndpointId) :
    tracker.clearCollected.devicesOf endpoint =
      (tracker.devicesOf endpoint).filter fun (_, device) => !device.isCollected := by
  simp only [clearCollected, devicesOf, List.filter_filter, Bool.and_comm]

section

variable (same : other.devicesOf endpoint = tracker.devicesOf endpoint)

include same

theorem device?_congr : other.device? endpoint = tracker.device? endpoint := by
  rw [device?_eq, device?_eq, same]

theorem devicesOf_modify_congr (changed : EndpointId)
    (change : DeviceProgress → DeviceProgress) :
    (other.modify changed change).devicesOf endpoint =
      (tracker.modify changed change).devicesOf endpoint := by
  rw [devicesOf_modify, devicesOf_modify, same]

/-- A progress event is the same but for the progress of all devices together. -/
theorem event_congr (phase : UpdatePhase) (statusMessage : String) :
    { other.event endpoint phase statusMessage with progressPercent := 0 } =
      { tracker.event endpoint phase statusMessage with progressPercent := 0 } := by
  simp only [event, device?_congr same]

/-- So is what becomes of a notification of the endpoint. -/
theorem record_congr {notification : Notification} (own : notification.endpoint = endpoint) :
    (other.record notification).1.devicesOf endpoint =
        (tracker.record notification).1.devicesOf endpoint ∧
      { (other.record notification).2 with progressPercent := 0 } =
        { (tracker.record notification).2 with progressPercent := 0 } := by
  obtain rfl := own
  cases notification with
  | applied endpoint index success =>
    have modified := devicesOf_modify_congr same endpoint fun device =>
      { device with outcomes := device.outcomes.push ⟨index, success⟩ }
    exact ⟨modified, event_congr modified _ _⟩
  | completed endpoint success =>
    cases success <;> exact ⟨same, event_congr same _ _⟩

theorem collect_congr : (other.collect endpoint).1.devicesOf endpoint =
      (tracker.collect endpoint).1.devicesOf endpoint ∧
    (other.collect endpoint).2 = (tracker.collect endpoint).2 :=
  ⟨devicesOf_modify_congr same _ _, by simp only [collect, device?_congr same]⟩

end

variable (tracker) in
/-- A notification of another endpoint is nothing to this one. -/
theorem record_other {notification : Notification} (elsewhere : notification.endpoint ≠ endpoint) :
    (tracker.record notification).1.devicesOf endpoint = tracker.devicesOf endpoint ∧
      (tracker.record notification).2.endpoint = notification.endpoint := by
  cases notification with
  | applied other index success => exact ⟨devicesOf_modify_other elsewhere _, rfl⟩
  | completed other success => cases success <;> exact ⟨rfl, rfl⟩

end ProgressTracker

/-! ## What others see of a run -/

theorem Exchange.Matches.erased {paired : LeasePairing} {exchange other : Exchange}
    (same : exchange.Matches paired other)
    (keys : ∀ lease lease', paired lease lease' → lease'.key = lease.key) :
    other.erased = exchange.erased := by
  obtain ⟨endpoint, id⟩ := Prod.mk.inj (keys _ _ same.lease)
  rw [Exchange.erased, Exchange.erased, Lease.erased, Lease.erased, endpoint, id, same.rest]

theorem Run.Matches.erased {paired : LeasePairing} {run other : Run}
    (same : run.Matches paired other)
    (keys : ∀ lease lease', paired lease lease' → lease'.key = lease.key) :
    other.erased = run.erased := by
  have exchanges : other.exchanges.map Exchange.erased = run.exchanges.map Exchange.erased := by
    have matched := same.exchanges
    generalize run.exchanges = own, other.exchanges = others at matched
    induction matched with
    | nil => rfl
    | cons first _ ih => rw [List.map_cons, List.map_cons, ih, first.erased keys]
  have pending : other.session.pending.map PendingCommand.erased =
      run.session.pending.map PendingCommand.erased := by
    have slot := same.session.slot
    generalize run.session.pending = own, other.session.pending = others at slot
    cases slot with
    | none => rfl
    | @some own others matched =>
      obtain ⟨endpoint, id⟩ := Prod.mk.inj (keys _ _ matched.lease)
      obtain ⟨token, command⟩ := Prod.mk.inj matched.facts
      simp only [Option.map_some, PendingCommand.erased, Lease.erased, endpoint, id, token, command]
  rw [Run.erased, Run.erased, exchanges, pending, same.status, same.inbox, same.reads,
    same.session.rest]

namespace Coordinator

variable {coordinator other : Coordinator} {fleet alone : Fleet} {endpoint : EndpointId}
  {place number : Nat} {paired : LeasePairing}

variable (coordinator other) in
/-- What matching runs of an endpoint show looks the same to the endpoint. -/
theorem observeAll_congr {occurrences occurrences' : List Occurrence}
    (same : List.Forall₂ (Occurrence.Matches paired) occurrences occurrences')
    (keys : ∀ lease lease', paired lease lease' → lease'.key = lease.key)
    (numbers : alone.numberOf endpoint number = fleet.numberOf endpoint place)
    (own : ∀ notification, .notified notification ∈ occurrences → notification.endpoint = endpoint)
    (tracked : other.tracker.devicesOf endpoint = coordinator.tracker.devicesOf endpoint) :
    (other.observeAll number occurrences').1.tracker.devicesOf endpoint =
        (coordinator.observeAll place occurrences).1.tracker.devicesOf endpoint ∧
      (other.observeAll number occurrences').2.map (·.seenBy alone endpoint) =
        (coordinator.observeAll place occurrences).2.map (·.seenBy fleet endpoint) := by
  induction same generalizing coordinator other with
  | nil => exact ⟨tracked, rfl⟩
  | @cons occurrence occurrence' occurrences occurrences' first _ ih =>
    have own_rest : ∀ notification, .notified notification ∈ occurrences →
        notification.endpoint = endpoint := fun notification mem =>
      own notification (List.mem_cons_of_mem _ mem)
    suffices step : (other.observe number occurrence').1.tracker.devicesOf endpoint =
          (coordinator.observe place occurrence).1.tracker.devicesOf endpoint ∧
        (other.observe number occurrence').2.seenBy alone endpoint =
          (coordinator.observe place occurrence).2.seenBy fleet endpoint by
      obtain ⟨trackers, events⟩ := ih _ _ own_rest step.1
      exact ⟨trackers, List.cons_eq_cons.mpr ⟨step.2, events⟩⟩
    cases first with
    | sent matched =>
      refine ⟨tracked, ?_⟩
      simp only [observe, CoordinatorEvent.seenBy, numbers, matched.erased keys]
    | notified notification =>
      obtain ⟨trackers, progress⟩ :=
        ProgressTracker.record_congr tracked (own notification List.mem_cons_self)
      exact ⟨trackers, congrArg CoordinatorEvent.published progress⟩
    | answered caller response => exact ⟨tracked, rfl⟩
    | unanswered caller request => cases caller <;> exact ⟨tracked, rfl⟩

variable (coordinator) in
/-- What a run of another endpoint shows is nothing to the endpoint. -/
theorem observeAll_other {occurrences : List Occurrence}
    (foreign : fleet.endpoints[place]? ≠ some endpoint)
    (elsewhere : ∀ notification, .notified notification ∈ occurrences →
      notification.endpoint ≠ endpoint) :
    (coordinator.observeAll place occurrences).1.tracker.devicesOf endpoint =
        coordinator.tracker.devicesOf endpoint ∧
      ∀ event ∈ (coordinator.observeAll place occurrences).2, ¬ event.IsAbout fleet endpoint := by
  induction occurrences generalizing coordinator with
  | nil => exact ⟨rfl, List.forall_mem_nil _⟩
  | cons occurrence occurrences ih =>
    suffices step : (coordinator.observe place occurrence).1.tracker.devicesOf endpoint =
          coordinator.tracker.devicesOf endpoint ∧
        ¬ (coordinator.observe place occurrence).2.IsAbout fleet endpoint by
      obtain ⟨trackers, events⟩ := ih (coordinator.observe place occurrence).1
        fun notification mem => elsewhere notification (List.mem_cons_of_mem _ mem)
      exact ⟨trackers.trans step.1, List.forall_mem_cons.mpr ⟨step.2, events⟩⟩
    cases occurrence with
    | sent exchange => exact ⟨rfl, foreign⟩
    | notified notification =>
      have ne := elsewhere notification List.mem_cons_self
      obtain ⟨trackers, about⟩ :=
        coordinator.tracker.record_other ne
      exact ⟨trackers, fun same => ne (about.symm.trans same)⟩
    | answered caller response => exact ⟨rfl, id⟩
    | unanswered caller request => cases caller <;> exact ⟨rfl, id⟩

end Coordinator

end FirmwareAgent
