import FirmwareAgent.Coordinator
import FirmwareAgent.Proofs.Pool.Holders
import FirmwareAgent.Proofs.Run.Driver
import Mathlib.Data.List.Induction

/-!
# Histories of a coordinator

Calls to a coordinator, steps of its sessions and calls to the pool that the sessions share, in any
order. Every action has a number, its place in the order; a call that is answered later is known by
the number of the action that made it. A run is known by its endpoint and by how many runs of the
endpoint came before it.

* `CoordinatorHistory.induct`: what holds of a coordinator that nobody has called yet, and is kept
  by every action, holds of every history.
* `Coordinator.fleet_act` and its companions: a step of a session leaves the coordinator's own
  records alone.
* `Coordinator.apply_wait` and `Coordinator.apply_wake`: what a wait does when it begins and when it
  goes on.
-/

namespace FirmwareAgent

/-- What can happen to a coordinator. -/
inductive CoordinatorAction
  | start (record : DeviceRecord)
  | cancel (endpoint : EndpointId)
  | inbound (endpoint : EndpointId) (request : Request)
  /-- A call begins to wait for the end of an update. -/
  | wait (endpoint : EndpointId)
  /-- The call that began to wait with the action of the given number goes on. -/
  | wake (endpoint : EndpointId) (ticket : Nat)
  /-- That call is dropped. -/
  | abandon (endpoint : EndpointId) (ticket : Nat)
  | clearFinishedProgress
  /-- Something happens to a run of the endpoint. -/
  | act (endpoint : EndpointId) (number : Nat) (action : RunAction)
  | elapse (nanos : Nat)
  /-- Someone other than a session acquires an instance id, for good. -/
  | acquire (endpoint : EndpointId)
  /-- Someone releases an instance id by hand. -/
  | release (endpoint : EndpointId) (id : InstanceId)

/-- What a call comes to. -/
inductive CallResult
  /-- Nothing is to be said of it. -/
  | done
  | refused (error : UpdateError)
  /-- A wait is over. -/
  | returned (result : Except UpdateError DeviceUpdateReport)
  | lent (id : InstanceId)
  deriving DecidableEq

/-- A coordinator after an action, with what others saw and what the call came to. -/
structure CoordinatorStep where
  coordinator : Coordinator
  events : List CoordinatorEvent := []
  result : CallResult := .done

/-- How many runs of an endpoint come before a place. -/
def Fleet.numberOf (fleet : Fleet) (endpoint : EndpointId) (place : Nat) : Nat :=
  (fleet.runs.take place).countP (·.endpoint == endpoint)

/-- The place of the run of an endpoint that has a number. -/
def Fleet.place? (fleet : Fleet) (endpoint : EndpointId) (number : Nat) : Option Nat :=
  (List.range fleet.runs.length).find? fun place =>
    fleet.runs[place]?.any (·.endpoint == endpoint) && fleet.numberOf endpoint place == number

namespace Coordinator

/-- A coordinator that nobody has called yet. -/
def opened (context : SessionContext) (pool : InstanceIdPool) : Coordinator :=
  { fleet := { context := context, pool := pool } }

/-- The wait of an endpoint with a ticket. -/
def wait? (coordinator : Coordinator) (endpoint : EndpointId) (ticket : Nat) : Option Wait :=
  (coordinator.waits.find? (·.ticket == ticket)).filter (·.endpoint == endpoint)

/-- What the action with the number does. A call that is refused does nothing. -/
def apply (coordinator : Coordinator) (number : Nat) (action : CoordinatorAction) :
    CoordinatorStep :=
  match action with
  | .start record =>
    match coordinator.start record with
    | .ok (next, progress) => ⟨next, [.published progress], .done⟩
    | .error error => ⟨coordinator, [], .refused error⟩
  | .cancel endpoint =>
    match coordinator.cancel endpoint with
    | .ok (next, events) => ⟨next, events, .done⟩
    | .error error => ⟨coordinator, [], .refused error⟩
  | .inbound endpoint request =>
    let (next, events) := coordinator.inbound endpoint number request
    ⟨next, events, .done⟩
  | .wait endpoint =>
    match coordinator.wait endpoint number with
    | .ok next => ⟨next, [], .done⟩
    | .error error => ⟨coordinator, [], .refused error⟩
  | .wake endpoint ticket =>
    match coordinator.wait? endpoint ticket, coordinator.resume? ticket with
    | some _, some (next, result) => ⟨next, [], .returned result⟩
    | _, _ => ⟨coordinator, [], .done⟩
  | .abandon endpoint ticket =>
    match coordinator.wait? endpoint ticket with
    | some _ => ⟨coordinator.abandon ticket, [], .done⟩
    | none => ⟨coordinator, [], .done⟩
  | .clearFinishedProgress => ⟨coordinator.clearFinishedProgress, [], .done⟩
  | .act endpoint number action =>
    match coordinator.fleet.place? endpoint number with
    | some place =>
      let (next, events) := coordinator.act place action
      ⟨next, events, .done⟩
    | none => ⟨coordinator, [], .done⟩
  | .elapse nanos => ⟨{ coordinator with fleet := coordinator.fleet.elapse nanos }, [], .done⟩
  | .acquire endpoint =>
    match coordinator.fleet.acquire endpoint with
    | .ok (id, fleet) => ⟨{ coordinator with fleet := fleet }, [], .lent id⟩
    | .error error => ⟨coordinator, [], .refused error⟩
  | .release endpoint id =>
    ⟨{ coordinator with fleet := coordinator.fleet.release endpoint id }, [], .done⟩

end Coordinator

/-- One line of a coordinator's history. -/
structure CoordinatorEntry where
  /-- The coordinator as the action found it. -/
  coordinator : Coordinator
  action : CoordinatorAction
  /-- What came of the action. -/
  step : CoordinatorStep

/-- A coordinator and how it came about. -/
structure CoordinatorHistory where
  coordinator : Coordinator
  entries : List CoordinatorEntry := []

namespace CoordinatorHistory

/-- What an action would do next. -/
def next (history : CoordinatorHistory) (action : CoordinatorAction) : CoordinatorStep :=
  history.coordinator.apply history.entries.length action

/-- The history with one more action. -/
def extend (history : CoordinatorHistory) (action : CoordinatorAction) : CoordinatorHistory where
  coordinator := (history.next action).coordinator
  entries := history.entries ++ [⟨history.coordinator, action, history.next action⟩]

/-- The history of a coordinator through a list of actions. -/
def through (context : SessionContext) (pool : InstanceIdPool)
    (actions : List CoordinatorAction) : CoordinatorHistory :=
  actions.foldl extend { coordinator := .opened context pool }

variable {context : SessionContext} {pool : InstanceIdPool}

theorem through_concat (actions : List CoordinatorAction) (action : CoordinatorAction) :
    through context pool (actions ++ [action]) =
      (through context pool actions).extend action := by
  simp [through, List.foldl_append]

theorem induct {motive : CoordinatorHistory → Prop}
    (start : motive { coordinator := .opened context pool })
    (step : ∀ history action, motive history → motive (history.extend action))
    (actions : List CoordinatorAction) : motive (through context pool actions) := by
  induction actions using List.reverseRecOn with
  | nil => exact start
  | append_singleton actions action ih =>
    rw [through_concat]
    exact step _ action ih

end CoordinatorHistory

/-! ## What a step of a session leaves alone -/

namespace Coordinator

variable {coordinator : Coordinator} {place : Nat}

/-- Passing on what others see of a run changes nothing but the progress. -/
theorem observeAll_eq (occurrences : List Occurrence) :
    (coordinator.observeAll place occurrences).1 =
      { coordinator with tracker := (coordinator.observeAll place occurrences).1.tracker } := by
  induction occurrences generalizing coordinator with
  | nil => rfl
  | cons occurrence occurrences ih =>
    have observed : (coordinator.observe place occurrence).1 =
        { coordinator with tracker := (coordinator.observe place occurrence).1.tracker } := by
      cases occurrence with
      | unanswered caller request => cases caller <;> rfl
      | _ => rfl
    simp only [observeAll]
    rw [ih, observed]

variable {action : RunAction}

@[simp] theorem fleet_act :
    (coordinator.act place action).1.fleet = (coordinator.fleet.act place action).1 := by
  simp only [act]
  rw [observeAll_eq]

@[simp] theorem active_act : (coordinator.act place action).1.active = coordinator.active := by
  simp only [act]
  rw [observeAll_eq]

@[simp] theorem waits_act : (coordinator.act place action).1.waits = coordinator.waits := by
  simp only [act]
  rw [observeAll_eq]

end Coordinator

namespace Fleet

variable {fleet : Fleet} {place : Nat} {action : RunAction}

/-- The runs of a fleet are sound, and remain so. -/
def IsSound (fleet : Fleet) : Prop :=
  ∀ run ∈ fleet.runs, run.Sound

theorem isSound_act (sound : fleet.IsSound) : (fleet.act place action).1.IsSound := by
  unfold act
  cases found : fleet.runs[place]? with
  | none => exact sound
  | some run =>
    intro other mem
    rcases List.mem_or_eq_of_mem_set mem with left | rfl
    · exact sound other left
    · exact (sound run (List.mem_of_getElem? found)).act

theorem isSound_add (sound : fleet.IsSound) (record : DeviceRecord) :
    (fleet.add record).IsSound := by
  intro run mem
  rcases List.mem_append.mp mem with old | new
  · exact sound run old
  · obtain rfl := List.mem_singleton.mp new
    exact .waiting rfl rfl rfl rfl

/-- The endpoints of the runs, by place. -/
def endpoints (fleet : Fleet) : List EndpointId :=
  fleet.runs.map Run.endpoint

/-- An action of a run moves no run to another endpoint. -/
theorem endpoints_act (sound : fleet.IsSound) :
    (fleet.act place action).1.endpoints = fleet.endpoints := by
  unfold act endpoints
  cases found : fleet.runs[place]? with
  | none => rfl
  | some run =>
    obtain ⟨within, rfl⟩ := List.getElem?_eq_some_iff.mp found
    have kept : (fleet.runs[place].act fleet.context fleet.now fleet.pool
        action).run.session.record = fleet.runs[place].session.record :=
      record_act (sound _ (List.getElem_mem within))
    dsimp only
    rw [List.map_set, Run.endpoint, Session.endpoint, kept]
    refine (congrArg _ ?_).trans (List.set_getElem_self (by simpa using within))
    simp [Run.endpoint, Session.endpoint]

end Fleet

/-! ## What waits come to -/

namespace Coordinator

theorem wait?_eq_some {coordinator : Coordinator} {endpoint : EndpointId} {ticket : Nat}
    {wait : Wait} (found : coordinator.wait? endpoint ticket = some wait) :
    coordinator.waits.find? (·.ticket == ticket) = some wait ∧ wait ∈ coordinator.waits ∧
      wait.ticket = ticket ∧ wait.endpoint = endpoint := by
  obtain ⟨found, same⟩ := Option.filter_eq_some_iff.mp found
  exact ⟨found, List.mem_of_find?_eq_some found, by simpa using List.find?_some found,
    by simpa using same⟩

/-- The coordinator once a wait has taken the end of an update. -/
def waiting (coordinator : Coordinator) (endpoint : EndpointId) (ticket : Nat)
    (update : ActiveUpdate) : Coordinator :=
  { coordinator with
    active := coordinator.active.map fun (key, other) =>
      (key, if key = endpoint then { other with isTaken := true } else other)
    waits := coordinator.waits ++ [⟨ticket, endpoint, update.run, update.startedAt⟩] }

theorem apply_wait (coordinator : Coordinator) (number : Nat) (endpoint : EndpointId) :
    coordinator.apply number (.wait endpoint) =
      match (coordinator.active? endpoint).filter (!·.isTaken) with
      | some update => ⟨coordinator.waiting endpoint number update, [], .done⟩
      | none => ⟨coordinator, [], .refused .sessionClosed⟩ := by
  cases found : coordinator.active? endpoint with
  | none => simp [apply, Coordinator.wait, found]
  | some update =>
    cases taken : update.isTaken <;>
      simp [apply, Coordinator.wait, found, taken, waiting, Option.filter]

/-- A change of the values leaves the keys where they are. -/
theorem lookup_mapValue {α β : Type} [BEq α] [LawfulBEq α] (change : α → β → β) (key : α)
    (entries : List (α × β)) :
    (entries.map fun (other, value) => (other, change other value)).lookup key =
      (entries.lookup key).map (change key) := by
  induction entries with
  | nil => rfl
  | cons entry entries ih =>
    obtain ⟨found, value⟩ := entry
    rw [List.map_cons, List.lookup_cons, List.lookup_cons, ih]
    by_cases same : key = found
    · simp [same]
    · rw [beq_false_of_ne same]

theorem active?_waiting (coordinator : Coordinator) (waits_for : EndpointId) (ticket : Nat)
    (update : ActiveUpdate) (endpoint : EndpointId) :
    (coordinator.waiting waits_for ticket update).active? endpoint =
      (coordinator.active? endpoint).map fun update =>
        if endpoint = waits_for then { update with isTaken := true } else update :=
  lookup_mapValue (fun key (update : ActiveUpdate) =>
    if key = waits_for then { update with isTaken := true } else update) endpoint coordinator.active

/-- The coordinator once a wait has returned. -/
def collected (coordinator : Coordinator) (wait : Wait) : Coordinator :=
  { coordinator with
    active := coordinator.active.filter (·.1 ≠ wait.endpoint)
    tracker := (coordinator.tracker.collect wait.endpoint).1
    waits := coordinator.waits.filter (·.ticket ≠ wait.ticket) }

theorem active?_collected (coordinator : Coordinator) (wait : Wait) (endpoint : EndpointId) :
    (coordinator.collected wait).active? endpoint =
      if endpoint = wait.endpoint then none else coordinator.active? endpoint :=
  InstanceIdPool.lookup_filter_ne wait.endpoint endpoint coordinator.active

/-- What a wait returns of a run that is over. -/
def outcome (coordinator : Coordinator) (wait : Wait) (run : Run) :
    Except UpdateError DeviceUpdateReport :=
  if run.status = .crashed then .error .sessionClosed
  else .ok (coordinator.report wait run.session.state
    (coordinator.tracker.collect wait.endpoint).2)

theorem apply_wake (coordinator : Coordinator) (number : Nat) (endpoint : EndpointId)
    (ticket : Nat) :
    coordinator.apply number (.wake endpoint ticket) =
      match coordinator.wait? endpoint ticket with
      | none => ⟨coordinator, [], .done⟩
      | some wait =>
        match coordinator.fleet.runs[wait.run]?.filter (!·.isOpen) with
        | none => ⟨coordinator, [], .done⟩
        | some run =>
          ⟨coordinator.collected wait, [], .returned (coordinator.outcome wait run)⟩ := by
  cases found : coordinator.wait? endpoint ticket with
  | none => simp [apply, found]
  | some wait =>
    obtain ⟨listed, _, rfl, _⟩ := wait?_eq_some found
    cases located : coordinator.fleet.runs[wait.run]? with
    | none => simp [apply, found, resume?, listed, located]
    | some run =>
      cases taken : run.isOpen with
      | true => simp [apply, found, resume?, listed, located, taken, Option.filter]
      | false =>
        by_cases crashed : run.status = .crashed <;>
          simp [apply, found, resume?, listed, located, taken, Option.filter, crashed, collected,
            outcome]

end Coordinator

/-! ## Which run an action is about -/

/-- An action leaves the runs alone, or it starts one, or something happens to one. -/
theorem Coordinator.runs_apply (coordinator : Coordinator) (number : Nat)
    (action : CoordinatorAction) :
    (coordinator.apply number action).coordinator.fleet.runs = coordinator.fleet.runs ∨
      (∃ record, (coordinator.apply number action).coordinator.fleet =
        coordinator.fleet.add record) ∨
      ∃ place step, (coordinator.apply number action).coordinator.fleet =
        (coordinator.fleet.act place step).1 := by
  cases action with
  | start record =>
    by_cases busy : (coordinator.active? record.endpoint).isSome = true
    · exact .inl (by simp [apply, Coordinator.start, busy])
    · exact .inr (.inl ⟨record, by simp [apply, Coordinator.start, busy]⟩)
  | cancel endpoint =>
    cases found : coordinator.active? endpoint with
    | none => exact .inl (by simp [apply, Coordinator.cancel, found])
    | some update =>
      by_cases live : coordinator.fleet.runs[update.run]?.any (·.isOpen) = true
      · exact .inr (.inr ⟨update.run, .cancel, by simp [apply, Coordinator.cancel, found, live]⟩)
      · exact .inl (by simp [apply, Coordinator.cancel, found, live])
  | inbound endpoint request =>
    cases found : coordinator.active? endpoint with
    | none => exact .inl (by simp [apply, Coordinator.inbound, found])
    | some update =>
      exact .inr (.inr ⟨update.run, .inbound (.coordinator number) request, by
        simp [apply, Coordinator.inbound, found]⟩)
  | wait endpoint =>
    rw [apply_wait]
    split <;> exact .inl rfl
  | wake endpoint ticket =>
    rw [apply_wake]
    split
    · exact .inl rfl
    · split <;> exact .inl rfl
  | abandon endpoint ticket =>
    cases found : coordinator.wait? endpoint ticket <;>
      exact .inl (by simp [apply, found, abandon])
  | act endpoint number step =>
    cases found : coordinator.fleet.place? endpoint number with
    | none => exact .inl (by simp [apply, found])
    | some place => exact .inr (.inr ⟨place, step, by simp [apply, found]⟩)
  | acquire endpoint =>
    cases lent : coordinator.fleet.pool.acquire endpoint coordinator.fleet.now <;>
      exact .inl (by simp [apply, Fleet.acquire, lent])
  | clearFinishedProgress | elapse | release => exact .inl rfl

/-- Every action keeps the sessions sound. -/
theorem CoordinatorHistory.isSound_extend {history : CoordinatorHistory}
    (sound : history.coordinator.fleet.IsSound) (action : CoordinatorAction) :
    (history.extend action).coordinator.fleet.IsSound := by
  rw [CoordinatorHistory.extend]
  rcases history.coordinator.runs_apply history.entries.length action with
    runs | ⟨record, fleet⟩ | ⟨place, step, fleet⟩
  · rw [Fleet.IsSound, CoordinatorHistory.next, runs]
    exact sound
  · rw [CoordinatorHistory.next, fleet]
    exact Fleet.isSound_add sound record
  · rw [CoordinatorHistory.next, fleet]
    exact Fleet.isSound_act sound

end FirmwareAgent
