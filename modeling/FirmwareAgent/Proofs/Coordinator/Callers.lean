import FirmwareAgent.Proofs.Coordinator.Lifecycle
import FirmwareAgent.Proofs.Fleet.Shared
import FirmwareAgent.Proofs.Run.Callers

/-!
# Whoever is answered has asked

Whatever a coordinator answers, or leaves without an answer, when it is called about an endpoint or
a session of the endpoint takes a step, was put to that endpoint before.

* `Fleet.OwesOnly` is the invariant: whatever the runs have still to settle was asked for.
* `CoordinatorHistory.asked_through`: the result.
-/

namespace FirmwareAgent

/-! ## Asking and being answered -/

/-- Whose request is answered, or stays unanswered. -/
def CoordinatorEvent.caller? : CoordinatorEvent → Option Caller
  | answered caller _ | unanswered caller => some caller
  | sent .. | published _ => none

/-- The endpoint that an action is about, if it is about one. -/
def CoordinatorAction.endpoint? : CoordinatorAction → Option EndpointId
  | start record => some record.endpoint
  | cancel endpoint | inbound endpoint _ | wait endpoint | wake endpoint _ | abandon endpoint _
  | act endpoint _ _ | acquire endpoint | release endpoint _ => some endpoint
  | clearFinishedProgress | elapse _ => none

/-- Which endpoint an action with a number asks for something, and on whose behalf. -/
def CoordinatorAction.asks? (number : Nat) : CoordinatorAction → Option (EndpointId × Caller)
  | inbound endpoint _ => some (endpoint, .coordinator number)
  | act endpoint _ action => action.caller?.map (endpoint, ·)
  | _ => none

namespace CoordinatorHistory

/-- An endpoint has been asked for something on a caller's behalf. -/
def HasAsked (history : CoordinatorHistory) (endpoint : EndpointId) (caller : Caller) : Prop :=
  ∃ (number : Nat) (entry : CoordinatorEntry), history.entries[number]? = some entry ∧
    entry.action.asks? number = some (endpoint, caller)

variable {history : CoordinatorHistory} {action : CoordinatorAction} {endpoint : EndpointId}
  {caller : Caller}

theorem HasAsked.extend (asked : history.HasAsked endpoint caller) :
    (history.extend action).HasAsked endpoint caller := by
  obtain ⟨number, entry, found, asks⟩ := asked
  refine ⟨number, entry, ?_, asks⟩
  rw [CoordinatorHistory.extend]
  exact List.getElem?_append_left (List.getElem?_eq_some_iff.mp found).1 ▸ found

theorem hasAsked_of_asks (asks : action.asks? history.entries.length = some (endpoint, caller)) :
    (history.extend action).HasAsked endpoint caller :=
  ⟨history.entries.length, _, List.getElem?_concat_length, asks⟩

end CoordinatorHistory

/-! ## Steps of sessions -/

/-- What the runs of a fleet have still to settle was asked of their endpoints. -/
def Fleet.OwesOnly (asked : EndpointId → Caller → Prop) (fleet : Fleet) : Prop :=
  ∀ run ∈ fleet.runs, run.OwesOnly (asked run.endpoint)

namespace Coordinator

variable {asked : EndpointId → Caller → Prop} {coordinator : Coordinator} {endpoint : EndpointId}
  {place : Nat}

theorem caller?_observe (occurrence : Occurrence) :
    (coordinator.observe place occurrence).2.caller? = occurrence.caller? := by
  cases occurrence with
  | unanswered caller request => cases caller <;> rfl
  | _ => rfl

variable (coordinator place) in
/-- What is passed on concerns the same callers. -/
theorem callers_observeAll (occurrences : List Occurrence) :
    (coordinator.observeAll place occurrences).2.map CoordinatorEvent.caller? =
      occurrences.map Occurrence.caller? := by
  induction occurrences generalizing coordinator with
  | nil => rfl
  | cons occurrence occurrences ih =>
    simp only [observeAll, List.map_cons, caller?_observe, ih]

/-- A step of a run of the endpoint settles what the endpoint was asked for. -/
theorem owesOnly_act (sound : coordinator.fleet.IsSound) (owes : coordinator.fleet.OwesOnly asked)
    (belongs : coordinator.fleet.endpoints[place]? = some endpoint) {action : RunAction}
    (own : ∀ caller ∈ action.caller?, asked endpoint caller) :
    (coordinator.act place action).1.fleet.OwesOnly asked ∧
      ∀ event ∈ (coordinator.act place action).2, ∀ caller ∈ event.caller?,
        asked endpoint caller := by
  obtain ⟨run, found, rfl⟩ := Fleet.endpoints_eq_some.mp belongs
  have mem := List.mem_of_getElem? found
  have settles := (owes run mem).act coordinator.fleet.context coordinator.fleet.now
    coordinator.fleet.pool (sound run mem) own
  have same_endpoint : (run.act coordinator.fleet.context coordinator.fleet.now
      coordinator.fleet.pool action).run.endpoint = run.endpoint :=
    congrArg DeviceRecord.endpoint (record_act (sound run mem))
  constructor
  · rw [fleet_act, Fleet.act_eq found]
    intro other mem_after
    rcases List.mem_or_eq_of_mem_set mem_after with old | rfl
    · exact owes other old
    · rw [same_endpoint]
      exact settles.owes
  · intro event mem_event caller concerns
    simp only [act, Fleet.act_eq found] at mem_event
    have seen := List.mem_map_of_mem (f := CoordinatorEvent.caller?) mem_event
    rw [callers_observeAll] at seen
    obtain ⟨occurrence, occurred, same⟩ := List.mem_map.mp seen
    exact settles.settled occurrence occurred caller (same.trans concerns)

/-- What comes of an action concerns those who asked an endpoint of the action. -/
structure SettlesOnly (asked : EndpointId → Caller → Prop) (action : CoordinatorAction)
    (step : CoordinatorStep) : Prop where
  owes : step.coordinator.fleet.OwesOnly asked
  settled : ∀ event ∈ step.events, ∀ caller ∈ event.caller?,
    ∃ endpoint, action.endpoint? = some endpoint ∧ asked endpoint caller

theorem settlesOnly_apply (sound : coordinator.fleet.IsSound)
    (owes : coordinator.fleet.OwesOnly asked)
    (active : ∀ endpoint update, coordinator.active? endpoint = some update →
      coordinator.fleet.endpoints[update.run]? = some endpoint)
    (number : Nat) {action : CoordinatorAction}
    (asking : ∀ endpoint caller, action.asks? number = some (endpoint, caller) →
      asked endpoint caller) :
    SettlesOnly asked action (coordinator.apply number action) := by
  have unchanged (result : CallResult) : SettlesOnly asked action ⟨coordinator, [], result⟩ :=
    ⟨owes, List.forall_mem_nil _⟩
  have acts {endpoint : EndpointId} {place : Nat} (of : action.endpoint? = some endpoint)
      (belongs : coordinator.fleet.endpoints[place]? = some endpoint) {step : RunAction}
      (own : ∀ caller ∈ step.caller?, asked endpoint caller) :
      SettlesOnly asked action ⟨(coordinator.act place step).1, (coordinator.act place step).2,
        .done⟩ := by
    obtain ⟨owes_after, settled⟩ := owesOnly_act sound owes belongs own
    exact ⟨owes_after, fun event mem caller concerns =>
      ⟨endpoint, of, settled event mem caller concerns⟩⟩
  cases action with
  | start record =>
    simp only [apply, Coordinator.start]
    split
    · rename_i started
      split at started
      · cases started
      · cases started
        refine ⟨fun run mem => ?_, by simp [CoordinatorEvent.caller?]⟩
        rcases List.mem_append.mp mem with old | new
        · exact owes run old
        · obtain rfl := List.mem_singleton.mp new
          exact ⟨List.forall_mem_nil _, List.forall_mem_nil _⟩
    · exact unchanged _
  | cancel endpoint =>
    cases found : coordinator.active? endpoint with
    | none =>
      simp only [apply, Coordinator.cancel, found]
      exact unchanged _
    | some update =>
      simp only [apply, Coordinator.cancel, found]
      cases coordinator.fleet.runs[update.run]?.any (·.isOpen) with
      | true => exact acts rfl (active endpoint update found) (by simp [RunAction.caller?])
      | false => exact unchanged _
  | inbound endpoint request =>
    have asked_here : asked endpoint (.coordinator number) := asking endpoint _ rfl
    cases found : coordinator.active? endpoint with
    | none =>
      simp only [apply, Coordinator.inbound, found]
      refine ⟨owes, fun event mem caller concerns => ⟨endpoint, rfl, ?_⟩⟩
      obtain rfl := List.mem_singleton.mp mem
      obtain rfl := Option.some.inj concerns
      exact asked_here
    | some update =>
      simp only [apply, Coordinator.inbound, found]
      refine acts rfl (active endpoint update found) ?_
      rintro caller ⟨⟩
      exact asked_here
  | act endpoint among step =>
    cases found : coordinator.fleet.place? endpoint among with
    | none =>
      simp only [apply, found]
      exact unchanged _
    | some place =>
      simp only [apply, found]
      refine acts rfl (Fleet.place?_eq_some.mp found).1 fun caller asks => ?_
      exact asking endpoint caller (by simp [CoordinatorAction.asks?, Option.mem_def.mp asks])
  | wait endpoint =>
    rw [apply_wait]
    split
    · exact ⟨owes, List.forall_mem_nil _⟩
    · exact unchanged _
  | wake endpoint ticket =>
    rw [apply_wake]
    split
    · exact unchanged _
    · split
      · exact unchanged _
      · exact ⟨owes, List.forall_mem_nil _⟩
  | abandon endpoint ticket =>
    simp only [apply]
    split
    · exact ⟨owes, List.forall_mem_nil _⟩
    · exact unchanged _
  | acquire endpoint =>
    simp only [apply, Fleet.acquire]
    cases coordinator.fleet.pool.acquire endpoint coordinator.fleet.now with
    | ok lent => exact ⟨owes, List.forall_mem_nil _⟩
    | error error => exact unchanged _
  | clearFinishedProgress | elapse | release => exact ⟨owes, List.forall_mem_nil _⟩

end Coordinator

/-! ## The result -/

namespace CoordinatorHistory

/-- Whatever is called and whatever the sessions do: whoever is answered, or stays without an
answer, when an endpoint has its turn has asked this endpoint. -/
theorem asked_through (context : SessionContext) (pool : InstanceIdPool)
    (actions : List CoordinatorAction) :
    ∀ entry ∈ (through context pool actions).entries, ∀ event ∈ entry.step.events,
      ∀ caller ∈ event.caller?, ∃ endpoint, entry.action.endpoint? = some endpoint ∧
        (through context pool actions).HasAsked endpoint caller := by
  suffices kept : (through context pool actions).coordinator.fleet.OwesOnly
        (through context pool actions).HasAsked ∧
      ∀ entry ∈ (through context pool actions).entries, ∀ event ∈ entry.step.events,
        ∀ caller ∈ event.caller?, ∃ endpoint, entry.action.endpoint? = some endpoint ∧
          (through context pool actions).HasAsked endpoint caller from kept.2
  induction actions using List.reverseRecOn with
  | nil => exact ⟨fun run mem => absurd mem List.not_mem_nil,
      fun entry mem => absurd mem List.not_mem_nil⟩
  | append_singleton actions action ih =>
    obtain ⟨owes, settled⟩ := ih
    obtain ⟨sound, booked⟩ := booked_through context pool actions
    rw [through_concat]
    have settles : Coordinator.SettlesOnly
        ((through context pool actions).extend action).HasAsked action _ :=
      Coordinator.settlesOnly_apply sound (fun run mem => (owes run mem).mono fun _ => .extend)
        (fun endpoint update found => (booked.active endpoint update found).1.1)
        (through context pool actions).entries.length fun _ _ => hasAsked_of_asks
    refine ⟨settles.owes, fun entry mem event happened caller concerns => ?_⟩
    rcases List.mem_append.mp mem with old | new
    · obtain ⟨endpoint, of, asked⟩ := settled entry old event happened caller concerns
      exact ⟨endpoint, of, asked.extend⟩
    · obtain rfl := List.mem_singleton.mp new
      exact settles.settled event happened caller concerns

end CoordinatorHistory

end FirmwareAgent
