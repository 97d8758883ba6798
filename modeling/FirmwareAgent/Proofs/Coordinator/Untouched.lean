import FirmwareAgent.Proofs.Coordinator.Routing

/-!
# Requests that leave no trace

A request that no session has handled might as well not have been made: nothing else that the
coordinator does, shows or keeps depends on it.
-/

namespace FirmwareAgent

/-! ## A coordinator without the requests of a caller -/

/-- Whether a request of the caller is answered, or stays unanswered. -/
def CoordinatorEvent.isOf (caller : Caller) (event : CoordinatorEvent) : Bool :=
  event.caller? == some caller

/-- The fleet without the requests of the caller that wait to be handled. -/
def Fleet.forget (caller : Caller) (fleet : Fleet) : Fleet :=
  { fleet with runs := fleet.runs.map (Run.forget caller) }

/-- The coordinator without the requests of the caller that wait to be handled. -/
def Coordinator.forget (caller : Caller) (coordinator : Coordinator) : Coordinator :=
  { coordinator with fleet := coordinator.fleet.forget caller }

/-- The step without the requests of the caller and their answers. -/
def CoordinatorStep.forget (caller : Caller) (step : CoordinatorStep) : CoordinatorStep where
  coordinator := step.coordinator.forget caller
  events := step.events.filter fun event => !event.isOf caller
  result := step.result

/-- What is shown and returned to all but the caller. -/
def CoordinatorHistory.shownBut (caller : Caller) (history : CoordinatorHistory) :
    List (List CoordinatorEvent × CallResult) :=
  history.entries.map fun entry =>
    (entry.step.events.filter fun event => !event.isOf caller, entry.step.result)

variable {caller : Caller}

/-- A run forgets a request that is put to it. -/
theorem Run.forget_act_inbound (context : SessionContext) (now : Instant) (pool : InstanceIdPool)
    (run : Run) (caller : Caller) (request : Request) :
    (run.act context now pool (.inbound caller request)).forget caller =
      ⟨run.forget caller, pool, []⟩ := by
  by_cases taken : run.isOpen = true <;>
    simp [Run.act, taken, RunStep.forget, RunStep.enqueue, RunStep.occur, Run.forget, Event.isOf,
      Event.caller?, Event.request?, Occurrence.isOf, Occurrence.caller?]

namespace Fleet

variable {fleet : Fleet}

theorem getElem?_forget (place : Nat) :
    (fleet.forget caller).runs[place]? = (fleet.runs[place]?).map (Run.forget caller) :=
  List.getElem?_map

/-- What is asked of a run, unless it is about its inbox, has the same answer. -/
theorem any_forget (place : Nat) {holds : Run → Bool}
    (blind : ∀ run, holds (run.forget caller) = holds run) :
    (fleet.forget caller).runs[place]?.any holds = fleet.runs[place]?.any holds := by
  rw [getElem?_forget, Option.any_map]
  exact congrArg (fleet.runs[place]?.any ·) (funext blind)

theorem place?_forget (endpoint : EndpointId) (among : Nat) :
    (fleet.forget caller).place? endpoint among = fleet.place? endpoint among := by
  have numbers (place : Nat) :
      (fleet.forget caller).numberOf endpoint place = fleet.numberOf endpoint place := by
    rw [numberOf, numberOf, forget, ← List.map_take, List.countP_map]
    rfl
  rw [place?, place?, show (fleet.forget caller).runs.length = fleet.runs.length from
    List.length_map _]
  congr
  funext place
  rw [any_forget place fun _ => rfl, numbers]

@[simp] theorem forget_add (record : DeviceRecord) :
    (fleet.add record).forget caller = (fleet.forget caller).add record := by
  simp only [forget, add, List.map_append]
  rfl

/-- Runs that owe the caller nothing stay as they are. -/
theorem forget_of_isClear (clear : fleet.IsClear caller []) : fleet.forget caller = fleet := by
  have same : fleet.runs.map (Run.forget caller) = fleet.runs := by
    refine (List.map_congr_left fun run mem => ?_).trans (List.map_id _)
    obtain ⟨place, located⟩ := List.mem_iff_getElem?.mp mem
    have queue := (clear place run located List.not_mem_nil).queue
    have inbox : run.inbox.filter (fun event => !event.isOf caller) = run.inbox :=
      List.filter_eq_self.mpr fun event queued => by
        have foreign := List.filter_eq_nil_iff.mp queue event queued
        simpa using foreign
    rw [Run.forget, inbox]
    rfl
  rw [forget, same]

theorem change_forget (place : Nat) (step : RunStep) :
    (fleet.forget caller).change place (step.forget caller) =
      (fleet.change place step).forget caller := by
  simp only [change, forget, RunStep.forget, List.map_set]

/-- A run that comes to nothing of the caller's does the same without it. -/
theorem act_forget {place : Nat} {run : Run} {action : RunAction}
    (located : fleet.runs[place]? = some run) (sound : run.Sound)
    (ignores : run.Ignores fleet.now action caller) :
    (fleet.forget caller).act place action = ((fleet.act place action).1.forget caller,
      (fleet.act place action).2.filter fun occurrence => !occurrence.isOf caller) := by
  have located_twin : (fleet.forget caller).runs[place]? = some (run.forget caller) := by
    rw [getElem?_forget, located]
    rfl
  have acted : (run.forget caller).act (fleet.forget caller).context (fleet.forget caller).now
      (fleet.forget caller).pool action =
        (run.act fleet.context fleet.now fleet.pool action).forget caller :=
    (Run.spares_act fleet.context fleet.pool sound ignores).forget
  rw [act_eq located, act_eq located_twin, acted, change_forget]
  rfl

theorem forget_act_inbound {place : Nat} {run : Run} (located : fleet.runs[place]? = some run)
    (request : Request) :
    (fleet.act place (.inbound caller request)).1.forget caller = fleet.forget caller ∧
      ((fleet.act place (.inbound caller request)).2.filter fun occurrence =>
        !occurrence.isOf caller) = [] := by
  have forgotten := Run.forget_act_inbound fleet.context fleet.now fleet.pool run caller request
  rw [act_eq located]
  refine ⟨?_, congrArg RunStep.occurrences forgotten⟩
  dsimp only
  rw [← change_forget, forgotten]
  have located_twin : (fleet.forget caller).runs[place]? = some (run.forget caller) := by
    rw [getElem?_forget, located]
    rfl
  obtain ⟨within, at_place⟩ := List.getElem?_eq_some_iff.mp located_twin
  rw [change, ← at_place, List.set_getElem_self]
  rfl

end Fleet

namespace Coordinator

variable {coordinator : Coordinator} {place : Nat}

@[simp] theorem fleet_forget :
    (coordinator.forget caller).fleet = coordinator.fleet.forget caller := rfl

@[simp] theorem active?_forget (endpoint : EndpointId) :
    (coordinator.forget caller).active? endpoint = coordinator.active? endpoint := rfl

@[simp] theorem wait?_forget (endpoint : EndpointId) (ticket : Nat) :
    (coordinator.forget caller).wait? endpoint ticket = coordinator.wait? endpoint ticket := rfl

theorem isOf_observe (occurrence : Occurrence) :
    (coordinator.observe place occurrence).2.isOf caller = occurrence.isOf caller := by
  rw [CoordinatorEvent.isOf, caller?_observe]
  rfl

theorem observe_forget (occurrence : Occurrence) :
    (coordinator.forget caller).observe place occurrence =
      ((coordinator.observe place occurrence).1.forget caller,
        (coordinator.observe place occurrence).2) := by
  cases occurrence with
  | unanswered asker request => cases asker <;> rfl
  | _ => rfl

/-- Passing on what settles a request changes nothing. -/
theorem observe_of_isOf {occurrence : Occurrence} (own : occurrence.isOf caller = true) :
    (coordinator.observe place occurrence).1 = coordinator := by
  cases occurrence with
  | unanswered asker request => cases asker <;> rfl
  | answered => rfl
  | sent | notified => cases own

theorem observeAll_forget (occurrences : List Occurrence) :
    (coordinator.forget caller).observeAll place
        (occurrences.filter fun occurrence => !occurrence.isOf caller) =
      ((coordinator.observeAll place occurrences).1.forget caller,
        (coordinator.observeAll place occurrences).2.filter fun event => !event.isOf caller) := by
  induction occurrences generalizing coordinator with
  | nil => rfl
  | cons occurrence occurrences ih =>
    cases own : occurrence.isOf caller with
    | true =>
      rw [List.filter_cons_of_neg (by simp [own]), ih]
      simp only [observeAll, observe_of_isOf own]
      rw [List.filter_cons_of_neg (by simp [isOf_observe, own])]
    | false =>
      rw [List.filter_cons_of_pos (by simp [own])]
      simp only [observeAll, observe_forget, ih]
      rw [List.filter_cons_of_pos (by simp [isOf_observe, own])]

variable (caller) in
/-- Nothing is left of a request that is put to a session but its place in the inbox. -/
theorem forget_act_inbound {run : Run} (located : coordinator.fleet.runs[place]? = some run)
    (request : Request) :
    ((coordinator.act place (.inbound caller request)).1.forget caller,
        (coordinator.act place (.inbound caller request)).2.filter fun event =>
          !event.isOf caller) = (coordinator.forget caller, []) := by
  obtain ⟨fleet_eq, settled⟩ := Fleet.forget_act_inbound located request
  have observed := @observeAll_forget caller
    { coordinator with fleet := (coordinator.fleet.act place (.inbound caller request)).1 } place
    (coordinator.fleet.act place (.inbound caller request)).2
  simp only [act]
  rw [← observed, settled, observeAll, forget, fleet_eq]
  rfl

/-! ## What an action does without the requests of a caller -/

variable (coordinator caller) in
/-- The session that an action moves handles no request of the caller. -/
def Ignores (deed : CoordinatorDeed) : Prop :=
  ∀ place action, deed = .moved place action → ∃ run, coordinator.fleet.runs[place]? = some run ∧
    run.Sound ∧ run.Ignores coordinator.fleet.now action caller

theorem act_forget {run : Run} {action : RunAction}
    (located : coordinator.fleet.runs[place]? = some run) (sound : run.Sound)
    (ignores : run.Ignores coordinator.fleet.now action caller) :
    (coordinator.forget caller).act place action =
      ((coordinator.act place action).1.forget caller,
        (coordinator.act place action).2.filter fun event => !event.isOf caller) := by
  simp only [act, fleet_forget, Fleet.act_forget located sound ignores]
  exact @observeAll_forget caller { coordinator with
    fleet := (coordinator.fleet.act place action).1 } place _

theorem Ignores.act_forget {deed : CoordinatorDeed} (ignores : coordinator.Ignores caller deed)
    {action : RunAction} (deed_eq : deed = .moved place action) :
    (coordinator.forget caller).act place action =
      ((coordinator.act place action).1.forget caller,
        (coordinator.act place action).2.filter fun event => !event.isOf caller) := by
  obtain ⟨run, located, sound, spared⟩ := ignores place action deed_eq
  exact Coordinator.act_forget located sound spared

section

variable {number : Nat} {endpoint : EndpointId}

theorem cancel_forget
    (ignores : coordinator.Ignores caller (coordinator.deed number (.cancel endpoint))) :
    (coordinator.forget caller).apply number (.cancel endpoint) =
      (coordinator.apply number (.cancel endpoint)).forget caller := by
  cases found : coordinator.active? endpoint with
  | none => simp [apply, Coordinator.cancel, found, CoordinatorStep.forget]
  | some update =>
    have taken : (coordinator.fleet.forget caller).runs[update.run]?.any (·.isOpen) =
        coordinator.fleet.runs[update.run]?.any (·.isOpen) :=
      Fleet.any_forget update.run fun _ => rfl
    cases live : coordinator.fleet.runs[update.run]?.any (·.isOpen) with
    | true =>
      have deed_eq : coordinator.deed number (.cancel endpoint) = .moved update.run .cancel := by
        simp [deed, found, live]
      simp [apply, Coordinator.cancel, found, taken, live, ignores.act_forget deed_eq,
        CoordinatorStep.forget]
    | false => simp [apply, Coordinator.cancel, found, taken, live, CoordinatorStep.forget]

theorem inbound_forget {request : Request} (other : caller ≠ .coordinator number)
    (ignores : coordinator.Ignores caller (coordinator.deed number (.inbound endpoint request))) :
    (coordinator.forget caller).apply number (.inbound endpoint request) =
      (coordinator.apply number (.inbound endpoint request)).forget caller := by
  cases found : coordinator.active? endpoint with
  | none =>
    have foreign : (absence number request).isOf caller = false :=
      beq_eq_false_iff_ne.mpr fun same => other (Option.some.inj same).symm
    simp [apply, Coordinator.inbound, found, CoordinatorStep.forget, foreign]
  | some update =>
    have deed_eq : coordinator.deed number (.inbound endpoint request) =
        .moved update.run (.inbound (.coordinator number) request) := by
      simp [deed, found]
    simp [apply, Coordinator.inbound, found, ignores.act_forget deed_eq, CoordinatorStep.forget]

variable (coordinator caller number endpoint) in
/-- A wait looks at how a session has ended, not at its inbox. -/
theorem wake_forget (ticket : Nat) :
    (coordinator.forget caller).apply number (.wake endpoint ticket) =
      (coordinator.apply number (.wake endpoint ticket)).forget caller := by
  rw [apply_wake, apply_wake, wait?_forget]
  cases found : coordinator.wait? endpoint ticket with
  | none => rfl
  | some wait =>
    dsimp only
    rw [fleet_forget, Fleet.getElem?_forget]
    cases located : coordinator.fleet.runs[wait.run]? with
    | none => rfl
    | some run =>
      have taken_twin : (run.forget caller).isOpen = run.isOpen := rfl
      cases taken : run.isOpen <;> simp only [Option.map_some, Option.filter, taken_twin, taken,
        Bool.not_false, Bool.not_true, Bool.false_eq_true, if_true, if_false] <;> rfl

end

/-- Whatever does not come to the requests of a caller does the same without them. -/
theorem apply_forget {number : Nat} {action : CoordinatorAction}
    (other : caller ≠ .coordinator number)
    (ignores : coordinator.Ignores caller (coordinator.deed number action)) :
    (coordinator.forget caller).apply number action =
      (coordinator.apply number action).forget caller := by
  cases action with
  | start record =>
    cases busy : (coordinator.active? record.endpoint).isSome with
    | true => simp [apply, Coordinator.start, busy, CoordinatorStep.forget]
    | false =>
      have runs : (coordinator.fleet.forget caller).runs.length = coordinator.fleet.runs.length :=
        List.length_map _
      simp only [apply, Coordinator.start, active?_forget, busy, fleet_forget, runs,
        Bool.false_eq_true, if_false, ← Fleet.forget_add]
      rfl
  | cancel endpoint => exact cancel_forget ignores
  | inbound endpoint request => exact inbound_forget other ignores
  | wait endpoint =>
    rw [apply_wait, apply_wait, active?_forget]
    split <;> rfl
  | wake endpoint ticket => exact wake_forget caller coordinator number endpoint ticket
  | abandon endpoint ticket =>
    simp only [apply, wait?_forget]
    split <;> rfl
  | act endpoint among step =>
    cases found : coordinator.fleet.place? endpoint among with
    | none =>
      simp [apply, Fleet.place?_forget, found, CoordinatorStep.forget]
    | some place =>
      have deed_eq : coordinator.deed number (.act endpoint among step) = .moved place step := by
        simp [deed, found]
      simp [apply, Fleet.place?_forget, found, ignores.act_forget deed_eq, CoordinatorStep.forget]
  | acquire endpoint =>
    cases lent : coordinator.fleet.pool.acquire endpoint coordinator.fleet.now <;>
      simp [apply, Fleet.acquire, Fleet.forget, lent, CoordinatorStep.forget, forget]
  | clearFinishedProgress | elapse | release => rfl

end Coordinator

/-! ## Histories that differ in one call -/

namespace CoordinatorHistory

variable {history twin : CoordinatorHistory} {action : CoordinatorAction} {number : Nat}
  {context : SessionContext} {endpoint : EndpointId} {request : Request}

/-- The twin is the history without the requests of the caller, and nobody else can tell them
apart. -/
structure Hides (caller : Caller) (history twin : CoordinatorHistory) : Prop where
  coordinator : twin.coordinator = history.coordinator.forget caller
  length : twin.entries.length = history.entries.length
  shown : twin.shownBut caller = history.shownBut caller

theorem Hides.extend (hides : history.Hides caller twin)
    (other : caller ≠ .coordinator history.entries.length)
    (ignores : history.coordinator.Ignores caller (history.deed action)) :
    (history.extend action).Hides caller (twin.extend action) := by
  have next_eq : twin.next action = (history.next action).forget caller := by
    rw [next, hides.length, hides.coordinator]
    exact Coordinator.apply_forget other ignores
  refine ⟨?_, ?_, ?_⟩
  · rw [CoordinatorHistory.extend, next_eq]
    rfl
  · simp [CoordinatorHistory.extend, hides.length]
  · have shown := hides.shown
    simp only [shownBut] at shown
    simp [shownBut, CoordinatorHistory.extend, shown, next_eq, CoordinatorStep.forget]

/-- An action that makes no session handle the request of the call comes to nothing of it. -/
theorem Fate.ignores (fate : history.Fate context number endpoint request)
    (sound : history.coordinator.fleet.IsSound) (booked : history.Booked)
    (other : history.Other action number)
    (unhandled : (history.extend action).handledFor (.coordinator number) = []) :
    history.coordinator.Ignores (.coordinator number) (history.deed action) := by
  intro moved step deed_eq
  obtain ⟨run, moves⟩ := booked.moves sound deed_eq
  have unasked := other.unasked moved step deed_eq
  refine ⟨run, moves.located, moves.run_sound, ?_⟩
  have handled := moves.handledFor (.coordinator number)
  rw [unhandled] at handled
  obtain ⟨unhandled_before, unhandled_now⟩ := List.append_eq_nil_iff.mp handled.symm
  cases fate with
  | absent _ clear => exact (clear moved run moves.located List.not_mem_nil).ignores unasked
  | @routed place _ _ elsewhere course =>
    by_cases own : moved = place
    · subst own
      cases course with
      | waiting located _ queue reads =>
        obtain rfl := Option.some.inj (located.symm.trans moves.located)
        rcases Run.handles_or_ignores history.coordinator.fleet.now queue reads unasked with
          ⟨inbox, next, _⟩ | ignores
        · simp [next] at unhandled_now
        · exact ignores
      | missed located _ free =>
        obtain rfl := Option.some.inj (located.symm.trans moves.located)
        exact free.ignores unasked
      | brokeDown _ _ handled_before | reading _ _ _ handled_before
      | answered _ _ handled_before => cases handled_before.symm.trans unhandled_before
    · have exposed : moved ∉ [place] := fun among => own (List.mem_singleton.mp among)
      exact (elsewhere moved run moves.located exposed).ignores unasked

/-- Making the call leaves nothing but the request in the inbox of a session. -/
theorem hides_of_call (unheard : history.Unheard history.entries.length)
    (sound : history.coordinator.fleet.IsSound) (booked : history.Booked)
    (endpoint : EndpointId) (request : Request) :
    (history.extend (.inbound endpoint request)).Hides (.coordinator history.entries.length)
      (history.extend (.elapse 0)) := by
  have forgotten : history.coordinator.forget (.coordinator history.entries.length) =
      history.coordinator := by
    rw [Coordinator.forget, Fleet.forget_of_isClear unheard.clear]
  suffices next_eq :
      (history.next (.inbound endpoint request)).forget (.coordinator history.entries.length) =
        ⟨history.coordinator, [], .done⟩ by
    obtain ⟨coordinator_eq, events, result⟩ := CoordinatorStep.mk.inj next_eq
    refine ⟨?_, ?_, ?_⟩
    · exact coordinator_eq.symm
    · simp [CoordinatorHistory.extend]
    · simp only [shownBut, CoordinatorHistory.extend, List.map_append, List.map_singleton, events,
        result]
      rfl
  cases active : history.coordinator.active? endpoint with
  | none =>
    have own : (Coordinator.absence history.entries.length request).isOf
        (.coordinator history.entries.length) = true := beq_self_eq_true _
    simp [next, Coordinator.apply, Coordinator.inbound, active, CoordinatorStep.forget, own,
      forgotten]
  | some update =>
    obtain ⟨run, moves⟩ := booked.moves sound (deed_inbound active request)
    obtain ⟨coordinator_eq, events⟩ := Prod.mk.inj
      (Coordinator.forget_act_inbound (.coordinator history.entries.length) moves.located request)
    simp only [next, Coordinator.apply, Coordinator.inbound, active, CoordinatorStep.forget, events,
      coordinator_eq, forgotten]

/-- A call that has been answered has left nothing behind if no session has handled its request. -/
theorem Fate.forget_eq (fate : history.Fate context number endpoint request)
    (unhandled : history.handledFor (.coordinator number) = [])
    (answered : history.replies number ≠ []) :
    history.coordinator.forget (.coordinator number) = history.coordinator := by
  suffices clear : history.coordinator.fleet.IsClear (.coordinator number) [] by
    rw [Coordinator.forget, Fleet.forget_of_isClear clear]
  cases fate with
  | absent _ clear => exact clear
  | @routed place _ _ elsewhere course =>
    cases course with
    | waiting _ _ _ _ _ replies => exact absurd replies answered
    | brokeDown _ _ handled | reading _ _ _ handled | answered _ _ handled =>
      cases handled.symm.trans unhandled
    | missed located _ free =>
      intro other run located_other _
      by_cases own : other = place
      · subst own
        obtain rfl := Option.some.inj (located.symm.trans located_other)
        exact free
      · exact elsewhere other run located_other fun among => own (List.mem_singleton.mp among)

variable (context) (pool : InstanceIdPool)

/-- As long as no session has handled the request of a call, nobody but the caller can tell that it
was made. -/
theorem hides_through (earlier later : List CoordinatorAction) (endpoint : EndpointId)
    (request : Request)
    (genuine : ∀ action ∈ earlier ++ later, action.impersonates earlier.length = false)
    (unhandled : (through context pool (earlier ++ .inbound endpoint request :: later)).handledFor
      (.coordinator earlier.length) = []) :
    (through context pool (earlier ++ .inbound endpoint request :: later)).Hides
      (.coordinator earlier.length) (through context pool (earlier ++ .elapse 0 :: later)) := by
  induction later using List.reverseRecOn with
  | nil =>
    have unheard := unheard_next context pool (List.forall_mem_append.mp genuine).1
    obtain ⟨sound, booked⟩ := booked_through context pool earlier
    rw [through_concat, through_concat, ← length_entries context pool earlier]
    exact hides_of_call unheard sound booked endpoint request
  | append_singleton later action ih =>
    rw [← List.append_assoc] at genuine
    obtain ⟨before, last⟩ := List.forall_mem_append.mp genuine
    obtain ⟨sound, booked⟩ :=
      booked_through context pool (earlier ++ .inbound endpoint request :: later)
    have fate := fate_through context pool earlier later endpoint request before
    have made := made_through context pool earlier later (.inbound endpoint request)
    rw [← List.cons_append, ← List.append_assoc, through_concat] at unhandled ⊢
    rw [← List.cons_append, ← List.append_assoc, through_concat]
    have unhandled_before := unhandled
    rw [handledFor_extend] at unhandled_before
    refine (ih before (List.append_eq_nil_iff.mp unhandled_before).1).extend ?_
      (fate.ignores sound booked
        (other_of_genuine made.ne' (last action (List.mem_singleton_self action))) unhandled)
    exact fun same => made.ne (Caller.coordinator.inj same)

end CoordinatorHistory

end FirmwareAgent
