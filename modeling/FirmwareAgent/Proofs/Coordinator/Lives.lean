import FirmwareAgent.Proofs.Coordinator.EndpointView
import FirmwareAgent.Proofs.Coordinator.Lifecycle

/-!
# The lives of the sessions of a coordinator

What happens to one session of a coordinator, taken by itself, is a history of a run. So whatever
holds of all histories of runs holds of every session of a coordinator, whatever the others do.

* `CoordinatorDeed` says which session an action starts, moves or collects, and
  `Coordinator.does_apply` what becomes of the coordinator by it.
* `CoordinatorHistory.life?` is what has happened to the session at a place, and `lived_through`
  says that the session has come about in this way.
-/

namespace FirmwareAgent

/-! ## What an action is to the sessions -/

/-- What an action of a coordinator is to the sessions and to their progress. -/
inductive CoordinatorDeed
  /-- Nothing. -/
  | aside
  | started (record : DeviceRecord)
  /-- Something happens to the session at a place. -/
  | moved (place : Nat) (action : RunAction)
  /-- A wait returns, and with it the report of its session. -/
  | collected (wait : Wait)
  /-- The devices that have been collected are no longer tracked. -/
  | cleared

/-- Whether an action leaves the sessions alone. -/
def CoordinatorDeed.isQuiet : CoordinatorDeed → Bool
  | started _ | moved .. => false
  | aside | collected _ | cleared => true

/-- The session whose report an action collects. -/
def CoordinatorDeed.collects? : CoordinatorDeed → Option Nat
  | collected wait => some wait.run
  | _ => none

/-- What the action with the number is to the sessions. -/
def Coordinator.deed (coordinator : Coordinator) (number : Nat) :
    CoordinatorAction → CoordinatorDeed
  | .start record =>
    if (coordinator.active? record.endpoint).isSome then .aside else .started record
  | .cancel endpoint =>
    match coordinator.active? endpoint with
    | some update =>
      if coordinator.fleet.runs[update.run]?.any (·.isOpen) then .moved update.run .cancel
      else .aside
    | none => .aside
  | .inbound endpoint request =>
    match coordinator.active? endpoint with
    | some update => .moved update.run (.inbound (.coordinator number) request)
    | none => .aside
  | .wake endpoint ticket =>
    match coordinator.wait? endpoint ticket with
    | some wait =>
      if coordinator.fleet.runs[wait.run]?.any (!·.isOpen) then .collected wait else .aside
    | none => .aside
  | .act endpoint among action =>
    match coordinator.fleet.place? endpoint among with
    | some place => .moved place action
    | none => .aside
  | .clearFinishedProgress => .cleared
  | _ => .aside

/-- The progress that an event tells. -/
def CoordinatorEvent.progress? : CoordinatorEvent → Option UpdateProgress
  | published progress => some progress
  | _ => none

/-- The progress events of a step, in that order. -/
def CoordinatorStep.published (step : CoordinatorStep) : List UpdateProgress :=
  step.events.filterMap CoordinatorEvent.progress?

/-- What the tracker makes of notifications, one after another. -/
def ProgressTracker.recordAll (tracker : ProgressTracker) :
    List Notification → ProgressTracker × List UpdateProgress
  | [] => (tracker, [])
  | notification :: notifications =>
    let (tracker, progress) := tracker.record notification
    let (tracker, events) := tracker.recordAll notifications
    (tracker, progress :: events)

namespace Coordinator

variable {coordinator : Coordinator} {place : Nat}

/-- What others see of a run reaches the subscribers as the tracker makes of it. -/
theorem progress_observeAll (occurrences : List Occurrence) :
    ((coordinator.observeAll place occurrences).1.tracker,
        (coordinator.observeAll place occurrences).2.filterMap CoordinatorEvent.progress?) =
      coordinator.tracker.recordAll (occurrences.filterMap Occurrence.notification?) := by
  induction occurrences generalizing coordinator with
  | nil => rfl
  | cons occurrence occurrences ih =>
    have rest := @ih (coordinator.observe place occurrence).1
    rw [Prod.ext_iff] at rest ⊢
    cases occurrence with
    | notified notification =>
      exact ⟨rest.1, congrArg (_ :: ·) rest.2⟩
    | unanswered caller request => cases caller <;> exact rest
    | sent | answered => exact rest

variable (coordinator) in
/-- What becomes of a coordinator by an action, as far as the sessions and their progress go. -/
inductive Does : CoordinatorDeed → CoordinatorStep → Prop
  | aside {step : CoordinatorStep}
      (runs : step.coordinator.fleet.runs = coordinator.fleet.runs)
      (context : step.coordinator.fleet.context = coordinator.fleet.context)
      (tracker : step.coordinator.tracker = coordinator.tracker)
      (silent : step.published = []) : Does .aside step
  | started {record : DeviceRecord} {step : CoordinatorStep}
      (free : coordinator.active? record.endpoint = none)
      (fleet : step.coordinator.fleet = coordinator.fleet.add record)
      (progress : (step.coordinator.tracker, step.published) =
        ((coordinator.tracker.register record.endpoint record.componentCount).1,
          [(coordinator.tracker.register record.endpoint record.componentCount).2])) :
      Does (.started record) step
  | moved {place : Nat} {action : RunAction} {step : CoordinatorStep}
      (fleet : step.coordinator.fleet = (coordinator.fleet.act place action).1)
      (progress : (step.coordinator.tracker, step.published) =
        coordinator.tracker.recordAll
          ((coordinator.fleet.act place action).2.filterMap Occurrence.notification?)) :
      Does (.moved place action) step
  | collected {wait : Wait} {run : Run} {step : CoordinatorStep}
      (listed : wait ∈ coordinator.waits)
      (located : coordinator.fleet.runs[wait.run]? = some run)
      (closed : run.isOpen = false)
      (step_eq : step = ⟨coordinator.collected wait, [],
        .returned (coordinator.outcome wait run)⟩) :
      Does (.collected wait) step
  | cleared {step : CoordinatorStep}
      (step_eq : step = ⟨coordinator.clearFinishedProgress, [], .done⟩) : Does .cleared step

theorem does_aside (result : CallResult) : coordinator.Does .aside ⟨coordinator, [], result⟩ :=
  .aside rfl rfl rfl rfl

theorem does_act (place : Nat) (action : RunAction) :
    coordinator.Does (.moved place action)
      ⟨(coordinator.act place action).1, (coordinator.act place action).2, .done⟩ :=
  .moved fleet_act (progress_observeAll _)

variable (coordinator) in
/-- An action does what it says. -/
theorem does_apply (number : Nat) (action : CoordinatorAction) :
    coordinator.Does (coordinator.deed number action) (coordinator.apply number action) := by
  cases action with
  | start record =>
    cases found : coordinator.active? record.endpoint with
    | some update =>
      simp only [apply, deed, Coordinator.start, found, Option.isSome_some, if_true]
      exact does_aside _
    | none =>
      simp only [apply, deed, Coordinator.start, found, Option.isSome_none, Bool.false_eq_true,
        if_false]
      exact .started found rfl rfl
  | cancel endpoint =>
    cases found : coordinator.active? endpoint with
    | none =>
      simp only [apply, deed, Coordinator.cancel, found]
      exact does_aside _
    | some update =>
      cases live : coordinator.fleet.runs[update.run]?.any (·.isOpen) with
      | false =>
        simp only [apply, deed, Coordinator.cancel, found, live, Bool.false_eq_true, if_false]
        exact does_aside _
      | true =>
        simp only [apply, deed, Coordinator.cancel, found, live, if_true]
        exact does_act _ _
  | inbound endpoint request =>
    cases found : coordinator.active? endpoint with
    | none =>
      simp only [apply, deed, Coordinator.inbound, found]
      exact .aside rfl rfl rfl rfl
    | some update =>
      simp only [apply, deed, Coordinator.inbound, found]
      exact does_act _ _
  | wait endpoint =>
    rw [apply_wait]
    split
    · exact .aside rfl rfl rfl rfl
    · exact does_aside _
  | wake endpoint ticket =>
    rw [apply_wake]
    cases found : coordinator.wait? endpoint ticket with
    | none =>
      simp only [deed, found]
      exact does_aside _
    | some wait =>
      cases located : coordinator.fleet.runs[wait.run]? with
      | none =>
        simp only [deed, found, located, Option.any_none, Bool.false_eq_true, if_false]
        exact does_aside _
      | some run =>
        cases taken : run.isOpen with
        | true =>
          simp only [deed, found, located, taken, Option.any_some, Option.filter, Bool.not_true,
            Bool.false_eq_true, if_false]
          exact does_aside _
        | false =>
          simp only [deed, found, located, taken, Option.any_some, Option.filter, Bool.not_false,
            if_true]
          exact .collected (wait?_eq_some found).2.1 located taken rfl
  | abandon endpoint ticket =>
    simp only [apply, deed]
    split
    · exact .aside rfl rfl rfl rfl
    · exact does_aside _
  | act endpoint among action =>
    cases found : coordinator.fleet.place? endpoint among with
    | none =>
      simp only [apply, deed, found]
      exact does_aside _
    | some place =>
      simp only [apply, deed, found]
      exact does_act _ _
  | acquire endpoint =>
    cases lent : coordinator.fleet.pool.acquire endpoint coordinator.fleet.now with
    | error error =>
      simp only [apply, deed, Fleet.acquire, lent]
      exact does_aside _
    | ok lease =>
      simp only [apply, deed, Fleet.acquire, lent]
      exact .aside rfl rfl rfl rfl
  | clearFinishedProgress => exact .cleared rfl
  | elapse | release => exact .aside rfl rfl rfl rfl

end Coordinator

/-- A session tells of one thing at a time, and only while it goes on. -/
theorem Run.act_tells (context : SessionContext) (now : Instant) (pool : InstanceIdPool) {run : Run}
    (sound : run.Sound) (action : RunAction) :
    (run.act context now pool action).notifications = [] ∨
      ∃ notification, (run.act context now pool action).notifications = [notification] ∧
        notification.endpoint = run.endpoint ∧ run.isOpen = true ∧
        run.session.state.isTerminal = false := by
  rcases rests_or_goes context now pool run action sound with rests | ⟨session, turn, goes⟩
  · exact .inl rests.notifications
  · have endpoint : session.endpoint = run.endpoint := congrArg DeviceRecord.endpoint goes.record
    rw [goes.notifications_eq]
    cases goes.tells with
    | nothing silent => exact .inl silent
    | component _ _ told | failed _ told | completed _ _ told =>
      exact .inr ⟨_, told, endpoint, goes.taken, goes.live_run⟩

/-- A session that is over stays over. -/
theorem isOpen_meet_of_closed {context : SessionContext} {run : Run} {moment : Moment}
    (closed : run.isOpen = false) : (run.meet context moment).run.isOpen = false := by
  rw [Run.isOpen, (rests_of_closed closed).status]
  exact closed

/-! ## What happens to one session -/

/-- What an action does to the session at a place: when, with what pool, and what. -/
def CoordinatorEntry.moment? (place number : Nat) (entry : CoordinatorEntry) : Option Moment :=
  match entry.coordinator.deed number entry.action with
  | .moved moved action =>
    if moved = place then some ⟨entry.coordinator.fleet.now, entry.coordinator.fleet.pool, action⟩
    else none
  | _ => none

namespace CoordinatorHistory

/-- What the next action would be to the sessions. -/
def deed (history : CoordinatorHistory) (action : CoordinatorAction) : CoordinatorDeed :=
  history.coordinator.deed history.entries.length action

/-- What has happened to the session at a place. -/
def moments (history : CoordinatorHistory) (place : Nat) : List Moment :=
  history.entries.zipIdx.filterMap fun (entry, number) => entry.moment? place number

/-- The life of the session at a place. -/
def life? (history : CoordinatorHistory) (place : Nat) : Option History :=
  history.coordinator.fleet.runs[place]?.map fun run =>
    .through history.coordinator.fleet.context run.session.record (history.moments place)

/-- The moment at which a run does something next. -/
def momentOf (history : CoordinatorHistory) (action : RunAction) : Moment :=
  ⟨history.coordinator.fleet.now, history.coordinator.fleet.pool, action⟩

variable {history : CoordinatorHistory} {action : CoordinatorAction} {place : Nat}

variable (history action) in
theorem does : history.coordinator.Does (history.deed action) (history.next action) :=
  history.coordinator.does_apply _ _

theorem collected_extend_deed : (history.extend action).collected =
    history.collected ++ (history.deed action).collects?.toList := by
  suffices collects : CoordinatorEntry.collects?
      ⟨history.coordinator, action, history.next action⟩ = (history.deed action).collects? by
    rw [collected_extend, collects]
  cases action with
  | wake endpoint ticket =>
    simp only [CoordinatorEntry.collects?, deed, Coordinator.deed, next, Coordinator.apply_wake]
    cases found : history.coordinator.wait? endpoint ticket with
    | none => rfl
    | some wait =>
      cases located : history.coordinator.fleet.runs[wait.run]? with
      | none => simp [located, CoordinatorDeed.collects?]
      | some run =>
        cases taken : run.isOpen <;>
          simp [found, located, taken, Option.filter, CoordinatorDeed.collects?]
  | start record =>
    simp only [CoordinatorEntry.collects?, deed, Coordinator.deed]
    split <;> rfl
  | cancel endpoint =>
    simp only [CoordinatorEntry.collects?, deed, Coordinator.deed]
    split
    · split <;> rfl
    · rfl
  | inbound | act =>
    simp only [CoordinatorEntry.collects?, deed, Coordinator.deed]
    split <;> rfl
  | wait | abandon | clearFinishedProgress | elapse | acquire | release => rfl

theorem moments_extend : (history.extend action).moments place = history.moments place ++
    (CoordinatorEntry.moment? place history.entries.length
      ⟨history.coordinator, action, history.next action⟩).toList := by
  simp only [moments, extend, List.zipIdx_append, List.zipIdx_singleton, List.filterMap_append,
    filterMap_singleton, Nat.zero_add]

theorem moments_moved {step : RunAction} (deed_eq : history.deed action = .moved place step) :
    (history.extend action).moments place = history.moments place ++ [history.momentOf step] := by
  rw [deed] at deed_eq
  simp [moments_extend, CoordinatorEntry.moment?, deed_eq, momentOf]

theorem moments_elsewhere (elsewhere : ∀ step, history.deed action ≠ .moved place step) :
    (history.extend action).moments place = history.moments place := by
  suffices nothing : CoordinatorEntry.moment? place history.entries.length
      ⟨history.coordinator, action, history.next action⟩ = none by
    rw [moments_extend, nothing]
    exact List.append_nil _
  rw [CoordinatorEntry.moment?]
  split
  · rename_i moved step deed_eq
    exact if_neg fun same => elsewhere step (by rw [deed, deed_eq, same])
  · rfl

/-! ## What becomes of the lives -/

/-- A session that something happens to has been started. -/
theorem Booked.exists_run (booked : history.Booked) {step : RunAction}
    (deed_eq : history.deed action = .moved place step) :
    ∃ run, history.coordinator.fleet.runs[place]? = some run := by
  have active {endpoint : EndpointId} {update : ActiveUpdate}
      (found : history.coordinator.active? endpoint = some update) :
      ∃ run, history.coordinator.fleet.runs[update.run]? = some run :=
    let ⟨run, located, _⟩ := Fleet.endpoints_eq_some.mp (booked.active endpoint update found).1.1
    ⟨run, located⟩
  cases action with
  | cancel endpoint =>
    simp only [deed, Coordinator.deed] at deed_eq
    split at deed_eq
    · rename_i update found
      split at deed_eq
      · exact (CoordinatorDeed.moved.inj deed_eq).1 ▸ active found
      · cases deed_eq
    · cases deed_eq
  | inbound endpoint request =>
    simp only [deed, Coordinator.deed] at deed_eq
    split at deed_eq
    · rename_i update found
      exact (CoordinatorDeed.moved.inj deed_eq).1 ▸ active found
    · cases deed_eq
  | act endpoint among other =>
    simp only [deed, Coordinator.deed] at deed_eq
    split at deed_eq
    · rename_i found
      obtain ⟨run, located, _⟩ := Fleet.endpoints_eq_some.mp (Fleet.place?_eq_some.mp found).1
      exact ⟨run, (CoordinatorDeed.moved.inj deed_eq).1 ▸ located⟩
    · cases deed_eq
  | start record =>
    simp only [deed, Coordinator.deed] at deed_eq
    split at deed_eq <;> cases deed_eq
  | wake endpoint ticket =>
    simp only [deed, Coordinator.deed] at deed_eq
    split at deed_eq
    · split at deed_eq <;> cases deed_eq
    · cases deed_eq
  | wait | abandon | clearFinishedProgress | elapse | acquire | release => cases deed_eq

/-- A session that nothing happens to lives on as it was. -/
theorem life?_elsewhere (elsewhere : ∀ step, history.deed action ≠ .moved place step)
    (same : (history.next action).coordinator.fleet.runs[place]? =
      history.coordinator.fleet.runs[place]?)
    (context : (history.next action).coordinator.fleet.context =
      history.coordinator.fleet.context) :
    (history.extend action).life? place = history.life? place := by
  rw [life?, life?, moments_elsewhere elsewhere]
  simp only [CoordinatorHistory.extend, same, context]

theorem life?_moved (sound : history.coordinator.fleet.IsSound) {moved : Nat} {step : RunAction}
    (deed_eq : history.deed action = .moved moved step) :
    (history.extend action).life? place =
      if place = moved then (history.life? place).map fun life =>
        life.extend history.coordinator.fleet.context (history.momentOf step)
      else history.life? place := by
  have does := history.does action
  rw [deed_eq] at does
  cases does with
  | moved fleet =>
    have context : (history.next action).coordinator.fleet.context =
        history.coordinator.fleet.context := by
      rw [fleet, Fleet.act]
      split <;> rfl
    split
    · rename_i same
      subst same
      rw [life?, life?, moments_moved deed_eq]
      change (history.next action).coordinator.fleet.runs[place]?.map (fun run => History.through
        (history.next action).coordinator.fleet.context _ _) = _
      rw [context, fleet]
      cases located : history.coordinator.fleet.runs[place]? with
      | none => simp [Fleet.act, located]
      | some run =>
        have within := (List.getElem?_eq_some_iff.mp located).1
        rw [Fleet.act_eq located, Fleet.change, List.getElem?_set_self within]
        simp only [Option.map_some, History.through_concat,
          record_act (sound run (List.mem_of_getElem? located))]
    · rename_i other
      refine life?_elsewhere (by simp [deed_eq, Ne.symm other]) ?_ context
      rw [fleet, Fleet.act]
      split
      · rfl
      · exact List.getElem?_set_ne (Ne.symm other)

theorem fleet_quiet (quiet : (history.deed action).isQuiet = true) :
    (history.next action).coordinator.fleet.runs = history.coordinator.fleet.runs ∧
      (history.next action).coordinator.fleet.context = history.coordinator.fleet.context := by
  have does := history.does action
  revert quiet
  generalize history.deed action = deed at does ⊢
  intro quiet
  cases does with
  | started | moved => cases quiet
  | aside runs context => exact ⟨runs, context⟩
  | collected _ _ _ step_eq | cleared step_eq =>
    rw [step_eq]
    exact ⟨rfl, rfl⟩

theorem published_quiet (quiet : (history.deed action).isQuiet = true) :
    (history.next action).published = [] := by
  have does := history.does action
  revert quiet
  generalize history.deed action = deed at does ⊢
  intro quiet
  cases does with
  | started | moved => cases quiet
  | aside _ _ _ silent => exact silent
  | collected _ _ _ step_eq | cleared step_eq =>
    rw [step_eq]
    rfl

theorem life?_quiet (quiet : (history.deed action).isQuiet = true) :
    (history.extend action).life? place = history.life? place := by
  obtain ⟨runs, context⟩ := fleet_quiet quiet
  refine life?_elsewhere (fun step moved => ?_) (by rw [runs]) context
  simp [moved, CoordinatorDeed.isQuiet] at quiet

/-! ## What happens when a session starts -/

/-- An action starts a session. -/
structure Starts (history : CoordinatorHistory) (action : CoordinatorAction)
    (record : DeviceRecord) : Prop where
  deed : history.deed action = .started record
  /-- Its endpoint had none. -/
  free : history.coordinator.active? record.endpoint = none
  fleet : (history.extend action).coordinator.fleet = history.coordinator.fleet.add record
  tracker : (history.extend action).coordinator.tracker =
    (history.coordinator.tracker.register record.endpoint record.componentCount).1
  published : (history.next action).published =
    [(history.coordinator.tracker.register record.endpoint record.componentCount).2]

theorem starts {record : DeviceRecord} (deed_eq : history.deed action = .started record) :
    history.Starts action record := by
  have does := history.does action
  rw [deed_eq] at does
  cases does with
  | started free fleet progress =>
    obtain ⟨tracker, published⟩ := Prod.mk.inj progress
    exact ⟨deed_eq, free, fleet, tracker, published⟩

namespace Starts

variable {record : DeviceRecord} (starts : history.Starts action record)

include starts

theorem not_moved (step : RunAction) : history.deed action ≠ .moved place step := by
  simp [starts.deed]

theorem length_runs : (history.extend action).coordinator.fleet.runs.length =
    history.coordinator.fleet.runs.length + 1 := by
  rw [starts.fleet, Fleet.add, List.length_append, List.length_singleton]

theorem collected : (history.extend action).collected = history.collected := by
  rw [collected_extend_deed, starts.deed]
  exact List.append_nil _

/-- The new session has a life of its own, in which nothing has happened. -/
theorem life?_extend (unborn : history.moments history.coordinator.fleet.runs.length = []) :
    (history.extend action).life? place =
      if place = history.coordinator.fleet.runs.length then some (.fresh record)
      else history.life? place := by
  split
  · rename_i new
    subst new
    rw [life?, moments_elsewhere starts.not_moved, unborn, starts.fleet]
    simp only [Fleet.add, List.getElem?_concat_length, Option.map_some]
    rfl
  · rename_i old
    have fleet : (history.next action).coordinator.fleet = history.coordinator.fleet.add record :=
      starts.fleet
    refine life?_elsewhere starts.not_moved (Option.ext fun run => ?_) (by rw [fleet]; rfl)
    rw [fleet, Fleet.add, getElem?_concat_eq_some]
    exact or_iff_left fun new => old new.2

end Starts

/-! ## What happens when something happens to a session -/

/-- An action makes something happen to a session that has been started. -/
structure Moves (history : CoordinatorHistory) (action : CoordinatorAction) (place : Nat)
    (step : RunAction) (run : Run) : Prop where
  deed : history.deed action = .moved place step
  located : history.coordinator.fleet.runs[place]? = some run
  sound : history.coordinator.fleet.IsSound
  fleet : (history.next action).coordinator.fleet = history.coordinator.fleet.change place
    (run.meet history.coordinator.fleet.context (history.momentOf step))
  progress : ((history.next action).coordinator.tracker, (history.next action).published) =
    history.coordinator.tracker.recordAll
      (run.meet history.coordinator.fleet.context (history.momentOf step)).notifications

theorem Booked.moves (booked : history.Booked) (sound : history.coordinator.fleet.IsSound)
    {step : RunAction} (deed_eq : history.deed action = .moved place step) :
    ∃ run, history.Moves action place step run := by
  obtain ⟨run, located⟩ := booked.exists_run deed_eq
  have does := history.does action
  rw [deed_eq] at does
  cases does with
  | moved fleet progress =>
    rw [Fleet.act_eq located] at fleet progress
    exact ⟨run, deed_eq, located, sound, fleet, progress⟩

namespace Moves

variable {step : RunAction} {run : Run} (moves : history.Moves action place step run)

include moves

theorem run_sound : run.Sound :=
  moves.sound run (List.mem_of_getElem? moves.located)

theorem endpoints : (history.extend action).coordinator.fleet.endpoints =
    history.coordinator.fleet.endpoints := by
  have kept : (history.coordinator.fleet.act place step).1.endpoints =
      history.coordinator.fleet.endpoints := Fleet.endpoints_act moves.sound
  rw [Fleet.act_eq moves.located step] at kept
  rw [CoordinatorHistory.extend, moves.fleet]
  exact kept

theorem length_runs : (history.extend action).coordinator.fleet.runs.length =
    history.coordinator.fleet.runs.length := by
  rw [CoordinatorHistory.extend, moves.fleet, Fleet.change, List.length_set]

theorem collected : (history.extend action).collected = history.collected := by
  rw [collected_extend_deed, moves.deed]
  exact List.append_nil _

/-- The other sessions stay as they are. -/
theorem run_extend {other : Nat} {after : Run}
    (located : (history.extend action).coordinator.fleet.runs[other]? = some after) :
    other ≠ place ∧ history.coordinator.fleet.runs[other]? = some after ∨
      other = place ∧
        after = (run.meet history.coordinator.fleet.context (history.momentOf step)).run := by
  rw [CoordinatorHistory.extend, moves.fleet, Fleet.change] at located
  by_cases same : other = place
  · subst same
    rw [List.getElem?_set_self (List.getElem?_eq_some_iff.mp moves.located).1] at located
    exact .inr ⟨rfl, (Option.some.inj located).symm⟩
  · rw [List.getElem?_set_ne (Ne.symm same)] at located
    exact .inl ⟨same, located⟩

/-- It tells of nothing, or of one thing, which the tracker passes on. -/
theorem tells :
    ((run.meet history.coordinator.fleet.context (history.momentOf step)).notifications = [] ∧
      (history.next action).coordinator.tracker = history.coordinator.tracker ∧
      (history.next action).published = []) ∨
    ∃ notification,
      (run.meet history.coordinator.fleet.context (history.momentOf step)).notifications =
        [notification] ∧
      notification.endpoint = run.endpoint ∧ run.isOpen = true ∧
      run.session.state.isTerminal = false ∧
      (history.next action).coordinator.tracker =
        (history.coordinator.tracker.record notification).1 ∧
      (history.next action).published =
        [(history.coordinator.tracker.record notification).2] := by
  have progress := moves.progress
  rcases Run.act_tells history.coordinator.fleet.context history.coordinator.fleet.now
    history.coordinator.fleet.pool moves.run_sound step with silent | ⟨notification, told, fits⟩
  · rw [Run.meet, momentOf, silent] at progress
    exact .inl ⟨silent, Prod.mk.inj progress⟩
  · rw [Run.meet, momentOf, told] at progress
    obtain ⟨endpoint, taken, live⟩ := fits
    exact .inr ⟨notification, told, endpoint, taken, live, Prod.mk.inj progress⟩

/-- The lives of the other sessions do not go on. -/
theorem life?_extend (other : Nat) : (history.extend action).life? other =
    if other = place then (history.life? other).map fun life =>
      life.extend history.coordinator.fleet.context (history.momentOf step)
    else history.life? other :=
  life?_moved moves.sound moves.deed

end Moves

/-! ## A session is what its life has made of it -/

/-- The sessions have come about as their lives say, and nothing happens to a session that has not
been started. -/
structure Lived (context : SessionContext) (history : CoordinatorHistory) : Prop where
  context : history.coordinator.fleet.context = context
  run : ∀ place life, history.life? place = some life →
    history.coordinator.fleet.runs[place]? = some life.run
  unborn : ∀ place, history.coordinator.fleet.runs.length ≤ place → history.moments place = []

variable {context : SessionContext} {pool : InstanceIdPool}

theorem Lived.quiet (lived : history.Lived context)
    (quiet : (history.deed action).isQuiet = true) : (history.extend action).Lived context := by
  obtain ⟨runs, context_eq⟩ := fleet_quiet quiet
  refine ⟨context_eq.trans lived.context, fun place life found => ?_, fun place beyond => ?_⟩
  · rw [life?_quiet quiet] at found
    rw [CoordinatorHistory.extend, runs]
    exact lived.run place life found
  · rw [CoordinatorHistory.extend, runs] at beyond
    rw [moments_elsewhere fun step moved => by simp [moved, CoordinatorDeed.isQuiet] at quiet]
    exact lived.unborn place beyond

theorem Lived.started (lived : history.Lived context) {record : DeviceRecord}
    (starts : history.Starts action record) : (history.extend action).Lived context := by
  refine ⟨?_, fun place life found => ?_, fun place beyond => ?_⟩
  · rw [starts.fleet]
    exact lived.context
  · rw [starts.life?_extend (lived.unborn _ (Nat.le_refl _))] at found
    rw [starts.fleet, Fleet.add, getElem?_concat_eq_some]
    split at found
    · rename_i new
      obtain rfl := Option.some.inj found
      exact .inr ⟨rfl, new⟩
    · exact .inl (lived.run place life found)
  · rw [starts.length_runs] at beyond
    rw [moments_elsewhere starts.not_moved]
    exact lived.unborn place (Nat.le_of_succ_le beyond)

theorem Lived.moved (lived : history.Lived context) {step : RunAction} {run : Run}
    (moves : history.Moves action place step run) : (history.extend action).Lived context := by
  have within := (List.getElem?_eq_some_iff.mp moves.located).1
  refine ⟨?_, fun other life found => ?_, fun other beyond => ?_⟩
  · rw [CoordinatorHistory.extend, moves.fleet]
    exact lived.context
  · rw [moves.life?_extend] at found
    rw [CoordinatorHistory.extend, moves.fleet, Fleet.change]
    split at found
    · rename_i same
      subst same
      obtain ⟨earlier, before, rfl⟩ := Option.map_eq_some_iff.mp found
      obtain rfl := Option.some.inj (moves.located.symm.trans (lived.run other earlier before))
      rw [List.getElem?_set_self within]
      rfl
    · rename_i different
      rw [List.getElem?_set_ne (Ne.symm different)]
      exact lived.run other life found
  · rw [moves.length_runs] at beyond
    rw [moments_elsewhere]
    · exact lived.unborn other beyond
    · rintro moved_too deed_eq
      obtain ⟨rfl, _⟩ := CoordinatorDeed.moved.inj (moves.deed.symm.trans deed_eq)
      exact Nat.not_le_of_lt within beyond

theorem Lived.extend (lived : history.Lived context)
    (sound : history.coordinator.fleet.IsSound) (booked : history.Booked)
    (action : CoordinatorAction) : (history.extend action).Lived context := by
  cases deed_eq : history.deed action with
  | aside | collected | cleared => exact lived.quiet (by rw [deed_eq]; rfl)
  | started record => exact lived.started (starts deed_eq)
  | moved place step =>
    obtain ⟨run, moves⟩ := booked.moves sound deed_eq
    exact lived.moved moves

/-- At all times a session is what its life has made of it. -/
theorem lived_through (context : SessionContext) (pool : InstanceIdPool)
    (actions : List CoordinatorAction) : (through context pool actions).Lived context := by
  induction actions using List.reverseRecOn with
  | nil => exact ⟨rfl, fun place life found => (nomatch found), fun place _ => rfl⟩
  | append_singleton actions action ih =>
    obtain ⟨sound, booked⟩ := booked_through context pool actions
    rw [through_concat]
    exact ih.extend sound booked action

/-- A session that has been started has a life. -/
theorem Lived.exists_life (lived : history.Lived context) {run : Run}
    (located : history.coordinator.fleet.runs[place]? = some run) :
    ∃ life, history.life? place = some life ∧ life.run = run := by
  cases found : history.life? place with
  | none => simp [life?, located] at found
  | some life =>
    exact ⟨life, rfl, Option.some.inj ((lived.run place life found).symm.trans located)⟩

/-- What a session has told of itself fits its state. -/
theorem hasTold_of_life {life : History} (found : history.life? place = some life) :
    life.run.Sound ∧ life.run.HasTold life.notifications := by
  obtain ⟨run, _, rfl⟩ := Option.map_eq_some_iff.mp found
  obtain ⟨sound, told, _⟩ := hasTold_through history.coordinator.fleet.context run.session.record
    (history.moments place)
  exact ⟨sound, told⟩

/-- A session that has ended is completed or failed. -/
theorem ended_of_life {life : History} (living : history.life? place = some life)
    (ended : life.run.status = .ended) :
    life.run.session.state = .completed ∨ ∃ reason, life.run.session.state = .failed reason := by
  have progresses : life.run.Progresses history.coordinator.fleet.context :=
    (hasTold_of_life living).1.progresses
  exact progresses.ended ended

end CoordinatorHistory

end FirmwareAgent
