import FirmwareAgent.Proofs.Run.Driver
import FirmwareAgent.Proofs.Session.Replies

/-!
# What the agent is told

Whatever happens to a run, the agent hears of its components in their order, each position once,
and of the end of the update once, last of all, at the moment at which the session ends.

* `Run.HasTold` is the invariant on the notifications, `hasTold_act` its step.
* `Run.News` says which event a notification of a component comes from, `news_meet` that every
  moment of a run is of its kinds.
* `notifications_through`: the result.
-/

namespace FirmwareAgent

/-! ## The notifications as they are seen from outside -/

/-- What the agent hears at the end of an update that is in a state. -/
def SessionState.closing (endpoint : EndpointId) : SessionState → List Notification
  | completed => [.completed endpoint true]
  | failed _ => [.completed endpoint false]
  | _ => []

/-- The agent has heard of the first of a record's components, in their order, of all of them if
the update is completed, and then of its end if it has ended. -/
def IsTold (record : DeviceRecord) (state : SessionState) (told : List Notification) : Prop :=
  ∃ outcomes : List (ComponentIndex × Bool),
    told = outcomes.map (fun outcome => .applied record.endpoint outcome.1 outcome.2) ++
      state.closing record.endpoint ∧
    outcomes.map Prod.fst <+: record.applicableComponents.toList ∧
    (state = .completed → outcomes.map Prod.fst = record.applicableComponents.toList)

/-- Where the news about a component that come with a moment of a run come from. -/
inductive Run.News (context : SessionContext) (run : Run) (moment : Moment) (step : RunStep) : Prop
  /-- There are none, and no report about a component is acknowledged. -/
  | none (unnotified : ∀ endpoint index success,
        .applied endpoint index success ∉ step.notifications)
      (unacknowledged : ∀ answer ∈ step.answers, ¬ answer.2.AcknowledgesApply)
  /-- The target does not take the announced component. -/
  | declined {token position : Nat} {pending : PendingCommand} {response : Response}
      {inbox : List Event} {body : UpdateComponentResponse}
      (handled : run.next? moment.now moment.action = some (.response token (.ok response), inbox))
      (awaited : run.session.Awaits token pending) (command : pending.command = .updateComponent)
      (state : run.session.state = .updatingComponent position)
      (answers : response.command = Command.updateComponent.code)
      (succeeds : response.isSuccess = true)
      (decoded : Body.decode UpdateComponentResponse response.body = .ok body)
      (incompatible : body.compatibilityResponse ≠ 0)
      (notified : step.notifications =
        [.applied run.endpoint (run.session.componentIndex position) false])
      (unanswered : step.answers = [])
  /-- The target reports the end of the component at work. -/
  | finished {position : Nat} {caller : Caller} {request : Request} {inbox : List Event}
      {report : ApplyCompleteRequest}
      (handled : run.next? moment.now moment.action = some (.inbound caller request, inbox))
      (state : run.session.state = .awaitingComponentOutcome position)
      (type : request.pldmType = firmwareUpdateType)
      (command : request.command = Command.applyComplete.code)
      (decoded : Body.decode ApplyCompleteRequest request.payload = .ok report)
      (notified : step.notifications =
        [.applied run.endpoint (run.session.componentIndex position)
          (report.applyResult = 0 ∨ report.applyResult = 1)])
      (answered : step.answers = [(caller, request.respond CompletionCode.success [])])

/-! ## What a reaction tells -/

/-- The number of components that have ended when a session is in a state. -/
def SessionState.finished (count : Nat) : SessionState → Nat
  | updatingComponent position | awaitingComponentOutcome position => position
  | activatingFirmware | completed => count
  | _ => 0

/-- What a turn tells the agent, and how that fits the components that have ended. -/
inductive Tells (session : Session) (turn : Turn) : Prop
  | nothing (silent : turn.effects.filterMap Effect.notification? = [])
      (live : turn.session.state.isTerminal = false)
      (steps : turn.IsCalm → turn.session.state.finished session.record.componentCount =
        session.state.finished session.record.componentCount)
  | component {position : Nat} {success : Bool}
      (finished : session.state.finished session.record.componentCount = position)
      (lt : position < session.record.componentCount)
      (told : turn.effects.filterMap Effect.notification? =
        [.applied session.endpoint (session.componentIndex position) success])
      (live : turn.session.state.isTerminal = false)
      (steps : turn.session.state.finished session.record.componentCount = position + 1)
  | failed {reason : UpdateError} (state : turn.session.state = .failed reason)
      (told : turn.effects.filterMap Effect.notification? = [.completed session.endpoint false])
  | completed (state : turn.session.state = .completed)
      (finished : session.state.finished session.record.componentCount =
        session.record.componentCount)
      (told : turn.effects.filterMap Effect.notification? = [.completed session.endpoint true])

namespace SessionState

variable {count position : Nat} {state next : SessionState}

theorem finished_of_acknowledged? (next_eq : state.acknowledged? count = some next) :
    next.finished count = state.finished count := by
  cases state with
  | awaitingUpdateAck =>
    cases next_eq
    rfl
  | passingComponentTable position =>
    cases next_eq
    split <;> rfl
  | _ => cases next_eq

theorem finished_afterComponent (lt : position < count) :
    (afterComponent count position).finished count = position + 1 := by
  unfold afterComponent
  split <;> simp only [finished]
  omega

end SessionState

section

variable {context : SessionContext} {now : Instant} {session : Session} {pool : InstanceIdPool}
  {event : Event} {turn : Turn}

theorem notifications_fail {reason : UpdateError} (live : session.state.isTerminal = false) :
    (Turn.fail context now reason ⟨session, pool, []⟩).effects.filterMap Effect.notification? =
      [.completed session.endpoint false] := by
  obtain ⟨farewell, effects, shape⟩ := Turn.effects_fail context now reason ⟨session, pool, []⟩ live
  rw [effects]
  rcases shape with rfl | ⟨_, lease, rfl⟩ <;> rfl

theorem Reaction.tells (reaction : Reaction context now session pool event turn)
    (live : session.state.isTerminal = false)
    (inRange : session.state.InRange session.record.componentCount) : Tells session turn := by
  cases reaction with
  | failed cause => exact .failed (Turn.state_fail _ _ _ _ live) (notifications_fail live)
  | acknowledged awaited own granted next_eq =>
    obtain ⟨command, next_own, _⟩ := SessionState.command?_of_acknowledged? next_eq
    exact .nothing rfl (SessionState.live_of_command? next_own) fun _ =>
      SessionState.finished_of_acknowledged? next_eq
  | accepted awaited state => exact .nothing rfl rfl fun _ => by rw [state]; rfl
  | @declined _ _ _ position _ _ state =>
    have lt := inRange.position position (by rw [state]; rfl)
    obtain ⟨command, next_own, _⟩ := SessionState.command?_afterComponent
      session.record.componentCount
    exact .component (by rw [state]; rfl) lt rfl (SessionState.live_of_command? next_own)
      (SessionState.finished_afterComponent lt)
  | @finished _ _ position success state =>
    have lt := inRange.position position (by rw [state]; rfl)
    obtain ⟨command, next_own, _⟩ := SessionState.command?_afterComponent
      session.record.componentCount
    exact .component (by rw [state]; rfl) lt rfl (SessionState.live_of_command? next_own)
      (SessionState.finished_afterComponent lt)
  | activated awaited state => exact .completed rfl (by rw [state]; rfl) rfl
  | untimed | brokeDown | overran =>
    exact .nothing rfl live fun calm => by simp [Turn.IsCalm, Effect.isCrash] at calm
  | ignored | submitted | answered | deferred => exact .nothing rfl live fun _ => rfl

end

namespace Run.Goes

variable {context : SessionContext} {now : Instant} {pool : InstanceIdPool} {run : Run}
  {step : RunStep} {session : Session} {turn : Turn}

theorem tells (goes : run.Goes context now pool step session turn) : Tells session turn := by
  rcases goes.turned with ⟨reason, rfl⟩ | ⟨event, reaction, inRange, _⟩
  · exact .failed (Turn.state_fail _ _ _ _ goes.live) (notifications_fail goes.live)
  · exact reaction.tells goes.live inRange

theorem notifications_eq (goes : run.Goes context now pool step session turn) :
    step.notifications = turn.effects.filterMap Effect.notification? := by
  obtain ⟨before, _, _, rfl⟩ := goes.settled
  exact notifications_settle context now before

theorem live_run (goes : run.Goes context now pool step session turn) :
    run.session.state.isTerminal = false := by
  rcases goes.origin with rfl | ⟨fresh, _⟩
  · exact goes.live
  · rw [fresh]
    rfl

/-- A session that has just started has finished no component. -/
theorem finished_eq (goes : run.Goes context now pool step session turn) :
    session.state.finished session.record.componentCount =
      run.session.state.finished run.session.record.componentCount := by
  rcases goes.origin with rfl | ⟨fresh, rfl⟩
  · rfl
  · rw [fresh]
    rfl

end Run.Goes

/-- The endpoint that a notification is about. -/
def Notification.endpoint : Notification → EndpointId
  | applied endpoint _ _ | completed endpoint _ => endpoint

/-- A run tells of its own endpoint only. -/
theorem endpoint_of_notified {context : SessionContext} {now : Instant} {pool : InstanceIdPool}
    {run : Run} {action : RunAction} (sound : run.Sound) {notification : Notification}
    (told : .notified notification ∈ (run.act context now pool action).occurrences) :
    notification.endpoint = run.endpoint := by
  have heard : notification ∈ (run.act context now pool action).notifications :=
    List.mem_filterMap.mpr ⟨_, told, rfl⟩
  rcases rests_or_goes context now pool run action sound with rests | ⟨session, turn, goes⟩
  · rw [rests.notifications] at heard
    cases heard
  · have endpoint : session.endpoint = run.endpoint := congrArg DeviceRecord.endpoint goes.record
    rw [goes.notifications_eq] at heard
    cases goes.tells with
    | nothing silent =>
      rw [silent] at heard
      cases heard
    | component _ _ only | failed _ only | completed _ _ only =>
      rw [only] at heard
      obtain rfl := List.mem_singleton.mp heard
      exact endpoint

/-! ## Every component is told of in its turn -/

/-- The agent has heard what it is to hear, and as long as the run is open exactly of the
components that have ended. -/
def Run.HasTold (told : List Notification) (run : Run) : Prop :=
  ∃ outcomes : List (ComponentIndex × Bool),
    told = outcomes.map (fun outcome => .applied run.endpoint outcome.1 outcome.2) ++
      run.session.state.closing run.endpoint ∧
    outcomes.map Prod.fst <+: run.session.record.applicableComponents.toList ∧
    (run.session.state = .completed →
      outcomes.map Prod.fst = run.session.record.applicableComponents.toList) ∧
    (run.isOpen = true →
      outcomes.map Prod.fst = run.session.record.applicableComponents.toList.take
        (run.session.state.finished run.session.record.componentCount))

theorem SessionState.closing_of_live {endpoint : EndpointId} {state : SessionState}
    (live : state.isTerminal = false) : state.closing endpoint = [] := by
  cases state with
  | completed | failed reason => cases live
  | _ => rfl

section

variable {context : SessionContext} {now : Instant} {pool : InstanceIdPool} {run : Run}
  {told : List Notification}

theorem take_applicableComponents_succ {session : Session} {position : Nat}
    (lt : position < session.record.componentCount) :
    session.record.applicableComponents.toList.take (position + 1) =
      session.record.applicableComponents.toList.take position ++
        [session.componentIndex position] := by
  have listed : session.record.applicableComponents.toList[position]? =
      some (session.componentIndex position) := by
    simp [Session.componentIndex, Array.getElem?_eq_getElem lt]
  rw [List.take_add_one, listed]
  rfl

/-- A turn keeps up with what the agent is to hear. -/
theorem Run.Goes.hasTold {step : RunStep} {session : Session} {turn : Turn}
    (goes : run.Goes context now pool step session turn) (hasTold : run.HasTold told) :
    step.run.HasTold (told ++ step.notifications) := by
  obtain ⟨outcomes, told_eq, _, _, upTo⟩ := hasTold
  have names := upTo goes.taken
  rw [SessionState.closing_of_live goes.live_run, List.append_nil] at told_eq
  rw [← goes.finished_eq] at names
  obtain ⟨record, state⟩ := goes.after
  have endpoint : step.run.endpoint = run.endpoint := by
    simp only [Run.endpoint, Session.endpoint, record]
  have same : session.endpoint = run.endpoint := by
    simp only [Run.endpoint, Session.endpoint, goes.record]
  have shown : step.run.isOpen = true → turn.IsCalm ∧ turn.session.state.isTerminal = false :=
    fun taken => ⟨(goes.going_on taken).1, (goes.going_on taken).2.1⟩
  unfold Run.HasTold
  rw [goes.notifications_eq, record, state, endpoint, told_eq]
  -- What was told so far names the components that had ended; only the end of one adds a name.
  cases goes.tells with
  | nothing silent live steps =>
    refine ⟨outcomes, ?_, names ▸ List.take_prefix _ _, ?_, ?_⟩
    · rw [silent, SessionState.closing_of_live live]
    · intro completed
      rw [completed] at live
      cases live
    · intro taken
      rw [names, ← goes.record, steps (shown taken).1]
  | @component position success finished lt one live steps =>
    have names_next : (outcomes ++ [(session.componentIndex position, success)]).map Prod.fst =
        run.session.record.applicableComponents.toList.take (position + 1) := by
      rw [← goes.record, take_applicableComponents_succ lt, List.map_append, names, finished,
        goes.record]
      rfl
    refine ⟨_, ?_, names_next ▸ List.take_prefix _ _, ?_, ?_⟩
    · rw [one, SessionState.closing_of_live live, same]
      simp
    · intro completed
      rw [completed] at live
      cases live
    · intro taken
      rw [names_next, ← goes.record, steps]
  | failed state one =>
    refine ⟨outcomes, ?_, names ▸ List.take_prefix _ _, ?_, ?_⟩
    · rw [one, state, same]
      rfl
    · intro completed
      rw [completed] at state
      cases state
    · intro taken
      have live := (shown taken).2
      rw [state] at live
      cases live
  | completed state finished one =>
    have all : outcomes.map Prod.fst = run.session.record.applicableComponents.toList := by
      rw [names, finished, goes.record, DeviceRecord.componentCount, ← Array.length_toList,
        List.take_length]
    refine ⟨outcomes, ?_, all ▸ List.prefix_rfl, fun _ => all, ?_⟩
    · rw [one, state, same]
      rfl
    · intro taken
      have live := (shown taken).2
      rw [state] at live
      cases live

/-- Whatever an action does to a run, the agent keeps up with it. -/
theorem hasTold_act {action : RunAction} (sound : run.Sound) (hasTold : run.HasTold told) :
    (run.act context now pool action).run.HasTold
      (told ++ (run.act context now pool action).notifications) := by
  rcases rests_or_goes context now pool run action sound with rests | ⟨session, turn, goes⟩
  · rw [rests.notifications, List.append_nil]
    simpa [Run.HasTold, Run.endpoint, Run.isOpen, rests.session, rests.status] using hasTold
  · exact goes.hasTold hasTold

end

/-! ## Every piece of news has its event -/

section

variable {context : SessionContext} {now : Instant} {pool : InstanceIdPool} {run : Run}
  {moment : Moment}

/-- Only pulls of image data wait for the package to be read. -/
def Run.ReadsPulls (run : Run) : Prop :=
  ∀ read ∈ run.reads, read.2.command = Command.requestFirmwareData.code

variable (context now pool) in
/-- Giving up answers nothing and reads nothing. -/
theorem silent_fail (session : Session) (reason : UpdateError)
    (live : session.state.isTerminal = false) :
    (Turn.fail context now reason ⟨session, pool, []⟩).effects.filterMap Effect.answer? = [] ∧
      (Turn.fail context now reason ⟨session, pool, []⟩).effects.filterMap Effect.read? = [] := by
  obtain ⟨farewell, effects, shape⟩ := Turn.effects_fail context now reason ⟨session, pool, []⟩ live
  rw [effects]
  rcases shape with rfl | ⟨_, lease, rfl⟩ <;> exact ⟨rfl, rfl⟩

theorem Reaction.reads_pulls {session : Session} {event : Event} {turn : Turn}
    (reaction : Reaction context now session pool event turn)
    (live : session.state.isTerminal = false) :
    ∀ read ∈ turn.effects.filterMap Effect.read?,
      read.2.command = Command.requestFirmwareData.code := by
  cases reaction with
  | failed cause =>
    intro read mem
    rw [(silent_fail context now pool (session.informed event) _ live).2] at mem
    cases mem
  | deferred rearmed reading =>
    simpa [Effect.read?] using Session.command_of_replyTo_eq_reading reading
  | _ => simp [Effect.read?]

theorem readsPulls_act {action : RunAction} (sound : run.Sound) (pulls : run.ReadsPulls) :
    (run.act context now pool action).run.ReadsPulls := by
  generalize applied : run.act context now pool action = step
  have change : Run.Change context now pool run action step := applied ▸ Run.change_act sound.live
  have added {before : Run} {turn : Turn} (reads : before.reads = run.reads)
      (more : ∀ read ∈ turn.effects.filterMap Effect.read?,
        read.2.command = Command.requestFirmwareData.code) :
      (before.settle context now turn).run.ReadsPulls := by
    intro read mem
    rw [Run.reads_settle, reads, List.mem_append] at mem
    exact mem.elim (pulls read) (more read)
  cases change with
  | began waiting =>
    have fresh := (sound.fresh waiting).1
    rcases start_cases context now run.session pool with ⟨reason, _, failed⟩ | ⟨_, reaction⟩
    · have live : run.session.state.isTerminal = false := by
        rw [fresh]
        rfl
      rw [failed]
      refine added rfl fun read mem => ?_
      rw [(silent_fail context now pool run.session reason live).2] at mem
      cases mem
    · exact added rfl (reaction.reads_pulls rfl)
  | turned running next reaction => exact added rfl (reaction.reads_pulls (sound.live running))
  | read waits => exact fun read mem => pulls read (List.mem_of_mem_eraseIdx mem)
  | _ => exact pulls

/-- A turn that gives the update up brings no news about a component. -/
theorem news_of_fail {before : Run} {session : Session} {reason : UpdateError}
    (live : session.state.isTerminal = false) :
    run.News context moment
      (before.settle context moment.now
        (Turn.fail context moment.now reason ⟨session, pool, []⟩)) := by
  refine .none ?_ ?_
  · simp [Run.notifications_settle, notifications_fail live]
  · rw [Run.answers_settle, (silent_fail context moment.now pool session reason live).1]
    simp

/-- A turn brings the news of the event that the session handles. -/
theorem news_of_reaction {before : Run} {event : Event} {inbox : List Event} {turn : Turn}
    (live : run.session.state.isTerminal = false)
    (next : run.next? moment.now moment.action = some (event, inbox))
    (reaction : Reaction context moment.now run.session pool event turn) :
    run.News context moment (before.settle context moment.now turn) := by
  have notified : (before.settle context moment.now turn).notifications = _ :=
    Run.notifications_settle context moment.now before
  have answered : (before.settle context moment.now turn).answers = _ :=
    Run.answers_settle context moment.now before
  cases reaction with
  | failed cause => exact news_of_fail live
  | declined awaited state command granted decoded incompatible =>
    refine .declined next awaited command state ?_ granted.succeeds decoded ?_ notified answered
    · rw [granted.answers, command]
    · simpa [UpdateComponentResponse.isCompatible] using incompatible
  | finished state reported =>
    obtain ⟨disposed, report, decoded, success⟩ := Session.reported?_eq_some reported
    obtain ⟨type, command⟩ := Session.command_of_dispose_eq_applyComplete disposed
    refine .finished next state type command decoded ?_ answered
    rw [notified, ← success]
    simp [Effect.notification?, ApplyCompleteRequest.succeeded, Run.endpoint]
    rfl
  | answered rearmed unreported ready =>
    refine .none (by simp [notified, Effect.notification?]) ?_
    rw [answered]
    simpa [Effect.answer?] using Session.not_acknowledgesApply_of_replyTo unreported ready
  | _ => exact .none (by simp [notified, Effect.notification?]) (by simp [answered, Effect.answer?])

/-- Every moment of a run is of one of the kinds. -/
theorem news_meet (sound : run.Sound) (pulls : run.ReadsPulls) :
    run.News context moment (run.meet context moment) := by
  obtain ⟨now, pool, action⟩ := moment
  generalize applied : run.meet context ⟨now, pool, action⟩ = step
  have change : Run.Change context now pool run action step := applied ▸ Run.change_act sound.live
  cases change with
  | idle requests =>
    exact .none (by simp [RunStep.notifications, Occurrence.notification?])
      (by simp [RunStep.answers, Occurrence.answer?])
  | began waiting =>
    have fresh := (sound.fresh waiting).1
    rcases start_cases context now run.session pool with ⟨reason, _, failed⟩ | ⟨_, reaction⟩
    · rw [failed]
      exact news_of_fail (by rw [fresh]; rfl)
    · generalize Turn.start context now ⟨run.session, pool, []⟩ = turn at reaction ⊢
      cases reaction with
      | failed cause => exact news_of_fail rfl
      | _ =>
        exact .none (by simp [Run.notifications_settle, Effect.notification?])
          (by simp [Run.answers_settle, Effect.answer?])
  | turned running next reaction => exact news_of_reaction (sound.live running) next reaction
  | read waits =>
    refine .none (by simp [RunStep.notifications, Occurrence.notification?]) ?_
    have pull := pulls _ (List.mem_of_getElem? waits)
    rintro answer mem ⟨command, _⟩
    obtain rfl : answer = _ := by simpa [RunStep.answers, Occurrence.answer?] using mem
    rw [pull] at command
    cases command
  | _ => exact .none (by simp [RunStep.notifications]) (by simp [RunStep.answers])

/-- The agent hears of the end of the update at the moment at which the session ends. -/
theorem completed_meet (sound : run.Sound) :
    (∃ endpoint success,
        Notification.completed endpoint success ∈ (run.meet context moment).notifications) ↔
      run.session.state.isTerminal = false ∧
        (run.meet context moment).run.session.state.isTerminal = true := by
  rcases rests_or_goes context moment.now moment.pool run moment.action sound with
    rests | ⟨session, turn, goes⟩
  · rw [Run.meet, rests.notifications, rests.session]
    simp
  · rw [Run.meet, goes.notifications_eq, goes.after.2, goes.live_run]
    cases goes.tells with
    | nothing silent live => simp [silent, live]
    | component _ _ one live => simp [one, live]
    | failed state one => simp [one, state, SessionState.isTerminal]
    | completed state _ one => simp [one, state, SessionState.isTerminal]

end

/-- At all times the agent has heard what it is to hear, and only pulls wait for the package. -/
theorem hasTold_through (context : SessionContext) (record : DeviceRecord)
    (moments : List Moment) :
    let history := History.through context record moments
    history.run.Sound ∧ history.run.HasTold history.notifications ∧ history.run.ReadsPulls := by
  refine History.induct (motive := fun history => history.run.Sound ∧
    history.run.HasTold history.notifications ∧ history.run.ReadsPulls) ?_ ?_ moments
  · refine ⟨.waiting rfl rfl rfl rfl, ⟨[], rfl, List.nil_prefix, ?_, fun _ => rfl⟩, ?_⟩
    · intro completed
      cases completed
    · intro read mem
      cases mem
  · rintro history moment ⟨sound, hasTold, pulls⟩
    rw [History.run_extend, History.notifications_extend]
    exact ⟨sound.act, hasTold_act sound hasTold, readsPulls_act sound pulls⟩

/-- Whatever happens to a run, in whatever order: the agent hears of the first of the components in
their order, of all of them if the update is completed, and of the end of the update once it has
ended, and of nothing afterwards. Each piece of news about a component comes from one event, and so
does the answer if the event asked for one. The news of the end come when the session ends. -/
theorem notifications_through (context : SessionContext) (record : DeviceRecord)
    (moments : List Moment) :
    let history := History.through context record moments
    IsTold record history.run.session.state history.notifications ∧
      ∀ moment,
        history.run.News context moment (history.run.meet context moment) ∧
        ((∃ endpoint success, Notification.completed endpoint success ∈
            (history.run.meet context moment).notifications) ↔
          history.run.session.state.isTerminal = false ∧
            (history.run.meet context moment).run.session.state.isTerminal = true) := by
  obtain ⟨sound, ⟨outcomes, told, names, all, _⟩, pulls⟩ := hasTold_through context record moments
  have record_eq := (sound_through context record moments).2
  refine ⟨⟨outcomes, ?_, ?_, ?_⟩, fun moment => ⟨news_meet sound pulls, completed_meet sound⟩⟩
  · simpa only [Run.endpoint, Session.endpoint, record_eq] using told
  · simpa only [record_eq] using names
  · simpa only [record_eq] using all

end FirmwareAgent
