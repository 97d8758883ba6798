import FirmwareAgent.Proofs.Run.CommandOrder
import FirmwareAgent.Proofs.Run.Notifications
import FirmwareAgent.Proofs.Run.Silent

/-!
# CancelUpdate

An agent that gives an update up tells the target by CancelUpdate, but only a target that knows of
the update, and only if it is configured to. What becomes of that request is nobody's concern.

* `Reaction.sendsCancel_iff`: the one circumstance under which an event makes a session send
  CancelUpdate.
* `farewell_through`: the result.
-/

namespace FirmwareAgent

/-! ## When CancelUpdate is due -/

/-- The session handles a response by which the target accepts RequestUpdate: it carries the
command's code and reports success. Its body does not matter. -/
def HistoryEntry.AcceptsUpdate (entry : HistoryEntry) : Prop :=
  ∃ token response inbox pending,
    entry.run.next? entry.moment.now entry.moment.action =
      some (.response token (.ok response), inbox) ∧
    entry.run.session.Awaits token pending ∧ pending.command = .requestUpdate ∧
    response.command = Command.requestUpdate.code ∧ response.isSuccess = true

namespace History

/-- The target has accepted RequestUpdate at some moment of the history. -/
def AcceptedUpdate (history : History) : Prop :=
  ∃ entry ∈ history.entries, entry.AcceptsUpdate

/-- A moment at which CancelUpdate is due. -/
structure OwesFarewell (context : SessionContext) (history : History) (moment : Moment) : Prop where
  live : history.run.session.state.isTerminal = false
  fails : ∃ reason, (history.run.meet context moment).run.session.state = .failed reason
  asked : context.config.cancelOnFailure = true
  /-- The target accepted RequestUpdate, at this very moment at the latest. -/
  accepted : (history.extend context moment).AcceptedUpdate
  /-- There is an instance id once the command under way has given its own back. -/
  granted : ∃ lease lent, (history.run.session.surrender moment.pool).acquire
    history.run.endpoint moment.now = .ok (lease, lent)

end History

/-- Some exchange of a list carries CancelUpdate. -/
def SendsCancel (exchanges : List Exchange) : Prop :=
  ∃ exchange ∈ exchanges, exchange.command = .cancelUpdate

/-- How a run takes leave of its target. -/
structure TakesLeave (context : SessionContext) (record : DeviceRecord) (moments : List Moment)
    (history quiet : History) : Prop where
  /-- CancelUpdate goes out at most once, after everything else. -/
  last : ∃ steps farewell, history.sent = steps ++ farewell ∧ ¬ SendsCancel steps ∧
    IsFarewellOnly farewell
  /-- It goes out at any moment at which it is due, and at no other. -/
  due : ∀ moment,
    SendsCancel (history.run.meet context moment).sent ↔ history.OwesFarewell context moment
  /-- So it never goes out for an update that is completed, or fails before the target knows of
  it. -/
  only : SendsCancel history.sent → context.config.cancelOnFailure = true ∧
    history.AcceptedUpdate ∧ ∃ reason, history.run.session.state = .failed reason
  /-- A run that is not configured to send it is at all times in the same state. -/
  state : quiet.run.session.state = history.run.session.state
  /-- The agent hears the same. -/
  notifications : quiet.notifications = history.notifications
  /-- And so it remains whatever becomes of CancelUpdate, and whatever else happens to the one and
  to the other once the session has ended. -/
  remains : history.run.session.state.isTerminal = true → ∀ later later',
    let on := History.through context record (moments ++ later)
    let off := History.through context.silent record (moments ++ later')
    (off.run.session.state = on.run.session.state ∧ off.notifications = on.notifications) ∧
      on.run.session.state = history.run.session.state ∧
      on.notifications = history.notifications

/-- The session is to send CancelUpdate if it gives up, and it can. -/
def Session.CanCancel (context : SessionContext) (now : Instant) (pool : InstanceIdPool)
    (session : Session) : Prop :=
  session.inUpdateMode = true ∧ context.config.cancelOnFailure = true ∧
    ∃ lease lent, (session.surrender pool).acquire session.endpoint now = .ok (lease, lent)

section

variable {context : SessionContext} {now : Instant} {session : Session} {pool : InstanceIdPool}
  {event : Event} {turn : Turn}

theorem effects_fail_of_canCancel (reason : UpdateError) (live : session.state.isTerminal = false)
    (can : session.CanCancel context now pool) :
    ∃ lease, (Turn.fail context now reason ⟨session, pool, []⟩).effects =
      [.submitCancel lease (.firmwareUpdate lease.id .cancelUpdate []),
        .notify (.completed session.endpoint false)] := by
  obtain ⟨mode, asked, lease, lent, acquired⟩ := can
  refine ⟨lease, ?_⟩
  rw [Session.endpoint] at acquired
  simp [Turn.fail, live, Turn.dropPending_eq, mode, asked, Turn.sendCancel, Session.endpoint,
    acquired, Turn.emit, Turn.enter]

theorem sendsCancel_fail {reason : UpdateError} (live : session.state.isTerminal = false) :
    SendsCancel ((Turn.fail context now reason ⟨session, pool, []⟩).effects.filterMap
      (Effect.exchange? context now)) ↔ session.CanCancel context now pool := by
  constructor
  · rintro ⟨exchange, sent, _⟩
    rcases Turn.fail_cases context now reason ⟨session, pool, []⟩ live with
      silent | ⟨lease, lent, mode, asked, acquired, _⟩
    · rw [silent] at sent
      simp [Effect.exchange?] at sent
    · exact ⟨mode, asked, lease, lent, acquired⟩
  · intro can
    obtain ⟨lease, effects⟩ := effects_fail_of_canCancel reason live can
    rw [effects]
    exact ⟨_, List.mem_singleton_self _, rfl⟩

theorem Session.entersUpdateMode_of_ignores (idle : session.Ignores event) :
    session.entersUpdateMode event = false := by
  cases event with
  | response token outcome =>
    cases outcome with
    | error error => rfl
    | ok response =>
      simp only [Session.entersUpdateMode, Option.any_eq_false]
      intro pending slot
      have other : pending.token ≠ token := fun same => idle pending ⟨slot, same⟩
      simp [other]
  | _ => rfl

/-- A session learns about update mode from the event it handles, whatever else comes of it. -/
theorem Reaction.inUpdateMode (reaction : Reaction context now session pool event turn)
    (live : session.state.isTerminal = false) :
    turn.session.inUpdateMode = (session.inUpdateMode || session.entersUpdateMode event) := by
  cases reaction with
  | failed cause =>
    rw [Turn.session_fail _ _ _ _ live]
    rfl
  | ignored idle => rw [Session.entersUpdateMode_of_ignores idle, Bool.or_false]
  | submitted | answered | deferred | brokeDown | overran | finished =>
    exact (Bool.or_false _).symm
  | _ => rfl

/-- An event makes a session send CancelUpdate if and only if the session gives up at it, is to send
CancelUpdate, and can. -/
theorem Reaction.sendsCancel_iff (reaction : Reaction context now session pool event turn)
    (live : session.state.isTerminal = false) :
    SendsCancel (turn.effects.filterMap (Effect.exchange? context now)) ↔
      (∃ reason, turn.session.state = .failed reason) ∧
        (session.informed event).CanCancel context now pool := by
  have goes_on (unsent : turn.effects.filterMap (Effect.exchange? context now) = [])
      (state : ∀ reason, turn.session.state ≠ .failed reason) :
      SendsCancel (turn.effects.filterMap (Effect.exchange? context now)) ↔
        (∃ reason, turn.session.state = .failed reason) ∧
          (session.informed event).CanCancel context now pool := by
    refine iff_of_false ?_ fun ⟨⟨reason, given_up⟩, _⟩ => state reason given_up
    rw [unsent]
    exact fun ⟨_, sent, _⟩ => nomatch sent
  have not_failed {state : SessionState} (live : state.isTerminal = false) (reason : UpdateError) :
      state ≠ .failed reason := by
    rintro rfl
    cases live
  cases reaction with
  | @failed _ reason cause =>
    have state := Turn.state_fail context now reason ⟨session.informed event, pool, []⟩ live
    have informed_live : (session.informed event).state.isTerminal = false := live
    rw [sendsCancel_fail informed_live]
    exact ⟨fun can => ⟨⟨_, state⟩, can⟩, fun ⟨_, can⟩ => can⟩
  | submitted due =>
    refine iff_of_false ?_ fun ⟨⟨reason, given_up⟩, _⟩ =>
      not_failed live reason given_up
    rintro ⟨exchange, sent, command⟩
    obtain rfl : exchange = _ := by simpa [Effect.exchange?] using sent
    exact SessionState.ne_cancelUpdate_of_command? (Session.command?_of_nextDraft? due) command
  | acknowledged awaited own granted next_eq =>
    obtain ⟨command, next_own, _⟩ := SessionState.command?_of_acknowledged? next_eq
    exact goes_on rfl (not_failed (SessionState.live_of_command? next_own))
  | declined | finished =>
    obtain ⟨command, next_own, _⟩ := SessionState.command?_afterComponent
      session.record.componentCount
    exact goes_on rfl (not_failed (SessionState.live_of_command? next_own))
  | accepted => exact goes_on rfl (not_failed rfl)
  | activated => exact goes_on rfl (by simp)
  | _ => exact goes_on rfl (not_failed live)

end

/-! ## What a session knows of update mode -/

namespace History

variable {context : SessionContext} {history : History} {moment : Moment}

theorem acceptedUpdate_extend : (history.extend context moment).AcceptedUpdate ↔
    history.AcceptedUpdate ∨
      HistoryEntry.AcceptsUpdate ⟨history.run, moment, history.run.meet context moment⟩ := by
  simp [AcceptedUpdate, extend, or_and_right, exists_or]

/-- The session of a run that handles an event learns from it whether the target has accepted
RequestUpdate. -/
theorem entersUpdateMode_iff {event : Event} {inbox : List Event} {step : RunStep}
    (next : history.run.next? moment.now moment.action = some (event, inbox)) :
    history.run.session.entersUpdateMode event = true ↔
      HistoryEntry.AcceptsUpdate ⟨history.run, moment, step⟩ := by
  constructor
  · intro enters
    unfold Session.entersUpdateMode at enters
    split at enters
    · rename_i token response
      obtain ⟨pending, slot, facts⟩ := (Option.any_eq_true _ _).mp enters
      simp only [Bool.and_eq_true, beq_iff_eq] at facts
      obtain ⟨⟨⟨token_eq, asks⟩, answers⟩, succeeds⟩ := facts
      exact ⟨token, response, inbox, pending, next, ⟨slot, token_eq⟩, asks, asks ▸ answers,
        succeeds⟩
    · cases enters
  · rintro ⟨token, response, rest, pending, handled, awaited, asks, answers, succeeds⟩
    obtain ⟨rfl, rfl⟩ := Prod.mk.inj (Option.some.inj (next.symm.trans handled))
    obtain ⟨slot, token_eq⟩ : history.run.session.Awaits token pending := awaited
    simp [Session.entersUpdateMode, slot, token_eq, asks, answers, succeeds]

theorem not_acceptsUpdate {step : RunStep}
    (idle : history.run.next? moment.now moment.action = none) :
    ¬ HistoryEntry.AcceptsUpdate ⟨history.run, moment, step⟩ := by
  rintro ⟨_, _, _, _, handled, _⟩
  cases idle.symm.trans handled

end History

/-- A turn says what its session knows of update mode, even if the session breaks down. -/
theorem Run.inUpdateMode_settle {context : SessionContext} {now : Instant} {run : Run}
    {turn : Turn} (running : run.status = .running) (orderly : turn.IsOrderly) :
    (run.settle context now turn).run.session.inUpdateMode = turn.session.inUpdateMode := by
  rcases orderly with calm | ⟨asked, crash⟩
  · rw [(Run.settle_calm context now running calm).1]
  · rw [(Run.settle_crash context now run crash).1]

/-- A session that has just started knows nothing of update mode. -/
theorem start_notInUpdateMode (context : SessionContext) (now : Instant) (session : Session)
    (pool : InstanceIdPool) (live : session.state.isTerminal = false)
    (unknown : session.inUpdateMode = false) :
    let turn := Turn.start context now ⟨session, pool, []⟩
    turn.IsOrderly ∧ turn.session.inUpdateMode = false ∧
      ¬ SendsCancel (turn.effects.filterMap (Effect.exchange? context now)) := by
  rcases start_cases context now session pool with ⟨reason, _, failed⟩ | ⟨_, reaction⟩
  · rw [failed]
    refine ⟨.inl (Turn.isCalm_fail live), ?_, ?_⟩
    · rw [Turn.session_fail _ _ _ _ live]
      exact unknown
    · rw [sendsCancel_fail live]
      exact fun ⟨mode, _⟩ => by simp [unknown] at mode
  · refine ⟨reaction.orderly rfl, ?_, ?_⟩
    · rw [reaction.inUpdateMode rfl]
      simpa [Session.entersUpdateMode] using unknown
    · rw [reaction.sendsCancel_iff rfl]
      rintro ⟨_, mode, _⟩
      simp [Session.informed, Session.entersUpdateMode, unknown] at mode

section

variable {context : SessionContext} {history : History} {moment : Moment}

variable (context moment) in
/-- What the session knows of update mode is what has happened. -/
theorem inUpdateMode_extend (sound : history.run.Sound)
    (known : history.run.session.inUpdateMode = true ↔ history.AcceptedUpdate) :
    (history.extend context moment).run.session.inUpdateMode = true ↔
      (history.extend context moment).AcceptedUpdate := by
  rw [History.acceptedUpdate_extend, History.run_extend]
  rcases meet_cases context moment sound with
    ⟨idle, rests⟩ | ⟨idle, waiting, fresh, met⟩ | ⟨event, inbox, turn, next, running, reaction, met⟩
  · rw [rests.session, known]
    exact (or_iff_left (History.not_acceptsUpdate idle)).symm
  · have live : history.run.session.state.isTerminal = false := by rw [fresh]; rfl
    have unknown : history.run.session.inUpdateMode = false := by rw [fresh]
    obtain ⟨orderly, mode, _⟩ :=
      start_notInUpdateMode context moment.now history.run.session moment.pool live unknown
    rw [met, Run.inUpdateMode_settle rfl orderly, mode]
    refine iff_of_false nofun (not_or.mpr ⟨?_, History.not_acceptsUpdate idle⟩)
    rw [← known, unknown]
    exact nofun
  · have live := sound.live running
    have still : { history.run with inbox := inbox }.status = .running := running
    rw [met, Run.inUpdateMode_settle still (reaction.orderly live), reaction.inUpdateMode live,
      Bool.or_eq_true, known, ← met, History.entersUpdateMode_iff next]

/-- A moment makes a run send CancelUpdate if and only if it is due. -/
theorem sendsCancel_meet (sound : history.run.Sound)
    (known : history.run.session.inUpdateMode = true ↔ history.AcceptedUpdate) :
    SendsCancel (history.run.meet context moment).sent ↔ history.OwesFarewell context moment := by
  have known_after := inUpdateMode_extend context moment sound known
  rcases meet_cases context moment sound with
    ⟨idle, rests⟩ | ⟨idle, waiting, fresh, met⟩ | ⟨event, inbox, turn, next, running, reaction, met⟩
  · rw [rests.sent]
    refine iff_of_false (fun ⟨_, sent, _⟩ => nomatch sent) fun owes => ?_
    obtain ⟨reason, failed⟩ := owes.fails
    have live := owes.live
    rw [← rests.session, failed] at live
    cases live
  · have live : history.run.session.state.isTerminal = false := by rw [fresh]; rfl
    have unknown : history.run.session.inUpdateMode = false := by rw [fresh]
    obtain ⟨orderly, mode, unsent⟩ :=
      start_notInUpdateMode context moment.now history.run.session moment.pool live unknown
    refine iff_of_false ?_ fun owes => ?_
    · rwa [met, Run.sent_settle]
    · have accepted := known_after.mpr owes.accepted
      rw [History.run_extend, met, Run.inUpdateMode_settle rfl orderly, mode] at accepted
      cases accepted
  · have live := sound.live running
    have orderly := reaction.orderly live
    have still : { history.run with inbox := inbox }.status = .running := running
    have state := (Run.state_settle context moment.now still orderly).2
    have mode : ((history.run.session.informed event).inUpdateMode = true) ↔
        (history.extend context moment).AcceptedUpdate := by
      rw [← known_after, History.run_extend, met, Run.inUpdateMode_settle still orderly,
        reaction.inUpdateMode live]
      rfl
    rw [met, Run.sent_settle, reaction.sendsCancel_iff live]
    constructor
    · rintro ⟨⟨reason, failed⟩, accepted, asked, granted⟩
      exact ⟨live, ⟨reason, by rw [met, state, failed]⟩, asked, mode.mp accepted, granted⟩
    · rintro ⟨-, ⟨reason, failed⟩, asked, accepted, granted⟩
      rw [met, state] at failed
      exact ⟨⟨reason, failed⟩, mode.mpr accepted, asked, granted⟩

end

/-! ## The result -/

section

variable {context : SessionContext} {record : DeviceRecord}

/-- At all times a session knows of update mode what has happened, and CancelUpdate has been sent
only if the session has failed after the target accepted RequestUpdate. -/
theorem knowsUpdateMode_through (context : SessionContext) (record : DeviceRecord)
    (moments : List Moment) :
    let history := History.through context record moments
    history.run.Sound ∧
      (history.run.session.inUpdateMode = true ↔ history.AcceptedUpdate) ∧
      (SendsCancel history.sent → context.config.cancelOnFailure = true ∧
        history.AcceptedUpdate ∧ ∃ reason, history.run.session.state = .failed reason) := by
  refine History.induct (motive := fun history => history.run.Sound ∧
    (history.run.session.inUpdateMode = true ↔ history.AcceptedUpdate) ∧
    (SendsCancel history.sent → context.config.cancelOnFailure = true ∧
      history.AcceptedUpdate ∧ ∃ reason, history.run.session.state = .failed reason)) ?_ ?_ moments
  · refine ⟨.waiting rfl rfl rfl rfl, iff_of_false nofun ?_, fun ⟨_, sent, _⟩ => nomatch sent⟩
    exact fun ⟨_, entry, _⟩ => nomatch entry
  · rintro history moment ⟨sound, known, told⟩
    refine ⟨sound.act, inUpdateMode_extend context moment sound known, ?_⟩
    rw [History.sent_extend, History.run_extend]
    rintro ⟨cancel, sent, command⟩
    rcases List.mem_append.mp sent with old | new
    · obtain ⟨asked, accepted, reason, failed⟩ := told ⟨cancel, old, command⟩
      have closed := closed_of_terminal sound (by rw [failed]; rfl)
      refine ⟨asked, History.acceptedUpdate_extend.mpr (.inl accepted), reason, ?_⟩
      rw [(rests_of_closed closed).session, failed]
    · have owes := (sendsCancel_meet sound known).mp ⟨cancel, new, command⟩
      exact ⟨owes.asked, owes.accepted, owes.fails⟩

/-- Nothing more is heard of a run that is over. -/
theorem rests_through {earlier : List Moment}
    (closed : (History.through context record earlier).run.isOpen = false) (later : List Moment) :
    (History.through context record (earlier ++ later)).run.session =
        (History.through context record earlier).run.session ∧
      (History.through context record (earlier ++ later)).notifications =
        (History.through context record earlier).notifications := by
  suffices rests : (History.through context record (earlier ++ later)).run.session =
        (History.through context record earlier).run.session ∧
      (History.through context record (earlier ++ later)).run.isOpen = false ∧
      (History.through context record (earlier ++ later)).notifications =
        (History.through context record earlier).notifications from ⟨rests.1, rests.2.2⟩
  induction later using List.reverseRecOn with
  | nil => simpa using closed
  | append_singleton later moment ih =>
    obtain ⟨session, still_closed, told⟩ := ih
    have rests : Run.Rests _ (Run.meet context _ moment) := rests_of_closed still_closed
    rw [← List.append_assoc, History.through_concat, History.run_extend,
      History.notifications_extend, rests.notifications, List.append_nil, rests.session]
    exact ⟨session, by simpa [Run.isOpen, rests.status] using still_closed, told⟩

theorem not_sendsCancel_of_planned {planned : List PlannedStep} {steps : List Exchange}
    (carried : List.Forall₂ (PlannedStep.SentBy context record) planned steps) :
    ¬ SendsCancel steps := by
  rintro ⟨exchange, sent, command⟩
  induction carried with
  | nil => cases sent
  | @cons step other planned steps carries _ ih =>
    rcases List.mem_cons.mp sent with rfl | later
    · rw [carries.command] at command
      cases step <;> cases command
    · exact ih later

end

/-- Whatever happens to a run, in whatever order: CancelUpdate goes out at most once, last of all,
exactly when the session gives up, is configured to send it, has been accepted by the target, and
can have an instance id. Whatever becomes of it, the update ends as it would have ended without. -/
theorem farewell_through (context : SessionContext) (record : DeviceRecord)
    (moments : List Moment) :
    TakesLeave context record moments (History.through context record moments)
      (History.through context.silent record moments) := by
  obtain ⟨sound, known, only⟩ := knowsUpdateMode_through context record moments
  obtain ⟨same_run, same_news⟩ := twin_through context record moments
  obtain ⟨planned, steps, farewell, _, sent_eq, carried, isOnly⟩ :=
    (onPlan_through context record moments).2.1.follows
  have same_state : (History.through context.silent record moments).run.session.state =
      (History.through context record moments).run.session.state := by
    rw [same_run]
    rfl
  refine ⟨⟨steps, farewell, sent_eq, not_sendsCancel_of_planned carried, isOnly⟩,
    fun moment => sendsCancel_meet sound known, only, same_state, same_news, ?_⟩
  intro terminal later later'
  have closed := closed_of_terminal sound terminal
  have also_closed : (History.through context.silent record moments).run.isOpen = false := by
    rw [same_run]
    exact closed
  obtain ⟨on, on_news⟩ := rests_through closed later
  obtain ⟨off, off_news⟩ := rests_through also_closed later'
  dsimp only
  rw [on, on_news, off, off_news]
  exact ⟨⟨same_state, same_news⟩, rfl, rfl⟩

end FirmwareAgent
