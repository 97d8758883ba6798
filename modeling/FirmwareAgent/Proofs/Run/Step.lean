import FirmwareAgent.Proofs.Session.Reaction
import FirmwareAgent.Session.Run

/-!
# What an action does to a run

A run carries out the effects of its session's turns one after another. `Run.settle` is the run
once that is done; the lemmas on it say what the effects add to what the run has under way and to
what others see, whatever the turn.

* `change_act`: everything an action can do to a run whose session has not ended while it runs.
-/

namespace FirmwareAgent

theorem filterMap_singleton {α β : Type} (view : α → Option β) (value : α) :
    [value].filterMap view = (view value).toList := by
  cases seen : view value <;> simp [seen]

/-! ## What effects add -/

namespace Effect

/-- The event that an effect queues. -/
def event? : Effect → Option Event
  | scheduleProceed => some .proceed
  | _ => none

/-- The exchange that an effect puts under way. -/
def exchange? (context : SessionContext) (now : Instant) : Effect → Option Exchange
  | submit token command lease request =>
    some ⟨some token, command, request, lease,
      now.after? context.clockEnd context.config.commandTimeout⟩
  | submitCancel lease request =>
    some ⟨none, .cancelUpdate, request, lease,
      now.after? context.clockEnd context.config.commandTimeout⟩
  | _ => none

/-- What an effect tells the agent. -/
def notification? : Effect → Option Notification
  | notify notification => some notification
  | _ => none

/-- The answer that an effect gives. -/
def answer? : Effect → Option (Caller × Response)
  | answer caller response => some (caller, response)
  | _ => none

/-- The answer that waits for the package since an effect. -/
def read? : Effect → Option (Caller × Response)
  | answerLater caller response => some (caller, response)
  | _ => none

/-- What others see of an effect, unless the session breaks down. -/
def occurrence? (context : SessionContext) (now : Instant) (effect : Effect) : Option Occurrence :=
  match effect with
  | notify notification => some (.notified notification)
  | answer caller response => some (.answered caller response)
  | _ => (effect.exchange? context now).map .sent

/-- Whether the session breaks down. -/
def isCrash : Effect → Bool
  | crash _ => true
  | _ => false

end Effect

namespace Occurrence

/-- The exchange that started. -/
def exchange? : Occurrence → Option Exchange
  | sent exchange => some exchange
  | _ => none

/-- What the agent was told. -/
def notification? : Occurrence → Option Notification
  | notified notification => some notification
  | _ => none

/-- The answer that was given. -/
def answer? : Occurrence → Option (Caller × Response)
  | answered caller response => some (caller, response)
  | _ => none

end Occurrence

namespace RunStep

/-- The exchanges that started, oldest first. -/
def sent (step : RunStep) : List Exchange :=
  step.occurrences.filterMap Occurrence.exchange?

/-- What the agent was told, in that order. -/
def notifications (step : RunStep) : List Notification :=
  step.occurrences.filterMap Occurrence.notification?

/-- The answers that were given, oldest first. -/
def answers (step : RunStep) : List (Caller × Response) :=
  step.occurrences.filterMap Occurrence.answer?

variable {context : SessionContext} {now : Instant} {step : RunStep} {α : Type}
  {view : Occurrence → Option α}

theorem filterMap_close (blind : ∀ caller request, view (.unanswered caller request) = none)
    (status : RunStatus) :
    (step.close status).occurrences.filterMap view = step.occurrences.filterMap view := by
  simp [close, List.filterMap_map, blind]

/-- Whoever does not see which requests stay unanswered sees of an effect what it shows. -/
theorem filterMap_perform (blind : ∀ caller request, view (.unanswered caller request) = none)
    (effect : Effect) :
    (step.perform context now effect).occurrences.filterMap view =
      step.occurrences.filterMap view ++ ((effect.occurrence? context now).bind view).toList := by
  cases effect with
  | crash asked =>
    cases asked <;>
      simp [perform, filterMap_close blind, abandonSession, occur, blind, Effect.occurrence?,
        Effect.exchange?]
  | scheduleProceed | answerLater =>
    simp [perform, enqueue, Effect.occurrence?, Effect.exchange?]
  | _ =>
    simp [perform, send, occur, Effect.occurrence?, Effect.exchange?, filterMap_singleton]

theorem exchanges_perform (effect : Effect) :
    (step.perform context now effect).run.exchanges =
      step.run.exchanges ++ (effect.exchange? context now).toList := by
  cases effect with
  | crash asked => cases asked <;> simp [perform, close, abandonSession, occur, Effect.exchange?]
  | _ => simp [perform, send, occur, enqueue, Effect.exchange?]

theorem reads_perform (effect : Effect) :
    (step.perform context now effect).run.reads = step.run.reads ++ effect.read?.toList := by
  cases effect with
  | crash asked => cases asked <;> simp [perform, close, abandonSession, occur, Effect.read?]
  | _ => simp [perform, send, occur, enqueue, Effect.read?]

variable (context now step) in
theorem perform_calm {effect : Effect} (calm : effect.isCrash = false) :
    (step.perform context now effect).run =
        { step.run with
          inbox := step.run.inbox ++ effect.event?.toList
          exchanges := step.run.exchanges ++ (effect.exchange? context now).toList
          reads := step.run.reads ++ effect.read?.toList } ∧
      (step.perform context now effect).pool = step.pool := by
  cases effect with
  | crash asked => cases calm
  | _ =>
    simp [perform, send, occur, enqueue, Effect.event?, Effect.exchange?, Effect.read?]

end RunStep

namespace Turn

/-- The session does not break down. -/
def IsCalm (turn : Turn) : Prop :=
  ∀ effect ∈ turn.effects, effect.isCrash = false

/-- Nothing else happens in a turn in which the session breaks down. -/
def IsOrderly (turn : Turn) : Prop :=
  turn.IsCalm ∨ ∃ asked, turn.effects = [.crash asked]

theorem isCalm_fail {context : SessionContext} {now : Instant} {session : Session}
    {pool : InstanceIdPool} {reason : UpdateError} (live : session.state.isTerminal = false) :
    (Turn.fail context now reason ⟨session, pool, []⟩).IsCalm := by
  obtain ⟨farewell, effects, shape⟩ := effects_fail context now reason ⟨session, pool, []⟩ live
  rw [IsCalm, effects]
  rcases shape with rfl | ⟨_, lease, rfl⟩ <;> simp [Effect.isCrash]

end Turn

theorem Reaction.orderly {context : SessionContext} {now : Instant} {session : Session}
    {pool : InstanceIdPool} {event : Event} {turn : Turn}
    (reaction : Reaction context now session pool event turn)
    (live : session.state.isTerminal = false) : turn.IsOrderly := by
  cases reaction with
  | failed cause => exact .inl (Turn.isCalm_fail live)
  | untimed | brokeDown | overran => exact .inr ⟨_, rfl⟩
  | _ => exact .inl (by simp [Turn.IsCalm, Effect.isCrash])

/-! ## Settling a turn -/

namespace Run

/-- The run once its session has taken a turn and the effects of the turn are carried out. -/
def settle (context : SessionContext) (now : Instant) (run : Run) (turn : Turn) : RunStep :=
  (turn.effects.foldl (RunStep.perform context now)
    ⟨{ run with session := turn.session }, turn.pool, []⟩).closeIfTerminal

variable {context : SessionContext} {now : Instant} {run : Run} {turn : Turn}

variable (context now) in
theorem filterMap_foldl_perform {α : Type} {view : Occurrence → Option α}
    (blind : ∀ caller request, view (.unanswered caller request) = none) (effects : List Effect)
    (step : RunStep) :
    (effects.foldl (RunStep.perform context now) step).occurrences.filterMap view =
      step.occurrences.filterMap view ++
        effects.filterMap fun effect => (effect.occurrence? context now).bind view := by
  induction effects generalizing step with
  | nil => simp
  | cons effect effects ih =>
    rw [List.foldl_cons, ih, RunStep.filterMap_perform blind, List.append_assoc]
    cases seen : (effect.occurrence? context now).bind view <;> simp [seen]

/-- What others see of a turn is what they see of its effects. -/
theorem filterMap_settle {α : Type} {view : Occurrence → Option α}
    (blind : ∀ caller request, view (.unanswered caller request) = none) :
    (run.settle context now turn).occurrences.filterMap view =
      turn.effects.filterMap fun effect => (effect.occurrence? context now).bind view := by
  have performed := filterMap_foldl_perform context now blind turn.effects
    ⟨{ run with session := turn.session }, turn.pool, []⟩
  unfold settle RunStep.closeIfTerminal
  split
  · rw [RunStep.filterMap_close blind, performed]
    rfl
  · exact performed

theorem exchanges_foldl_perform (effects : List Effect) (step : RunStep) :
    (effects.foldl (RunStep.perform context now) step).run.exchanges =
      step.run.exchanges ++ effects.filterMap (Effect.exchange? context now) := by
  induction effects generalizing step with
  | nil => simp
  | cons effect effects ih =>
    rw [List.foldl_cons, ih, RunStep.exchanges_perform, List.append_assoc]
    cases started : effect.exchange? context now <;> simp [started]

theorem reads_foldl_perform (effects : List Effect) (step : RunStep) :
    (effects.foldl (RunStep.perform context now) step).run.reads =
      step.run.reads ++ effects.filterMap Effect.read? := by
  induction effects generalizing step with
  | nil => simp
  | cons effect effects ih =>
    rw [List.foldl_cons, ih, RunStep.reads_perform, List.append_assoc]
    cases started : effect.read? <;> simp [started]

/-- A turn puts under way what its effects put under way, even if the session breaks down. -/
theorem exchanges_settle :
    (run.settle context now turn).run.exchanges =
      run.exchanges ++ turn.effects.filterMap (Effect.exchange? context now) := by
  unfold settle RunStep.closeIfTerminal
  split <;> simp [RunStep.close, exchanges_foldl_perform]

theorem reads_settle :
    (run.settle context now turn).run.reads =
      run.reads ++ turn.effects.filterMap Effect.read? := by
  unfold settle RunStep.closeIfTerminal
  split <;> simp [RunStep.close, reads_foldl_perform]

variable (context now) in
theorem foldl_perform_calm {effects : List Effect} (step : RunStep)
    (calm : ∀ effect ∈ effects, effect.isCrash = false) :
    let settled := effects.foldl (RunStep.perform context now) step
    settled.run.session = step.run.session ∧ settled.run.status = step.run.status ∧
      settled.run.inbox = step.run.inbox ++ effects.filterMap Effect.event? ∧
      settled.pool = step.pool := by
  induction effects generalizing step with
  | nil => simp
  | cons effect effects ih =>
    obtain ⟨run_eq, pool_eq⟩ := RunStep.perform_calm context now step
      (calm effect List.mem_cons_self)
    have rest := ih (step.perform context now effect) fun other mem =>
      calm other (List.mem_cons_of_mem _ mem)
    rw [run_eq, pool_eq] at rest
    cases queued : effect.event? <;> simpa [queued] using rest

/-- The run after a turn in which the session neither breaks down nor ends. -/
structure Continues (run after : Run) (turn : Turn) : Prop where
  session : after.session = turn.session
  status : after.status = run.status
  inbox : after.inbox = run.inbox ++ turn.effects.filterMap Effect.event?

variable (context now run)

theorem settle_continues (calm : turn.IsCalm)
    (live : turn.session.state.isTerminal = false) :
    run.Continues (run.settle context now turn).run turn ∧
      (run.settle context now turn).pool = turn.pool := by
  obtain ⟨session, status, inbox, pool⟩ := foldl_perform_calm context now
    ⟨{ run with session := turn.session }, turn.pool, []⟩ calm
  unfold settle RunStep.closeIfTerminal
  rw [if_neg (by simp [session, live])]
  exact ⟨⟨session, status, inbox⟩, pool⟩

/-- A run ends with its session. -/
theorem settle_ends (calm : turn.IsCalm)
    (running : run.status = .running) (terminal : turn.session.state.isTerminal = true) :
    let settled := run.settle context now turn
    settled.run.session = turn.session ∧ settled.run.status = .ended ∧ settled.run.inbox = [] ∧
      settled.pool = turn.pool := by
  obtain ⟨session, status, inbox, pool⟩ := foldl_perform_calm context now
    ⟨{ run with session := turn.session }, turn.pool, []⟩ calm
  unfold settle RunStep.closeIfTerminal
  rw [if_pos ⟨status.trans running, by simp [session, terminal]⟩]
  exact ⟨session, rfl, rfl, pool⟩

/-- A session that breaks down takes its run with it. -/
theorem settle_crash {asked : Option (Caller × Request)} (crash : turn.effects = [.crash asked]) :
    let settled := run.settle context now turn
    settled.run.session = { turn.session with pending := none, outcomeDeadline := none } ∧
      settled.run.status = .crashed ∧ settled.run.inbox = [] ∧
      settled.pool = turn.session.surrender turn.pool := by
  unfold settle RunStep.closeIfTerminal
  rw [crash]
  cases asked <;>
    simp [RunStep.perform, RunStep.close, RunStep.abandonSession, RunStep.occur,
      Turn.dropPending_eq]

/-- What others see of a turn's exchanges are those that it puts under way. -/
theorem sent_settle :
    (run.settle context now turn).sent = turn.effects.filterMap (Effect.exchange? context now) := by
  rw [RunStep.sent, filterMap_settle fun _ _ => rfl]
  congr
  funext effect
  cases effect <;> rfl

theorem notifications_settle :
    (run.settle context now turn).notifications = turn.effects.filterMap Effect.notification? := by
  rw [RunStep.notifications, filterMap_settle fun _ _ => rfl]
  congr
  funext effect
  cases effect <;> rfl

theorem answers_settle :
    (run.settle context now turn).answers = turn.effects.filterMap Effect.answer? := by
  rw [RunStep.answers, filterMap_settle fun _ _ => rfl]
  congr
  funext effect
  cases effect <;> rfl

variable {run}

/-- A session that does not break down is left as the turn left it, and so is the pool. -/
theorem settle_calm (running : run.status = .running) (calm : turn.IsCalm) :
    (run.settle context now turn).run.session = turn.session ∧
      (run.settle context now turn).pool = turn.pool := by
  cases terminal : turn.session.state.isTerminal with
  | false =>
    obtain ⟨continues, pool_eq⟩ := settle_continues context now run calm terminal
    exact ⟨continues.session, pool_eq⟩
  | true =>
    obtain ⟨session, _, _, pool_eq⟩ := settle_ends context now run calm running terminal
    exact ⟨session, pool_eq⟩

/-- A session that breaks down is in the state it was in. -/
theorem state_settle (running : run.status = .running) (orderly : turn.IsOrderly) :
    (run.settle context now turn).run.session.record = turn.session.record ∧
      (run.settle context now turn).run.session.state = turn.session.state := by
  rcases orderly with calm | ⟨asked, crash⟩
  · rw [(settle_calm context now running calm).1]
    exact ⟨rfl, rfl⟩
  · rw [(settle_crash context now run crash).1]
    exact ⟨rfl, rfl⟩

variable {context now}

/-- A run that is open after a turn has neither broken down nor ended. -/
theorem calm_of_isOpen_settle (running : run.status = .running) (orderly : turn.IsOrderly)
    (taken : (run.settle context now turn).run.isOpen = true) :
    turn.IsCalm ∧ turn.session.state.isTerminal = false := by
  rcases orderly with calm | ⟨asked, crash⟩
  · refine ⟨calm, Bool.eq_false_iff.mpr fun terminal => ?_⟩
    simp [isOpen, (settle_ends context now run calm running terminal).2.1] at taken
  · simp [isOpen, (settle_crash context now run crash).2.1] at taken

/-! ## Every action is a change -/

/-- The event that an action makes a running session handle, and the events that go on waiting. -/
def next? (now : Instant) (run : Run) : RunAction → Option (Event × List Event)
  | .handle =>
    match run.status, run.inbox with
    | .running, event :: inbox => some (event, inbox)
    | _, _ => none
  | .expire =>
    if run.status = .running ∧ run.session.outcomeDeadline.any (· ≤ now) then
      some (.outcomeTimeout, run.inbox)
    else none
  | _ => none

/-- The next event is the oldest of the inbox, or the timer has run out. -/
theorem next?_eq_some {action : RunAction} {event : Event} {inbox : List Event} :
    run.next? now action = some (event, inbox) ↔ run.status = .running ∧
      (action = .handle ∧ run.inbox = event :: inbox ∨
        action = .expire ∧ run.session.outcomeDeadline.any (· ≤ now) = true ∧
          event = .outcomeTimeout ∧ inbox = run.inbox) := by
  cases action with
  | handle =>
    obtain ⟨session, status, queue, exchanges, reads⟩ := run
    cases status <;> cases queue <;> simp [next?]
  | expire =>
    by_cases due : run.status = .running ∧ run.session.outcomeDeadline.any (· ≤ now) = true
    · simp [next?, due, eq_comm]
    · simp only [next?, if_neg due, reduceCtorEq, false_iff]
      rintro ⟨running, ⟨handles, _⟩ | ⟨_, overdue, _⟩⟩
      · cases handles
      · exact due ⟨running, overdue⟩
  | _ => simp [next?]

/-- An action ends the exchange with the outcome. -/
structure Ends (now : Instant) (run : Run) (action : RunAction) (exchange : Exchange)
    (outcome : Except UpdateError Response) : Prop where
  found : run.exchange? exchange.token = some exchange
  action : action = .finish exchange.token outcome ∨
    action = .timeOut exchange.token ∧ exchange.isOverdue now = true ∧
      outcome = .error (.timeout (.response exchange.command))

/-- The run without an exchange that has ended. -/
def without (run : Run) (exchange : Exchange) : Run :=
  { run with exchanges := run.exchanges.filter (·.token != exchange.token) }

/-- Everything an action can do to a run. -/
inductive Change (context : SessionContext) (now : Instant) (pool : InstanceIdPool) (run : Run) :
    RunAction → RunStep → Prop
  /-- Nothing, except that a request may stay unanswered. -/
  | idle {action : RunAction} (requests : List (Caller × Request)) :
      Change context now pool run action
        ⟨run, pool, requests.map fun (caller, request) => .unanswered caller request⟩
  | began (waiting : run.status = .waiting) :
      Change context now pool run .begin
        ({ run with status := .running }.settle context now
          (Turn.start context now ⟨run.session, pool, []⟩))
  /-- The session handles an event. -/
  | turned {action : RunAction} {event : Event} {inbox : List Event} {turn : Turn}
      (running : run.status = .running) (next : run.next? now action = some (event, inbox))
      (reaction : Reaction context now run.session pool event turn) :
      Change context now pool run action ({ run with inbox := inbox }.settle context now turn)
  /-- The exchange of a command ends, and the session will hear of it. -/
  | returned {action : RunAction} {token : Nat} {exchange : Exchange}
      {outcome : Except UpdateError Response} (taken : run.isOpen = true)
      (token_eq : exchange.token = some token) (ends : run.Ends now action exchange outcome) :
      Change context now pool run action
        ⟨{ run.without exchange with inbox := run.inbox ++ [.response token outcome] }, pool, []⟩
  /-- The exchange of a command ends, and nobody cares any more. -/
  | lost {action : RunAction} {token : Nat} {exchange : Exchange}
      {outcome : Except UpdateError Response} (closed : run.isOpen = false)
      (token_eq : exchange.token = some token) (ends : run.Ends now action exchange outcome) :
      Change context now pool run action ⟨run.without exchange, pool, []⟩
  /-- The exchange of CancelUpdate ends. -/
  | withdrawn {action : RunAction} {exchange : Exchange} {outcome : Except UpdateError Response}
      (token_eq : exchange.token = none) (ends : run.Ends now action exchange outcome) :
      Change context now pool run action ⟨run.without exchange, pool.drop exchange.lease, []⟩
  /-- A request of the target or a cancellation arrives. -/
  | queued {action : RunAction} {event : Event} (taken : run.isOpen = true)
      (arrival : (∃ caller request, action = .inbound caller request ∧
        event = .inbound caller request) ∨ action = .cancel ∧ event = .cancel) :
      Change context now pool run action
        ⟨{ run with inbox := run.inbox ++ [event] }, pool, []⟩
  /-- The package has been read for an answer. -/
  | read {place : Nat} {caller : Caller} {response : Response}
      (waits : run.reads[place]? = some (caller, response)) :
      Change context now pool run (.finishRead place)
        ⟨{ run with reads := run.reads.eraseIdx place }, pool, [.answered caller response]⟩

/-- The session is left alone, and others neither see a request nor hear of the update. -/
structure Rests (run : Run) (step : RunStep) : Prop where
  session : step.run.session = run.session
  status : step.run.status = run.status
  sent : step.sent = []
  notifications : step.notifications = []

variable {pool : InstanceIdPool} {action : RunAction}

/-- A session is left alone unless it takes a turn. -/
theorem Change.rests_or_turns {step : RunStep} (change : Change context now pool run action step) :
    run.Rests step ∨
      (run.status = .waiting ∧ step = { run with status := .running }.settle context now
        (Turn.start context now ⟨run.session, pool, []⟩)) ∨
      ∃ event inbox turn, run.status = .running ∧ run.next? now action = some (event, inbox) ∧
        Reaction context now run.session pool event turn ∧
        step = { run with inbox := inbox }.settle context now turn := by
  cases change with
  | idle requests =>
    refine .inl ⟨rfl, rfl, ?_, ?_⟩ <;>
      simp [RunStep.sent, RunStep.notifications, List.filterMap_map, Occurrence.exchange?,
        Occurrence.notification?]
  | began waiting => exact .inr (.inl ⟨waiting, rfl⟩)
  | turned running next reaction => exact .inr (.inr ⟨_, _, _, running, next, reaction, rfl⟩)
  | returned | lost | withdrawn | queued | read => exact .inl ⟨rfl, rfl, rfl, rfl⟩

theorem change_finishExchange {exchange : Exchange} {outcome : Except UpdateError Response}
    (ends : run.Ends now action exchange outcome) :
    Change context now pool run action (run.finishExchange pool exchange outcome) := by
  unfold finishExchange
  split
  · rename_i token_eq
    exact .withdrawn token_eq ends
  · rename_i token token_eq
    show Change context now pool run action
      (if run.isOpen then
        RunStep.enqueue ⟨run.without exchange, pool, []⟩ (.response token outcome)
      else ⟨run.without exchange, pool, []⟩)
    split
    · rename_i taken
      exact .returned taken token_eq ends
    · rename_i closed
      exact .lost (by simpa using closed) token_eq ends

theorem token_of_exchange? {token : Option Nat} {exchange : Exchange}
    (found : run.exchange? token = some exchange) : exchange.token = token := by
  simpa using List.find?_some found

/-- Whatever an action does to a run is in the list, as long as no session goes on after its end. -/
theorem change_act (live : run.status = .running → run.session.state.isTerminal = false) :
    Change context now pool run action (run.act context now pool action) := by
  have idle : Change context now pool run action ⟨run, pool, []⟩ := .idle []
  cases action with
  | begin =>
    simp only [act]
    split
    · rename_i waiting
      exact .began waiting
    · exact idle
  | handle =>
    simp only [act]
    split
    · rename_i event inbox running queue
      exact .turned running (by simp [next?, running, queue])
        (reaction_handle _ _ _ (live running) event)
    · exact idle
  | expire =>
    simp only [act]
    split
    · rename_i due
      exact .turned due.1 (by simp [next?, due])
        (reaction_handle _ _ _ (live due.1) .outcomeTimeout)
    · exact idle
  | finish token outcome =>
    simp only [act]
    split
    · rename_i exchange found
      obtain rfl := token_of_exchange? found
      exact change_finishExchange ⟨found, .inl rfl⟩
    · exact idle
  | timeOut token =>
    simp only [act]
    split
    · rename_i exchange found
      obtain rfl := token_of_exchange? found
      split
      · rename_i overdue
        exact change_finishExchange ⟨found, .inr ⟨rfl, overdue, rfl⟩⟩
      · exact idle
    · exact idle
  | inbound caller request =>
    simp only [act]
    split
    · rename_i taken
      exact .queued taken (.inl ⟨caller, request, rfl, rfl⟩)
    · exact .idle [(caller, request)]
  | cancel =>
    simp only [act]
    split
    · rename_i taken
      exact .queued taken (.inr ⟨rfl, rfl⟩)
    · exact idle
  | finishRead place =>
    simp only [act]
    split
    · rename_i caller response waits
      exact .read waits
    · exact idle

end Run

end FirmwareAgent
