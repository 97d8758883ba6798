import FirmwareAgent.Proofs.Run.History
import FirmwareAgent.Proofs.Session.Plan

/-!
# What a run waits for

A session that has not ended waits for exactly one thing: for its next step, which it has queued for
itself, for the outcome of its command, or for the target to work on a component. Two of these at
once would drive the update twice, none of them would stall it.

* `Run.Sound` is the invariant. `sound_settle` is its step for an event, `Sound.act` for any action,
  and `sound_through` says that it holds at all times.
* `progresses_through`: the result, with what follows from it for the events of a run.
-/

namespace FirmwareAgent

/-! ## What drives a run -/

/-- Whether an event is the step that a session queued for itself. -/
def Event.isProceed : Event → Bool
  | proceed => true
  | _ => false

/-- The token of the exchange whose outcome an event reports. -/
def Event.token? : Event → Option Nat
  | response token _ => some token
  | _ => none

namespace Run

/-- The number of steps that a run has queued. -/
def steps (run : Run) : Nat :=
  run.inbox.countP Event.isProceed

/-- The tokens of the exchanges under way and of the outcomes that wait in the inbox. -/
def flight (run : Run) : List (Option Nat) :=
  run.exchanges.map (·.token) ++ (run.inbox.filterMap Event.token?).map some

/-- The session has queued its next step, and no command is under way. -/
structure IsDue (run : Run) : Prop where
  state : (∃ position, run.session.state = .passingComponentTable position) ∨
    (∃ position, run.session.state = .updatingComponent position) ∨
    run.session.state = .activatingFirmware
  steps : run.steps = 1
  free : run.session.pending = none

/-- The command of the state is under way, or its outcome waits in the inbox. -/
structure IsUnderWay (run : Run) : Prop where
  command : ∃ pending, run.session.pending = some pending ∧
    run.session.state.command? = some pending.command ∧
    run.flight.count (some pending.token) = 1
  steps : run.steps = 0

/-- The target works on a component, and its silence is timed. -/
structure IsWithTarget (run : Run) : Prop where
  state : ∃ position, run.session.state = .awaitingComponentOutcome position
  timed : run.session.outcomeDeadline.isSome = true
  free : run.session.pending = none
  steps : run.steps = 0

/-- Exactly one thing drives the run. -/
def HasOneDriver (run : Run) : Prop :=
  run.IsDue ∧ ¬ run.IsUnderWay ∧ ¬ run.IsWithTarget ∨
  run.IsUnderWay ∧ ¬ run.IsDue ∧ ¬ run.IsWithTarget ∨
  run.IsWithTarget ∧ ¬ run.IsDue ∧ ¬ run.IsUnderWay

/-- What drives a running session, with all that is known about each driver. -/
inductive Driven (run : Run) : Prop
  | due {command : Command} (own : run.session.state.command? = some command)
      (later : command ≠ .requestUpdate) (free : run.session.pending = none)
      (untimed : run.session.outcomeDeadline = none) (steps : run.steps = 1)
      (flight : run.flight = [])
  | underWay {pending : PendingCommand} (slot : run.session.pending = some pending)
      (own : run.session.state.command? = some pending.command)
      (untimed : run.session.outcomeDeadline = none) (steps : run.steps = 0)
      (flight : run.flight = [some pending.token])
      (carried : ∀ exchange ∈ run.exchanges,
        exchange.command = pending.command ∧ exchange.lease = pending.lease)
  | withTarget {position : Nat}
      (state : run.session.state = .awaitingComponentOutcome position)
      (free : run.session.pending = none) (timed : run.session.outcomeDeadline.isSome = true)
      (steps : run.steps = 0) (flight : run.flight = [])

/-- What holds of a run at all times. -/
inductive Sound (run : Run) : Prop
  /-- A run that has not started has nothing but what others put into its inbox. -/
  | waiting (status : run.status = .waiting)
      (fresh : run.session = { record := run.session.record }) (steps : run.steps = 0)
      (flight : run.flight = [])
  | running (status : run.status = .running)
      (inRange : run.session.state.InRange run.session.record.componentCount)
      (driven : run.Driven)
  /-- A run that is over has only exchanges and reads left. -/
  | stopped (closed : run.isOpen = false) (free : run.session.pending = none)
      (untimed : run.session.outcomeDeadline = none) (empty : run.inbox = [])
      (terminal : run.status = .ended → run.session.state.isTerminal = true)

/-! ## The driver that an event uses up -/

section

variable {run : Run} {inbox : List Event}

theorem Driven.live (driven : run.Driven) : run.session.state.isTerminal = false := by
  cases driven with
  | due own | underWay slot own => exact SessionState.live_of_command? own
  | withTarget state =>
    rw [state]
    rfl

/-- A step that is handled was the driver. -/
theorem Driven.proceed (driven : { run with inbox := .proceed :: inbox }.Driven) :
    (∃ command, run.session.state.command? = some command) ∧ run.session.pending = none ∧
      run.session.outcomeDeadline = none ∧ { run with inbox := inbox }.steps = 0 ∧
      { run with inbox := inbox }.flight = [] := by
  cases driven with
  | due own later free untimed steps flight =>
    simp only [Run.steps, List.countP_cons, Event.isProceed, if_true] at steps
    exact ⟨⟨_, own⟩, free, untimed, by simpa [Run.steps] using steps, flight⟩
  | underWay slot own untimed steps | withTarget state free timed steps =>
    simp [Run.steps, Event.isProceed] at steps

/-- An outcome that is handled was the driver: it is that of the pending command, which belongs to
the state. -/
theorem Driven.response {token : Nat} {outcome : Except UpdateError Response}
    (driven : { run with inbox := .response token outcome :: inbox }.Driven) :
    ∃ pending, run.session.Awaits token pending ∧
      run.session.state.command? = some pending.command ∧ run.session.outcomeDeadline = none ∧
      { run with inbox := inbox }.steps = 0 ∧ { run with inbox := inbox }.flight = [] := by
  cases driven with
  | due own later free untimed steps flight | withTarget state free timed steps flight =>
    simp [Run.flight, Event.token?] at flight
  | @underWay pending slot own untimed steps flight =>
    have flight : run.exchanges.map (·.token) ++
        some token :: (inbox.filterMap Event.token?).map some = [some pending.token] := flight
    obtain ⟨sent, arrived⟩ | ⟨_, arrived⟩ := List.append_eq_singleton_iff.mp flight
    · obtain ⟨token_eq, rest⟩ := List.cons_eq_cons.mp arrived
      refine ⟨pending, ⟨slot, (Option.some.inj token_eq).symm⟩, own, untimed, steps, ?_⟩
      simp only [Run.flight, sent, rest, List.append_nil]
    · cases arrived

/-- What drives a run is told by its session, its queued steps and its exchanges and outcomes. -/
theorem Driven.of_eq {after : Run} (driven : run.Driven) (session : after.session = run.session)
    (steps_eq : after.steps = run.steps) (flight_eq : after.flight = run.flight)
    (exchanges : after.exchanges = run.exchanges) : after.Driven := by
  cases driven with
  | due own later free untimed steps flight =>
    exact .due (session ▸ own) later (session ▸ free) (session ▸ untimed) (steps_eq.trans steps)
      (flight_eq.trans flight)
  | underWay slot own untimed steps flight carried =>
    exact .underWay (session ▸ slot) (session ▸ own) (session ▸ untimed) (steps_eq.trans steps)
      (flight_eq.trans flight) (exchanges ▸ carried)
  | withTarget state free timed steps flight =>
    exact .withTarget (session ▸ state) (session ▸ free) (session ▸ timed) (steps_eq.trans steps)
      (flight_eq.trans flight)

/-- An event that is neither a step nor an outcome leaves the driver alone. -/
theorem Driven.other {event : Event} (driven : { run with inbox := event :: inbox }.Driven)
    (step : event.isProceed = false) (token : event.token? = none) :
    { run with inbox := inbox }.Driven :=
  driven.of_eq rfl (by simp [Run.steps, step]) (by simp [Run.flight, token]) rfl

end

/-! ## The driver that a turn leaves behind -/

section

variable {context : SessionContext} {now : Instant} {run : Run} {turn : Turn}

/-- A turn adds the steps that it schedules. -/
theorem steps_settle (calm : turn.IsCalm)
    (live : turn.session.state.isTerminal = false) :
    (run.settle context now turn).run.steps =
      run.steps + (turn.effects.filterMap Effect.event?).countP Event.isProceed := by
  rw [steps, (settle_continues context now run calm live).1.inbox, List.countP_append, steps]

/-- A turn adds the exchanges that it puts under way. -/
theorem flight_settle (calm : turn.IsCalm)
    (live : turn.session.state.isTerminal = false) (flight : run.flight = []) :
    (run.settle context now turn).run.flight =
      (turn.effects.filterMap (Effect.exchange? context now)).map (·.token) := by
  obtain ⟨sent, arrived⟩ := List.append_eq_nil_iff.mp flight
  have none_arrives : (turn.effects.filterMap Effect.event?).filterMap Event.token? = [] := by
    rw [List.filterMap_eq_nil_iff]
    intro event mem
    obtain ⟨effect, -, queued⟩ := List.mem_filterMap.mp mem
    cases effect <;> cases queued
    rfl
  rw [Run.flight, exchanges_settle, (settle_continues context now run calm live).1.inbox,
    List.map_append, sent, List.filterMap_append, none_arrives, List.append_nil, arrived,
    List.append_nil]
  rfl

/-- A run whose session has ended is over. -/
theorem sound_settle_ends (running : run.status = .running)
    (calm : turn.IsCalm)
    (terminal : turn.session.state.isTerminal = true) (free : turn.session.pending = none)
    (untimed : turn.session.outcomeDeadline = none) :
    (run.settle context now turn).run.Sound := by
  obtain ⟨session, status, inbox, _⟩ := settle_ends context now run calm running terminal
  exact .stopped (by simp [isOpen, status]) (by rw [session, free]) (by rw [session, untimed]) inbox
    fun _ => by rw [session, terminal]

/-- A run whose session breaks down is over. -/
theorem sound_settle_crash {asked : Option (Caller × Request)}
    (crash : turn.effects = [.crash asked]) : (run.settle context now turn).run.Sound := by
  obtain ⟨session, status, inbox, _⟩ := settle_crash context now run crash
  exact .stopped (by simp [isOpen, status]) (by rw [session]) (by rw [session]) inbox
    fun ended => by simp [status] at ended

variable (running : run.status = .running)
  (inRange : turn.session.state.InRange turn.session.record.componentCount)
  (quiet : run.steps = 0) (flight : run.flight = [])

include running inRange quiet flight

/-- A turn that schedules the next step leaves it due. -/
theorem sound_settle_due {command : Command}
    (calm : turn.IsCalm)
    (own : turn.session.state.command? = some command) (later : command ≠ .requestUpdate)
    (free : turn.session.pending = none) (untimed : turn.session.outcomeDeadline = none)
    (queued : turn.effects.filterMap Effect.event? = [.proceed])
    (unsent : turn.effects.filterMap (Effect.exchange? context now) = []) :
    (run.settle context now turn).run.Sound := by
  have live := SessionState.live_of_command? own
  obtain ⟨session, status, _⟩ := (settle_continues context now run calm live).1
  refine .running (status.trans running) (by rw [session]; exact inRange) ?_
  refine .due (by rw [session]; exact own) later (by rw [session, free]) (by rw [session, untimed])
    ?_ ?_
  · rw [steps_settle calm live, quiet, queued]
    rfl
  · rw [flight_settle calm live flight, unsent]
    rfl

/-- A turn that sends the command of the state leaves it under way. -/
theorem sound_settle_underWay {pending : PendingCommand} {request : Request}
    (effects : turn.effects = [.submit pending.token pending.command pending.lease request])
    (slot : turn.session.pending = some pending)
    (own : turn.session.state.command? = some pending.command)
    (untimed : turn.session.outcomeDeadline = none) :
    (run.settle context now turn).run.Sound := by
  have live := SessionState.live_of_command? own
  have calm : turn.IsCalm := by simp [Turn.IsCalm, effects, Effect.isCrash]
  obtain ⟨session, status, _⟩ := (settle_continues context now run calm live).1
  have sent : run.exchanges = [] := List.map_eq_nil_iff.mp (List.append_eq_nil_iff.mp flight).1
  refine .running (status.trans running) (by rw [session]; exact inRange) ?_
  refine .underWay (by rw [session, slot]) (by rw [session]; exact own) (by rw [session, untimed])
    ?_ ?_ ?_
  · rw [steps_settle calm live, quiet, effects]
    rfl
  · rw [flight_settle calm live flight, effects]
    rfl
  · intro exchange mem
    rw [exchanges_settle, sent, effects] at mem
    simp only [List.nil_append, List.filterMap_cons, Effect.exchange?, List.filterMap_nil,
      List.mem_singleton] at mem
    simp [mem]

/-- A turn that leaves a component to the target and times it waits for the target. -/
theorem sound_settle_withTarget {position : Nat} (effects : turn.effects = [])
    (state : turn.session.state = .awaitingComponentOutcome position)
    (free : turn.session.pending = none) (timed : turn.session.outcomeDeadline.isSome = true) :
    (run.settle context now turn).run.Sound := by
  have live : turn.session.state.isTerminal = false := by rw [state]; rfl
  have calm : turn.IsCalm := by simp [Turn.IsCalm, effects]
  obtain ⟨session, status, _⟩ := (settle_continues context now run calm live).1
  refine .running (status.trans running) (by rw [session]; exact inRange) ?_
  refine .withTarget (by rw [session, state]) (by rw [session, free]) (by rw [session, timed]) ?_ ?_
  · rw [steps_settle calm live, quiet, effects]
    rfl
  · rw [flight_settle calm live flight, effects]
    rfl

end

/-! ## The invariant -/

section

variable {context : SessionContext} {now : Instant} {pool : InstanceIdPool} {run : Run}
  {turn : Turn}

/-- A deadline that a target's request moves is one that was set already. -/
theorem deadlineAfter?_eq_some {session : Session} {request : Request} {deadline : Option Instant}
    (rearmed : session.deadlineAfter? context now request = some deadline) :
    deadline = session.outcomeDeadline ∨
      deadline.isSome = true ∧ ∃ position, session.state = .awaitingComponentOutcome position := by
  have of_rearmed (shown : session.rearmedDeadline? context now = some deadline) :
      deadline = session.outcomeDeadline ∨ deadline.isSome = true ∧
        ∃ position, session.state = .awaitingComponentOutcome position := by
    unfold Session.rearmedDeadline? at shown
    split at shown
    · rename_i position state
      obtain ⟨reading, _, rfl⟩ := Option.map_eq_some_iff.mp shown
      exact .inr ⟨rfl, position, state⟩
    · exact .inl (Option.some.inj shown).symm
  unfold Session.deadlineAfter? at rearmed
  cases disposed : session.dispose request with
  | refuse | packageData =>
    rw [disposed] at rearmed
    exact .inl (Option.some.inj rearmed).symm
  | _ =>
    rw [disposed] at rearmed
    exact of_rearmed rearmed

/-- A turn that moves at most the deadline leaves the driver alone. -/
theorem sound_settle_kept {deadline : Option Instant} (running : run.status = .running)
    (inRange : run.session.state.InRange run.session.record.componentCount)
    (driven : run.Driven)
    (session_eq : turn.session = { run.session with outcomeDeadline := deadline })
    (moved : deadline = run.session.outcomeDeadline ∨
      deadline.isSome = true ∧ ∃ position, run.session.state = .awaitingComponentOutcome position)
    (calm : turn.IsCalm)
    (unqueued : turn.effects.filterMap Effect.event? = [])
    (unsent : turn.effects.filterMap (Effect.exchange? context now) = []) :
    (run.settle context now turn).run.Sound := by
  have live : turn.session.state.isTerminal = false := by
    rw [session_eq]
    exact driven.live
  have exchanges : (run.settle context now turn).run.exchanges = run.exchanges := by
    rw [exchanges_settle, unsent, List.append_nil]
  obtain ⟨session, status, inbox⟩ := (settle_continues context now run calm live).1
  rw [unqueued, List.append_nil] at inbox
  have steps_eq : (run.settle context now turn).run.steps = run.steps := by rw [steps, inbox, steps]
  have flight_eq : (run.settle context now turn).run.flight = run.flight := by
    rw [flight, exchanges, inbox, flight]
  rw [session_eq] at session
  refine .running (status.trans running) (by rw [session]; exact inRange) ?_
  cases driven with
  | due own later free untimed steps flight =>
    have deadline_eq : deadline = none := by
      rcases moved with rfl | ⟨_, position, state⟩
      · exact untimed
      · simp [state, SessionState.command?] at own
    exact .due (by rw [session]; exact own) later (by rw [session]; exact free)
      (by rw [session, deadline_eq]) (by rw [steps_eq, steps]) (by rw [flight_eq, flight])
  | underWay slot own untimed steps flight carried =>
    have deadline_eq : deadline = none := by
      rcases moved with rfl | ⟨_, position, state⟩
      · exact untimed
      · simp [state, SessionState.command?] at own
    exact .underWay (by rw [session]; exact slot) (by rw [session]; exact own)
      (by rw [session, deadline_eq]) (by rw [steps_eq, steps]) (by rw [flight_eq, flight])
      (by rw [exchanges]; exact carried)
  | withTarget state free timed steps flight =>
    have set : deadline.isSome = true := by
      rcases moved with rfl | ⟨set, _⟩
      · exact timed
      · exact set
    exact .withTarget (by rw [session]; exact state) (by rw [session]; exact free)
      (by rw [session, set]) (by rw [steps_eq, steps]) (by rw [flight_eq, flight])

/-- A session that gives up ends its run. -/
theorem sound_settle_fail {session : Session} {reason : UpdateError}
    (running : run.status = .running) (live : session.state.isTerminal = false) :
    (run.settle context now (Turn.fail context now reason ⟨session, pool, []⟩)).run.Sound := by
  have given_up := Turn.session_fail context now reason ⟨session, pool, []⟩ live
  exact sound_settle_ends running (Turn.isCalm_fail live) (by rw [given_up]; rfl)
    (by rw [given_up]; rfl) (by rw [given_up]; rfl)

/-- Handling an event keeps a run sound. -/
theorem sound_settle {event : Event} {inbox : List Event} (running : run.status = .running)
    (inRange : run.session.state.InRange run.session.record.componentCount)
    (driven : { run with inbox := event :: inbox }.Driven)
    (reaction : Reaction context now run.session pool event turn) :
    ({ run with inbox := inbox }.settle context now turn).run.Sound := by
  have live : run.session.state.isTerminal = false := driven.live
  have inRange_turn : turn.session.state.InRange turn.session.record.componentCount := by
    rw [reaction.record_eq live]
    exact reaction.inRange live inRange
  -- The event uses up the driver that it stands for. A reaction leaves a driver of its own, or the
  -- run ends with it.
  cases reaction with
  | ignored idle =>
    cases event with
    | proceed =>
      obtain ⟨⟨command, own⟩, _⟩ := driven.proceed
      simp [Session.Ignores, own] at idle
    | response token outcome =>
      obtain ⟨pending, awaited, _⟩ := driven.response
      exact absurd awaited (idle pending)
    | inbound | cancel => cases idle
    | outcomeTimeout =>
      exact sound_settle_kept running inRange (driven.other rfl rfl) rfl (.inl rfl)
        (by simp [Turn.IsCalm]) rfl rfl
  | failed cause => exact sound_settle_fail running live
  | submitted due acquired =>
    obtain ⟨_, free, untimed, quiet, flight⟩ := driven.proceed
    exact sound_settle_underWay running inRange_turn quiet flight rfl rfl
      (Session.command?_of_nextDraft? due) untimed
  | acknowledged awaited own granted next_eq =>
    obtain ⟨pending, _, _, _, quiet, flight⟩ := driven.response
    obtain ⟨command, next_own, later⟩ := SessionState.command?_of_acknowledged? next_eq
    exact sound_settle_due running inRange_turn quiet flight
      (by simp [Turn.IsCalm, Effect.isCrash]) next_own later rfl rfl rfl rfl
  | accepted awaited state =>
    obtain ⟨pending, _, _, _, quiet, flight⟩ := driven.response
    exact sound_settle_withTarget running inRange_turn quiet flight rfl rfl rfl rfl
  | untimed | brokeDown | overran => exact sound_settle_crash rfl
  | declined awaited state =>
    obtain ⟨pending, _, _, _, quiet, flight⟩ := driven.response
    obtain ⟨command, next_own, later⟩ := SessionState.command?_afterComponent
      run.session.record.componentCount
    exact sound_settle_due running inRange_turn quiet flight
      (by simp [Turn.IsCalm, Effect.isCrash]) next_own later rfl rfl rfl rfl
  | activated => exact sound_settle_ends running (by simp [Turn.IsCalm, Effect.isCrash]) rfl rfl rfl
  | answered rearmed | deferred rearmed =>
    exact sound_settle_kept running inRange (driven.other rfl rfl) rfl
      (deadlineAfter?_eq_some rearmed) (by simp [Turn.IsCalm, Effect.isCrash]) rfl rfl
  | finished state =>
    have target := driven.other rfl rfl
    cases target with
    | due own | underWay slot own => simp [state, SessionState.command?] at own
    | withTarget _ free _ quiet flight =>
      obtain ⟨command, next_own, later⟩ := SessionState.command?_afterComponent
        run.session.record.componentCount
      exact sound_settle_due running inRange_turn quiet flight
        (by simp [Turn.IsCalm, Effect.isCrash]) next_own later free rfl rfl rfl

/-- A session that has just started is driven by the step of its first state. -/
theorem sound_start (running : run.status = .running)
    (fresh : run.session = { record := run.session.record }) (quiet : run.steps = 0)
    (flight : run.flight = []) :
    (run.settle context now (Turn.start context now ⟨run.session, pool, []⟩)).run.Sound := by
  have live : run.session.state.isTerminal = false := by
    rw [fresh]
    rfl
  have free : run.session.pending = none := by rw [fresh]
  rcases start_cases context now run.session pool with
    ⟨reason, refused, started⟩ | ⟨checked, reaction⟩
  · rw [started]
    exact sound_settle_fail running live
  have positive := componentCount_pos_of_checkRecord checked
  generalize Turn.start context now ⟨run.session, pool, []⟩ = turn at reaction ⊢
  cases reaction with
  | ignored idle => cases idle
  | failed cause => exact sound_settle_fail running rfl
  | submitted due acquired =>
    exact sound_settle_underWay running (.of_position?_eq_none positive rfl) quiet flight rfl rfl
      (Session.command?_of_nextDraft? due) rfl

/-- The event that is handled next is at the head of an inbox with the same driver. -/
theorem Driven.next {action : RunAction} {event : Event} {inbox : List Event}
    (driven : run.Driven) (next : run.next? now action = some (event, inbox)) :
    { run with inbox := event :: inbox }.Driven := by
  obtain ⟨_, ⟨_, queue⟩ | ⟨_, _, rfl, rfl⟩⟩ := next?_eq_some.mp next
  · rw [← queue]
    exact driven
  · exact driven.of_eq rfl rfl rfl rfl

theorem mem_flight {token : Option Nat} {exchange : Exchange}
    (found : run.exchange? token = some exchange) : exchange.token ∈ run.flight :=
  List.mem_append_left _ (List.mem_map_of_mem (List.mem_of_find?_eq_some found))

/-- The exchange of a running session is the only one, and it is that of the pending command. -/
theorem Driven.only_exchange {exchange : Exchange} (driven : run.Driven)
    (found : exchange ∈ run.exchanges) :
    run.exchanges = [exchange] ∧ run.inbox.filterMap Event.token? = [] ∧
      ∃ pending, run.session.pending = some pending ∧
        run.session.state.command? = some pending.command ∧
        run.session.outcomeDeadline = none ∧ run.steps = 0 ∧
        exchange.token = some pending.token := by
  have mem : exchange.token ∈ run.flight := List.mem_append_left _ (List.mem_map_of_mem found)
  cases driven with
  | due own later free untimed steps flight | withTarget state free timed steps flight =>
    rw [flight] at mem
    cases mem
  | @underWay pending slot own untimed steps flight carried =>
    obtain ⟨unsent, _⟩ | ⟨sent, none_arrived⟩ := List.append_eq_singleton_iff.mp flight
    · rw [List.map_eq_nil_iff.mp unsent] at found
      cases found
    · obtain ⟨other, only, other_eq⟩ := List.map_eq_singleton_iff.mp sent
      rw [only, List.mem_singleton] at found
      subst found
      exact ⟨only, List.map_eq_nil_iff.mp none_arrived, pending, slot, own, untimed, steps,
        other_eq⟩

/-- When the exchange of the command under way ends, its outcome takes its place. -/
theorem Driven.returned {token : Nat} {exchange : Exchange}
    {outcome : Except UpdateError Response} (driven : run.Driven)
    (token_eq : exchange.token = some token) (found : exchange ∈ run.exchanges) :
    { run.without exchange with
      inbox := run.inbox ++ [Event.response token outcome] }.Driven := by
  obtain ⟨only, none_arrived, pending, slot, own, untimed, steps, exchange_eq⟩ :=
    driven.only_exchange found
  have none_left : run.exchanges.filter (·.token != exchange.token) = [] := by simp [only]
  refine .underWay slot own untimed ?_ ?_ ?_
  · simpa [Run.steps, Event.isProceed] using steps
  · simp only [Run.flight, without, none_left, List.filterMap_append, List.map_append, none_arrived]
    rw [← exchange_eq, token_eq]
    rfl
  · simp [without, none_left]

theorem Sound.fresh (sound : run.Sound) (waiting : run.status = .waiting) :
    run.session = { record := run.session.record } ∧ run.steps = 0 ∧ run.flight = [] := by
  cases sound with
  | waiting _ fresh quiet flight => exact ⟨fresh, quiet, flight⟩
  | running status => simp [waiting] at status
  | stopped closed => simp [isOpen, waiting] at closed

theorem Sound.driven (sound : run.Sound) (running : run.status = .running) :
    run.session.state.InRange run.session.record.componentCount ∧ run.Driven := by
  cases sound with
  | waiting status => simp [running] at status
  | running _ inRange driven => exact ⟨inRange, driven⟩
  | stopped closed => simp [isOpen, running] at closed

/-- A session at work has not ended. -/
theorem Sound.live (sound : run.Sound) (running : run.status = .running) :
    run.session.state.isTerminal = false :=
  (sound.driven running).2.live

/-- An open run has at most the exchange of its pending command under way. -/
theorem Sound.only_exchange {exchange : Exchange} (sound : run.Sound) (taken : run.isOpen = true)
    (found : exchange ∈ run.exchanges) :
    run.status = .running ∧ run.exchanges = [exchange] ∧
      ∃ pending, run.session.pending = some pending ∧ exchange.token = some pending.token := by
  cases sound with
  | waiting status fresh quiet flight =>
    rw [List.map_eq_nil_iff.mp (List.append_eq_nil_iff.mp flight).1] at found
    cases found
  | running status inRange driven =>
    obtain ⟨only, _, pending, slot, _, _, _, token⟩ := driven.only_exchange found
    exact ⟨status, only, pending, slot, token⟩
  | stopped closed => simp [closed] at taken

/-- The exchange of an open run has the lease of the pending command. -/
theorem Sound.carried {exchange : Exchange} (sound : run.Sound) (taken : run.isOpen = true)
    (found : exchange ∈ run.exchanges) :
    ∃ pending, run.session.pending = some pending ∧ exchange.lease = pending.lease := by
  obtain ⟨running, _⟩ := sound.only_exchange taken found
  cases (sound.driven running).2 with
  | due own later free untimed steps flight | withTarget state free timed steps flight =>
    rw [List.map_eq_nil_iff.mp (List.append_eq_nil_iff.mp flight).1] at found
    cases found
  | underWay slot own untimed steps flight carried => exact ⟨_, slot, (carried exchange found).2⟩

/-- Whatever an action does to a run, the run stays sound. -/
theorem Sound.act {action : RunAction} (sound : run.Sound) :
    (run.act context now pool action).run.Sound := by
  generalize applied : run.act context now pool action = step
  have change : Change context now pool run action step := applied ▸ change_act sound.live
  cases change with
  | idle => exact sound
  | began waiting =>
    obtain ⟨fresh, quiet, flight⟩ := sound.fresh waiting
    exact sound_start rfl fresh quiet flight
  | turned running next reaction =>
    obtain ⟨inRange, driven⟩ := sound.driven running
    exact sound_settle running inRange (driven.next next) reaction
  | returned taken token_eq ends =>
    cases sound with
    | waiting status fresh quiet flight =>
      have mem := mem_flight ends.found
      rw [flight] at mem
      cases mem
    | running status inRange driven =>
      exact .running status inRange
        (driven.returned token_eq (List.mem_of_find?_eq_some ends.found))
    | stopped closed => simp [closed] at taken
  | lost closed token_eq ends =>
    cases sound with
    | waiting status | running status => simp [isOpen, status] at closed
    | stopped _ free untimed empty terminal => exact .stopped closed free untimed empty terminal
  | withdrawn token_eq ends =>
    cases sound with
    | waiting status fresh quiet flight =>
      have mem := mem_flight ends.found
      rw [flight] at mem
      cases mem
    | running status inRange driven =>
      obtain ⟨_, _, pending, _, _, _, _, exchange_eq⟩ :=
        driven.only_exchange (List.mem_of_find?_eq_some ends.found)
      cases token_eq.symm.trans exchange_eq
    | stopped closed free untimed empty terminal => exact .stopped closed free untimed empty terminal
  | @queued _ event taken arrival =>
    have step : event.isProceed = false := by
      rcases arrival with ⟨caller, request, _, rfl⟩ | ⟨_, rfl⟩ <;> rfl
    have token : event.token? = none := by
      rcases arrival with ⟨caller, request, _, rfl⟩ | ⟨_, rfl⟩ <;> rfl
    have steps_eq : { run with inbox := run.inbox ++ [event] }.steps = run.steps := by
      simp [Run.steps, step]
    have flight_eq : { run with inbox := run.inbox ++ [event] }.flight = run.flight := by
      simp [Run.flight, token]
    cases sound with
    | waiting status fresh quiet flight =>
      exact .waiting status fresh (steps_eq.trans quiet) (flight_eq.trans flight)
    | running status inRange driven =>
      exact .running status inRange (driven.of_eq rfl steps_eq flight_eq rfl)
    | stopped closed => simp [closed] at taken
  | read waits =>
    cases sound with
    | waiting status fresh quiet flight => exact .waiting status fresh quiet flight
    | running status inRange driven => exact .running status inRange (driven.of_eq rfl rfl rfl rfl)
    | stopped closed free untimed empty terminal => exact .stopped closed free untimed empty terminal

end

/-! ## What follows from it -/

section

variable {context : SessionContext} {now : Instant} {pool : InstanceIdPool} {run : Run}

theorem IsDue.not_underWay (due : run.IsDue) : ¬ run.IsUnderWay := fun underWay =>
  Nat.one_ne_zero (due.steps.symm.trans underWay.steps)

theorem IsDue.not_withTarget (due : run.IsDue) : ¬ run.IsWithTarget := fun withTarget =>
  Nat.one_ne_zero (due.steps.symm.trans withTarget.steps)

theorem IsUnderWay.not_withTarget (underWay : run.IsUnderWay) : ¬ run.IsWithTarget := by
  intro withTarget
  obtain ⟨pending, slot, _⟩ := underWay.command
  simp [withTarget.free] at slot

theorem Driven.hasOneDriver (driven : run.Driven) : run.HasOneDriver := by
  cases driven with
  | due own later free untimed steps flight =>
    have state : (∃ position, run.session.state = .passingComponentTable position) ∨
        (∃ position, run.session.state = .updatingComponent position) ∨
        run.session.state = .activatingFirmware := by
      rcases SessionState.command?_eq_some.mp own with
        ⟨_, first⟩ | ⟨position, state, _⟩ | ⟨position, state, _⟩ | ⟨state, _⟩
      · exact absurd first later
      · exact .inl ⟨position, state⟩
      · exact .inr (.inl ⟨position, state⟩)
      · exact .inr (.inr state)
    have due : run.IsDue := ⟨state, steps, free⟩
    exact .inl ⟨due, due.not_underWay, due.not_withTarget⟩
  | @underWay pending slot own untimed steps flight =>
    have underWay : run.IsUnderWay := ⟨⟨pending, slot, own, by simp [flight]⟩, steps⟩
    exact .inr (.inl ⟨underWay, fun due => due.not_underWay underWay, underWay.not_withTarget⟩)
  | withTarget state free timed steps flight =>
    have withTarget : run.IsWithTarget := ⟨⟨_, state⟩, timed, free, steps⟩
    exact .inr (.inr ⟨withTarget, fun due => due.not_withTarget withTarget,
      fun underWay => underWay.not_withTarget withTarget⟩)

/-- A running session is timed exactly while it waits for the target. -/
theorem Driven.timed_iff (driven : run.Driven) : run.session.outcomeDeadline.isSome = true ↔
    ∃ position, run.session.state = .awaitingComponentOutcome position := by
  cases driven with
  | due own later free untimed | underWay slot own untimed =>
    refine ⟨fun timed => by simp [untimed] at timed, ?_⟩
    rintro ⟨position, state⟩
    simp [state, SessionState.command?] at own
  | withTarget state free timed => exact ⟨fun _ => ⟨_, state⟩, fun _ => timed⟩

/-- So is a session at any time, as long as it has not broken down. -/
theorem Sound.timed_iff (sound : run.Sound) (intact : run.status ≠ .crashed) :
    run.session.outcomeDeadline.isSome = true ↔
      ∃ position, run.session.state = .awaitingComponentOutcome position := by
  cases sound with
  | waiting status fresh =>
    rw [fresh]
    simp
  | running status inRange driven => exact driven.timed_iff
  | stopped closed free untimed empty terminal =>
    refine ⟨fun timed => by simp [untimed] at timed, ?_⟩
    rintro ⟨position, state⟩
    have ended : run.status = .ended := by
      cases status : run.status <;> simp_all [isOpen]
    simpa [state, SessionState.isTerminal] using terminal ended

/-- What holds of a run between any two of its events. A run that has broken down handles no
events any more. -/
structure Progresses (context : SessionContext) (run : Run) : Prop where
  /-- A session at work has not ended, and exactly one thing drives it. -/
  driver : run.status = .running → run.session.state.isTerminal = false ∧ run.HasOneDriver
  /-- The target's silence is timed while it is at work on a component, and only then. -/
  timed : run.status ≠ .crashed →
    (run.session.outcomeDeadline.isSome = true ↔
      ∃ position, run.session.state = .awaitingComponentOutcome position)
  /-- The timer runs out only while it is set for a component, so that a session never has to
  ignore it. -/
  timer : ∀ now event inbox, run.next? now .expire = some (event, inbox) →
    event = .outcomeTimeout ∧ ∃ position, run.session.state = .awaitingComponentOutcome position
  /-- A step that is handled finds a request to send. -/
  step : ∀ now action inbox, run.next? now action = some (.proceed, inbox) →
    run.session.nextDraft? context ≠ none
  /-- An outcome that is handled is that of the pending command, and the command belongs to the
  state. -/
  outcome : ∀ now action token outcome inbox,
    run.next? now action = some (.response token outcome, inbox) →
      ∃ pending, run.session.Awaits token pending ∧
        run.session.state.command? = some pending.command
  /-- No response is ever out of turn. -/
  inTurn : ∀ now action token response inbox pool name place,
    run.next? now action = some (.response token (.ok response), inbox) →
      (Turn.handle context now (.response token (.ok response))
        ⟨run.session, pool, []⟩).session.state ≠ .failed (.decode name (.outOfTurn place))
  /-- A run ends only with its session, which it leaves completed or failed. -/
  ended : run.status = .ended →
    run.session.state = .completed ∨ ∃ reason, run.session.state = .failed reason

/-- Only a running session handles events. -/
theorem Sound.driven_of_next? {action : RunAction} {event : Event} {inbox : List Event}
    (sound : run.Sound) (next : run.next? now action = some (event, inbox)) :
    run.Driven ∧ { run with inbox := event :: inbox }.Driven := by
  have driven := (sound.driven (next?_eq_some.mp next).1).2
  exact ⟨driven, driven.next next⟩

/-- The command of the state is never out of turn. -/
theorem state_handle_ne_outOfTurn {session : Session} {token : Nat} {pending : PendingCommand}
    {response : Response} (awaited : session.Awaits token pending)
    (own : session.state.command? = some pending.command) (name place : String) :
    (Turn.handle context now (.response token (.ok response)) ⟨session, pool, []⟩).session.state ≠
      .failed (.decode name (.outOfTurn place)) := by
  have live := SessionState.live_of_command? own
  intro strayed
  have reaction := reaction_handle context now pool live (.response token (.ok response))
  rcases reaction.outcome live with goes_on | completed | ⟨reason, cause, failed⟩
  · simp [strayed, SessionState.isTerminal] at goes_on
  · cases strayed.symm.trans completed
  · cases strayed.symm.trans failed
    cases cause with
    | outOfTurn other stray =>
      obtain rfl := Option.some.inj (awaited.slot.symm.trans other.slot)
      exact stray own

theorem Sound.progresses (sound : run.Sound) : run.Progresses context where
  driver := by
    intro running
    exact ⟨sound.live running, (sound.driven running).2.hasOneDriver⟩
  timed := sound.timed_iff
  timer := by
    intro now event inbox next
    have driven := (sound.driven_of_next? next).1
    obtain ⟨_, ⟨handles, _⟩ | ⟨_, due, rfl, _⟩⟩ := next?_eq_some.mp next
    · cases handles
    · exact ⟨rfl, driven.timed_iff.mp (Option.isSome_of_any due)⟩
  step := by
    intro now action inbox next
    obtain ⟨⟨command, own⟩, _⟩ := (sound.driven_of_next? next).2.proceed
    rw [ne_eq, Session.nextDraft?_eq_none]
    simp [own]
  outcome := by
    intro now action token outcome inbox next
    obtain ⟨pending, awaited, own, _⟩ := (sound.driven_of_next? next).2.response
    exact ⟨pending, awaited, own⟩
  inTurn := by
    intro now action token response inbox pool name place next
    obtain ⟨pending, awaited, own, _⟩ := (sound.driven_of_next? next).2.response
    exact state_handle_ne_outOfTurn awaited own name place
  ended := by
    intro ended
    cases sound with
    | waiting status | running status => simp [status] at ended
    | stopped closed free untimed empty terminal =>
      cases state : run.session.state with
      | completed => exact .inl rfl
      | failed reason => exact .inr ⟨reason, rfl⟩
      | _ => simp [ended, state, SessionState.isTerminal] at terminal

end

end Run

/-! ## The turns of a sound run -/

/-- An action makes a session take a turn. The session is that of the run, put into its first state
if the run has just started. -/
structure Run.Goes (context : SessionContext) (now : Instant) (pool : InstanceIdPool) (run : Run)
    (step : RunStep) (session : Session) (turn : Turn) : Prop where
  taken : run.isOpen = true
  settled : ∃ before : Run, before.status = .running ∧ before.exchanges = run.exchanges ∧
    step = before.settle context now turn
  origin : session = run.session ∨ run.session = { record := run.session.record } ∧
    session = { record := run.session.record, state := .awaitingUpdateAck }
  live : session.state.isTerminal = false
  /-- The record is refused, or the session handles an event. -/
  turned : (∃ reason, turn = Turn.fail context now reason ⟨session, pool, []⟩) ∨
    ∃ event, Reaction context now session pool event turn ∧
      session.state.InRange session.record.componentCount ∧
      (event = .proceed → session.pending = none)

section

variable (context : SessionContext) (now : Instant) (pool : InstanceIdPool) {run : Run}

/-- A sound run that starts makes its session take a turn. -/
theorem goes_of_waiting (sound : run.Sound) (waiting : run.status = .waiting) :
    ∃ session turn, run.Goes context now pool
      ({ run with status := .running }.settle context now
        (Turn.start context now ⟨run.session, pool, []⟩)) session turn := by
  obtain ⟨fresh, _⟩ := sound.fresh waiting
  have taken : run.isOpen = true := by simp [Run.isOpen, waiting]
  have live : run.session.state.isTerminal = false := by
    rw [fresh]
    rfl
  rcases start_cases context now run.session pool with
    ⟨reason, _, failed⟩ | ⟨checked, reaction⟩
  · exact ⟨run.session, _, taken, ⟨{ run with status := .running }, rfl, rfl, rfl⟩, .inl rfl, live,
      .inl ⟨reason, failed⟩⟩
  · have inRange := SessionState.inRange_awaitingUpdateAck
      (componentCount_pos_of_checkRecord checked)
    have session_eq : { run.session with state := .awaitingUpdateAck, outcomeDeadline := none } =
        { record := run.session.record, state := .awaitingUpdateAck } := by rw [fresh]
    rw [session_eq] at reaction
    exact ⟨_, _, taken, ⟨{ run with status := .running }, rfl, rfl, rfl⟩, .inr ⟨fresh, rfl⟩, rfl,
      .inr ⟨.proceed, reaction, inRange, fun _ => rfl⟩⟩

variable {context now pool}

/-- A sound run that handles an event makes its session take a turn. -/
theorem goes_of_next? {action : RunAction} {event : Event} {inbox : List Event} {turn : Turn}
    (sound : run.Sound) (running : run.status = .running)
    (next : run.next? now action = some (event, inbox))
    (reaction : Reaction context now run.session pool event turn) :
    run.Goes context now pool ({ run with inbox := inbox }.settle context now turn)
      run.session turn := by
  obtain ⟨inRange, driven⟩ := sound.driven running
  have free (proceeds : event = .proceed) : run.session.pending = none := by
    subst proceeds
    exact (driven.next next).proceed.2.1
  exact ⟨by simp [Run.isOpen, running], ⟨{ run with inbox := inbox }, running, rfl, rfl⟩, .inl rfl,
    driven.live, .inr ⟨event, reaction, inRange, free⟩⟩

variable (context now pool run) in
/-- The session of a sound run is left alone, or it takes a turn. -/
theorem rests_or_goes (action : RunAction) (sound : run.Sound) :
    run.Rests (run.act context now pool action) ∨
      ∃ session turn, run.Goes context now pool (run.act context now pool action) session turn := by
  generalize applied : run.act context now pool action = step
  have change : Run.Change context now pool run action step := applied ▸ Run.change_act sound.live
  rcases change.rests_or_turns with
    rests | ⟨waiting, rfl⟩ | ⟨event, inbox, turn, running, next, reaction, rfl⟩
  · exact .inl rests
  · exact .inr (goes_of_waiting context now pool sound waiting)
  · exact .inr ⟨_, _, goes_of_next? sound running next reaction⟩

end

namespace Run.Goes

variable {context : SessionContext} {now : Instant} {pool : InstanceIdPool} {run : Run}
  {step : RunStep} {session : Session} {turn : Turn}

theorem orderly (goes : run.Goes context now pool step session turn) : turn.IsOrderly := by
  rcases goes.turned with ⟨reason, rfl⟩ | ⟨event, reaction, _⟩
  · exact .inl (Turn.isCalm_fail goes.live)
  · exact reaction.orderly goes.live

theorem record (goes : run.Goes context now pool step session turn) :
    session.record = run.session.record := by
  rcases goes.origin with rfl | ⟨_, rfl⟩ <;> rfl

theorem pending (goes : run.Goes context now pool step session turn) :
    session.pending = run.session.pending := by
  rcases goes.origin with rfl | ⟨fresh, rfl⟩
  · rfl
  · rw [fresh]

theorem record_turn (goes : run.Goes context now pool step session turn) :
    turn.session.record = session.record := by
  rcases goes.turned with ⟨reason, rfl⟩ | ⟨event, reaction, _⟩
  · rw [Turn.session_fail _ _ _ _ goes.live]
    rfl
  · exact reaction.record_eq goes.live

/-- A turn leaves its state and the record to the run. -/
theorem after (goes : run.Goes context now pool step session turn) :
    step.run.session.record = run.session.record ∧
      step.run.session.state = turn.session.state := by
  obtain ⟨before, running, _, rfl⟩ := goes.settled
  obtain ⟨record_eq, state_eq⟩ := state_settle context now running goes.orderly
  exact ⟨record_eq.trans (goes.record_turn.trans goes.record), state_eq⟩

/-- A run that is still open after a turn has its session as the turn left it. -/
theorem going_on (goes : run.Goes context now pool step session turn)
    (taken : step.run.isOpen = true) :
    turn.IsCalm ∧ turn.session.state.isTerminal = false ∧ step.run.session = turn.session := by
  obtain ⟨before, running, _, rfl⟩ := goes.settled
  obtain ⟨calm, live⟩ := calm_of_isOpen_settle running goes.orderly taken
  exact ⟨calm, live, (settle_continues context now before calm live).1.session⟩

end Run.Goes

/-- The record of a run never changes. -/
theorem record_act {context : SessionContext} {now : Instant} {pool : InstanceIdPool} {run : Run}
    {action : RunAction} (sound : run.Sound) :
    (run.act context now pool action).run.session.record = run.session.record := by
  rcases rests_or_goes context now pool run action sound with rests | ⟨session, turn, goes⟩
  · rw [rests.session]
  · exact goes.after.1

/-- A run that handles an event lets its session take the turn of the event. -/
theorem Run.meet_of_next? (context : SessionContext) {moment : Moment} {run : Run} {event : Event}
    {inbox : List Event} (next : run.next? moment.now moment.action = some (event, inbox)) :
    run.meet context moment = { run with inbox := inbox }.settle context moment.now
      (Turn.handle context moment.now event ⟨run.session, moment.pool, []⟩) := by
  obtain ⟨running, ⟨handles, queue⟩ | ⟨expires, due, rfl, rfl⟩⟩ := Run.next?_eq_some.mp next
  · unfold Run.meet Run.act
    rw [handles, running, queue]
    rfl
  · have timer : run.status = .running ∧
        run.session.outcomeDeadline.any (· ≤ moment.now) = true := ⟨running, due⟩
    rw [Run.meet, expires]
    exact if_pos timer

/-- What a moment does to a sound run: it lets the session rest, or it starts the session, or it
makes the session handle an event. -/
theorem meet_cases (context : SessionContext) (moment : Moment) {run : Run} (sound : run.Sound) :
    (run.next? moment.now moment.action = none ∧ run.Rests (run.meet context moment)) ∨
    (run.next? moment.now moment.action = none ∧ run.status = .waiting ∧
      run.session = { record := run.session.record } ∧
      run.meet context moment = { run with status := .running }.settle context moment.now
        (Turn.start context moment.now ⟨run.session, moment.pool, []⟩)) ∨
    ∃ event inbox turn, run.next? moment.now moment.action = some (event, inbox) ∧
      run.status = .running ∧
      Reaction context moment.now run.session moment.pool event turn ∧
      run.meet context moment = { run with inbox := inbox }.settle context moment.now turn := by
  have change : Run.Change context moment.now moment.pool run moment.action
    (run.meet context moment) := Run.change_act sound.live
  cases next : run.next? moment.now moment.action with
  | none =>
    rcases change.rests_or_turns with
      rests | ⟨waiting, met⟩ | ⟨event, inbox, turn, _, handled, _⟩
    · exact .inl ⟨rfl, rests⟩
    · exact .inr (.inl ⟨rfl, waiting, (sound.fresh waiting).1, met⟩)
    · cases next.symm.trans handled
  | some handled =>
    obtain ⟨event, inbox⟩ := handled
    have running := (Run.next?_eq_some.mp next).1
    exact .inr (.inr ⟨event, inbox, _, rfl, running,
      reaction_handle context moment.now moment.pool (sound.live running) event,
      Run.meet_of_next? context next⟩)

/-- A run whose session has ended is over. -/
theorem closed_of_terminal {run : Run} (sound : run.Sound)
    (terminal : run.session.state.isTerminal = true) : run.isOpen = false := by
  cases sound with
  | waiting status fresh =>
    rw [fresh] at terminal
    cases terminal
  | running status inRange driven =>
    rw [driven.live] at terminal
    cases terminal
  | stopped closed => exact closed

/-- Nothing moves a session whose run is over. -/
theorem rests_of_closed {context : SessionContext} {run : Run} {moment : Moment}
    (closed : run.isOpen = false) : run.Rests (run.meet context moment) := by
  have stopped (status : run.status = .waiting ∨ run.status = .running) : False := by
    rcases status with status | status <;> simp [Run.isOpen, status] at closed
  have change : Run.Change context moment.now moment.pool run moment.action
    (run.meet context moment) := Run.change_act fun running => (stopped (.inr running)).elim
  rcases change.rests_or_turns with rests | ⟨waiting, _⟩ | ⟨_, _, _, running, _⟩
  · exact rests
  · exact (stopped (.inl waiting)).elim
  · exact (stopped (.inr running)).elim

/-- A run is sound at all times, and its record is the one it was started for. -/
theorem sound_through (context : SessionContext) (record : DeviceRecord) (moments : List Moment) :
    (History.through context record moments).run.Sound ∧
      (History.through context record moments).run.session.record = record := by
  refine History.induct (motive := fun history =>
    history.run.Sound ∧ history.run.session.record = record) ?_ ?_ moments
  · exact ⟨.waiting rfl rfl rfl rfl, rfl⟩
  · rintro history moment ⟨sound, record_eq⟩
    exact ⟨sound.act, (record_act sound).trans record_eq⟩

end FirmwareAgent
