import FirmwareAgent.Session.Inbound

/-!
# What a session does with an event

`Reaction` lists everything that handling one event can do to a session that has not ended, each
with the circumstances under which it happens and with the turn that comes of it. `FailureCause`
lists the reasons to give an update up.

* `reaction_handle`: there is nothing else. What is to be shown of every event is shown by going
  through the list, without a look at how the turn is computed.
* `fail_cases`, `session_fail` and `effects_fail` say the same of giving up.
-/

namespace FirmwareAgent

/-! ## The vocabulary of reactions -/

/-- The command that belongs to a state: it is sent in the state, and its answer leads out of it. -/
def SessionState.command? : SessionState → Option Command
  | awaitingUpdateAck => some .requestUpdate
  | passingComponentTable _ => some .passComponentTable
  | updatingComponent _ => some .updateComponent
  | activatingFirmware => some .activateFirmware
  | _ => none

theorem SessionState.command?_eq_some {state : SessionState} {command : Command} :
    state.command? = some command ↔
      state = .awaitingUpdateAck ∧ command = .requestUpdate ∨
      (∃ position, state = .passingComponentTable position ∧ command = .passComponentTable) ∨
      (∃ position, state = .updatingComponent position ∧ command = .updateComponent) ∨
      state = .activatingFirmware ∧ command = .activateFirmware := by
  cases state <;> simp [command?, eq_comm]

/-- The state that follows the end of the component at a position. -/
def SessionState.afterComponent (count position : Nat) : SessionState :=
  if position + 1 < count then .updatingComponent (position + 1) else .activatingFirmware

/-- The state that an answer to RequestUpdate or PassComponentTable leads to. -/
def SessionState.acknowledged? (count : Nat) : SessionState → Option SessionState
  | awaitingUpdateAck => some (.passingComponentTable 0)
  | passingComponentTable position =>
    some (if position + 1 < count then .passingComponentTable (position + 1)
      else .updatingComponent 0)
  | _ => none

/-- The body of a successful answer to one of the agent's commands can be read. -/
def Command.ReadsAnswer : Command → Bytes → Prop
  | .requestUpdate, bytes => ∃ body, Body.decode RequestUpdateResponse bytes = .ok body
  | .passComponentTable, bytes => ∃ body, Body.decode PassComponentTableResponse bytes = .ok body
  | .updateComponent, bytes => ∃ body, Body.decode UpdateComponentResponse bytes = .ok body
  | .activateFirmware, bytes => ∃ body, Body.decode ActivateFirmwareResponse bytes = .ok body
  | _, _ => False

/-- A response grants a command: it carries the command's code, reports success and has a body that
can be read. -/
structure Response.Grants (response : Response) (command : Command) : Prop where
  answers : response.command = command.code
  succeeds : response.isSuccess = true
  readable : command.ReadsAnswer response.body

namespace Session

/-- The pending command is the one whose outcome has the token. -/
structure Awaits (session : Session) (token : Nat) (pending : PendingCommand) : Prop where
  slot : session.pending = some pending
  token : pending.token = token

/-- Whether an event tells the session that the target accepted RequestUpdate. -/
def entersUpdateMode (session : Session) : Event → Bool
  | .response token (.ok response) =>
    session.pending.any fun pending =>
      pending.token == token && pending.command == .requestUpdate
        && response.command == pending.command.code && response.isSuccess
  | _ => false

/-- The session once it knows what an event says about update mode. -/
def informed (session : Session) (event : Event) : Session :=
  { session with inUpdateMode := session.inUpdateMode || session.entersUpdateMode event }

/-- The session once the outcome of its pending command has arrived. -/
def settled (session : Session) (event : Event) : Session :=
  { session.informed event with pending := none }

/-- The pool once the pending command has given its id back. -/
def surrender (session : Session) (pool : InstanceIdPool) : InstanceIdPool :=
  session.pending.elim pool (pool.drop ·.lease)

/-- Whether an event finds nothing to do: no command belongs to the state, nobody waits for the
outcome, or no silence is timed. -/
def Ignores (session : Session) : Event → Prop
  | .proceed => session.state.command? = none
  | .response token _ => ∀ pending, ¬ session.Awaits token pending
  | .inbound .. => False
  | .outcomeTimeout => ∀ position, session.state ≠ .awaitingComponentOutcome position
  | .cancel => False

/-- The answer to a target's request. -/
def replyTo (context : SessionContext) (session : Session) (request : Request) : Reply :=
  match session.dispose request with
  | .refuse completionCode => .ready (request.refuse completionCode)
  | .packageData => .ready (session.servePackageData context request)
  | .firmwareData position => session.serveFirmwareData context position request
  | .transferComplete _ => .ready (acknowledge TransferCompleteRequest request)
  | .verifyComplete _ => .ready (acknowledge VerifyCompleteRequest request)
  | .applyComplete _ => .ready (acknowledge ApplyCompleteRequest request)

/-- The position of the component whose end a target's request reports, and whether it was
applied. -/
def reported? (session : Session) (request : Request) : Option (Nat × Bool) :=
  match session.dispose request with
  | .applyComplete position =>
    match Body.decode ApplyCompleteRequest request.payload with
    | .ok report => some (position, report.succeeded)
    | .error _ => none
  | _ => none

/-- The deadline once the target has shown that it is alive, if the clock can show it. -/
def rearmedDeadline? (context : SessionContext) (now : Instant) (session : Session) :
    Option (Option Instant) :=
  match session.state with
  | .awaitingComponentOutcome _ =>
    (now.after? context.clockEnd context.config.componentOutcomeTimeout).map some
  | _ => some session.outcomeDeadline

/-- The deadline after a request of the target. Only the requests about a component show that the
target is alive. -/
def deadlineAfter? (context : SessionContext) (now : Instant) (session : Session)
    (request : Request) : Option (Option Instant) :=
  match session.dispose request with
  | .refuse _ | .packageData => some session.outcomeDeadline
  | _ => session.rearmedDeadline? context now

end Session

/-- Why a session gives its update up when it handles an event. -/
inductive FailureCause (context : SessionContext) (now : Instant) (session : Session)
    (pool : InstanceIdPool) : Event → UpdateError → Prop
  /-- The request that is due cannot be written. -/
  | unwritable {error : UpdateError} (due : session.nextDraft? context = some (.error error)) :
      FailureCause context now session pool .proceed error
  /-- There is no instance id for the request that is due. -/
  | noId {draft : Draft} {error : UpdateError}
      (due : session.nextDraft? context = some (.ok draft))
      (refused : pool.acquire session.endpoint now = .error error) :
      FailureCause context now session pool .proceed error
  /-- The exchange failed. -/
  | undelivered {token : Nat} {pending : PendingCommand} {error : UpdateError}
      (awaited : session.Awaits token pending) :
      FailureCause context now session pool (.response token (.error error)) error
  /-- The response answers another command. -/
  | otherCommand {token : Nat} {pending : PendingCommand} {response : Response}
      (awaited : session.Awaits token pending)
      (other : response.command ≠ pending.command.code) :
      FailureCause context now session pool (.response token (.ok response))
        (.decode pending.command.name (.otherCommand response.command))
  /-- The target refused the command. -/
  | rejected {token : Nat} {pending : PendingCommand} {response : Response}
      (awaited : session.Awaits token pending)
      (answers : response.command = pending.command.code)
      (refused : response.isSuccess = false) :
      FailureCause context now session pool (.response token (.ok response))
        (.remote pending.command.name response.completionCode)
  /-- The body of the answer cannot be read. -/
  | unreadable {token : Nat} {pending : PendingCommand} {response : Response} {error : WireError}
      (awaited : session.Awaits token pending)
      (answers : response.command = pending.command.code)
      (succeeds : response.isSuccess = true)
      (unread : ¬ pending.command.ReadsAnswer response.body) :
      FailureCause context now session pool (.response token (.ok response))
        (.decode pending.command.name (.malformed error))
  /-- The command does not belong to the state. -/
  | outOfTurn {token : Nat} {pending : PendingCommand} {response : Response}
      (awaited : session.Awaits token pending)
      (stray : session.state.command? ≠ some pending.command) :
      FailureCause context now session pool (.response token (.ok response))
        (.decode pending.command.name (.outOfTurn session.state.describe))
  /-- The target was silent for too long. -/
  | silence {position : Nat} (state : session.state = .awaitingComponentOutcome position) :
      FailureCause context now session pool .outcomeTimeout
        (.timeout (.targetRequests (session.componentIndex position)))
  | cancelled : FailureCause context now session pool .cancel .cancelled

/-- Everything that handling an event can do to a session that has not ended. -/
inductive Reaction (context : SessionContext) (now : Instant) (session : Session)
    (pool : InstanceIdPool) : Event → Turn → Prop
  | ignored {event : Event} (idle : session.Ignores event) :
      Reaction context now session pool event ⟨session, pool, []⟩
  | failed {event : Event} {reason : UpdateError}
      (cause : FailureCause context now session pool event reason) :
      Reaction context now session pool event
        (Turn.fail context now reason ⟨session.informed event, pool, []⟩)
  /-- The command of the state goes out. -/
  | submitted {draft : Draft} {lease : Lease} {lent : InstanceIdPool}
      (due : session.nextDraft? context = some (.ok draft))
      (acquired : pool.acquire session.endpoint now = .ok (lease, lent)) :
      Reaction context now session pool .proceed
        ⟨{ session with
            pending := some ⟨session.nextToken, draft.command, lease⟩
            nextToken := session.nextToken + 1 },
          session.surrender lent,
          [.submit session.nextToken draft.command lease
            (.firmwareUpdate lease.id draft.command draft.payload)]⟩
  /-- RequestUpdate or PassComponentTable is granted. -/
  | acknowledged {token : Nat} {pending : PendingCommand} {response : Response}
      {next : SessionState} (awaited : session.Awaits token pending)
      (own : session.state.command? = some pending.command)
      (granted : response.Grants pending.command)
      (next_eq : session.state.acknowledged? session.record.componentCount = some next) :
      Reaction context now session pool (.response token (.ok response))
        ⟨{ session.settled (.response token (.ok response)) with
            state := next, outcomeDeadline := none },
          pool.drop pending.lease, [.scheduleProceed]⟩
  /-- The target takes the announced component. -/
  | accepted {token : Nat} {pending : PendingCommand} {response : Response} {position : Nat}
      {body : UpdateComponentResponse} {deadline : Instant}
      (awaited : session.Awaits token pending)
      (state : session.state = .updatingComponent position)
      (command : pending.command = .updateComponent)
      (granted : response.Grants pending.command)
      (decoded : Body.decode UpdateComponentResponse response.body = .ok body)
      (compatible : body.isCompatible = true)
      (shown : now.after? context.clockEnd context.config.componentOutcomeTimeout = some deadline) :
      Reaction context now session pool (.response token (.ok response))
        ⟨{ session.settled (.response token (.ok response)) with
            state := .awaitingComponentOutcome position
            outcomeDeadline := some deadline },
          pool.drop pending.lease, []⟩
  /-- The target takes the announced component, but the clock cannot show the deadline. -/
  | untimed {token : Nat} {pending : PendingCommand} {response : Response} {position : Nat}
      {body : UpdateComponentResponse} (awaited : session.Awaits token pending)
      (state : session.state = .updatingComponent position)
      (command : pending.command = .updateComponent)
      (granted : response.Grants pending.command)
      (decoded : Body.decode UpdateComponentResponse response.body = .ok body)
      (compatible : body.isCompatible = true)
      (beyond : now.after? context.clockEnd context.config.componentOutcomeTimeout = none) :
      Reaction context now session pool (.response token (.ok response))
        ⟨session.settled (.response token (.ok response)), pool.drop pending.lease, [.crash none]⟩
  /-- The target does not take the announced component. -/
  | declined {token : Nat} {pending : PendingCommand} {response : Response} {position : Nat}
      {body : UpdateComponentResponse} (awaited : session.Awaits token pending)
      (state : session.state = .updatingComponent position)
      (command : pending.command = .updateComponent)
      (granted : response.Grants pending.command)
      (decoded : Body.decode UpdateComponentResponse response.body = .ok body)
      (incompatible : body.isCompatible = false) :
      Reaction context now session pool (.response token (.ok response))
        ⟨{ session.settled (.response token (.ok response)) with
            state := .afterComponent session.record.componentCount position
            outcomeDeadline := none },
          pool.drop pending.lease,
          [.notify (.applied session.endpoint (session.componentIndex position) false),
            .scheduleProceed]⟩
  /-- The target activates what it applied. -/
  | activated {token : Nat} {pending : PendingCommand} {response : Response}
      (awaited : session.Awaits token pending)
      (state : session.state = .activatingFirmware)
      (command : pending.command = .activateFirmware)
      (granted : response.Grants pending.command) :
      Reaction context now session pool (.response token (.ok response))
        ⟨{ session.settled (.response token (.ok response)) with
            state := .completed, outcomeDeadline := none },
          pool.drop pending.lease, [.notify (.completed session.endpoint true)]⟩
  | answered {caller : Caller} {request : Request} {response : Response}
      {deadline : Option Instant}
      (rearmed : session.deadlineAfter? context now request = some deadline)
      (unreported : session.reported? request = none)
      (ready : session.replyTo context request = .ready response) :
      Reaction context now session pool (.inbound caller request)
        ⟨{ session with outcomeDeadline := deadline }, pool, [.answer caller response]⟩
  /-- The answer waits for the package to be read. -/
  | deferred {caller : Caller} {request : Request} {response : Response}
      {deadline : Option Instant}
      (rearmed : session.deadlineAfter? context now request = some deadline)
      (reading : session.replyTo context request = .reading response) :
      Reaction context now session pool (.inbound caller request)
        ⟨{ session with outcomeDeadline := deadline }, pool, [.answerLater caller response]⟩
  /-- The package breaks down while it is read. -/
  | brokeDown {caller : Caller} {request : Request} {deadline : Option Instant}
      (rearmed : session.deadlineAfter? context now request = some deadline)
      (crash : session.replyTo context request = .crash) :
      Reaction context now session pool (.inbound caller request)
        ⟨{ session with outcomeDeadline := deadline }, pool, [.crash (some (caller, request))]⟩
  /-- The clock cannot show the deadline that a request of the target asks for. -/
  | overran {caller : Caller} {request : Request}
      (beyond : session.deadlineAfter? context now request = none) :
      Reaction context now session pool (.inbound caller request)
        ⟨session, pool, [.crash (some (caller, request))]⟩
  /-- The target reports the end of the component at work. -/
  | finished {caller : Caller} {request : Request} {position : Nat} {success : Bool}
      (state : session.state = .awaitingComponentOutcome position)
      (reported : session.reported? request = some (position, success)) :
      Reaction context now session pool (.inbound caller request)
        ⟨{ session with
            state := .afterComponent session.record.componentCount position
            outcomeDeadline := none },
          pool,
          [.notify (.applied session.endpoint (session.componentIndex position) success),
            .scheduleProceed, .answer caller (request.refuse CompletionCode.success)]⟩

/-! ## Giving the update up -/

/-- The session that has given its update up. -/
def Session.givenUp (session : Session) (reason : UpdateError) : Session :=
  { session with pending := none, state := .failed reason, outcomeDeadline := none }

namespace Turn

variable (context : SessionContext) (now : Instant) (reason : UpdateError) (turn : Turn)

theorem dropPending_eq :
    turn.dropPending =
      ⟨{ turn.session with pending := none }, turn.session.surrender turn.pool, turn.effects⟩ := by
  obtain ⟨⟨record, state, pending, nextToken, deadline, mode⟩, pool, effects⟩ := turn
  cases pending <;> rfl

/-- A session that gives up gives its command's id back. CancelUpdate goes out if the session is in
update mode, is to send it, and gets an id for it. -/
theorem fail_cases (live : turn.session.state.isTerminal = false) :
    turn.fail context now reason =
        ⟨turn.session.givenUp reason, turn.session.surrender turn.pool,
          turn.effects ++ [.notify (.completed turn.session.endpoint false)]⟩ ∨
      ∃ lease lent, turn.session.inUpdateMode = true ∧ context.config.cancelOnFailure = true ∧
        (turn.session.surrender turn.pool).acquire turn.session.endpoint now = .ok (lease, lent) ∧
        turn.fail context now reason =
          ⟨turn.session.givenUp reason, lent,
            turn.effects ++ [.submitCancel lease (.firmwareUpdate lease.id .cancelUpdate []),
              .notify (.completed turn.session.endpoint false)]⟩ := by
  simp only [fail, live, dropPending_eq]
  split
  · contradiction
  split
  · rename_i told
    simp only [sendCancel, Session.endpoint]
    cases acquired :
      (turn.session.surrender turn.pool).acquire turn.session.record.endpoint now with
    | error error => exact .inl rfl
    | ok granted =>
      obtain ⟨lease, lent⟩ := granted
      simp only [Bool.and_eq_true] at told
      exact .inr ⟨lease, lent, told.1, told.2, rfl, by simp [emit, enter, Session.givenUp]⟩
  · exact .inl rfl

theorem session_fail (live : turn.session.state.isTerminal = false) :
    (turn.fail context now reason).session = turn.session.givenUp reason := by
  rcases fail_cases context now reason turn live with
    silent | ⟨lease, lent, _, _, _, told⟩
  · rw [silent]
  · rw [told]

theorem state_fail (live : turn.session.state.isTerminal = false) :
    (turn.fail context now reason).session.state = .failed reason := by
  rw [session_fail context now reason turn live]
  rfl

/-- Giving up tells the agent, and at most CancelUpdate goes out before. -/
theorem effects_fail (live : turn.session.state.isTerminal = false) :
    ∃ farewell, (turn.fail context now reason).effects =
        turn.effects ++ farewell ++ [.notify (.completed turn.session.endpoint false)] ∧
      (farewell = [] ∨ turn.session.inUpdateMode = true ∧ ∃ lease,
        farewell = [.submitCancel lease (.firmwareUpdate lease.id .cancelUpdate [])]) := by
  rcases fail_cases context now reason turn live with
    silent | ⟨lease, lent, told, _, _, sent⟩
  · exact ⟨[], by rw [silent, List.append_nil], .inl rfl⟩
  · exact ⟨_, by rw [sent, List.append_assoc]; rfl, .inr ⟨told, lease, rfl⟩⟩

theorem fail_dropPending (live : turn.session.state.isTerminal = false) :
    turn.dropPending.fail context now reason = turn.fail context now reason := by
  simp only [fail, live]
  simp [dropPending_eq, live, Session.surrender]

end Turn

/-! ## Every turn is a reaction -/

section

variable {context : SessionContext} {now : Instant} {session : Session} {pool : InstanceIdPool}

namespace Session

theorem nextDraft?_eq_none :
    session.nextDraft? context = none ↔ session.state.command? = none := by
  unfold nextDraft? SessionState.command?
  cases session.state <;> simp

theorem informed_of_entersUpdateMode_eq_false {event : Event}
    (silent : session.entersUpdateMode event = false) : session.informed event = session := by
  simp [informed, silent]

/-- What the session knows of update mode after a success to its pending command. -/
theorem informed_response {token : Nat} {pending : PendingCommand} {response : Response}
    (awaited : session.Awaits token pending) (answers : response.command = pending.command.code)
    (succeeds : response.isSuccess = true) :
    session.informed (.response token (.ok response)) =
      { session with
        inUpdateMode :=
          if pending.command = .requestUpdate then true else session.inUpdateMode } := by
  by_cases asks : pending.command = .requestUpdate
  · simp [informed, entersUpdateMode, awaited.slot, awaited.token, answers, succeeds, asks]
  · simp [informed, entersUpdateMode, awaited.slot, asks]

end Session

open Session

theorem reaction_fail {event : Event} {reason : UpdateError}
    (silent : session.entersUpdateMode event = false)
    (cause : FailureCause context now session pool event reason) :
    Reaction context now session pool event
      (Turn.fail context now reason ⟨session, pool, []⟩) := by
  have failed := Reaction.failed cause
  rwa [informed_of_entersUpdateMode_eq_false silent] at failed

theorem reaction_issueStep :
    Reaction context now session pool .proceed
      (Turn.issueStep context now ⟨session, pool, []⟩) := by
  unfold Turn.issueStep
  split
  · rename_i none_due
    exact .ignored (nextDraft?_eq_none.mp none_due)
  · rename_i error due
    exact reaction_fail rfl (.unwritable due)
  · rename_i draft due
    unfold Turn.submit
    split
    · rename_i error refused
      exact reaction_fail rfl (.noId due refused)
    · rename_i lease lent acquired
      simpa only [Turn.dropPending_eq, Turn.emit, List.nil_append] using
        Reaction.submitted due acquired

/-- It makes no difference whether the command whose outcome arrived has already given its id back
when the session gives up. -/
theorem fail_settled {token : Nat} {pending : PendingCommand} {event : Event}
    {reason : UpdateError} (awaited : session.Awaits token pending)
    (live : session.state.isTerminal = false) :
    Turn.fail context now reason ⟨session.settled event, pool.drop pending.lease, []⟩ =
      Turn.fail context now reason ⟨session.informed event, pool, []⟩ := by
  rw [← Turn.fail_dropPending context now reason ⟨session.informed event, pool, []⟩ live]
  simp [Turn.dropPending_eq, settled, surrender, informed, awaited.slot]

section

variable {token : Nat} {pending : PendingCommand} {response : Response}

theorem reaction_fail_settled {reason : UpdateError} (awaited : session.Awaits token pending)
    (live : session.state.isTerminal = false)
    (cause : FailureCause context now session pool (.response token (.ok response)) reason) :
    Reaction context now session pool (.response token (.ok response))
      (Turn.fail context now reason
        ⟨session.settled (.response token (.ok response)), pool.drop pending.lease, []⟩) := by
  rw [fail_settled awaited live]
  exact .failed cause

/-- A body that can be read is followed up, any other ends the update. -/
theorem reaction_withBody {α : Type} [Body α] {next : α → Turn}
    (awaited : session.Awaits token pending) (live : session.state.isTerminal = false)
    (own : pending.command = Body.command α) (answers : response.command = pending.command.code)
    (succeeds : response.isSuccess = true)
    (reads : pending.command.ReadsAnswer response.body ↔
      ∃ body, Body.decode α response.body = .ok body)
    (follow : ∀ body, Body.decode α response.body = .ok body →
      response.Grants pending.command →
      Reaction context now session pool (.response token (.ok response)) (next body)) :
    Reaction context now session pool (.response token (.ok response))
      (Turn.withBody context now response.body
        ⟨session.settled (.response token (.ok response)), pool.drop pending.lease, []⟩ next) := by
  unfold Turn.withBody
  split
  · rename_i body decoded
    exact follow body decoded ⟨answers, succeeds, reads.mpr ⟨body, decoded⟩⟩
  · rename_i error decoded
    rw [← own]
    refine reaction_fail_settled awaited live (.unreadable awaited answers succeeds ?_)
    rw [reads]
    rintro ⟨body, other⟩
    simp [decoded] at other

variable (context now pool) in
theorem reaction_acceptBody (awaited : session.Awaits token pending)
    (live : session.state.isTerminal = false) (answers : response.command = pending.command.code)
    (succeeds : response.isSuccess = true) :
    Reaction context now session pool (.response token (.ok response))
      (Turn.acceptBody context now pending.command response.body
        ⟨session.settled (.response token (.ok response)), pool.drop pending.lease, []⟩) := by
  unfold Turn.acceptBody
  split
  · rename_i asks state
    replace state : session.state = _ := state
    refine reaction_withBody awaited live asks answers succeeds (by rw [asks]; rfl) ?_
    intro body decoded granted
    exact .acknowledged awaited (by rw [state, asks]; rfl) granted (by rw [state]; rfl)
  · rename_i position asks state
    replace state : session.state = _ := state
    refine reaction_withBody awaited live asks answers succeeds (by rw [asks]; rfl) ?_
    intro body decoded granted
    exact .acknowledged awaited (by rw [state, asks]; rfl) granted (by rw [state]; rfl)
  · rename_i position asks state
    refine reaction_withBody awaited live asks answers succeeds (by rw [asks]; rfl) ?_
    intro body decoded granted
    split
    · rename_i compatible
      unfold Turn.awaitOutcome
      split
      · rename_i beyond
        exact .untimed awaited state asks granted decoded compatible beyond
      · rename_i deadline shown
        exact .accepted awaited state asks granted decoded compatible shown
    · rename_i incompatible
      exact .declined awaited state asks granted decoded (by simpa using incompatible)
  · rename_i asks state
    refine reaction_withBody awaited live asks answers succeeds (by rw [asks]; rfl) ?_
    intro body decoded granted
    exact .activated awaited state asks granted
  · rename_i notUpdate notTable notComponent notActivation
    refine reaction_fail_settled awaited live (.outOfTurn awaited ?_)
    intro own
    rcases SessionState.command?_eq_some.mp own with
      ⟨state, asks⟩ | ⟨position, state, asks⟩ | ⟨position, state, asks⟩ | ⟨state, asks⟩
    · exact notUpdate asks state
    · exact notTable position asks state
    · exact notComponent position asks state
    · exact notActivation asks state

theorem reaction_acceptResponse (awaited : session.Awaits token pending)
    (live : session.state.isTerminal = false) :
    Reaction context now session pool (.response token (.ok response))
      (Turn.acceptResponse context now pending.command response
        ⟨{ session with pending := none }, pool.drop pending.lease, []⟩) := by
  have settled_of_silent
      (silent : session.entersUpdateMode (.response token (.ok response)) = false) :
      { session with pending := none } = session.settled (.response token (.ok response)) := by
    rw [settled, informed_of_entersUpdateMode_eq_false silent]
  unfold Turn.acceptResponse
  split
  · rename_i other
    rw [settled_of_silent (by simp [entersUpdateMode, awaited.slot, other])]
    exact reaction_fail_settled awaited live (.otherCommand awaited other)
  rename_i answers
  replace answers : response.command = pending.command.code := by simpa using answers
  split
  · rename_i refused
    replace refused : response.isSuccess = false := by simpa using refused
    rw [settled_of_silent (by simp [entersUpdateMode, refused])]
    exact reaction_fail_settled awaited live (.rejected awaited answers refused)
  · rename_i succeeds
    replace succeeds : response.isSuccess = true := by simpa using succeeds
    have accepted := reaction_acceptBody context now pool awaited live answers succeeds
    rw [settled, informed_response awaited answers succeeds] at accepted
    split at accepted
    · rename_i asks
      simpa [asks] using accepted
    · rename_i asksOther
      simpa [asksOther] using accepted

end

theorem reaction_onResponse (live : session.state.isTerminal = false) (token : Nat)
    (outcome : Except UpdateError Response) :
    Reaction context now session pool (.response token outcome)
      (Turn.onResponse context now token outcome ⟨session, pool, []⟩) := by
  unfold Turn.onResponse
  split
  · rename_i slot
    exact .ignored fun pending awaited => by simp [awaited.slot] at slot
  · rename_i pending slot
    have dropped : Turn.dropPending ⟨session, pool, []⟩ =
        ⟨{ session with pending := none }, pool.drop pending.lease, []⟩ := by
      simp_all [Turn.dropPending_eq, surrender]
    split
    · rename_i token_eq
      have awaited : session.Awaits token pending := ⟨slot, token_eq⟩
      cases outcome with
      | error error =>
        simp only [Turn.fail_dropPending context now error ⟨session, pool, []⟩ live]
        exact reaction_fail rfl (.undelivered awaited)
      | ok response =>
        simp only [dropped]
        exact reaction_acceptResponse awaited live
    · rename_i token_ne
      refine .ignored fun other awaited => token_ne ?_
      obtain rfl : pending = other := Option.some.inj (slot.symm.trans awaited.slot)
      exact awaited.token

section

variable {caller : Caller} {request : Request} {deadline : Option Instant}

theorem rearm?_eq : Turn.rearm? context now ⟨session, pool, []⟩ =
    (session.rearmedDeadline? context now).map fun deadline =>
      ⟨{ session with outcomeDeadline := deadline }, pool, []⟩ := by
  obtain ⟨record, state, pending, nextToken, deadline, mode⟩ := session
  cases state <;> simp [Turn.rearm?, rearmedDeadline?]
  rfl

variable (pool caller) in
theorem reaction_reply (rearmed : session.deadlineAfter? context now request = some deadline)
    (unreported : session.reported? request = none) :
    Reaction context now session pool (.inbound caller request)
      (Turn.reply caller request ⟨{ session with outcomeDeadline := deadline }, pool, []⟩
        (session.replyTo context request)) := by
  cases reply : session.replyTo context request with
  | ready response => exact .answered rearmed unreported reply
  | reading response => exact .deferred rearmed reply
  | crash => exact .brokeDown rearmed reply

theorem reaction_serveComponent {serve : Turn → Turn}
    (alive : session.deadlineAfter? context now request = session.rearmedDeadline? context now)
    (served : ∀ deadline, session.deadlineAfter? context now request = some deadline →
      Reaction context now session pool (.inbound caller request)
        (serve ⟨{ session with outcomeDeadline := deadline }, pool, []⟩)) :
    Reaction context now session pool (.inbound caller request)
      (Turn.serveComponent context now caller request serve ⟨session, pool, []⟩) := by
  unfold Turn.serveComponent
  rw [rearm?_eq, ← alive]
  cases rearmed : session.deadlineAfter? context now request with
  | none => exact .overran rearmed
  | some deadline => exact served deadline rearmed

variable (pool caller) in
/-- A request about a component that does not report its end is just answered. -/
theorem reaction_serveReply
    (alive : session.deadlineAfter? context now request = session.rearmedDeadline? context now)
    (unreported : session.reported? request = none) :
    Reaction context now session pool (.inbound caller request)
      (Turn.serveComponent context now caller request
        (·.reply caller request (session.replyTo context request)) ⟨session, pool, []⟩) :=
  reaction_serveComponent alive fun _ rearmed => reaction_reply pool caller rearmed unreported

theorem reaction_onApplyComplete {position : Nat}
    (disposed : session.dispose request = .applyComplete position)
    (state : session.state = .awaitingComponentOutcome position)
    (rearmed : session.deadlineAfter? context now request = some deadline) :
    Reaction context now session pool (.inbound caller request)
      (Turn.onApplyComplete caller request position
        ⟨{ session with outcomeDeadline := deadline }, pool, []⟩) := by
  have reply : session.replyTo context request =
      .ready (acknowledge ApplyCompleteRequest request) := by simp [replyTo, disposed]
  unfold Turn.onApplyComplete
  split
  · rename_i report decoded
    have reported : session.reported? request = some (position, report.succeeded) := by
      simp [reported?, disposed, decoded]
    have answer : acknowledge ApplyCompleteRequest request =
        request.refuse CompletionCode.success := by simp [acknowledge, decoded]
    rw [answer]
    exact .finished state reported
  · rename_i error decoded
    rw [← reply]
    exact reaction_reply pool caller rearmed (by simp [reported?, disposed, decoded])

end

/-- Reports that a component was applied are taken only while its outcome is awaited. -/
theorem state_of_dispose_eq_applyComplete {position : Nat}
    (disposed : session.dispose request = .applyComplete position) :
    session.state = .awaitingComponentOutcome position := by
  simp only [dispose, disposeComponent] at disposed
  repeat' split at disposed
  all_goals simp_all

theorem reaction_onInbound (caller : Caller) (request : Request) :
    Reaction context now session pool (.inbound caller request)
      (Turn.onInbound context now caller request ⟨session, pool, []⟩) := by
  cases disposed : session.dispose request with
  | refuse completionCode | packageData =>
    have rearmed : session.deadlineAfter? context now request = some session.outcomeDeadline := by
      simp [deadlineAfter?, disposed]
    have unreported : session.reported? request = none := by simp [reported?, disposed]
    simpa [Turn.onInbound, replyTo, disposed] using reaction_reply pool caller rearmed unreported
  | firmwareData position | transferComplete position | verifyComplete position =>
    have alive : session.deadlineAfter? context now request =
        session.rearmedDeadline? context now := by simp [deadlineAfter?, disposed]
    have unreported : session.reported? request = none := by simp [reported?, disposed]
    simpa [Turn.onInbound, replyTo, disposed] using
      reaction_serveReply pool caller alive unreported
  | applyComplete position =>
    simp only [Turn.onInbound, disposed]
    refine reaction_serveComponent (by simp [deadlineAfter?, disposed]) fun deadline rearmed => ?_
    exact reaction_onApplyComplete disposed (state_of_dispose_eq_applyComplete disposed) rearmed

variable (context now pool) in
/-- Whatever a session that has not ended does with an event is in the list. -/
theorem reaction_handle (live : session.state.isTerminal = false) (event : Event) :
    Reaction context now session pool event
      (Turn.handle context now event ⟨session, pool, []⟩) := by
  cases event with
  | proceed => exact reaction_issueStep
  | response token outcome => exact reaction_onResponse live token outcome
  | inbound caller request => exact reaction_onInbound caller request
  | outcomeTimeout =>
    simp only [Turn.handle]
    split
    · rename_i position state
      exact reaction_fail rfl (.silence state)
    · rename_i state
      exact .ignored state
  | cancel => exact reaction_fail rfl .cancelled

variable (context now session pool) in
/-- A session starts with the step of its first state, unless the record is refused. -/
theorem start_cases :
    (∃ reason, session.checkRecord context = .error reason ∧
      Turn.start context now ⟨session, pool, []⟩ =
        Turn.fail context now reason ⟨session, pool, []⟩) ∨
    session.checkRecord context = .ok () ∧
      Reaction context now { session with state := .awaitingUpdateAck, outcomeDeadline := none }
        pool .proceed (Turn.start context now ⟨session, pool, []⟩) := by
  unfold Turn.start
  cases checked : session.checkRecord context with
  | error reason => exact .inl ⟨reason, rfl, rfl⟩
  | ok accepted => exact .inr ⟨rfl, reaction_issueStep⟩

end

end FirmwareAgent
