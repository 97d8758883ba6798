import FirmwareAgent.Proofs.Session.LocalFaults
import FirmwareAgent.Proofs.Wire.Refusals

/-!
# The outcome of a command

What a session makes of the outcome of its pending command. The delivery is judged first, then the
command that the response carries, then its completion code, and only then its body. The first thing
that is wrong ends the update, and is the reason for it; if nothing is, the update gets one step
further.

* `verdict_handle`: the verdict on any outcome.
* `SessionState.Advances.place`: a step leads to the next request of the plan, and to no other.
* `handle_of_stray` and `handle_of_terminal`: an outcome that nobody waits for changes nothing, and
  neither does anything else that a session hears after its end.
-/

namespace FirmwareAgent

/-! ## Answers that can be read -/

/-- The length of the body of a successful answer to one of the agent's commands. -/
def Command.answerLength? : Command → Option Nat
  | .requestUpdate => some 3
  | .passComponentTable => some 2
  | .updateComponent => some 8
  | .activateFirmware => some 2
  | _ => none

/-- What is wrong with the body of a successful answer to one of the agent's commands. -/
def Command.answerError? (bytes : Bytes) : Command → Option WireError
  | .requestUpdate => faultOf? (Body.decode RequestUpdateResponse bytes)
  | .passComponentTable => faultOf? (Body.decode PassComponentTableResponse bytes)
  | .updateComponent => faultOf? (Body.decode UpdateComponentResponse bytes)
  | .activateFirmware => faultOf? (Body.decode ActivateFirmwareResponse bytes)
  | _ => none

/-- The body of a successful answer can be read if and only if it has the length of its command. -/
theorem Command.readsAnswer_iff {command : Command} {bytes : Bytes} :
    command.ReadsAnswer bytes ↔ command.answerLength? = some bytes.length := by
  have of_width {α : Type} [Body α] {width : Nat}
      (width_eq : (Body.codec : Codec α).HasWidth width) :
      (∃ body, Body.decode α bytes = .ok body) ↔ some width = some bytes.length := by
    rw [Body.exists_decode_iff_of_hasWidth width_eq, Option.some_inj, eq_comm]
  cases command with
  | requestUpdate => exact of_width Body.requestUpdateResponse_hasWidth
  | passComponentTable => exact of_width Body.passComponentTableResponse_hasWidth
  | updateComponent => exact of_width Body.updateComponentResponse_hasWidth
  | activateFirmware => exact of_width Body.activateFirmwareResponse_hasWidth
  | _ => exact iff_of_false not_false nofun

theorem Command.exists_answerError {command : Command} {bytes : Bytes} {state : SessionState}
    (own : state.command? = some command) (unread : ¬ command.ReadsAnswer bytes) :
    ∃ error, command.answerError? bytes = some error := by
  rw [← Option.ne_none_iff_exists']
  intro faultless
  refine unread ?_
  rcases SessionState.command?_eq_some.mp own with
    ⟨_, rfl⟩ | ⟨_, _, rfl⟩ | ⟨_, _, rfl⟩ | ⟨_, rfl⟩ <;>
    exact faultOf?_eq_none.mp faultless

/-! ## One step further -/

/-- One step of an update of `count` components: from the state of a command to the state that its
answer leads to. -/
inductive SessionState.Advances (count : Nat) (body : Bytes) : SessionState → SessionState → Prop
  | entersUpdateMode : Advances count body .awaitingUpdateAck (.passingComponentTable 0)
  | nextEntry {position : Nat} (more : position + 1 < count) :
      Advances count body (.passingComponentTable position) (.passingComponentTable (position + 1))
  | lastEntry {position : Nat} (last : position + 1 = count) :
      Advances count body (.passingComponentTable position) (.updatingComponent 0)
  | takesComponent {position : Nat} {answer : UpdateComponentResponse}
      (decoded : Body.decode UpdateComponentResponse body = .ok answer)
      (compatible : answer.isCompatible = true) :
      Advances count body (.updatingComponent position) (.awaitingComponentOutcome position)
  | skipsComponent {position : Nat} {answer : UpdateComponentResponse}
      (decoded : Body.decode UpdateComponentResponse body = .ok answer)
      (incompatible : answer.isCompatible = false) (more : position + 1 < count) :
      Advances count body (.updatingComponent position) (.updatingComponent (position + 1))
  | skipsLastComponent {position : Nat} {answer : UpdateComponentResponse}
      (decoded : Body.decode UpdateComponentResponse body = .ok answer)
      (incompatible : answer.isCompatible = false) (last : position + 1 = count) :
      Advances count body (.updatingComponent position) .activatingFirmware
  | activates : Advances count body .activatingFirmware .completed

namespace SessionState

variable {count position : Nat} {body : Bytes} {state next : SessionState}

/-- A step leads to the next request of the plan. -/
theorem Advances.place (advances : Advances count body state next) :
    next.place count = state.place count + 1 := by
  cases advances <;> simp only [SessionState.place] <;> omega

theorem advances_of_acknowledged? (inRange : state.InRange count)
    (next_eq : state.acknowledged? count = some next) : Advances count body state next := by
  cases state with
  | awaitingUpdateAck =>
    cases next_eq
    exact .entersUpdateMode
  | passingComponentTable position =>
    have within := inRange.position position rfl
    cases next_eq
    split
    · rename_i more
      exact .nextEntry more
    · rename_i no_more
      exact .lastEntry (by omega)
  | _ => cases next_eq

theorem advances_afterComponent {answer : UpdateComponentResponse} (within : position < count)
    (decoded : Body.decode UpdateComponentResponse body = .ok answer)
    (incompatible : answer.isCompatible = false) :
    Advances count body (.updatingComponent position) (.afterComponent count position) := by
  unfold afterComponent
  split
  · rename_i more
    exact .skipsComponent decoded incompatible more
  · rename_i no_more
    exact .skipsLastComponent decoded incompatible (by omega)

end SessionState

/-! ## The verdict -/

/-- What a session makes of the outcome of its pending command, as the turn shows it. -/
inductive Verdict (context : SessionContext) (now : Instant) (session : Session)
    (pending : PendingCommand) : Except UpdateError Response → Turn → Prop
  /-- The exchange failed, or was waited for in vain. -/
  | undelivered {error : UpdateError} {turn : Turn}
      (failed : turn.session.state = .failed error) :
      Verdict context now session pending (.error error) turn
  /-- The response answers another command. -/
  | otherCommand {response : Response} {turn : Turn}
      (other : response.command ≠ pending.command.code)
      (failed : turn.session.state =
        .failed (.decode pending.command.name (.otherCommand response.command))) :
      Verdict context now session pending (.ok response) turn
  /-- The target refused the command. Its response may have any body. -/
  | refused {response : Response} {turn : Turn}
      (answers : response.command = pending.command.code)
      (refused : response.completionCode ≠ CompletionCode.success)
      (failed : turn.session.state =
        .failed (.remote pending.command.name response.completionCode)) :
      Verdict context now session pending (.ok response) turn
  /-- The body of the answer does not have the length of its command. -/
  | unreadable {response : Response} {turn : Turn} {error : WireError}
      (answers : response.command = pending.command.code)
      (succeeds : response.completionCode = CompletionCode.success)
      (length : pending.command.answerLength? ≠ some response.body.length)
      (unread : pending.command.answerError? response.body = some error)
      (failed : turn.session.state =
        .failed (.decode pending.command.name (.malformed error))) :
      Verdict context now session pending (.ok response) turn
  /-- The command is granted. -/
  | granted {response : Response} {turn : Turn}
      (answers : response.command = pending.command.code)
      (succeeds : response.completionCode = CompletionCode.success)
      (length : pending.command.answerLength? = some response.body.length)
      (advances : session.state.Advances session.record.componentCount response.body
        turn.session.state) :
      Verdict context now session pending (.ok response) turn
  /-- The target takes a component, but the clock cannot show when it will have been silent for too
  long. The session breaks down in the state it was in. -/
  | untimed {response : Response} {turn : Turn} {position : Nat} {answer : UpdateComponentResponse}
      (answers : response.command = pending.command.code)
      (succeeds : response.completionCode = CompletionCode.success)
      (state : session.state = .updatingComponent position)
      (decoded : Body.decode UpdateComponentResponse response.body = .ok answer)
      (compatible : answer.isCompatible = true)
      (beyond : now.after? context.clockEnd context.config.componentOutcomeTimeout = none)
      (crash : turn.effects = [.crash none]) (stays : turn.session.state = session.state) :
      Verdict context now session pending (.ok response) turn

section

variable {context : SessionContext} {now : Instant} {session : Session} {pool : InstanceIdPool}
  {token : Nat} {pending : PendingCommand}

theorem Session.Awaits.unique {other : PendingCommand} (awaited : session.Awaits token pending)
    (also : session.Awaits token other) : other = pending :=
  Option.some.inj (also.slot.symm.trans awaited.slot)

theorem Response.isSuccess_iff {response : Response} :
    response.isSuccess = true ↔ response.completionCode = CompletionCode.success :=
  beq_iff_eq

theorem Turn.state_withBody_of_error {α : Type} [Body α] {bytes : Bytes} {error : WireError}
    {turn : Turn} {next : α → Turn} (live : turn.session.state.isTerminal = false)
    (unread : faultOf? (Body.decode α bytes) = some error) :
    (Turn.withBody context now bytes turn next).session.state =
      .failed (.decode (Body.command α).name (.malformed error)) := by
  unfold Turn.withBody
  cases decoded : Body.decode α bytes with
  | ok body =>
    rw [decoded] at unread
    cases unread
  | error other =>
    rw [decoded] at unread
    obtain rfl := Option.some.inj unread
    exact Turn.state_fail _ _ _ _ live

/-- A session that cannot read the body of a successful answer fails for what is wrong with it. -/
theorem state_acceptBody_of_error {command : Command} {bytes : Bytes} {error : WireError}
    {turn : Turn} (own : turn.session.state.command? = some command)
    (unread : command.answerError? bytes = some error) :
    (Turn.acceptBody context now command bytes turn).session.state =
      .failed (.decode command.name (.malformed error)) := by
  have live := SessionState.live_of_command? own
  unfold Turn.acceptBody
  rcases SessionState.command?_eq_some.mp own with
    ⟨state, rfl⟩ | ⟨_, state, rfl⟩ | ⟨_, state, rfl⟩ | ⟨state, rfl⟩ <;>
  · rw [state]
    exact Turn.state_withBody_of_error live unread

theorem state_handle_of_unreadable {response : Response} {error : WireError}
    (awaited : session.Awaits token pending) (own : session.state.command? = some pending.command)
    (answers : response.command = pending.command.code) (succeeds : response.isSuccess = true)
    (unread : pending.command.answerError? response.body = some error) :
    (Turn.handle context now (.response token (.ok response)) ⟨session, pool, []⟩).session.state =
      .failed (.decode pending.command.name (.malformed error)) := by
  simp only [Turn.handle, Turn.onResponse, awaited.slot, awaited.token, if_true,
    Turn.acceptResponse, answers, succeeds, ne_eq, not_true_eq_false, if_false, Bool.not_true,
    Bool.false_eq_true]
  refine state_acceptBody_of_error ?_ unread
  split <;> simpa [Turn.dropPending_eq] using own

theorem Verdict.of_grants {response : Response} {turn : Turn}
    (granted : response.Grants pending.command)
    (advances : session.state.Advances session.record.componentCount response.body
      turn.session.state) : Verdict context now session pending (.ok response) turn :=
  .granted granted.answers (Response.isSuccess_iff.mp granted.succeeds)
    (Command.readsAnswer_iff.mp granted.readable) advances

variable (context now pool) in
/-- The verdict on any outcome of the pending command, if the command belongs to the state. -/
theorem verdict_handle (awaited : session.Awaits token pending)
    (own : session.state.command? = some pending.command)
    (inRange : session.state.InRange session.record.componentCount)
    (outcome : Except UpdateError Response) :
    Verdict context now session pending outcome
      (Turn.handle context now (.response token outcome) ⟨session, pool, []⟩) := by
  have live := SessionState.live_of_command? own
  have reaction := reaction_handle context now pool live (.response token outcome)
  generalize turn_eq :
    Turn.handle context now (.response token outcome) ⟨session, pool, []⟩ = turn at reaction ⊢
  cases reaction with
  | ignored idle => exact absurd awaited (idle pending)
  | @failed _ reason cause =>
    have failed := Turn.state_fail context now reason
      ⟨session.informed (.response token outcome), pool, []⟩ live
    cases cause with
    | undelivered => exact .undelivered failed
    | otherCommand also other =>
      obtain rfl := awaited.unique also
      exact .otherCommand other failed
    | rejected also answers refused =>
      obtain rfl := awaited.unique also
      exact .refused answers (ne_of_beq_false refused) failed
    | unreadable also answers succeeds unread =>
      obtain rfl := awaited.unique also
      obtain ⟨error, found⟩ := Command.exists_answerError own unread
      refine .unreadable answers (Response.isSuccess_iff.mp succeeds)
        (fun length => unread (Command.readsAnswer_iff.mpr length)) found ?_
      rw [← turn_eq]
      exact state_handle_of_unreadable awaited own answers succeeds found
    | outOfTurn also stray =>
      obtain rfl := awaited.unique also
      exact absurd own stray
  | acknowledged also _ granted next_eq =>
    obtain rfl := awaited.unique also
    exact .of_grants granted (SessionState.advances_of_acknowledged? inRange next_eq)
  | accepted also state command granted decoded compatible =>
    obtain rfl := awaited.unique also
    refine .of_grants granted ?_
    rw [state]
    exact .takesComponent decoded compatible
  | untimed also state command granted decoded compatible beyond =>
    obtain rfl := awaited.unique also
    exact .untimed granted.answers (Response.isSuccess_iff.mp granted.succeeds) state decoded
      compatible beyond rfl rfl
  | declined also state command granted decoded incompatible =>
    obtain rfl := awaited.unique also
    refine .of_grants granted ?_
    rw [state] at inRange ⊢
    exact SessionState.advances_afterComponent (inRange.position _ rfl) decoded incompatible
  | activated also state command granted =>
    obtain rfl := awaited.unique also
    refine .of_grants granted ?_
    rw [state]
    exact .activates

variable (context now pool) in
/-- Once its outcome has arrived, a command is no longer pending. -/
theorem pending_handle (awaited : session.Awaits token pending)
    (live : session.state.isTerminal = false) (outcome : Except UpdateError Response) :
    (Turn.handle context now (.response token outcome) ⟨session, pool, []⟩).session.pending =
      none := by
  have reaction := reaction_handle context now pool live (.response token outcome)
  generalize Turn.handle context now (.response token outcome) ⟨session, pool, []⟩ = turn
    at reaction ⊢
  cases reaction with
  | ignored idle => exact absurd awaited (idle pending)
  | failed cause =>
    rw [Turn.session_fail _ _ _ _ live]
    rfl
  | _ => rfl

variable (context now pool) in
/-- An outcome that nobody waits for changes nothing. -/
theorem handle_of_stray (stray : ∀ pending, ¬ session.Awaits token pending)
    (outcome : Except UpdateError Response) :
    Turn.handle context now (.response token outcome) ⟨session, pool, []⟩ =
      ⟨session, pool, []⟩ := by
  simp only [Turn.handle, Turn.onResponse]
  split
  · rfl
  · rename_i pending slot
    exact if_neg fun same => stray pending ⟨slot, same⟩

theorem SessionState.eq_of_isTerminal {state : SessionState} (terminal : state.isTerminal = true) :
    state = .completed ∨ ∃ reason, state = .failed reason := by
  cases state with
  | completed => exact .inl rfl
  | failed reason => exact .inr ⟨reason, rfl⟩
  | _ => cases terminal

/-- A session that has ended refuses every request of its target. -/
theorem Session.dispose_of_terminal (terminal : session.state.isTerminal = true)
    (request : Request) : ∃ completionCode, session.dispose request = .refuse completionCode := by
  have idle : session.state.isInProgress = false := by
    rw [SessionState.isInProgress, terminal]
    exact Bool.and_false _
  rcases SessionState.eq_of_isTerminal terminal with state | ⟨reason, state⟩
  all_goals
    rw [state] at idle
    simp only [dispose, disposeComponent, servedPosition?, state, idle]
    split
    · exact ⟨_, rfl⟩
    · split <;> exact ⟨_, rfl⟩

variable (context now pool) in
/-- Nothing that a session hears after its end changes it. -/
theorem handle_of_terminal (terminal : session.state.isTerminal = true)
    (free : session.pending = none) (event : Event) :
    (Turn.handle context now event ⟨session, pool, []⟩).session = session := by
  cases event with
  | proceed =>
    have nothing_due : session.nextDraft? context = none := by
      rcases SessionState.eq_of_isTerminal terminal with state | ⟨reason, state⟩ <;>
        rw [Session.nextDraft?, state]
    simp only [Turn.handle, Turn.issueStep, nothing_due]
  | response token outcome =>
    have stray (pending : PendingCommand) (awaited : session.Awaits token pending) : False := by
      cases free.symm.trans awaited.slot
    rw [handle_of_stray context now pool stray]
  | inbound caller request =>
    obtain ⟨completionCode, disposed⟩ := Session.dispose_of_terminal terminal request
    simp only [Turn.handle, Turn.onInbound, disposed]
    rfl
  | outcomeTimeout =>
    rcases SessionState.eq_of_isTerminal terminal with state | ⟨reason, state⟩ <;>
      simp only [Turn.handle, state]
  | cancel => simp only [Turn.handle, Turn.fail, terminal, if_true]

end

end FirmwareAgent
