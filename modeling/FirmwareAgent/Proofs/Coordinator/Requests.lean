import FirmwareAgent.Proofs.Coordinator.Untouched
import FirmwareAgent.Proofs.Session.PackageData

/-!
# Requests to a coordinator

Every request that is put to a coordinator is answered once, by the session of its endpoint or, if
there is none any more, in the place of one.

* `CoordinatorHistory.Underway.answers`: the turns of the session bring an answer.
* `CoordinatorHistory.Routed` says all that a call comes to, and `routed_through` that it does, for
  any history.
* `refused_pulledAtOnce`: the one answer in the place of a session that is still there.
-/

namespace FirmwareAgent

/-! ## The codes of sessions -/

/-- A part of the package data is refused for want of data, or for its handle. -/
theorem PackageDataPart.code_of_plan {length : Nat} {pull : GetPackageDataRequest}
    {maximum offset size : UInt32} {code : UInt8}
    (refused : plan length pull maximum = .error (.protocolRange code offset size)) :
    code = CompletionCode.noPackageData ∨ code = CompletionCode.invalidTransferHandle := by
  by_cases empty : length = 0
  · rw [empty, plan_empty] at refused
    cases refused
    exact .inl rfl
  · rw [plan, if_neg empty] at refused
    cases started : startOf length pull with
    | error error =>
      rw [started] at refused
      cases refused
      unfold startOf at started
      split at started
      · cases started
      · dsimp only at started
        split at started <;> cases started
        exact .inr rfl
    | ok start =>
      rw [started] at refused
      by_cases last : min (start + maximum.toNat) length = length
      · simp [last, bind, Except.bind, pure, Except.pure] at refused
      · by_cases handle : min (start + maximum.toNat) length < UInt32.size
        · simp [last, handle, bind, Except.bind, pure, Except.pure] at refused
        · simp [last, handle, bind, Except.bind, throw, throwThe, MonadExceptOf.throw,
            refusal] at refused
          exact .inr refused.1.symm

/-- A pull of image data is refused for its length, or for where it ends. -/
theorem FirmwareDataWindow.code_of_plan {size : UInt32} {pull : RequestFirmwareDataRequest}
    {baseline maximum offset length : UInt32} {code : UInt8}
    (refused : plan size pull baseline maximum = .error (.protocolRange code offset length)) :
    code = CompletionCode.invalidTransferLength ∨ code = CompletionCode.dataOutOfRange := by
  rcases plan_cases size baseline maximum pull with
    ⟨_, planned⟩ | ⟨_, ⟨_, planned⟩ | ⟨_, window, planned, _⟩⟩
  · cases planned.symm.trans refused
    exact .inl rfl
  · cases planned.symm.trans refused
    exact .inr rfl
  · cases planned.symm.trans refused

namespace Session

variable {context : SessionContext} {session : Session} {request : Request}

theorem code_of_objection {code : UInt8} (objection : session.objection? request = some code) :
    code ≠ CompletionCode.notInUpdateMode := by
  unfold objection? Command.bodyObjection? at objection
  rintro rfl
  revert objection
  repeat' split
  all_goals decide

/-- A session never answers in the place of none. -/
theorem AnswersDue.completionCode_ne {response : Response}
    (due : session.AnswersDue context request response) :
    response.completionCode ≠ CompletionCode.notInUpdateMode := by
  obtain ⟨code, body, judged, rfl⟩ := due
  change code ≠ CompletionCode.notInUpdateMode
  cases judged with
  | refused objection => exact code_of_objection objection
  | served faultless known serves =>
    cases serves with
    | acknowledged | part | window | windowUnread => decide
    | partRefused _ refused =>
      rcases PackageDataPart.code_of_plan refused with rfl | rfl <;> decide
    | windowRefused _ _ _ refused =>
      rcases FirmwareDataWindow.code_of_plan refused with rfl | rfl <;> decide

end Session

/-! ## Answers come -/

/-- What a session does of itself, when it comes to its turn. -/
def RunAction.isTurn : RunAction → Bool
  | begin | handle | finishRead _ => true
  | _ => false

theorem RunAction.caller?_of_isTurn {step : RunAction} (turn : step.isTurn = true) :
    step.caller? = none := by
  cases step <;> first | rfl | cases turn

namespace CoordinatorHistory

variable {context : SessionContext} {history : CoordinatorHistory} {number place among : Nat}
  {endpoint : EndpointId} {request : Request} {step : RunAction}

/-- A request is on its course in a history that has come about by actions. -/
structure Underway (context : SessionContext) (history : CoordinatorHistory) (number place : Nat)
    (request : Request) : Prop where
  lived : history.Lived context
  sound : history.coordinator.fleet.IsSound
  booked : history.Booked
  made : number < history.entries.length
  course : history.Course context number place request

theorem deed_act (found : history.coordinator.fleet.place? endpoint among = some place)
    (step : RunAction) : history.deed (.act endpoint among step) = .moved place step := by
  simp [deed, Coordinator.deed, found]

theorem Underway.other (underway : history.Underway context number place request)
    (found : history.coordinator.fleet.place? endpoint among = some place)
    (turn : step.isTurn = true) : history.Other (.act endpoint among step) number where
  earlier := Nat.ne_of_gt underway.made
  unasked := by
    intro moved other deed_eq
    obtain ⟨_, rfl⟩ := CoordinatorDeed.moved.inj ((deed_act found step).symm.trans deed_eq)
    rw [RunAction.caller?_of_isTurn turn]
    exact Option.some_ne_none _ |>.symm

/-- The request goes its course when its session comes to its turn. -/
theorem Underway.turn (underway : history.Underway context number place request)
    (found : history.coordinator.fleet.place? endpoint among = some place)
    (turn : step.isTurn = true) :
    (history.extend (.act endpoint among step)).Underway context number place request ∧
      (history.extend (.act endpoint among step)).coordinator.fleet.place? endpoint among =
        some place := by
  obtain ⟨run, moves⟩ := underway.booked.moves underway.sound (deed_act found step)
  have other := underway.other found turn
  have grown : number < (history.extend (.act endpoint among step)).entries.length := by
    rw [CoordinatorHistory.extend, List.length_append]
    exact Nat.lt_add_right 1 underway.made
  refine ⟨⟨underway.lived.extend underway.sound underway.booked _, isSound_extend underway.sound _,
    booked_extend underway.sound underway.booked _, grown,
    underway.course.moved underway.lived other moves⟩, ?_⟩
  obtain ⟨belongs, numbered⟩ := Fleet.place?_eq_some.mp found
  have numbers : (history.extend (.act endpoint among step)).coordinator.fleet.numberOf endpoint =
      history.coordinator.fleet.numberOf endpoint :=
    Fleet.numberOf_congr moves.endpoints endpoint
  exact Fleet.place?_eq_some.mpr ⟨moves.endpoints ▸ belongs, numbers ▸ numbered⟩

/-- The session of the endpoint answers the call in a few turns. -/
def Answers (history : CoordinatorHistory) (number : Nat) (endpoint : EndpointId) (among : Nat) :
    Prop :=
  ∃ (steps : List RunAction) (response : Response), (∀ step ∈ steps, step.isTurn = true) ∧
    ((steps.map (.act endpoint among)).foldl extend history).replies number = [response]

theorem Answers.cons (turn : step.isTurn = true)
    (answers : (history.extend (.act endpoint among step)).Answers number endpoint among) :
    history.Answers number endpoint among := by
  obtain ⟨steps, response, turns, replies⟩ := answers
  exact ⟨step :: steps, response, List.forall_mem_cons.mpr ⟨turn, turns⟩, replies⟩

/-- An answer that waits for the package to be read is given when it has been read. -/
theorem Underway.answers_of_reading {run : Run} {response : Response}
    (underway : history.Underway context number place request)
    (found : history.coordinator.fleet.place? endpoint among = some place)
    (located : history.coordinator.fleet.runs[place]? = some run)
    (reads : run.readsFor (.coordinator number) = [(.coordinator number, response)])
    (replies : history.replies number = []) : history.Answers number endpoint among := by
  obtain ⟨position, at_position⟩ : ∃ position,
      run.reads[position]? = some (Caller.coordinator number, response) := by
    have waits : (Caller.coordinator number, response) ∈ run.readsFor (.coordinator number) :=
      reads ▸ List.mem_singleton_self _
    exact List.mem_iff_getElem?.mp (List.mem_filter.mp waits).1
  obtain ⟨mover, moves⟩ := underway.booked.moves underway.sound
    (deed_act found (.finishRead position))
  obtain rfl := Option.some.inj (located.symm.trans moves.located)
  have settled : (run.meet context (history.momentOf (.finishRead position))).settled
      (.coordinator number) = [.answered (.coordinator number) response] := by
    simp [Run.meet, momentOf, Run.act, at_position, RunStep.settled, RunStep.occur]
  have answer := replies_moves underway.lived (underway.other found rfl) moves settled
  refine ⟨[.finishRead position], response, List.forall_mem_singleton.mpr rfl, ?_⟩
  simpa [replies, Occurrence.reply?] using answer

theorem answers_of_replies {response : Response} (among : Nat)
    (replies : history.replies number = [response]) : history.Answers number endpoint among :=
  ⟨[], response, List.forall_mem_nil _, replies⟩

/-- A request that no longer waits to be handled is answered. -/
theorem Underway.answers_or_waits (underway : history.Underway context number place request)
    (found : history.coordinator.fleet.place? endpoint among = some place) :
    history.Answers number endpoint among ∨
      ∃ run, history.coordinator.fleet.runs[place]? = some run ∧ run.isOpen = true ∧
        run.queue (.coordinator number) ≠ [] ∧ history.handledFor (.coordinator number) = [] := by
  cases underway.course with
  | waiting located taken queue _ unhandled =>
    exact .inr ⟨_, located, taken, queue ▸ List.cons_ne_nil _ _, unhandled⟩
  | reading located _ reads _ _ _ replies =>
    exact .inl (underway.answers_of_reading found located reads replies)
  | missed _ _ _ _ replies | brokeDown _ _ _ _ _ replies | answered _ _ _ _ _ replies =>
    exact .inl (answers_of_replies among replies)

/-- A request that its session comes to within a number of turns is answered. -/
theorem Underway.answers_within (turns : Nat)
    (underway : history.Underway context number place request)
    (found : history.coordinator.fleet.place? endpoint among = some place)
    (close : ∀ run, history.coordinator.fleet.runs[place]? = some run → run.isOpen = true →
      history.handledFor (.coordinator number) = [] → run.ahead (.coordinator number) < turns) :
    history.Answers number endpoint among := by
  induction turns generalizing history with
  | zero =>
    rcases underway.answers_or_waits found with answers | ⟨run, located, taken, _, unhandled⟩
    · exact answers
    · exact absurd (close run located taken unhandled) (Nat.not_lt_zero _)
  | succ turns ih =>
    rcases underway.answers_or_waits found with answers | ⟨run, located, taken, waits, unhandled⟩
    · exact answers
    have sound := underway.sound run (List.mem_of_getElem? located)
    have near := close run located taken unhandled
    obtain ⟨action, own, comes⟩ := run.comes_closer context history.coordinator.fleet.now
      history.coordinator.fleet.pool sound taken waits
    have turn : action.isTurn = true := by
      rcases List.mem_pair.mp own with rfl | rfl <;> rfl
    obtain ⟨underway_after, found_after⟩ := underway.turn found turn
    obtain ⟨mover, moves⟩ := underway.booked.moves underway.sound (deed_act found action)
    obtain rfl := Option.some.inj (located.symm.trans moves.located)
    refine .cons turn (ih underway_after found_after ?_)
    intro after located_after taken_after still
    have met := located_moves underway.lived moves
    obtain rfl := Option.some.inj (met.symm.trans located_after)
    rcases comes with ⟨event, inbox, next, asked⟩ | unchanged | closer
    · rw [moves.handledFor, unhandled, next] at still
      simp [asked] at still
    · cases unchanged.symm.trans taken_after
    · exact Nat.lt_of_lt_of_le closer (Nat.le_of_lt_succ near)

/-- A call that has not been answered yet is answered when the session of its endpoint takes its
turns. -/
theorem Underway.answers (underway : history.Underway context number place request)
    (belongs : history.coordinator.fleet.endpoints[place]? = some endpoint) :
    ∃ among, history.Answers number endpoint among := by
  have found := Fleet.place?_eq_some.mpr ⟨belongs, rfl⟩
  obtain ⟨run, located, _⟩ := Fleet.endpoints_eq_some.mp belongs
  refine ⟨_, underway.answers_within (run.ahead (.coordinator number) + 1) found ?_⟩
  intro other located_other _ _
  obtain rfl := Option.some.inj (located.symm.trans located_other)
  exact Nat.lt_succ_self _

end CoordinatorHistory

/-! ## What a call comes to -/

/-- A response echoes the id, the type and the command of a request. -/
def Response.Echoes (response : Response) (request : Request) : Prop :=
  response.instanceId = request.instanceId ∧ response.pldmType = request.pldmType ∧
    response.command = request.command

namespace CoordinatorHistory

/-- The session of the endpoint was over before it handled the request of the call. -/
def Missed (history : CoordinatorHistory) (number : Nat) (endpoint : EndpointId) : Prop :=
  ∃ place, history.Found number endpoint place ∧ history.IsOver place ∧
    history.handledFor (.coordinator number) = []

/-- The session of the endpoint broke down over the request of the call. -/
def BrokeDown (context : SessionContext) (history : CoordinatorHistory) (number : Nat)
    (endpoint : EndpointId) (request : Request) : Prop :=
  ∃ place handler after now, history.Found number endpoint place ∧
    history.handledFor (.coordinator number) =
      [⟨place, handler, .inbound (.coordinator number) request, after⟩] ∧
    after.status = .crashed ∧ handler.session.BreaksOver context now request

/-- The session of the endpoint, and no other, handled the request of the call, and owes it the
response. -/
def Served (context : SessionContext) (history : CoordinatorHistory) (number : Nat)
    (endpoint : EndpointId) (request : Request) (response : Response) : Prop :=
  ∃ place handler after, history.Found number endpoint place ∧
    history.coordinator.fleet.endpoints[place]? = some endpoint ∧
    history.handledFor (.coordinator number) =
      [⟨place, handler, .inbound (.coordinator number) request, after⟩] ∧
    handler.session.AnswersDue context request response

/-- What a call with a number that put a request to an endpoint has come to. The twin is the history
in which it was not made. -/
structure Routed (context : SessionContext) (history twin : CoordinatorHistory) (number : Nat)
    (endpoint : EndpointId) (request : Request) : Prop where
  /-- It has one response, which echoes the request, or none yet. -/
  single : history.replies number = [] ∨
    ∃ response, history.replies number = [response] ∧ response.Echoes request
  /-- If none yet, the session of the endpoint gives one when it takes its turns. -/
  comes : history.replies number = [] → ∃ among, history.Answers number endpoint among
  /-- The response says that there is no update exactly if the endpoint had no session, or if its
  session was over before it handled the request, or if it broke down over it. -/
  refused : ∀ response ∈ history.replies number,
    (response.completionCode = CompletionCode.notInUpdateMode ↔
      (history.FoundNone number endpoint ∨ history.Missed number endpoint) ∨
        history.BrokeDown context number endpoint request)
  /-- If there was no session, or if it was over, the call has had no effect. -/
  traceless : history.replies number ≠ [] →
    (history.FoundNone number endpoint ∨ history.Missed number endpoint) →
      twin.coordinator = history.coordinator ∧
        twin.shownBut (.coordinator number) = history.shownBut (.coordinator number)
  /-- Any other response is the answer of the session of the endpoint. -/
  served : ∀ response ∈ history.replies number,
    response.completionCode ≠ CompletionCode.notInUpdateMode →
      history.Served context number endpoint request response

/-- When a call is made, its endpoint has a session or it has none. -/
theorem not_found_of_foundNone {history : CoordinatorHistory} {number place : Nat}
    {endpoint : EndpointId} (nobody : history.FoundNone number endpoint) :
    ¬ history.Found number endpoint place := by
  rintro ⟨entry, update, called, active, _⟩
  obtain ⟨same, called_too, idle⟩ := nobody
  obtain rfl := Option.some.inj (called.symm.trans called_too)
  cases active.symm.trans idle

section

variable {context : SessionContext} {history : CoordinatorHistory} {number : Nat}
  {endpoint : EndpointId} {request : Request}

/-- A session that takes no more events is over. -/
theorem isOver_of_closed (sound : history.coordinator.fleet.IsSound) {place : Nat} {run : Run}
    (located : history.coordinator.fleet.runs[place]? = some run) (closed : run.isOpen = false) :
    history.IsOver place := by
  refine ⟨run, located, (status_of_closed closed).imp_right fun ended => ⟨ended, ?_⟩⟩
  cases sound run (List.mem_of_getElem? located) with
  | waiting status | running status => cases status.symm.trans ended
  | stopped _ _ _ _ terminal => exact terminal ended

theorem Fate.single (fate : history.Fate context number endpoint request) :
    history.replies number = [] ∨
      ∃ response, history.replies number = [response] ∧ response.Echoes request := by
  have refusal : (request.refuse CompletionCode.notInUpdateMode).Echoes request := ⟨rfl, rfl, rfl⟩
  cases fate with
  | absent _ _ _ replies => exact .inr ⟨_, replies, refusal⟩
  | routed _ _ _ course =>
    cases course with
    | waiting _ _ _ _ _ replies | reading _ _ _ _ _ _ replies => exact .inl replies
    | missed _ _ _ _ replies | brokeDown _ _ _ _ _ replies => exact .inr ⟨_, replies, refusal⟩
    | answered _ _ _ due _ replies =>
      obtain ⟨code, body, _, rfl⟩ := due
      exact .inr ⟨_, replies, rfl, rfl, rfl⟩

/-- An answer that says that there is no update is given in the place of a session, and any other
one by the session of the endpoint. -/
theorem Fate.cases_of_reply (fate : history.Fate context number endpoint request)
    (sound : history.coordinator.fleet.IsSound) {response : Response}
    (given : response ∈ history.replies number) :
    response.completionCode = CompletionCode.notInUpdateMode ∧
        ((history.FoundNone number endpoint ∨ history.Missed number endpoint) ∨
          history.BrokeDown context number endpoint request) ∨
      response.completionCode ≠ CompletionCode.notInUpdateMode ∧
        ¬ ((history.FoundNone number endpoint ∨ history.Missed number endpoint) ∨
          history.BrokeDown context number endpoint request) ∧
        history.Served context number endpoint request response := by
  cases fate with
  | absent found _ _ replies =>
    obtain rfl := List.mem_singleton.mp (replies ▸ given)
    exact .inl ⟨rfl, .inl (.inl found)⟩
  | @routed place found belongs _ course =>
    cases course with
    | waiting _ _ _ _ _ replies | reading _ _ _ _ _ _ replies =>
      rw [replies] at given
      cases given
    | missed located closed _ unhandled replies =>
      obtain rfl := List.mem_singleton.mp (replies ▸ given)
      have ended := isOver_of_closed sound located closed
      exact .inl ⟨rfl, .inl (.inr ⟨place, found, ended, unhandled⟩)⟩
    | brokeDown _ _ handled cause crashed replies =>
      obtain rfl := List.mem_singleton.mp (replies ▸ given)
      exact .inl ⟨rfl, .inr ⟨place, _, _, _, found, handled, crashed, cause⟩⟩
    | answered _ _ handled due goes_on replies =>
      obtain rfl := List.mem_singleton.mp (replies ▸ given)
      refine .inr ⟨due.completionCode_ne, ?_, place, _, _, found, belongs, handled, due⟩
      rintro ((nobody | ⟨_, _, _, unhandled⟩) | ⟨_, _, after, _, _, broken, crashed, _⟩)
      · exact not_found_of_foundNone nobody found
      · cases handled.symm.trans unhandled
      · obtain ⟨⟩ := (List.cons.inj (handled.symm.trans broken)).1
        cases goes_on.symm.trans crashed

/-- A request that found no session, or whose session was over, has been handled by none. -/
theorem Fate.unhandled (fate : history.Fate context number endpoint request)
    (gone : history.FoundNone number endpoint ∨ history.Missed number endpoint) :
    history.handledFor (.coordinator number) = [] := by
  rcases gone with nobody | ⟨_, _, _, unhandled⟩
  · cases fate with
    | absent _ _ unhandled => exact unhandled
    | routed found => exact absurd found (not_found_of_foundNone nobody)
  · exact unhandled

end

end CoordinatorHistory

/-! ## Bytes -/

/-- What a call does that brings the bytes of a request. -/
def Coordinator.applyBytes (coordinator : Coordinator) (number : Nat) (endpoint : EndpointId)
    (bytes : Bytes) : CoordinatorStep :=
  match coordinator.inboundBytes endpoint number bytes with
  | .ok (next, events) => ⟨next, events, .done⟩
  | .error error => ⟨coordinator, [], .refused error⟩

/-- What becomes of the bytes of a request, and of the bytes of its responses. -/
structure Coordinator.TakesBytes (coordinator : Coordinator) (number : Nat) (endpoint : EndpointId)
    (bytes : Bytes) : Prop where
  /-- Bytes that are no request are refused, and nothing is done. -/
  unread : ∀ fault, Request.ofBytes bytes = .error fault →
    coordinator.applyBytes number endpoint bytes =
      ⟨coordinator, [], .refused (.decode "inbound request" (.malformed fault))⟩
  /-- Any others are a call with the request. -/
  read : ∀ request, Request.ofBytes bytes = .ok request →
    coordinator.applyBytes number endpoint bytes =
        coordinator.apply number (.inbound endpoint request) ∧
      (coordinator.applyBytes number endpoint bytes).result = .done
  /-- The bytes of a response to it are read as that response. -/
  framed : ∀ request response, Request.ofBytes bytes = .ok request → response.Echoes request →
    Response.ofBytes response.toBytes = .ok response

theorem Coordinator.takesBytes (coordinator : Coordinator) (number : Nat) (endpoint : EndpointId)
    (bytes : Bytes) : coordinator.TakesBytes number endpoint bytes where
  unread fault unread := by
    rw [applyBytes, inboundBytes, readInbound, unread]
    rfl
  read request read := by
    rw [applyBytes, inboundBytes, readInbound, read]
    exact ⟨rfl, rfl⟩
  framed request response read echoes := by
    have small : request.pldmType < 64 := Header.pldmType_lt (Request.ofBytes_eq_ok.mp read)
    exact Response.framing.parsed response (echoes.2.1 ▸ small)

namespace CoordinatorHistory

/-- Whatever else is called and whatever the sessions do: a call that puts a request to an endpoint
has one response, from the session of the endpoint, unless there is none any more, or not yet. -/
theorem routed_through (context : SessionContext) (pool : InstanceIdPool)
    (earlier later : List CoordinatorAction) (endpoint : EndpointId) (request : Request)
    (genuine : ∀ action ∈ earlier ++ later, action.impersonates earlier.length = false) :
    (through context pool (earlier ++ .inbound endpoint request :: later)).Routed context
        (through context pool (earlier ++ .elapse 0 :: later)) earlier.length endpoint request ∧
      ∀ bytes, (through context pool earlier).coordinator.TakesBytes earlier.length endpoint
        bytes := by
  have fate := fate_through context pool earlier later endpoint request genuine
  obtain ⟨sound, booked⟩ :=
    booked_through context pool (earlier ++ .inbound endpoint request :: later)
  refine ⟨⟨fate.single, fun silent => ?_, fun response given => ?_, fun answered gone => ?_,
    fun response given other => ?_⟩, fun bytes => Coordinator.takesBytes _ _ _ bytes⟩
  · have made := made_through context pool earlier later (.inbound endpoint request)
    cases fate with
    | absent _ _ _ replies => cases silent.symm.trans replies
    | routed _ belongs _ course =>
      exact Underway.answers ⟨lived_through _ _ _, sound, booked, made, course⟩ belongs
  · rcases fate.cases_of_reply sound given with ⟨code, refused⟩ | ⟨code, unrefused, _⟩
    · exact iff_of_true code refused
    · exact iff_of_false code unrefused
  · have unhandled := fate.unhandled gone
    have hides := hides_through context pool earlier later endpoint request genuine unhandled
    exact ⟨hides.coordinator.trans (fate.forget_eq unhandled answered), hides.shown⟩
  · rcases fate.cases_of_reply sound given with ⟨code, _⟩ | ⟨_, _, served⟩
    · exact absurd code other
    · exact served

/-! ## A request behind a cancellation -/

/-- An update that is given up before its session comes to a request of the target. -/
def cancelledFirst : List CoordinatorAction :=
  [.start ⟨9, #[0], #[], "set"⟩, .act 9 0 .begin, .cancel 9]

/-- Handling the cancellation ends the session, and the request is left over. -/
theorem routed_cancelledFirst :
    (∀ action ∈ cancelledFirst ++ [.act 9 0 .handle],
      action.impersonates cancelledFirst.length = false) ∧
    (through (oneComponent (.memory #[])) { expiry := .ofSeconds 5 }
        (cancelledFirst ++ [.inbound 9 appliedAhead, .act 9 0 .handle])).replies 3 =
      [appliedAhead.refuse CompletionCode.notInUpdateMode] ∧
    (through (oneComponent (.memory #[])) { expiry := .ofSeconds 5 }
        (cancelledFirst ++ [.inbound 9 appliedAhead, .act 9 0 .handle])).Routed
      (oneComponent (.memory #[]))
      (through (oneComponent (.memory #[])) { expiry := .ofSeconds 5 }
        (cancelledFirst ++ [.elapse 0, .act 9 0 .handle])) 3 9 appliedAhead :=
  ⟨by decide, by decide +kernel, (routed_through (oneComponent (.memory #[]))
    { expiry := .ofSeconds 5 } cancelledFirst [.act 9 0 .handle] 9 appliedAhead (by decide)).1⟩

/-! ## A pull that breaks the session -/

/-- A pull over which the package source breaks down is answered as if there were no session. -/
theorem refused_pulledAtOnce :
    (through (oneComponent (.crashing true)) { expiry := .ofSeconds 5 } pulledAtOnce).replies 8 =
        [pulledFirst.refuse CompletionCode.notInUpdateMode] ∧
      ¬ ((through (oneComponent (.crashing true)) { expiry := .ofSeconds 5 }
            pulledAtOnce).FoundNone 8 9 ∨
          (through (oneComponent (.crashing true)) { expiry := .ofSeconds 5 }
            pulledAtOnce).Missed 8 9) := by
  have replies : (through (oneComponent (.crashing true)) { expiry := .ofSeconds 5 }
      pulledAtOnce).replies 8 = [pulledFirst.refuse CompletionCode.notInUpdateMode] := by
    decide +kernel
  have found : ((through (oneComponent (.crashing true)) { expiry := .ofSeconds 5 }
      pulledAtOnce).entries[8]?.map fun entry => (entry.coordinator.active? 9).isSome) =
        some true := by decide +kernel
  have handled : ((through (oneComponent (.crashing true)) { expiry := .ofSeconds 5 }
      pulledAtOnce).handledFor (.coordinator 8)).length = 1 := by decide +kernel
  refine ⟨replies, ?_⟩
  rintro (⟨entry, called, nobody⟩ | ⟨_, _, _, unhandled⟩)
  · simp [called, nobody] at found
  · simp [unhandled] at handled

end CoordinatorHistory

end FirmwareAgent
