import FirmwareAgent.Proofs.Coordinator.ProgressStream
import FirmwareAgent.Proofs.Run.Waiting
import FirmwareAgent.Proofs.Wire.Framing

/-!
# Where the requests of targets go

A call that puts a request to an endpoint is answered at once if the endpoint has no session.
Otherwise the request goes to the session, which answers it, or it is answered on the session's
behalf when the session is over. Whatever else is called, and whatever the sessions do, the call
meets one of these fates.

* `CoordinatorHistory.Course`: what becomes of a request that was put to a session, and
  `Course.moved`, its step.
* `CoordinatorHistory.Fate`: what becomes of a call, with `fate_of_call`, `Fate.extend` and, for any
  history, `fate_through`.
-/

namespace FirmwareAgent

/-! ## Answers to a call -/

/-- The answer to the call with a number. A request that the coordinator has routed is answered even
if its session leaves it unanswered. -/
def Occurrence.reply? (number : Nat) : Occurrence → Option Response
  | answered caller response => if caller = .coordinator number then some response else none
  | unanswered caller request =>
    if caller = .coordinator number then some (request.refuse CompletionCode.notInUpdateMode)
    else none
  | _ => none

/-- The answer to the call with a number. -/
def CoordinatorEvent.reply? (number : Nat) : CoordinatorEvent → Option Response
  | answered caller response => if caller = .coordinator number then some response else none
  | _ => none

/-- A session that handles an event. -/
structure Handling where
  place : Nat
  /-- The session as the event finds it. -/
  run : Run
  event : Event
  /-- The session as the event leaves it. -/
  after : Run

namespace Coordinator

/-- What others see of the session that an action moves. -/
def occurrences (coordinator : Coordinator) : CoordinatorDeed → List Occurrence
  | .moved place action => (coordinator.fleet.act place action).2
  | _ => []

/-- The event that an action makes a session handle. -/
def handling? (coordinator : Coordinator) : CoordinatorDeed → Option Handling
  | .moved place action =>
    coordinator.fleet.runs[place]?.bind fun run =>
      (run.next? coordinator.fleet.now action).map fun next =>
        ⟨place, run, next.1,
          (run.act coordinator.fleet.context coordinator.fleet.now coordinator.fleet.pool
            action).run⟩
  | _ => none

end Coordinator

namespace CoordinatorHistory

/-- The answers to the call with a number. -/
def replies (history : CoordinatorHistory) (number : Nat) : List Response :=
  history.entries.flatMap fun entry => entry.step.events.filterMap (·.reply? number)

/-- The requests of a caller that sessions have handled, in that order. -/
def handledFor (history : CoordinatorHistory) (caller : Caller) : List Handling :=
  (history.entries.zipIdx.filterMap fun (entry, number) =>
    entry.coordinator.handling? (entry.coordinator.deed number entry.action)).filter
      (·.event.isOf caller)

/-- When the call with a number was made, its endpoint had no session. -/
def FoundNone (history : CoordinatorHistory) (number : Nat) (endpoint : EndpointId) : Prop :=
  ∃ entry, history.entries[number]? = some entry ∧ entry.coordinator.active? endpoint = none

/-- When the call with a number was made, the session of its endpoint was the one at a place. -/
def Found (history : CoordinatorHistory) (number : Nat) (endpoint : EndpointId) (place : Nat) :
    Prop :=
  ∃ entry update, history.entries[number]? = some entry ∧
    entry.coordinator.active? endpoint = some update ∧ update.run = place

variable {history : CoordinatorHistory} {action : CoordinatorAction} {number : Nat}

theorem replies_extend : (history.extend action).replies number =
    history.replies number ++ (history.next action).events.filterMap (·.reply? number) := by
  simp [replies, extend]

theorem handledFor_extend {caller : Caller} : (history.extend action).handledFor caller =
    history.handledFor caller ++
      (history.coordinator.handling? (history.deed action)).toList.filter
        (·.event.isOf caller) := by
  simp only [handledFor, extend, List.zipIdx_append, List.zipIdx_singleton, List.filterMap_append,
    filterMap_singleton, Nat.zero_add, List.filter_append]
  rfl

theorem Found.extend {endpoint : EndpointId} {place : Nat}
    (found : history.Found number endpoint place) :
    (history.extend action).Found number endpoint place := by
  obtain ⟨entry, update, called, active⟩ := found
  refine ⟨entry, update, ?_, active⟩
  rw [CoordinatorHistory.extend]
  exact List.getElem?_append_left (List.getElem?_eq_some_iff.mp called).1 ▸ called

theorem FoundNone.extend {endpoint : EndpointId} (found : history.FoundNone number endpoint) :
    (history.extend action).FoundNone number endpoint := by
  obtain ⟨entry, called, nobody⟩ := found
  refine ⟨entry, ?_, nobody⟩
  rw [CoordinatorHistory.extend]
  exact List.getElem?_append_left (List.getElem?_eq_some_iff.mp called).1 ▸ called

end CoordinatorHistory

namespace Coordinator

variable {coordinator : Coordinator} {number : Nat}

theorem reply?_observe (place : Nat) (occurrence : Occurrence) :
    (coordinator.observe place occurrence).2.reply? number = occurrence.reply? number := by
  cases occurrence with
  | unanswered caller request => cases caller <;> simp [observe, absence, Occurrence.reply?,
      CoordinatorEvent.reply?]
  | _ => rfl

/-- What is passed on answers the same calls. -/
theorem replies_observeAll (place : Nat) (occurrences : List Occurrence) :
    (coordinator.observeAll place occurrences).2.filterMap (·.reply? number) =
      occurrences.filterMap (·.reply? number) := by
  induction occurrences generalizing coordinator with
  | nil => rfl
  | cons occurrence occurrences ih =>
    simp only [observeAll, List.filterMap_cons, reply?_observe, ih]

theorem replies_act (place : Nat) (action : RunAction) :
    (coordinator.act place action).2.filterMap (·.reply? number) =
      (coordinator.fleet.act place action).2.filterMap (·.reply? number) :=
  replies_observeAll place _

variable (coordinator) in
/-- An action answers a call that was made before as the session does that it moves. -/
theorem replies_apply {called : Nat} (earlier : called ≠ number) (action : CoordinatorAction) :
    (coordinator.apply called action).events.filterMap (·.reply? number) =
      (coordinator.occurrences (coordinator.deed called action)).filterMap (·.reply? number) := by
  cases action with
  | start record =>
    simp only [apply, deed, Coordinator.start]
    split <;> rename_i busy <;> split at busy <;> simp_all [occurrences, CoordinatorEvent.reply?]
  | cancel endpoint =>
    cases found : coordinator.active? endpoint with
    | none => simp [apply, deed, Coordinator.cancel, found, occurrences]
    | some update =>
      cases live : coordinator.fleet.runs[update.run]?.any (·.isOpen) with
      | true =>
        simp only [apply, deed, Coordinator.cancel, found, live, if_true]
        exact replies_act _ _
      | false => simp [apply, deed, Coordinator.cancel, found, live, occurrences]
  | inbound endpoint request =>
    simp only [apply, deed, Coordinator.inbound]
    cases coordinator.active? endpoint with
    | none => simp [absence, CoordinatorEvent.reply?, occurrences, earlier]
    | some update => exact replies_act _ _
  | act endpoint among action =>
    simp only [apply, deed]
    cases coordinator.fleet.place? endpoint among with
    | none => rfl
    | some place => exact replies_act _ _
  | wait endpoint =>
    rw [apply_wait]
    split <;> rfl
  | wake endpoint ticket =>
    have quiet :
        coordinator.occurrences (coordinator.deed called (.wake endpoint ticket)) = [] := by
      simp only [deed]
      split
      · split <;> rfl
      · rfl
    rw [quiet, apply_wake]
    split
    · rfl
    · split <;> rfl
  | abandon endpoint ticket =>
    simp only [apply]
    split <;> rfl
  | acquire endpoint =>
    simp only [apply]
    split <;> rfl
  | clearFinishedProgress | elapse | release => rfl

end Coordinator

/-! ## What a run owes to a caller -/

/-- The runs owe the caller nothing, but for those at some places. -/
def Fleet.IsClear (caller : Caller) (exempt : List Nat) (fleet : Fleet) : Prop :=
  ∀ place run, fleet.runs[place]? = some run → place ∉ exempt → run.IsFree caller

/-- What a step settles of a caller's requests answers the call of the caller. -/
theorem replies_eq_settled (step : RunStep) (number : Nat) :
    step.occurrences.filterMap (·.reply? number) =
      (step.settled (.coordinator number)).filterMap (·.reply? number) := by
  rw [RunStep.settled, List.filterMap_filter]
  congr
  funext occurrence
  cases occurrence with
  | answered caller | unanswered caller =>
    by_cases own : caller = .coordinator number <;>
      simp [Occurrence.reply?, Occurrence.isOf, Occurrence.caller?, own]
  | sent | notified => rfl

namespace CoordinatorHistory

variable {history : CoordinatorHistory} {action : CoordinatorAction} {number : Nat}

/-- An action is not the call with a number, nor does it put a request in its name. -/
structure Other (history : CoordinatorHistory) (action : CoordinatorAction) (number : Nat) :
    Prop where
  earlier : history.entries.length ≠ number
  unasked : ∀ place step, history.deed action = .moved place step →
    step.caller? ≠ some (.coordinator number)

section

variable (other : history.Other action number)

include other

theorem Other.replies_extend : (history.extend action).replies number = history.replies number ++
    (history.coordinator.occurrences (history.deed action)).filterMap (·.reply? number) := by
  rw [CoordinatorHistory.replies_extend]
  exact congrArg _ (history.coordinator.replies_apply other.earlier action)

/-- An action that moves no session answers nothing, and makes no session handle anything. -/
theorem Other.idle (still : ∀ place step, history.deed action ≠ .moved place step) :
    (history.extend action).replies number = history.replies number ∧
      (history.extend action).handledFor (.coordinator number) =
        history.handledFor (.coordinator number) := by
  rw [other.replies_extend, handledFor_extend]
  cases deed_eq : history.deed action with
  | moved place step => exact absurd deed_eq (still place step)
  | aside | started | collected | cleared => exact ⟨List.append_nil _, List.append_nil _⟩

variable {place : Nat} {step : RunAction} {run : Run}
  (moves : history.Moves action place step run)

include moves

/-- An action that moves a session answers what the session settles. -/
theorem Other.replies_moves : (history.extend action).replies number =
    history.replies number ++
      ((run.meet history.coordinator.fleet.context (history.momentOf step)).settled
        (.coordinator number)).filterMap (·.reply? number) := by
  rw [other.replies_extend, moves.deed, ← replies_eq_settled, Coordinator.occurrences,
    Fleet.act_eq moves.located]
  rfl

end

theorem Moves.handledFor {place : Nat} {step : RunAction} {run : Run}
    (moves : history.Moves action place step run) (caller : Caller) :
    (history.extend action).handledFor caller = history.handledFor caller ++
      ((run.next? history.coordinator.fleet.now step).map fun next =>
        (⟨place, run, next.1, (run.meet history.coordinator.fleet.context
          (history.momentOf step)).run⟩ : Handling)).toList.filter (·.event.isOf caller) := by
  rw [handledFor_extend, moves.deed, Coordinator.handling?, moves.located]
  rfl

/-- A session that comes to nothing of the caller's handles none of its requests. -/
theorem Moves.handledFor_of_ignores {place : Nat} {step : RunAction} {run : Run} {caller : Caller}
    (moves : history.Moves action place step run)
    (ignores : run.Ignores history.coordinator.fleet.now step caller) :
    (history.extend action).handledFor caller = history.handledFor caller := by
  rw [moves.handledFor]
  cases next : run.next? history.coordinator.fleet.now step with
  | none => exact List.append_nil _
  | some handled =>
    have foreign := ignores.unhandled handled.1 handled.2 next
    simp [foreign]

/-- Runs that owe the caller nothing owe it nothing after what others do. -/
theorem isClear_extend {exempt : List Nat} (sound : history.coordinator.fleet.IsSound)
    (booked : history.Booked) (other : history.Other action number)
    (clear : history.coordinator.fleet.IsClear (.coordinator number) exempt) :
    (history.extend action).coordinator.fleet.IsClear (.coordinator number) exempt := by
  intro place run located exposed
  cases deed_eq : history.deed action with
  | aside | collected | cleared =>
    rw [CoordinatorHistory.extend, (fleet_quiet (by rw [deed_eq]; rfl)).1] at located
    exact clear place run located exposed
  | started record =>
    rw [(starts deed_eq).fleet, Fleet.add, getElem?_concat_eq_some] at located
    obtain old | ⟨rfl, _⟩ := located
    · exact clear place run old exposed
    · exact ⟨rfl, rfl⟩
  | moved moved step =>
    obtain ⟨mover, moves⟩ := booked.moves sound deed_eq
    obtain ⟨_, old⟩ | ⟨rfl, rfl⟩ := moves.run_extend located
    · exact clear place run old exposed
    · exact ((clear place mover moves.located exposed).act moves.run_sound
        (other.unasked place step deed_eq)).1

/-- What others do, unless it moves an exempt run, neither answers the call nor makes a session
handle its request. -/
theorem silent_of_isClear {exempt : List Nat} (sound : history.coordinator.fleet.IsSound)
    (booked : history.Booked) (other : history.Other action number)
    (clear : history.coordinator.fleet.IsClear (.coordinator number) exempt)
    (exempted : ∀ place ∈ exempt, ∀ step, history.deed action ≠ .moved place step) :
    (history.extend action).replies number = history.replies number ∧
      (history.extend action).handledFor (.coordinator number) =
        history.handledFor (.coordinator number) := by
  by_cases still : ∀ place step, history.deed action ≠ .moved place step
  · exact other.idle still
  · push Not at still
    obtain ⟨place, step, deed_eq⟩ := still
    obtain ⟨run, moves⟩ := booked.moves sound deed_eq
    have free := clear place run moves.located fun among => exempted place among step deed_eq
    have unasked := other.unasked place step deed_eq
    refine ⟨?_, moves.handledFor_of_ignores (free.ignores unasked)⟩
    have settled : (run.meet history.coordinator.fleet.context (history.momentOf step)).settled
        (.coordinator number) = [] := (free.act moves.run_sound unasked).2
    rw [other.replies_moves moves, settled]
    exact List.append_nil _

/-! ## The course of a request -/

/-- What has become of the request of the call with a number, which was put to the session at a
place. -/
inductive Course (context : SessionContext) (history : CoordinatorHistory) (number place : Nat)
    (request : Request) : Prop
  /-- It waits to be handled. -/
  | waiting {run : Run} (located : history.coordinator.fleet.runs[place]? = some run)
      (taken : run.isOpen = true)
      (queue : run.queue (.coordinator number) = [.inbound (.coordinator number) request])
      (reads : run.readsFor (.coordinator number) = [])
      (unhandled : history.handledFor (.coordinator number) = [])
      (replies : history.replies number = [])
  /-- The session was over before it came to it. -/
  | missed {run : Run} (located : history.coordinator.fleet.runs[place]? = some run)
      (closed : run.isOpen = false) (free : run.IsFree (.coordinator number))
      (unhandled : history.handledFor (.coordinator number) = [])
      (replies : history.replies number = [request.refuse CompletionCode.notInUpdateMode])
  /-- The session broke down over it. -/
  | brokeDown {run handler after : Run} {now : Instant}
      (located : history.coordinator.fleet.runs[place]? = some run)
      (free : run.IsFree (.coordinator number))
      (handled : history.handledFor (.coordinator number) =
        [⟨place, handler, .inbound (.coordinator number) request, after⟩])
      (cause : handler.session.BreaksOver context now request) (crashed : after.status = .crashed)
      (replies : history.replies number = [request.refuse CompletionCode.notInUpdateMode])
  /-- The session handled it, and the answer waits for the package to be read. -/
  | reading {run handler after : Run} {response : Response}
      (located : history.coordinator.fleet.runs[place]? = some run)
      (queue : run.queue (.coordinator number) = [])
      (reads : run.readsFor (.coordinator number) = [(.coordinator number, response)])
      (handled : history.handledFor (.coordinator number) =
        [⟨place, handler, .inbound (.coordinator number) request, after⟩])
      (due : handler.session.AnswersDue context request response)
      (goes_on : after.status = .running)
      (replies : history.replies number = [])
  /-- The session handled it, and its answer has been given. -/
  | answered {run handler after : Run} {response : Response}
      (located : history.coordinator.fleet.runs[place]? = some run)
      (free : run.IsFree (.coordinator number))
      (handled : history.handledFor (.coordinator number) =
        [⟨place, handler, .inbound (.coordinator number) request, after⟩])
      (due : handler.session.AnswersDue context request response)
      (goes_on : after.status = .running)
      (replies : history.replies number = [response])

namespace Course

variable {context : SessionContext} {request : Request} {place : Nat}

/-- A request goes its course no further while its session rests. -/
theorem rests (course : history.Course context number place request)
    (runs : (history.extend action).coordinator.fleet.runs[place]? =
      history.coordinator.fleet.runs[place]?)
    (silent : (history.extend action).replies number = history.replies number ∧
      (history.extend action).handledFor (.coordinator number) =
        history.handledFor (.coordinator number)) :
    (history.extend action).Course context number place request := by
  obtain ⟨replies_eq, handled_eq⟩ := silent
  cases course with
  | waiting located taken queue reads unhandled replies =>
    exact .waiting (runs.trans located) taken queue reads (handled_eq.trans unhandled)
      (replies_eq.trans replies)
  | missed located closed free unhandled replies =>
    exact .missed (runs.trans located) closed free (handled_eq.trans unhandled)
      (replies_eq.trans replies)
  | brokeDown located free handled cause crashed replies =>
    exact .brokeDown (runs.trans located) free (handled_eq.trans handled) cause crashed
      (replies_eq.trans replies)
  | reading located queue reads handled due goes_on replies =>
    exact .reading (runs.trans located) queue reads (handled_eq.trans handled) due goes_on
      (replies_eq.trans replies)
  | answered located free handled due goes_on replies =>
    exact .answered (runs.trans located) free (handled_eq.trans handled) due goes_on
      (replies_eq.trans replies)

end Course

/-- A session that handles the only request of a caller answers it, or it breaks down over it. -/
theorem Lived.replies {context : SessionContext} {place : Nat} {run : Run} {step : RunAction}
    {caller : Caller} {request : Request} {inbox : List Event} (lived : history.Lived context)
    (sound : run.Sound) (located : history.coordinator.fleet.runs[place]? = some run)
    (handled : run.next? history.coordinator.fleet.now step =
      some (.inbound caller request, inbox))
    (alone : inbox.filter (·.isOf caller) = []) (reads : run.readsFor caller = []) :
    run.Replies context history.coordinator.fleet.now caller request
      (run.meet context (history.momentOf step)) := by
  have running := (Run.next?_eq_some.mp handled).1
  obtain ⟨inRange, driven⟩ := sound.driven running
  have checked : run.session.checkRecord context = .ok () := by
    obtain ⟨life, living, rfl⟩ := lived.exists_life located
    obtain ⟨born, _, rfl⟩ := Option.map_eq_some_iff.mp living
    rw [lived.context] at running ⊢
    exact checked_through context born.session.record (history.moments place) running
  have placed := Run.placed_of_checkRecord inRange checked
  have next : run.next? (history.momentOf step).now (history.momentOf step).action =
    some (.inbound caller request, inbox) := handled
  obtain ⟨turn, reaction, met⟩ := Run.meet_inbound context driven.live next
  have heard : run.Heard context (history.momentOf step) inbox caller request
      (run.meet context (history.momentOf step)) := by
    rw [met]
    exact Run.heard_of_reaction driven.inProgress placed reaction
  exact heard.replies alone reads

section

variable {context : SessionContext} {request : Request} {place : Nat} {step : RunAction} {run : Run}
  (lived : history.Lived context) (other : history.Other action number)
  (moves : history.Moves action place step run)

include lived moves

theorem located_moves : (history.extend action).coordinator.fleet.runs[place]? =
    some (run.meet context (history.momentOf step)).run := by
  rw [CoordinatorHistory.extend, moves.fleet, Fleet.change, lived.context]
  exact List.getElem?_set_self (List.getElem?_eq_some_iff.mp moves.located).1

include other

theorem replies_moves {settled : List Occurrence}
    (settled_eq : (run.meet context (history.momentOf step)).settled (.coordinator number) =
      settled) : (history.extend action).replies number =
        history.replies number ++ settled.filterMap (·.reply? number) := by
  rw [other.replies_moves moves, lived.context, settled_eq]

/-- A session that owes the call nothing still owes it nothing after what others do to it. -/
theorem free_moves (free : run.IsFree (.coordinator number)) :
    (run.meet context (history.momentOf step)).run.IsFree (.coordinator number) ∧
      (history.extend action).replies number = history.replies number ∧
      (history.extend action).handledFor (.coordinator number) =
        history.handledFor (.coordinator number) := by
  have unasked := other.unasked place step moves.deed
  have acted : (run.meet context (history.momentOf step)).run.IsFree (.coordinator number) ∧
      (run.meet context (history.momentOf step)).settled (.coordinator number) = [] :=
    free.act moves.run_sound unasked
  refine ⟨acted.1, ?_, moves.handledFor_of_ignores (free.ignores unasked)⟩
  exact (replies_moves lived other moves acted.2).trans (List.append_nil _)

/-- A request that is handled is answered, or its answer waits for the package to be read, or the
session breaks down over it. -/
theorem course_handled {inbox : List Event}
    (next : run.next? history.coordinator.fleet.now step =
      some (.inbound (.coordinator number) request, inbox))
    (alone : inbox.filter (·.isOf (.coordinator number)) = [])
    (reads : run.readsFor (.coordinator number) = [])
    (unhandled : history.handledFor (.coordinator number) = [])
    (replies : history.replies number = []) :
    (history.extend action).Course context number place request := by
  have located := located_moves lived moves
  have running := (Run.next?_eq_some.mp next).1
  have handled : (history.extend action).handledFor (.coordinator number) =
      [⟨place, run, .inbound (.coordinator number) request,
        (run.meet context (history.momentOf step)).run⟩] := by
    rw [moves.handledFor, unhandled, next, lived.context]
    simp
  cases lived.replies moves.run_sound moves.located next alone reads with
  | answered due goes_on settled free =>
    have answer := replies_moves lived other moves settled
    exact .answered located free handled due (goes_on.trans running)
      (by simpa [replies, Occurrence.reply?] using answer)
  | deferred due goes_on settled queue reads =>
    have silent := replies_moves lived other moves settled
    exact .reading located queue reads handled due (goes_on.trans running)
      (by simpa [replies] using silent)
  | brokeDown cause crashed settled free =>
    have answer := replies_moves lived other moves settled
    exact .brokeDown located free handled cause crashed
      (by simpa [replies, Occurrence.reply?] using answer)

/-- A request that waits is handled, or goes on waiting, or its session is over. -/
theorem course_waiting (taken : run.isOpen = true)
    (queue : run.queue (.coordinator number) = [.inbound (.coordinator number) request])
    (reads : run.readsFor (.coordinator number) = [])
    (unhandled : history.handledFor (.coordinator number) = [])
    (replies : history.replies number = []) :
    (history.extend action).Course context number place request := by
  have located := located_moves lived moves
  have unasked := other.unasked place step moves.deed
  rcases Run.handles_or_ignores history.coordinator.fleet.now queue reads unasked with
    ⟨inbox, next, alone⟩ | ignores
  · exact course_handled lived other moves next alone reads unhandled replies
  · obtain ⟨passes, reads_eq, _⟩ :=
      Run.spares_act context history.coordinator.fleet.pool moves.run_sound ignores
    have unhandled_still := (moves.handledFor_of_ignores ignores).trans unhandled
    cases passes with
    | kept taken_still queue_still settled =>
      have unsettled : (run.meet context (history.momentOf step)).settled (.coordinator number) =
          [] := settled
      have silent := replies_moves lived other moves unsettled
      exact .waiting located (taken_still.trans taken) (queue_still.trans queue)
        (reads_eq.trans reads) unhandled_still (by simpa [replies] using silent)
    | closed ended emptied settled =>
      have left : (run.meet context (history.momentOf step)).settled (.coordinator number) =
          leftUnanswered (run.queue (.coordinator number)) := settled
      rw [queue] at left
      have answer := replies_moves lived other moves left
      exact .missed located ended ⟨emptied, reads_eq.trans reads⟩ unhandled_still
        (by simpa [replies, leftUnanswered, Event.request?, Occurrence.reply?] using answer)

/-- An answer that waits for the package to be read is given, or goes on waiting, whatever becomes
of its session. -/
theorem course_reading {handler after : Run} {response : Response}
    (queue : run.queue (.coordinator number) = [])
    (reads : run.readsFor (.coordinator number) = [(.coordinator number, response)])
    (handled : history.handledFor (.coordinator number) =
      [⟨place, handler, .inbound (.coordinator number) request, after⟩])
    (due : handler.session.AnswersDue context request response) (goes_on : after.status = .running)
    (replies : history.replies number = []) :
    (history.extend action).Course context number place request := by
  have located := located_moves lived moves
  have unasked := other.unasked place step moves.deed
  rcases Run.reads_or_ignores history.coordinator.fleet.now queue reads unasked with
    ⟨among, rfl, found, alone⟩ | ignores
  · have finishes : run.meet context (history.momentOf (.finishRead among)) = RunStep.occur
        ⟨{ run with reads := run.reads.eraseIdx among }, history.coordinator.fleet.pool, []⟩
        (.answered (.coordinator number) response) := by
      simp [Run.meet, momentOf, Run.act, found]
    have settled : (run.meet context (history.momentOf (.finishRead among))).settled
        (.coordinator number) = [.answered (.coordinator number) response] := by
      simp [finishes, RunStep.settled, RunStep.occur]
    have answer := replies_moves lived other moves settled
    have unchanged : (history.extend action).handledFor (.coordinator number) =
        history.handledFor (.coordinator number) := by
      rw [moves.handledFor]
      exact List.append_nil _
    rw [finishes] at located
    exact .answered located ⟨queue, alone⟩ (unchanged.trans handled) due goes_on
      (by simpa [replies, Occurrence.reply?] using answer)
  · obtain ⟨passes, reads_eq, _⟩ :=
      Run.spares_act context history.coordinator.fleet.pool moves.run_sound ignores
    obtain ⟨queue_still, settled⟩ := passes.of_queue_nil queue
    have unsettled : (run.meet context (history.momentOf step)).settled (.coordinator number) =
        [] := settled
    have silent := replies_moves lived other moves unsettled
    exact .reading located queue_still (reads_eq.trans reads)
      ((moves.handledFor_of_ignores ignores).trans handled) due goes_on
      (by simpa [replies] using silent)

end

/-- A request goes its course when something happens to its session. -/
theorem Course.moved {context : SessionContext} {request : Request} {place : Nat}
    {step : RunAction} {run : Run} (course : history.Course context number place request)
    (lived : history.Lived context) (other : history.Other action number)
    (moves : history.Moves action place step run) :
    (history.extend action).Course context number place request := by
  have located_after := located_moves lived moves
  cases course with
  | waiting located taken queue reads unhandled replies =>
    obtain rfl := Option.some.inj (moves.located.symm.trans located)
    exact course_waiting lived other moves taken queue reads unhandled replies
  | reading located queue reads handled due goes_on replies =>
    obtain rfl := Option.some.inj (moves.located.symm.trans located)
    exact course_reading lived other moves queue reads handled due goes_on replies
  | missed located closed free unhandled replies =>
    obtain rfl := Option.some.inj (moves.located.symm.trans located)
    obtain ⟨free_still, silent, unhandled_still⟩ := free_moves lived other moves free
    exact .missed located_after (isOpen_meet_of_closed closed) free_still
      (unhandled_still.trans unhandled) (silent.trans replies)
  | brokeDown located free handled cause crashed replies =>
    obtain rfl := Option.some.inj (moves.located.symm.trans located)
    obtain ⟨free_still, silent, handled_still⟩ := free_moves lived other moves free
    exact .brokeDown located_after free_still (handled_still.trans handled) cause crashed
      (silent.trans replies)
  | answered located free handled due goes_on replies =>
    obtain rfl := Option.some.inj (moves.located.symm.trans located)
    obtain ⟨free_still, silent, handled_still⟩ := free_moves lived other moves free
    exact .answered located_after free_still (handled_still.trans handled) due goes_on
      (silent.trans replies)

/-! ## The fate of a call -/

/-- What has become of the call with a number, which put a request to an endpoint. -/
inductive Fate (context : SessionContext) (history : CoordinatorHistory) (number : Nat)
    (endpoint : EndpointId) (request : Request) : Prop
  /-- The endpoint had no session. -/
  | absent (found : history.FoundNone number endpoint)
      (clear : history.coordinator.fleet.IsClear (.coordinator number) [])
      (unhandled : history.handledFor (.coordinator number) = [])
      (replies : history.replies number = [request.refuse CompletionCode.notInUpdateMode])
  /-- The request went to the session of the endpoint. -/
  | routed {place : Nat} (found : history.Found number endpoint place)
      (belongs : history.coordinator.fleet.endpoints[place]? = some endpoint)
      (elsewhere : history.coordinator.fleet.IsClear (.coordinator number) [place])
      (course : history.Course context number place request)

variable {context : SessionContext} {endpoint : EndpointId} {request : Request}

/-- No session comes to belong to another endpoint. -/
theorem belongs_extend (sound : history.coordinator.fleet.IsSound) (booked : history.Booked)
    {place : Nat} (belongs : history.coordinator.fleet.endpoints[place]? = some endpoint) :
    (history.extend action).coordinator.fleet.endpoints[place]? = some endpoint := by
  cases deed_eq : history.deed action with
  | aside | collected | cleared =>
    rw [CoordinatorHistory.extend, Fleet.endpoints, (fleet_quiet (by rw [deed_eq]; rfl)).1]
    exact belongs
  | started record =>
    rw [(starts deed_eq).fleet, endpoints_add, getElem?_concat_eq_some]
    exact .inl belongs
  | moved moved step =>
    obtain ⟨run, moves⟩ := booked.moves sound deed_eq
    rw [moves.endpoints]
    exact belongs

/-- A session rests while nothing happens to it. -/
theorem runs_elsewhere (sound : history.coordinator.fleet.IsSound) (booked : history.Booked)
    {place : Nat} {run : Run} (located : history.coordinator.fleet.runs[place]? = some run)
    (elsewhere : ∀ step, history.deed action ≠ .moved place step) :
    (history.extend action).coordinator.fleet.runs[place]? = some run := by
  cases deed_eq : history.deed action with
  | aside | collected | cleared =>
    rw [CoordinatorHistory.extend, (fleet_quiet (by rw [deed_eq]; rfl)).1]
    exact located
  | started record =>
    rw [(starts deed_eq).fleet, Fleet.add, getElem?_concat_eq_some]
    exact .inl located
  | moved moved step =>
    obtain ⟨run, moves⟩ := booked.moves sound deed_eq
    have other : moved ≠ place := by
      rintro rfl
      exact elsewhere step deed_eq
    rw [CoordinatorHistory.extend, moves.fleet, Fleet.change, List.getElem?_set_ne other]
    exact located

/-- Whatever others do, the call meets one fate. -/
theorem Fate.extend (fate : history.Fate context number endpoint request)
    (lived : history.Lived context) (sound : history.coordinator.fleet.IsSound)
    (booked : history.Booked) (other : history.Other action number) :
    (history.extend action).Fate context number endpoint request := by
  cases fate with
  | absent found clear unhandled replies =>
    obtain ⟨silent, still⟩ := silent_of_isClear sound booked other clear nofun
    exact .absent found.extend (isClear_extend sound booked other clear) (still.trans unhandled)
      (silent.trans replies)
  | @routed place found belongs elsewhere course =>
    refine .routed found.extend (belongs_extend sound booked belongs)
      (isClear_extend sound booked other elsewhere) ?_
    by_cases rests : ∀ step, history.deed action ≠ .moved place step
    · have exempted : ∀ among ∈ [place], ∀ step, history.deed action ≠ .moved among step :=
        List.forall_mem_singleton.mpr rests
      obtain ⟨run, located, _⟩ := Fleet.endpoints_eq_some.mp belongs
      exact course.rests ((runs_elsewhere sound booked located rests).trans located.symm)
        (silent_of_isClear sound booked other elsewhere exempted)
    · push Not at rests
      obtain ⟨step, deed_eq⟩ := rests
      obtain ⟨run, moves⟩ := booked.moves sound deed_eq
      exact course.moved lived other moves

/-! ## When a call is made -/

/-- Nobody has heard of the call with a number, which has not been made yet. -/
structure Unheard (history : CoordinatorHistory) (number : Nat) : Prop where
  clear : history.coordinator.fleet.IsClear (.coordinator number) []
  unhandled : history.handledFor (.coordinator number) = []
  replies : history.replies number = []

theorem Unheard.extend (unheard : history.Unheard number)
    (sound : history.coordinator.fleet.IsSound) (booked : history.Booked)
    (other : history.Other action number) : (history.extend action).Unheard number := by
  obtain ⟨silent, still⟩ := silent_of_isClear sound booked other unheard.clear nofun
  exact ⟨isClear_extend sound booked other unheard.clear, still.trans unheard.unhandled,
    silent.trans unheard.replies⟩

/-- A call to an endpoint with a session puts the request to it. -/
theorem deed_inbound {update : ActiveUpdate}
    (active : history.coordinator.active? endpoint = some update) (request : Request) :
    history.deed (.inbound endpoint request) =
      .moved update.run (.inbound (.coordinator history.entries.length) request) := by
  simp [deed, Coordinator.deed, active]

/-- A call to an endpoint without a session is answered at once. -/
theorem fate_of_absent (unheard : history.Unheard history.entries.length)
    (nobody : history.coordinator.active? endpoint = none) :
    (history.extend (.inbound endpoint request)).Fate context history.entries.length endpoint
      request := by
  have deed_eq : history.deed (.inbound endpoint request) = .aside := by
    simp [deed, Coordinator.deed, nobody]
  have next_eq : history.next (.inbound endpoint request) =
      ⟨history.coordinator, [Coordinator.absence history.entries.length request], .done⟩ := by
    simp [next, Coordinator.apply, Coordinator.inbound, nobody]
  refine .absent ⟨_, List.getElem?_concat_length, nobody⟩ ?_ ?_ ?_
  · rw [CoordinatorHistory.extend, next_eq]
    exact unheard.clear
  · rw [handledFor_extend, deed_eq]
    exact (List.append_nil _).trans unheard.unhandled
  · rw [replies_extend, next_eq, unheard.replies]
    simp [Coordinator.absence, CoordinatorEvent.reply?]

/-- The session of the endpoint takes the request of a call, unless it is over. -/
theorem course_of_active {update : ActiveUpdate} {run : Run}
    (unheard : history.Unheard history.entries.length) (lived : history.Lived context)
    (sound : history.coordinator.fleet.IsSound) (booked : history.Booked)
    (active : history.coordinator.active? endpoint = some update)
    (located : history.coordinator.fleet.runs[update.run]? = some run) :
    (history.extend (.inbound endpoint request)).Course context history.entries.length update.run
      request := by
  obtain ⟨mover, moves⟩ := booked.moves sound (deed_inbound active request)
  obtain rfl := Option.some.inj (located.symm.trans moves.located)
  have located_after := located_moves lived moves
  have unhandled : (history.extend (.inbound endpoint request)).handledFor
      (.coordinator history.entries.length) = [] := by
    rw [moves.handledFor]
    exact (List.append_nil _).trans unheard.unhandled
  have replies : (history.extend (.inbound endpoint request)).replies history.entries.length =
      (run.meet context (history.momentOf
        (.inbound (.coordinator history.entries.length) request))).occurrences.filterMap
          (·.reply? history.entries.length) := by
    rw [replies_extend, unheard.replies, next]
    simp only [Coordinator.apply, Coordinator.inbound, active, Coordinator.replies_act]
    rw [Fleet.act_eq located, lived.context]
    rfl
  have free := unheard.clear update.run run located (List.not_mem_nil)
  cases taken : run.isOpen with
  | true =>
    have met : run.meet context (history.momentOf
        (.inbound (.coordinator history.entries.length) request)) = RunStep.enqueue
          ⟨run, history.coordinator.fleet.pool, []⟩
          (.inbound (.coordinator history.entries.length) request) := by
      simp [Run.meet, momentOf, Run.act, taken]
    rw [met] at located_after replies
    exact .waiting located_after taken (free.queue_enqueue _ request) free.reads unhandled replies
  | false =>
    have met : run.meet context (history.momentOf
        (.inbound (.coordinator history.entries.length) request)) = RunStep.occur
          ⟨run, history.coordinator.fleet.pool, []⟩
          (.unanswered (.coordinator history.entries.length) request) := by
      simp [Run.meet, momentOf, Run.act, taken]
    rw [met] at located_after replies
    exact .missed located_after taken free unhandled
      (by simpa [RunStep.occur, Occurrence.reply?] using replies)

/-- The call meets its fate when it is made. -/
theorem fate_of_call (unheard : history.Unheard history.entries.length)
    (lived : history.Lived context) (sound : history.coordinator.fleet.IsSound)
    (booked : history.Booked) (endpoint : EndpointId) (request : Request) :
    (history.extend (.inbound endpoint request)).Fate context history.entries.length endpoint
      request := by
  cases active : history.coordinator.active? endpoint with
  | none => exact fate_of_absent unheard active
  | some update =>
    have belongs := (booked.active endpoint update active).1.1
    obtain ⟨run, located, _⟩ := Fleet.endpoints_eq_some.mp belongs
    refine .routed ⟨_, update, List.getElem?_concat_length, active, rfl⟩
      (belongs_extend sound booked belongs) ?_
      (course_of_active unheard lived sound booked active located)
    intro place other located_after exposed
    have elsewhere : update.run ≠ place := fun same => exposed (List.mem_singleton.mpr same.symm)
    obtain ⟨mover, moves⟩ := booked.moves sound (deed_inbound active request)
    obtain ⟨_, old⟩ | ⟨same, _⟩ := moves.run_extend located_after
    · exact unheard.clear place other old List.not_mem_nil
    · exact absurd same.symm elsewhere

end CoordinatorHistory

/-! ## Any history -/

/-- Whether an action puts a request to a session in the name of the call with a number. -/
def CoordinatorAction.impersonates (number : Nat) : CoordinatorAction → Bool
  | act _ _ step => step.caller? == some (.coordinator number)
  | _ => false

namespace CoordinatorHistory

variable {history : CoordinatorHistory} {action : CoordinatorAction} {number : Nat}

theorem other_of_genuine (earlier : history.entries.length ≠ number)
    (genuine : action.impersonates number = false) : history.Other action number where
  earlier := earlier
  unasked := by
    rintro place step deed_eq
    cases action with
    | cancel endpoint =>
      simp only [deed, Coordinator.deed] at deed_eq
      split at deed_eq
      · split at deed_eq
        · obtain ⟨_, rfl⟩ := CoordinatorDeed.moved.inj deed_eq
          simp [RunAction.caller?]
        · cases deed_eq
      · cases deed_eq
    | inbound endpoint request =>
      simp only [deed, Coordinator.deed] at deed_eq
      split at deed_eq
      · obtain ⟨_, rfl⟩ := CoordinatorDeed.moved.inj deed_eq
        simpa [RunAction.caller?] using earlier
      · cases deed_eq
    | act endpoint among other =>
      simp only [deed, Coordinator.deed] at deed_eq
      split at deed_eq
      · obtain ⟨_, rfl⟩ := CoordinatorDeed.moved.inj deed_eq
        exact beq_eq_false_iff_ne.mp genuine
      · cases deed_eq
    | start record =>
      simp only [deed, Coordinator.deed] at deed_eq
      split at deed_eq <;> cases deed_eq
    | wake endpoint ticket =>
      simp only [deed, Coordinator.deed] at deed_eq
      split at deed_eq
      · split at deed_eq <;> cases deed_eq
      · cases deed_eq
    | wait | abandon | clearFinishedProgress | elapse | acquire | release => cases deed_eq

variable (context : SessionContext) (pool : InstanceIdPool)

/-- Nobody hears of a call before it is made. -/
theorem unheard_through {number : Nat} (actions : List CoordinatorAction)
    (coming : actions.length ≤ number)
    (genuine : ∀ action ∈ actions, action.impersonates number = false) :
    (through context pool actions).Unheard number := by
  induction actions using List.reverseRecOn with
  | nil => exact ⟨fun place run located => (nomatch located), rfl, rfl⟩
  | append_singleton actions action ih =>
    obtain ⟨before, last⟩ := List.forall_mem_append.mp genuine
    rw [List.length_append, List.length_singleton] at coming
    obtain ⟨sound, booked⟩ := booked_through context pool actions
    rw [through_concat]
    refine (ih (Nat.le_of_succ_le coming) before).extend sound booked
      (other_of_genuine ?_ (last action (List.mem_singleton_self action)))
    rw [length_entries]
    exact Nat.ne_of_lt coming

/-- Nobody has heard of the next call. -/
theorem unheard_next {earlier : List CoordinatorAction}
    (genuine : ∀ action ∈ earlier, action.impersonates earlier.length = false) :
    (through context pool earlier).Unheard (through context pool earlier).entries.length := by
  rw [length_entries]
  exact unheard_through context pool earlier (Nat.le_refl _) genuine

/-- A call is among the calls of a history that goes on after it. -/
theorem made_through (earlier later : List CoordinatorAction) (call : CoordinatorAction) :
    earlier.length < (through context pool (earlier ++ call :: later)).entries.length := by
  rw [length_entries, List.length_append, List.length_cons]
  omega

/-- The call meets one fate, whatever was called before and whatever is called after it. -/
theorem fate_through (earlier later : List CoordinatorAction) (endpoint : EndpointId)
    (request : Request)
    (genuine : ∀ action ∈ earlier ++ later, action.impersonates earlier.length = false) :
    (through context pool (earlier ++ .inbound endpoint request :: later)).Fate context
      earlier.length endpoint request := by
  induction later using List.reverseRecOn with
  | nil =>
    have unheard := unheard_next context pool (List.forall_mem_append.mp genuine).1
    obtain ⟨sound, booked⟩ := booked_through context pool earlier
    have lived := lived_through context pool earlier
    rw [through_concat, ← length_entries context pool earlier]
    exact fate_of_call unheard lived sound booked endpoint request
  | append_singleton later action ih =>
    rw [← List.append_assoc] at genuine
    obtain ⟨before, last⟩ := List.forall_mem_append.mp genuine
    obtain ⟨sound, booked⟩ :=
      booked_through context pool (earlier ++ .inbound endpoint request :: later)
    have made := made_through context pool earlier later (.inbound endpoint request)
    rw [← List.cons_append, ← List.append_assoc, through_concat]
    exact (ih before).extend (lived_through _ _ _) sound booked
      (other_of_genuine made.ne' (last action (List.mem_singleton_self action)))

end CoordinatorHistory

end FirmwareAgent
