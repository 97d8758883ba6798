import FirmwareAgent.DataService
import FirmwareAgent.Session.Step

/-!
# Requests of the target

Which of a target's requests a session serves, and how. The type of the message is judged first,
then its command, then whether the session's state allows it, and only then the body.

Package data is served throughout the update. The requests about a component are served while the
component is outstanding. A target may start to pull as soon as it has answered UpdateComponent, so
all of them but ApplyComplete are also served while that answer is still on its way.
-/

namespace FirmwareAgent

/-- What becomes of a target's request. -/
inductive Disposition
  | refuse (completionCode : UInt8)
  | packageData
  /-- It pulls image data of the component at the position. -/
  | firmwareData (position : Nat)
  | transferComplete (position : Nat)
  | verifyComplete (position : Nat)
  /-- It reports how the component at the position was applied. -/
  | applyComplete (position : Nat)
  deriving DecidableEq, Repr

/-- How a target's request is answered. -/
inductive Reply
  /-- At once. -/
  | ready (response : Response)
  /-- Once the package has been read. -/
  | reading (response : Response)
  /-- Not at all: the session breaks down. -/
  | crash
  deriving DecidableEq, Repr

namespace Session

/-- The component whose pulls and reports are served: the outstanding one, or the one that is just
being announced. -/
def servedPosition? (session : Session) : Option Nat :=
  match session.state with
  | .awaitingComponentOutcome position => some position
  | .updatingComponent position =>
    if session.awaits .updateComponent then some position else none
  | _ => none

/-- Serves a request about a component if there is one to serve. -/
def disposeComponent (session : Session) (serve : Nat → Disposition) : Disposition :=
  match session.servedPosition? with
  | some position => serve position
  | none => .refuse CompletionCode.commandNotExpected

/-- What becomes of a target's request. -/
def dispose (session : Session) (request : Request) : Disposition :=
  if request.pldmType ≠ firmwareUpdateType then .refuse CompletionCode.errorInvalidType
  else
    match Command.ofCode? request.command with
    | some .getPackageData =>
      if session.state.isInProgress then .packageData
      else .refuse CompletionCode.commandNotExpected
    | some .requestFirmwareData => session.disposeComponent .firmwareData
    | some .transferComplete => session.disposeComponent .transferComplete
    | some .verifyComplete => session.disposeComponent .verifyComplete
    | some .applyComplete =>
      match session.state with
      | .awaitingComponentOutcome position => .applyComplete position
      | _ => .refuse CompletionCode.commandNotExpected
    | _ => .refuse CompletionCode.errorUnsupportedCommand

/-- Answers a pull with the bytes that were read, or says that they could not be. -/
def answerReading (request : Request) : Reading UpdateError → Response
  | .done bytes => request.respond CompletionCode.success bytes
  | .failed _ | .crashed => request.refuse CompletionCode.error

/-- Answers a pull of image data. A source in memory is read at once, and so is a window that holds
nothing but zeros; if such a read breaks down, so does the session. A read of any other source is
finished elsewhere and breaks down alone. -/
def serveFirmwareData (context : SessionContext) (session : Session) (position : Nat)
    (request : Request) : Reply :=
  match Body.decode RequestFirmwareDataRequest request.payload with
  | .error error => .ready (request.refuse error.completionCode)
  | .ok pull =>
    match session.componentAt? context position with
    | none => .ready (request.refuse CompletionCode.error)
    | some (_, component) =>
      match FirmwareDataWindow.plan component.size pull context.config.baselineTransferSize
          context.config.maxTransferSize with
      | .error error =>
        .ready (request.refuse (error.completionCode?.getD CompletionCode.error))
      | .ok window =>
        let reading := window.read context.package component
        -- The source is asked even for a window of zeros, and may break down at that.
        if context.package.isInMemory || window.readLength == 0 then
          match reading with
          | .crashed => .crash
          | reading => .ready (answerReading request reading)
        else .reading (answerReading request reading)

/-- Answers a pull of package data. An unknown operation has a completion code of its own. -/
def servePackageData (context : SessionContext) (session : Session) (request : Request) :
    Response :=
  match Body.decode GetPackageDataRequest request.payload with
  | .error (.invalidValue field value) =>
    if field = TransferOperation.field then
      request.refuse CompletionCode.invalidTransferOperationFlag
    else request.refuse (WireError.invalidValue field value).completionCode
  | .error error => request.refuse error.completionCode
  | .ok pull =>
    let data := session.record.packageData
    match PackageDataPart.plan data.size pull context.config.maxTransferSize with
    | .error error => request.refuse (error.completionCode?.getD CompletionCode.error)
    | .ok part =>
      let portion := (data.extract part.start part.stop).toList
      match Body.encode (⟨part.nextHandle, part.transferFlag, portion⟩ : GetPackageDataResponse)
        with
      | .ok body => request.respond CompletionCode.success body
      | .error _ => request.refuse CompletionCode.error

/-- Acknowledges a report whose body can be read. -/
def acknowledge (α : Type) [Body α] (request : Request) : Response :=
  match Body.decode α request.payload with
  | .ok _ => request.refuse CompletionCode.success
  | .error error => request.refuse error.completionCode

end Session

namespace Turn

/-- Times the target's silence anew, if it is timed. There is no such turn if the clock cannot show
the deadline. -/
def rearm? (context : SessionContext) (now : Instant) (turn : Turn) : Option Turn :=
  match turn.session.state with
  | .awaitingComponentOutcome _ =>
    (now.after? context.clockEnd context.config.componentOutcomeTimeout).map fun deadline =>
      { turn with session := { turn.session with outcomeDeadline := some deadline } }
  | _ => some turn

/-- Answers a target's request. -/
def reply (caller : Caller) (request : Request) (turn : Turn) : Reply → Turn
  | .ready response => turn.emit (.answer caller response)
  | .reading response => turn.emit (.answerLater caller response)
  | .crash => turn.emit (.crash (some (caller, request)))

/-- Handles a target's report that a component was applied. A failure to apply it ends the component
too. -/
def onApplyComplete (caller : Caller) (request : Request) (position : Nat) (turn : Turn) : Turn :=
  let turn :=
    match Body.decode ApplyCompleteRequest request.payload with
    | .ok report => turn.finishComponent position report.succeeded
    | .error _ => turn
  turn.reply caller request (.ready (Session.acknowledge ApplyCompleteRequest request))

/-- Serves a request about a component. Every such request, even one that is refused for its body,
shows that the target is alive. -/
def serveComponent (context : SessionContext) (now : Instant) (caller : Caller)
    (request : Request) (serve : Turn → Turn) (turn : Turn) : Turn :=
  match turn.rearm? context now with
  | some turn => serve turn
  | none => turn.reply caller request .crash

/-- Handles a target's request. -/
def onInbound (context : SessionContext) (now : Instant) (caller : Caller) (request : Request)
    (turn : Turn) : Turn :=
  match turn.session.dispose request with
  | .refuse completionCode =>
    turn.reply caller request (.ready (request.refuse completionCode))
  | .packageData =>
    turn.reply caller request (.ready (turn.session.servePackageData context request))
  | .firmwareData position =>
    turn.serveComponent context now caller request
      (·.reply caller request (turn.session.serveFirmwareData context position request))
  | .transferComplete _ =>
    turn.serveComponent context now caller request
      (·.reply caller request (.ready (Session.acknowledge TransferCompleteRequest request)))
  | .verifyComplete _ =>
    turn.serveComponent context now caller request
      (·.reply caller request (.ready (Session.acknowledge VerifyCompleteRequest request)))
  | .applyComplete position =>
    turn.serveComponent context now caller request
      (·.onApplyComplete caller request position)

def handle (context : SessionContext) (now : Instant) (event : Event) (turn : Turn) : Turn :=
  match event with
  | .proceed => turn.issueStep context now
  | .response token outcome => turn.onResponse context now token outcome
  | .inbound caller request => turn.onInbound context now caller request
  | .outcomeTimeout =>
    match turn.session.state with
    | .awaitingComponentOutcome position =>
      turn.fail context now
        (.timeout (.targetRequests (turn.session.componentIndex position)))
    | _ => turn
  | .cancel => turn.fail context now .cancelled

end Turn

end FirmwareAgent
