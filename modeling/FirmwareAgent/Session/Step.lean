import FirmwareAgent.Session.Basic

/-!
# The steps of an update

The command that belongs to each state, how it is sent, and how its outcome moves the session on.

A step can fail before anything is sent: the record or the table may not fit, the request may have
no wire form, or no instance id may be free, in that order. A response moves the session on only if
it carries the command it answers, reports success and has a readable body, in that order.
-/

namespace FirmwareAgent

/-- A request still without its instance id. -/
structure Draft where
  command : Command
  payload : Bytes
  deriving DecidableEq, Repr

def Draft.ofBody {α : Type} [Body α] (body : Except WireError α) : Except UpdateError Draft :=
  match body >>= Body.encode with
  | .ok payload => .ok ⟨Body.command α, payload⟩
  | .error error => .error (.encode (Body.command α).name (.malformed error))

namespace Session

/-- Refuses a record that names no components, or one that is not in the package. -/
def checkRecord (context : SessionContext) (session : Session) : Except UpdateError Unit :=
  if session.record.applicableComponents.isEmpty then
    .error (.configuration (.noComponents session.endpoint))
  else
    match session.record.applicableComponents.find? fun index =>
        (context.components.get? index).isNone with
    | some missing =>
      .error (.configuration (.missingComponent missing context.components.size))
    | none => .ok ()

def componentIdentity (context : SessionContext) (session : Session) (position : Nat) :
    Except UpdateError (ComponentImage × ComponentIdentity) :=
  match session.componentAt? context position with
  | none => .error (.configuration (.noSuchPosition position))
  | some (index, component) =>
    match context.components.classificationIndex? component with
    | none =>
      .error (.configuration
        (.noClassificationIndex index component.classification component.identifier))
    | some classificationIndex => .ok (component, component.identity classificationIndex)

/-- The request that asks the target to enter update mode. -/
def updateDraft (context : SessionContext) (session : Session) : Except UpdateError Draft :=
  Draft.ofBody <| RequestUpdateRequest.ofCounts context.config.maxTransferSize
    session.record.componentCount context.config.maxOutstandingTransferRequests
    session.record.packageData.size session.record.imageSetVersion

/-- The request that passes the table entry of a position. -/
def tableDraft (context : SessionContext) (session : Session) (position : Nat) :
    Except UpdateError Draft := do
  let (component, identity) ← session.componentIdentity context position
  let transferFlag := TransferFlag.ofPosition position session.record.componentCount
  Draft.ofBody <| .ok
    (⟨transferFlag, identity, component.versionString⟩ : PassComponentTableRequest)

/-- The request that announces the component of a position. -/
def componentDraft (context : SessionContext) (session : Session) (position : Nat) :
    Except UpdateError Draft := do
  let (component, identity) ← session.componentIdentity context position
  Draft.ofBody <| .ok
    (⟨identity, component.size, component.updateOptionFlags, component.versionString⟩ :
      UpdateComponentRequest)

/-- The request that asks the target to activate what it applied. -/
def activationDraft : Except UpdateError Draft :=
  Draft.ofBody <| .ok (⟨false⟩ : ActivateFirmwareRequest)

/-- The request that belongs to the current state, if the agent is to send one. -/
def nextDraft? (context : SessionContext) (session : Session) : Option (Except UpdateError Draft) :=
  match session.state with
  | .awaitingUpdateAck => some (session.updateDraft context)
  | .passingComponentTable position => some (session.tableDraft context position)
  | .updatingComponent position => some (session.componentDraft context position)
  | .activatingFirmware => some activationDraft
  | _ => none

end Session

namespace Turn

/-- Sends a draft under a fresh instance id. -/
def submit (context : SessionContext) (now : Instant) (draft : Draft) (turn : Turn) : Turn :=
  match turn.pool.acquire turn.session.endpoint now with
  | .error error => turn.fail context now error
  | .ok (lease, pool) =>
    -- A command that were still pending would keep its id until the new one has its own.
    let turn := { turn with pool := pool }.dropPending
    let token := turn.session.nextToken
    { turn with
      session := { turn.session with
        pending := some ⟨token, draft.command, lease⟩
        nextToken := token + 1 } }.emit
      (.submit token draft.command lease
        (.firmwareUpdate lease.id draft.command draft.payload))

/-- Sends the request that belongs to the current state. -/
def issueStep (context : SessionContext) (now : Instant) (turn : Turn) : Turn :=
  match turn.session.nextDraft? context with
  | none => turn
  | some (.error error) => turn.fail context now error
  | some (.ok draft) => turn.submit context now draft

/-- Starts an update. -/
def start (context : SessionContext) (now : Instant) (turn : Turn) : Turn :=
  match turn.session.checkRecord context with
  | .error error => turn.fail context now error
  | .ok () => (turn.enter .awaitingUpdateAck).issueStep context now

/-- Moves on from the component at a position: to the next one, or to activation. -/
def advanceComponent (position : Nat) (turn : Turn) : Turn :=
  turn.enterThenProceed <|
    if position + 1 < turn.session.record.componentCount then .updatingComponent (position + 1)
    else .activatingFirmware

/-- Notes how the component at a position ended, and moves on from it. -/
def finishComponent (position : Nat) (success : Bool) (turn : Turn) : Turn :=
  let index := turn.session.componentIndex position
  (turn.emit (.notify (.applied turn.session.endpoint index success))).advanceComponent position

/-- Goes on with the body of a successful response, or gives up if it cannot be read. -/
def withBody {α : Type} [Body α] (context : SessionContext) (now : Instant) (bytes : Bytes)
    (turn : Turn) (next : α → Turn) : Turn :=
  match Body.decode α bytes with
  | .ok body => next body
  | .error error =>
    turn.fail context now (.decode (Body.command α).name (.malformed error))

/-- Moves on by the body of a successful response. -/
def acceptBody (context : SessionContext) (now : Instant) (command : Command) (bytes : Bytes)
    (turn : Turn) : Turn :=
  match command, turn.session.state with
  | .requestUpdate, .awaitingUpdateAck =>
    turn.withBody context now bytes fun (_ : RequestUpdateResponse) =>
      turn.enterThenProceed (.passingComponentTable 0)
  | .passComponentTable, .passingComponentTable position =>
    turn.withBody context now bytes fun (_ : PassComponentTableResponse) =>
      turn.enterThenProceed <|
        if position + 1 < turn.session.record.componentCount then
          .passingComponentTable (position + 1)
        else .updatingComponent 0
  | .updateComponent, .updatingComponent position =>
    turn.withBody context now bytes fun (body : UpdateComponentResponse) =>
      if body.isCompatible then turn.awaitOutcome context now position
      else turn.finishComponent position false
  | .activateFirmware, .activatingFirmware =>
    turn.withBody context now bytes fun (_ : ActivateFirmwareResponse) =>
      (turn.enter .completed).emit
        (.notify (.completed turn.session.endpoint true))
  | command, state =>
    turn.fail context now (.decode command.name (.outOfTurn state.describe))

/-- Handles the response to a command. The target counts as in update mode as soon as it reports
success to RequestUpdate, whatever the body says. -/
def acceptResponse (context : SessionContext) (now : Instant) (command : Command)
    (response : Response) (turn : Turn) : Turn :=
  if response.command ≠ command.code then
    turn.fail context now (.decode command.name (.otherCommand response.command))
  else if !response.isSuccess then
    turn.fail context now (.remote command.name response.completionCode)
  else
    let turn :=
      if command = .requestUpdate then
        { turn with session := { turn.session with inUpdateMode := true } }
      else turn
    turn.acceptBody context now command response.body

/-- Handles the outcome of an exchange. Only the exchange of the pending command counts. -/
def onResponse (context : SessionContext) (now : Instant) (token : Nat)
    (outcome : Except UpdateError Response) (turn : Turn) : Turn :=
  match turn.session.pending with
  | none => turn
  | some pending =>
    if pending.token = token then
      -- The exchange is over: its id is free before the next command asks for one.
      match outcome with
      | .error error => turn.dropPending.fail context now error
      | .ok response => turn.dropPending.acceptResponse context now pending.command response
    else turn

end Turn

end FirmwareAgent
