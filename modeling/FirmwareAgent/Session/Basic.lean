import FirmwareAgent.Component
import FirmwareAgent.Config
import FirmwareAgent.InstanceIdPool
import FirmwareAgent.Package
import FirmwareAgent.Session.State

/-!
# Sessions and what they are made of

A session handles one event at a time. What an event does is a `Turn`: the session and the pool of
instance ids afterwards, and the effects on everything else, in the order in which they happen. The
operations of this module are the small changes that a turn consists of.
-/

namespace FirmwareAgent

/-- What all sessions of an agent share. -/
structure SessionContext where
  config : UpdateConfig
  components : ComponentTable
  package : PackageSource
  /-- The first instant that the clock cannot show. How far it is away depends on the machine. -/
  clockEnd : Instant

/-- Who waits for the answer to a target's request. -/
inductive Caller
  /-- Someone who talks to the session itself. -/
  | handle (ticket : Nat)
  /-- Someone who asked the coordinator. -/
  | coordinator (ticket : Nat)
  deriving DecidableEq, Repr

/-- Something a session handles. -/
inductive Event
  /-- The next step of the update is due. -/
  | proceed
  /-- The exchange with the given token has ended. -/
  | response (token : Nat) (outcome : Except UpdateError Response)
  /-- The target asks for something. -/
  | inbound (caller : Caller) (request : Request)
  /-- The target was silent for too long. -/
  | outcomeTimeout
  /-- The agent gives the update up. -/
  | cancel

/-- A command whose exchange is under way. It owns its instance id until the exchange ends. -/
structure PendingCommand where
  token : Nat
  command : Command
  lease : Lease
  deriving DecidableEq, Repr

/-- What the agent is told about an update. -/
inductive Notification
  /-- A component is finished, applied or not. -/
  | applied (endpoint : EndpointId) (index : ComponentIndex) (success : Bool)
  /-- The update has ended. -/
  | completed (endpoint : EndpointId) (success : Bool)
  deriving DecidableEq, Repr

/-- What handling an event does beyond the session and the pool. -/
inductive Effect
  /-- A command goes out. Its outcome comes back as a `response` with the token. -/
  | submit (token : Nat) (command : Command) (lease : Lease) (request : Request)
  /-- CancelUpdate goes out. The exchange owns its lease, and its outcome comes back to nobody. -/
  | submitCancel (lease : Lease) (request : Request)
  /-- The session queues a `proceed` for itself. -/
  | scheduleProceed
  | notify (notification : Notification)
  /-- A target's request is answered. -/
  | answer (caller : Caller) (response : Response)
  /-- A target's request is answered once the package has been read. The package never changes, so
  the answer is known already. -/
  | answerLater (caller : Caller) (response : Response)
  /-- The session breaks down, in the midst of the given request of the target if it handles one. -/
  | crash (asked : Option (Caller × Request))
  deriving DecidableEq, Repr

/-- One device update. -/
structure Session where
  record : DeviceRecord
  state : SessionState := .idle
  pending : Option PendingCommand := none
  nextToken : Nat := 0
  /-- When the target will have been silent for too long. -/
  outcomeDeadline : Option Instant := none
  /-- Whether the target has accepted RequestUpdate. -/
  inUpdateMode : Bool := false
  deriving DecidableEq, Repr

namespace Session

/-- The endpoint of the device. -/
def endpoint (session : Session) : EndpointId :=
  session.record.endpoint

/-- The index in the component table of the component at a position. -/
def componentIndex (session : Session) (position : Nat) : ComponentIndex :=
  session.record.applicableComponents[position]?.getD (UInt64.ofNat position)

def componentAt? (context : SessionContext) (session : Session) (position : Nat) :
    Option (ComponentIndex × ComponentImage) := do
  let index ← session.record.applicableComponents[position]?
  let component ← context.components.get? index
  return (index, component)

/-- Whether a command of the given kind is under way. -/
def awaits (session : Session) (command : Command) : Bool :=
  session.pending.any (·.command == command)

end Session

/-- What handling an event does. -/
structure Turn where
  session : Session
  pool : InstanceIdPool
  effects : List Effect := []

namespace Turn

/-- Adds an effect after all others. -/
def emit (turn : Turn) (effect : Effect) : Turn :=
  { turn with effects := turn.effects ++ [effect] }

/-- Changes the state to one in which the target is not at work on a component, so its silence is
not timed. -/
def enter (state : SessionState) (turn : Turn) : Turn :=
  { turn with session := { turn.session with state := state, outcomeDeadline := none } }

/-- Changes the state to one whose command is still to be sent. -/
def enterThenProceed (state : SessionState) (turn : Turn) : Turn :=
  (turn.enter state).emit .scheduleProceed

/-- Leaves the component at a position to the target, whose silence is timed from now on. The
session breaks down, still in its old state, if the clock cannot show the deadline. -/
def awaitOutcome (context : SessionContext) (now : Instant) (position : Nat) (turn : Turn) : Turn :=
  match now.after? context.clockEnd context.config.componentOutcomeTimeout with
  | none => turn.emit (.crash none)
  | some deadline =>
    { turn with
      session := { turn.session with
        state := .awaitingComponentOutcome position
        outcomeDeadline := some deadline } }

/-- Forgets the pending command and gives its instance id back. -/
def dropPending (turn : Turn) : Turn :=
  match turn.session.pending with
  | none => turn
  | some pending =>
    { turn with
      session := { turn.session with pending := none }
      pool := turn.pool.drop pending.lease }

/-- Sends CancelUpdate if an instance id can be had for it. -/
def sendCancel (now : Instant) (turn : Turn) : Turn :=
  match turn.pool.acquire turn.session.endpoint now with
  | .error _ => turn
  | .ok (lease, pool) =>
    { turn with pool := pool }.emit
      (.submitCancel lease (.firmwareUpdate lease.id .cancelUpdate []))

/-- Gives the update up. The command under way is abandoned and its instance id given back. A
session in update mode then tells the target. An ended session does nothing. -/
def fail (context : SessionContext) (now : Instant) (reason : UpdateError) (turn : Turn) : Turn :=
  if turn.session.state.isTerminal then turn
  else
    let turn := turn.dropPending
    -- CancelUpdate goes out before anyone can see that the session has failed.
    let turn :=
      if turn.session.inUpdateMode && context.config.cancelOnFailure then turn.sendCancel now
      else turn
    (turn.enter (.failed reason)).emit
      (.notify (.completed turn.session.endpoint false))

end Turn

end FirmwareAgent
