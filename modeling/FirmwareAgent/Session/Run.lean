import FirmwareAgent.Session.Inbound

/-!
# Runs

A run is a session at work: the session, the events that wait in its inbox, the exchanges it has
under way and the package reads that are not finished yet. Everything that can happen to a run is a
`RunAction`; `Run.act` says what it does. An action that is not possible does nothing.

The inbox keeps the order in which events arrive. It is given up when the run ends, and the
requests that are still in it get no answer. Exchanges and reads outlive the run.

The model relies on this:

* One thread carries all runs of an agent, so nothing comes in between while an action is carried
  out. A command is on its way as soon as it is submitted, and of several commands the first one
  submitted is the first one on its way.
* The dispatcher may answer late, wrongly or never, but it does not break down. An exchange ends
  when its outcome is there or when the agent stops waiting, or it does not end.
* The session itself can put events into its inbox. So the inbox stays open as long as the run, and
  no run ends because nobody can reach it any more.
-/

namespace FirmwareAgent

/-- A command on its way to a target and back. -/
structure Exchange where
  /-- The token under which the session waits for the outcome. Nobody waits for CancelUpdate. -/
  token : Option Nat
  command : Command
  request : Request
  /-- The lease of the instance id of the request. -/
  lease : Lease
  /-- When the agent stops waiting. It waits without end if the clock cannot show that moment. -/
  deadline : Option Instant
  deriving DecidableEq, Repr

/-- Whether the agent has waited long enough for the outcome. -/
def Exchange.isOverdue (now : Instant) (exchange : Exchange) : Bool :=
  exchange.deadline.any (· ≤ now)

/-- Whether a run handles events. -/
inductive RunStatus
  /-- It has not started yet. -/
  | waiting
  | running
  /-- The session reached a terminal state. -/
  | ended
  /-- The session broke down. -/
  | crashed
  deriving DecidableEq, Repr

/-- A session at work. -/
structure Run where
  session : Session
  status : RunStatus := .waiting
  /-- The events that wait to be handled, oldest first. -/
  inbox : List Event := []
  /-- The commands under way, oldest first. -/
  exchanges : List Exchange := []
  /-- The answers that wait for the package to be read, oldest first. -/
  reads : List (Caller × Response) := []

/-- What others see of a run. -/
inductive Occurrence
  /-- A request went out. -/
  | sent (exchange : Exchange)
  | notified (notification : Notification)
  /-- A target's request was answered. -/
  | answered (caller : Caller) (response : Response)
  /-- A target's request will get no answer, because the session is gone. -/
  | unanswered (caller : Caller) (request : Request)
  deriving DecidableEq, Repr

/-- What can happen to a run. -/
inductive RunAction
  /-- It starts. -/
  | begin
  /-- It handles the oldest event of its inbox. -/
  | handle
  /-- The target has been silent for too long. -/
  | expire
  /-- The exchange with the token ends with an outcome. -/
  | finish (token : Option Nat) (outcome : Except UpdateError Response)
  /-- The agent stops waiting for the exchange with the token. -/
  | timeOut (token : Option Nat)
  /-- The target asks for something. -/
  | inbound (caller : Caller) (request : Request)
  /-- The agent gives the update up. -/
  | cancel
  /-- The read at a place in the list is finished. -/
  | finishRead (place : Nat)

/-- A run after an action, with the pool and what others saw. -/
structure RunStep where
  run : Run
  pool : InstanceIdPool
  occurrences : List Occurrence := []

/-- The request that an event asks an answer for. -/
def Event.request? : Event → Option (Caller × Request)
  | .inbound caller request => some (caller, request)
  | _ => none

namespace Run

/-- The endpoint of the device. -/
def endpoint (run : Run) : EndpointId :=
  run.session.endpoint

/-- Whether the run still takes events. -/
def isOpen (run : Run) : Bool :=
  run.status == .waiting || run.status == .running

def exchange? (run : Run) (token : Option Nat) : Option Exchange :=
  run.exchanges.find? (·.token == token)

end Run

namespace RunStep

/-- Shows something to others. -/
def occur (step : RunStep) (occurrence : Occurrence) : RunStep :=
  { step with occurrences := step.occurrences ++ [occurrence] }

/-- Puts an event at the end of the inbox. -/
def enqueue (step : RunStep) (event : Event) : RunStep :=
  { step with run := { step.run with inbox := step.run.inbox ++ [event] } }

/-- Ends the run. What waits in the inbox is given up. -/
def close (status : RunStatus) (step : RunStep) : RunStep :=
  { step with
    run := { step.run with status := status, inbox := [] }
    occurrences := step.occurrences ++
      (step.run.inbox.filterMap Event.request?).map fun (caller, request) =>
        .unanswered caller request }

/-- Puts a command on its way. -/
def send (step : RunStep) (exchange : Exchange) : RunStep :=
  { step with run := { step.run with exchanges := step.run.exchanges ++ [exchange] } }.occur
    (.sent exchange)

/-- A session that breaks down lets go of its pending command and of its timer. What it last said
about its state stays. -/
def abandonSession (step : RunStep) : RunStep :=
  let turn := Turn.dropPending ⟨step.run.session, step.pool, []⟩
  { step with
    run := { step.run with session := { turn.session with outcomeDeadline := none } }
    pool := turn.pool }

/-- Carries out one effect. -/
def perform (context : SessionContext) (now : Instant) (step : RunStep) : Effect → RunStep
  | .submit token command lease request =>
    step.send
      ⟨some token, command, request, lease,
        now.after? context.clockEnd context.config.commandTimeout⟩
  | .submitCancel lease request =>
    step.send
      ⟨none, .cancelUpdate, request, lease,
        now.after? context.clockEnd context.config.commandTimeout⟩
  | .scheduleProceed => step.enqueue .proceed
  | .notify notification => step.occur (.notified notification)
  | .answer caller response => step.occur (.answered caller response)
  | .answerLater caller response =>
    { step with run := { step.run with reads := step.run.reads ++ [(caller, response)] } }
  | .crash none => step.abandonSession.close .crashed
  | .crash (some (caller, request)) =>
    (step.abandonSession.occur (.unanswered caller request)).close .crashed

/-- Ends the run if its session has reached a terminal state. -/
def closeIfTerminal (step : RunStep) : RunStep :=
  if step.run.status = .running ∧ step.run.session.state.isTerminal then step.close .ended
  else step

end RunStep

namespace Run

/-- Lets the session take a turn and carries out its effects. -/
def take (context : SessionContext) (now : Instant) (pool : InstanceIdPool) (run : Run)
    (change : Turn → Turn) : RunStep :=
  let turn := change ⟨run.session, pool, []⟩
  let step : RunStep := ⟨{ run with session := turn.session }, turn.pool, []⟩
  (turn.effects.foldl (RunStep.perform context now) step).closeIfTerminal

/-- Ends an exchange. The session hears of the outcome if it waits for it; CancelUpdate gives its
instance id back. -/
def finishExchange (pool : InstanceIdPool) (run : Run) (exchange : Exchange)
    (outcome : Except UpdateError Response) : RunStep :=
  let run := { run with exchanges := run.exchanges.filter (·.token != exchange.token) }
  match exchange.token with
  | none => ⟨run, pool.drop exchange.lease, []⟩
  | some token =>
    -- The session gives the id of a command back itself, when it handles the outcome or fails.
    if run.isOpen then RunStep.enqueue ⟨run, pool, []⟩ (.response token outcome)
    else ⟨run, pool, []⟩

def act (context : SessionContext) (now : Instant) (pool : InstanceIdPool) (run : Run)
    (action : RunAction) : RunStep :=
  let unchanged : RunStep := ⟨run, pool, []⟩
  match action with
  | .begin =>
    if run.status = .waiting then
      { run with status := .running }.take context now pool (·.start context now)
    else unchanged
  | .handle =>
    match run.status, run.inbox with
    | .running, event :: inbox =>
      { run with inbox := inbox }.take context now pool (·.handle context now event)
    | _, _ => unchanged
  | .expire =>
    if run.status = .running ∧ run.session.outcomeDeadline.any (· ≤ now) then
      run.take context now pool (·.handle context now .outcomeTimeout)
    else unchanged
  | .finish token outcome =>
    match run.exchange? token with
    | some exchange => run.finishExchange pool exchange outcome
    | none => unchanged
  | .timeOut token =>
    match run.exchange? token with
    | some exchange =>
      if exchange.isOverdue now then
        run.finishExchange pool exchange (.error (.timeout (.response exchange.command)))
      else unchanged
    | none => unchanged
  | .inbound caller request =>
    if run.isOpen then unchanged.enqueue (.inbound caller request)
    else unchanged.occur (.unanswered caller request)
  | .cancel => if run.isOpen then unchanged.enqueue .cancel else unchanged
  | .finishRead place =>
    match run.reads[place]? with
    | some (caller, response) =>
      RunStep.occur ⟨{ run with reads := run.reads.eraseIdx place }, pool, []⟩
        (.answered caller response)
    | none => unchanged

end Run

end FirmwareAgent
