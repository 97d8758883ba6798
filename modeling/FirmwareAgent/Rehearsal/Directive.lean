import FirmwareAgent.Rehearsal.Turns

/-!
# Directives

A rehearsal is led by directives: what someone outside the script does to the host, or how far the
clock is to move. A directive is carried out, then everything happens that can happen at the moment
it leads to, and then an `Entry` reports its result and what was seen since the entry before.

A directive may consist of several deeds. All of them reach the host before any session handles one.
-/

namespace FirmwareAgent

/-- A target's request from outside the script. -/
inductive Incoming
  /-- The bytes of a framed request. -/
  | framed (bytes : Bytes)
  | plain (request : Request)
  deriving DecidableEq, Repr

/-- Something done to the session of an endpoint. -/
inductive Deed
  /-- The target puts a request. -/
  | ask (incoming : Incoming)
  /-- The update is cancelled, at the coordinator if there is one. -/
  | cancel
  /-- The update is cancelled at the session itself. -/
  | cancelSession
  /-- Someone waits for the end of the update. -/
  | wait
  deriving DecidableEq, Repr

/-- The states that are waited for. -/
inductive Goal
  | terminal
  | inProgress
  /-- A state of the given name, at the given position if there is one. -/
  | named (name : String) (position : Option Nat)
  deriving DecidableEq, Repr

/-- Whether a state is waited for. -/
def Goal.accepts (state : SessionState) : Goal → Bool
  | terminal => state.isTerminal
  | inProgress => state.isInProgress
  | named name position => state.name == name && position.all (state.position? == some ·)

/-- What leads a rehearsal on. -/
inductive Directive
  | start (record : DeviceRecord)
  /-- The targets get another script. -/
  | script (script : Script)
  /-- Something is done to the session of an endpoint. -/
  | one (endpoint : EndpointId) (deed : Deed)
  /-- Several things are done at once. -/
  | several (deeds : List (EndpointId × Deed))
  /-- Milliseconds pass, but no more than thirty years. -/
  | advance (millis : Nat)
  /-- Someone waits until a session is in a certain state. -/
  | waitFor (endpoint : EndpointId) (goal : Goal)
  /-- Someone else acquires an instance id. -/
  | acquire (endpoint : EndpointId)
  /-- Someone else acquires all the instance ids that can be had. -/
  | acquireAll (endpoint : EndpointId)
  | release (endpoint : EndpointId) (id : InstanceId)
  /-- Someone subscribes to the progress. -/
  | subscribe
  /-- A subscriber reads what it has not read yet. -/
  | drain (receiver : Nat)
  /-- The collected devices leave the aggregate progress. -/
  | clear
  | nothing

/-- What a directive results in. -/
inductive Result
  | nothing
  | started (endpoint : EndpointId)
  | accomplished
  | failed (error : UpdateError)
  /-- The bytes are no framed request. -/
  | misframed (error : WireError)
  | answered (response : Response)
  /-- The endpoint has no session. -/
  | noSession
  | brokeDown
  | report (report : DeviceUpdateReport)
  | state (state : SessionState)
  | acquired (id : InstanceId)
  | acquiredAll (ids : List InstanceId)
  | subscribed (receiver : Nat)
  | progress (events : List UpdateProgress)
  | noReceiver
  | several (results : List Result)

/-- A result that is there already, or how it will be known. -/
inductive Promise
  | kept (result : Result)
  /-- The answer to a request. -/
  | answer (ticket : Nat)
  /-- The report of a wait at the coordinator. -/
  | report (ticket : Nat)
  /-- The end of the run at a place. -/
  | ending (place : Nat)

/-- The report of a rehearsal after a directive. -/
structure Entry where
  result : Result
  /-- The moment of the report. -/
  moment : Instant
  sent : Array SentRequest
  announcements : Array Announcement
  pulled : Array PulledAnswer
  /-- For every endpoint the state of its newest session and the number of its held ids. -/
  sessions : List (EndpointId × SessionState × Nat)
  /-- The endpoints that the coordinator has not collected, and whether an update is under way. -/
  coordination : Option (List EndpointId × Bool)

namespace Rehearsal

/-! ## Deeds -/

/-- Puts a target's request to the coordinator, or to the newest session of the endpoint. -/
def putRequest (rehearsal : Rehearsal) (endpoint : EndpointId) (request : Request) :
    Promise × Rehearsal :=
  let ticket := rehearsal.acts
  match rehearsal.host with
  | .coordinator agent =>
    let (agent, events) := agent.inbound endpoint ticket request
    (.answer ticket, rehearsal.withCoordinator agent events)
  | .fleet _ =>
    match rehearsal.host.newest? endpoint with
    | none => (.kept .noSession, rehearsal)
    | some (place, _) => (.answer ticket, rehearsal.act place (.inbound (.handle ticket) request))

/-- Puts a target's request as it comes in. Bytes that are no request are refused by whoever reads
them. -/
def ask (rehearsal : Rehearsal) (endpoint : EndpointId) (incoming : Incoming) :
    Promise × Rehearsal :=
  match incoming, rehearsal.host with
  | .plain request, _ => rehearsal.putRequest endpoint request
  | .framed bytes, .coordinator agent =>
    let ticket := rehearsal.acts
    match agent.inboundBytes endpoint ticket bytes with
    | .ok (agent, events) => (.answer ticket, rehearsal.withCoordinator agent events)
    | .error error => (.kept (.failed error), rehearsal)
  | .framed bytes, .fleet _ =>
    match Request.ofBytes bytes with
    | .ok request => rehearsal.putRequest endpoint request
    | .error error => (.kept (.misframed error), rehearsal)

def cancelSession (rehearsal : Rehearsal) (endpoint : EndpointId) : Result × Rehearsal :=
  match rehearsal.host.newest? endpoint with
  | none => (.noSession, rehearsal)
  | some (place, run) =>
    if run.isOpen then (.accomplished, rehearsal.act place .cancel)
    else (.failed .sessionClosed, rehearsal)

def cancel (rehearsal : Rehearsal) (endpoint : EndpointId) : Result × Rehearsal :=
  match rehearsal.host with
  | .fleet _ => rehearsal.cancelSession endpoint
  | .coordinator agent =>
    match agent.cancel endpoint with
    | .ok (agent, events) => (.accomplished, rehearsal.withCoordinator agent events)
    | .error error => (.failed error, rehearsal)

/-- Begins to wait for the end of an endpoint's update. -/
def wait (rehearsal : Rehearsal) (endpoint : EndpointId) : Promise × Rehearsal :=
  match rehearsal.host with
  | .fleet _ =>
    match rehearsal.host.newest? endpoint with
    | none => (.kept .noSession, rehearsal)
    | some (place, _) =>
      if rehearsal.joined.contains place then (.kept .noSession, rehearsal)
      else (.ending place, { rehearsal with joined := place :: rehearsal.joined })
  | .coordinator agent =>
    let ticket := rehearsal.acts
    match agent.wait endpoint ticket with
    | .ok agent => (.report ticket, rehearsal.withCoordinator agent [])
    | .error error => (.kept (.failed error), rehearsal)

/-- Does something to the session of an endpoint. -/
def perform (rehearsal : Rehearsal) (endpoint : EndpointId) : Deed → Promise × Rehearsal
  | .ask incoming => rehearsal.ask endpoint incoming
  | .cancel =>
    let (result, rehearsal) := rehearsal.cancel endpoint
    (.kept result, rehearsal)
  | .cancelSession =>
    let (result, rehearsal) := rehearsal.cancelSession endpoint
    (.kept result, rehearsal)
  | .wait => rehearsal.wait endpoint

/-- Does several things, one after another. -/
def performAll : Rehearsal → List (EndpointId × Deed) → List Promise × Rehearsal
  | rehearsal, [] => ([], rehearsal)
  | rehearsal, (endpoint, deed) :: deeds =>
    let (promise, rehearsal) := rehearsal.perform endpoint deed
    let (promises, rehearsal) := rehearsal.rouse.performAll deeds
    (promise :: promises, rehearsal)

def kept? (rehearsal : Rehearsal) : Promise → Option Result
  | .kept result => some result
  | .answer ticket =>
    (rehearsal.answers.lookup ticket).map fun answer =>
      match answer with
      | .ok response => .answered response
      | .error error => .failed error
  | .report ticket =>
    (rehearsal.reports.lookup ticket).map fun answer =>
      match answer with
      | .ok report => .report report
      | .error error => .failed error
  | .ending place => do
    let run ← rehearsal.host.sessions.runs[place]?
    -- A session that broke down has no end to speak of.
    if run.isOpen then none
    else if run.status = .crashed then some .brokeDown
    else some (.state run.session.state)

/-- Plays on until all promises are kept. -/
def await (rehearsal : Rehearsal) (promises : List Promise) : List Result × Rehearsal :=
  let rehearsal := rehearsal.playUntil
    (fun rehearsal => promises.all fun promise => (rehearsal.kept? promise).isSome)
    rehearsal.budget
  (promises.map fun promise => (rehearsal.kept? promise).getD .nothing, rehearsal)

/-! ## Other directives -/

def start (rehearsal : Rehearsal) (record : DeviceRecord) : Result × Rehearsal :=
  match rehearsal.host with
  | .fleet own => (.started record.endpoint, rehearsal.withHost (.fleet (own.add record)) [])
  | .coordinator agent =>
    match agent.start record with
    | .ok (agent, progress) =>
      (.started record.endpoint, rehearsal.withCoordinator agent [.published progress])
    | .error error => (.failed error, rehearsal)

/-- Plays on until the newest session of an endpoint is in a state that is waited for. -/
def waitFor (rehearsal : Rehearsal) (endpoint : EndpointId) (goal : Goal) : Result × Rehearsal :=
  match rehearsal.host.newest? endpoint with
  | none => (.noSession, rehearsal)
  | some (place, _) =>
    let reached? (rehearsal : Rehearsal) : Option SessionState := do
      let run ← rehearsal.host.sessions.runs[place]?
      if goal.accepts run.session.state then some run.session.state else none
    let isClosed (rehearsal : Rehearsal) : Bool :=
      rehearsal.host.sessions.runs[place]?.all (!·.isOpen)
    let rehearsal := rehearsal.playUntil
      (fun rehearsal => (reached? rehearsal).isSome || isClosed rehearsal) rehearsal.budget
    match reached? rehearsal with
    | some state => (.state state, rehearsal)
    | none => (.failed .sessionClosed, rehearsal)

def acquire (rehearsal : Rehearsal) (endpoint : EndpointId) :
    Except UpdateError (InstanceId × Rehearsal) :=
  match rehearsal.host.sessions.acquire endpoint with
  | .ok (id, fleet) =>
    .ok (id, rehearsal.withHost (rehearsal.host.modifySessions fun _ => fleet) [])
  | .error error => .error error

/-- Acquires instance ids until none can be had, but no more than the fuel allows. -/
def acquireAll (endpoint : EndpointId) : Nat → Rehearsal → List InstanceId × Rehearsal
  | 0, rehearsal => ([], rehearsal)
  | fuel + 1, rehearsal =>
    match rehearsal.acquire endpoint with
    | .ok (id, rehearsal) =>
      let (ids, rehearsal) := acquireAll endpoint fuel rehearsal
      (id :: ids, rehearsal)
    | .error _ => ([], rehearsal)

/-- Adds a subscriber. The first one has been there from the start and has number 0. -/
def subscribe (rehearsal : Rehearsal) : Result × Rehearsal :=
  match rehearsal.host with
  | .fleet _ => (.nothing, rehearsal)
  | .coordinator _ =>
    (.subscribed (rehearsal.receivers.size + 1),
      { rehearsal with receivers := rehearsal.receivers.push #[] })

/-- Lets a subscriber read. Subscriber 0 reads at every entry, so it never has anything left. -/
def drain (rehearsal : Rehearsal) (receiver : Nat) : Result × Rehearsal :=
  match rehearsal.host, receiver with
  | .fleet _, _ => (.noReceiver, rehearsal)
  | .coordinator _, 0 => (.progress [], rehearsal)
  | .coordinator _, receiver + 1 =>
    match rehearsal.receivers[receiver]? with
    | some events =>
      (.progress events.toList,
        { rehearsal with receivers := rehearsal.receivers.setIfInBounds receiver #[] })
    | none => (.noReceiver, rehearsal)

/-- Takes the collected devices out of the aggregate progress. -/
def clear (rehearsal : Rehearsal) : Rehearsal :=
  match rehearsal.host with
  | .fleet _ => rehearsal
  | .coordinator agent => rehearsal.withCoordinator agent.clearFinishedProgress []

/-- Carries a directive out. -/
def follow (rehearsal : Rehearsal) : Directive → Result × Rehearsal
  | .start record =>
    let (result, rehearsal) := rehearsal.start record
    (result, rehearsal.rouse)
  | .script script => (.nothing, { rehearsal with script := script })
  | .one endpoint deed =>
    let (promise, rehearsal) := rehearsal.perform endpoint deed
    let (results, rehearsal) := rehearsal.rouse.await [promise]
    (results.headD .nothing, rehearsal)
  | .several deeds =>
    let (promises, rehearsal) := rehearsal.performAll deeds
    let (results, rehearsal) := rehearsal.await promises
    (.several results, rehearsal)
  | .advance millis =>
    (.nothing, rehearsal.advance (rehearsal.now + nanosOfMillis millis) rehearsal.budget)
  | .waitFor endpoint goal => rehearsal.waitFor endpoint goal
  | .acquire endpoint =>
    match rehearsal.acquire endpoint with
    | .ok (id, rehearsal) => (.acquired id, rehearsal)
    | .error error => (.failed error, rehearsal)
  | .acquireAll endpoint =>
    let (ids, rehearsal) := acquireAll endpoint (InstanceId.all.length + 1) rehearsal
    (.acquiredAll ids, rehearsal)
  | .release endpoint id =>
    (.nothing, rehearsal.withHost (rehearsal.host.modifySessions (·.release endpoint id)) [])
  | .subscribe => rehearsal.subscribe
  | .drain receiver => rehearsal.drain receiver
  | .clear => (.nothing, rehearsal.clear)
  | .nothing => (.nothing, rehearsal)

/-! ## Entries -/

/-- Reports the result of a directive and what was seen since the last report. -/
def report (rehearsal : Rehearsal) (result : Result) : Entry × Rehearsal :=
  let entry : Entry :=
    { result := result
      moment := rehearsal.now
      sent := rehearsal.sent
      announcements := rehearsal.announcements
      pulled := rehearsal.pulled
      sessions := rehearsal.host.overview
      coordination := rehearsal.host.coordination? }
  (entry, { rehearsal with sent := #[], announcements := #[], pulled := #[] })

/-- Carries a directive out and reports on it. -/
def proceed (rehearsal : Rehearsal) (directive : Directive) : Entry × Rehearsal :=
  let (result, rehearsal) := rehearsal.follow directive
  rehearsal.settle.report result

/-- Carries directives out, one after another. -/
def play : Rehearsal → List Directive → List Entry
  | _, [] => []
  | rehearsal, directive :: directives =>
    let (entry, rehearsal) := rehearsal.proceed directive
    entry :: rehearsal.play directives

end Rehearsal

end FirmwareAgent
