import FirmwareAgent.Rehearsal.Host
import FirmwareAgent.Rehearsal.Script

/-!
# Rehearsals

A rehearsal runs its host against scripted targets on a virtual clock of whole milliseconds. Its
parties are the sessions of the host and the targets they talk to. A party that has something to do
lines up behind those that are ready already. `FirmwareAgent.Rehearsal.Turns` says what a party does
when it is its turn.

A session that could send its next command at once stands aside first, until nobody else is ready.
Of several sessions that stand aside, the one that did so last comes back first.
-/

namespace FirmwareAgent

/-- Somebody who may have something to do. -/
inductive Party
  | session (place : Nat)
  /-- The same, back from standing aside before its next command. -/
  | resumed (place : Nat)
  /-- The target that the run at a place has sent a request to. -/
  | target (place : Nat) (token : Option Nat)
  deriving DecidableEq, Repr

/-- The place of the run whose session the party is. -/
def Party.session? : Party → Option Nat
  | session place | resumed place => some place
  | target _ _ => none

/-- How far a target has come with its script. -/
inductive Phase
  /-- It has not looked at the request yet. -/
  | untouched
  /-- It waits for the answer to a request of its own. -/
  | asking (ticket : Nat)
  /-- It has got the answer but not looked at it yet. -/
  | told (answer : Except UpdateError Response)
  /-- It takes its time, until a moment. -/
  | pausing (wakesAt : Instant)

/-- A request under way, as its scripted target plays it. -/
structure Conversation where
  /-- The place of the run that sent the request. -/
  place : Nat
  exchange : Exchange
  phase : Phase := .untouched
  /-- The requests that the target still puts to the session. -/
  pulls : List Request := []
  /-- What the script has in store for the request. -/
  behaviour : Behaviour := {}

/-- A moment at which a timer fires, in whole milliseconds, and the party that it is for. -/
structure Alarm where
  moment : Instant
  party : Party

/-- A request that went out. -/
structure SentRequest where
  moment : Instant
  endpoint : EndpointId
  request : Request

/-- What the agent or its subscribers were told. -/
inductive Announcement
  | notification (notification : Notification)
  | progress (progress : UpdateProgress)

/-- The answer to a request that a scripted target put to the session. -/
structure PulledAnswer where
  endpoint : EndpointId
  answer : Except UpdateError Response

/-- A host, its scripted targets, and what has been seen since the last report. -/
structure Rehearsal where
  host : Host
  script : Script
  conversations : List Conversation := []
  /-- The parties that are ready, in the order of their turns. -/
  ready : List Party := []
  /-- The parties that stand aside, the last one first. -/
  aside : List Party := []
  /-- The number of turns taken since the rehearsal was last looked at. -/
  streak : Nat := 0
  /-- The timers that have been set and not fired yet, in the order in which they were set. -/
  alarms : List Alarm := []
  /-- The number of things that have been done to the host. Whoever does the next one and has to
  wait for an answer takes it for a ticket. -/
  acts : Nat := 0
  /-- The answers to requests from outside the script. -/
  answers : List (Nat × Except UpdateError Response) := []
  /-- The reports that waits at the coordinator have collected. -/
  reports : List (Nat × Except UpdateError DeviceUpdateReport) := []
  /-- The places of the runs whose end has been waited for. -/
  joined : List Nat := []
  /-- What later subscribers have not read yet. -/
  receivers : Array (Array UpdateProgress) := #[]
  sent : Array SentRequest := #[]
  announcements : Array Announcement := #[]
  pulled : Array PulledAnswer := #[]

namespace Conversation

/-- The target of the conversation. -/
def party (conversation : Conversation) : Party :=
  .target conversation.place conversation.exchange.token

/-- The endpoint of the target. -/
def endpoint (conversation : Conversation) : EndpointId :=
  conversation.exchange.lease.endpoint

/-- Whether the target waits for the answer with a ticket. -/
def isAsking (conversation : Conversation) (ticket : Nat) : Bool :=
  match conversation.phase with
  | .asking awaited => awaited == ticket
  | _ => false

end Conversation

namespace Rehearsal

/-- How many nanoseconds pass when a script or a directive asks for some milliseconds. A rehearsal
lets thirty years of 365 days pass at most. -/
def nanosOfMillis (millis : Nat) : Nat :=
  min (nanosPerMilli * millis) (nanosPerSecond * (30 * 365 * 86400))

/-- The current moment. -/
def now (rehearsal : Rehearsal) : Instant :=
  rehearsal.host.sessions.now

def run? (rehearsal : Rehearsal) (place : Nat) : Option Run :=
  rehearsal.host.sessions.runs[place]?

/-- The conversation of a target. -/
def conversation? (rehearsal : Rehearsal) (party : Party) : Option Conversation :=
  rehearsal.conversations.find? (·.party == party)

/-- Changes the conversation of a target. -/
def update (rehearsal : Rehearsal) (conversation : Conversation) : Rehearsal :=
  { rehearsal with
    conversations := rehearsal.conversations.map fun other =>
      if other.party == conversation.party then conversation else other }

/-! ## Lining up -/

/-- Lets a party line up, unless it has done so already. -/
def lineUp (rehearsal : Rehearsal) (party : Party) : Rehearsal :=
  if rehearsal.ready.contains party then rehearsal
  else { rehearsal with ready := rehearsal.ready ++ [party] }

/-- Whether the session at a place is lined up or stands aside. -/
def isPlaced (rehearsal : Rehearsal) (place : Nat) : Bool :=
  (rehearsal.ready ++ rehearsal.aside).any (·.session? == some place)

/-- Lets every session line up that has to start or has got an event. -/
def rouse (rehearsal : Rehearsal) : Rehearsal :=
  (List.range rehearsal.host.sessions.runs.length).foldl
    (fun rehearsal place =>
      let isBusy := (rehearsal.run? place).any fun run =>
        run.status == .waiting || (run.status == .running && !run.inbox.isEmpty)
      if isBusy && !rehearsal.isPlaced place then rehearsal.lineUp (.session place)
      else rehearsal)
    rehearsal

def standAside (rehearsal : Rehearsal) (party : Party) : Rehearsal :=
  { rehearsal with aside := party :: rehearsal.aside }

/-- Lets those line up who stood aside. -/
def readmit (rehearsal : Rehearsal) : Rehearsal :=
  rehearsal.aside.foldl lineUp { rehearsal with aside := [] }

/-- The first whole millisecond at or after a moment. -/
def wholeMilli (moment : Instant) : Instant :=
  nanosPerMilli * ((moment + nanosPerMilli - 1) / nanosPerMilli)

/-- Sets a timer for a party. -/
def setAlarm (rehearsal : Rehearsal) (party : Party) (moment : Instant) : Rehearsal :=
  { rehearsal with alarms := rehearsal.alarms ++ [⟨wholeMilli moment, party⟩] }

/-- Takes back the timers of a party. -/
def clearAlarms (rehearsal : Rehearsal) (party : Party) : Rehearsal :=
  { rehearsal with alarms := rehearsal.alarms.filter (·.party != party) }

/-! ## Sights -/

/-- Hands an answer to whoever waits for it: a scripted target, or someone outside the script. -/
def deliver (rehearsal : Rehearsal) (ticket : Nat) (answer : Except UpdateError Response) :
    Rehearsal :=
  match rehearsal.conversations.find? (·.isAsking ticket) with
  | some conversation =>
    (rehearsal.update { conversation with phase := .told answer }).lineUp conversation.party
  | none => { rehearsal with answers := (ticket, answer) :: rehearsal.answers }

/-- Takes note of something the host shows. -/
def see (rehearsal : Rehearsal) : Sight → Rehearsal
  | .sent place exchange =>
    let conversation : Conversation := { place, exchange }
    { rehearsal with conversations := rehearsal.conversations ++ [conversation] }.lineUp
      conversation.party
  | .notified notification =>
    { rehearsal with
      announcements := rehearsal.announcements.push (.notification notification) }
  | .published progress =>
    { rehearsal with
      announcements := rehearsal.announcements.push (.progress progress)
      receivers := rehearsal.receivers.map (·.push progress) }
  | .answered ticket answer => rehearsal.deliver ticket answer

/-- Takes note of the host after something has been done to it, and of what it has shown. -/
def withHost (rehearsal : Rehearsal) (host : Host) (sights : List Sight) : Rehearsal :=
  sights.foldl see { rehearsal with host := host, acts := rehearsal.acts + 1 }

/-- Takes note of the coordinator after something has been done to it, and of its events. -/
def withCoordinator (rehearsal : Rehearsal) (agent : Coordinator)
    (events : List CoordinatorEvent) : Rehearsal :=
  rehearsal.withHost (.coordinator agent) (events.map Sight.ofCoordinatorEvent)

/-- Makes an action of one run happen. -/
def act (rehearsal : Rehearsal) (place : Nat) (action : RunAction) : Rehearsal :=
  let (host, sights) := rehearsal.host.act place action
  rehearsal.withHost host sights

end Rehearsal

end FirmwareAgent
