import FirmwareAgent.Rehearsal.Basic

/-!
# Turns

Whoever is first in line takes a turn. A session handles its events, a target goes on with its
script, and both go as far as they can without waiting. Time stands still while a party is ready or
stands aside, and while the package is read. `Rehearsal.settle` goes on until nothing more can
happen. Then the clock may move, to the next timer at most.

A target whose script ends at the very moment at which the agent stops waiting still wins.
-/

namespace FirmwareAgent

namespace Rehearsal

/-! ## Turns of sessions -/

/-- How many events a session handles at a stretch. -/
def stretch : Nat := 128

/-- Lets a session handle its events. It stands aside before its next command, and when it has
handled many events. Once it has handled them all it looks at its timer. -/
def handleEvents (place : Nat) : Nat → Rehearsal → Rehearsal
  | 0, rehearsal => rehearsal.standAside (.session place)
  | fuel + 1, rehearsal =>
    match rehearsal.run? place with
    | none => rehearsal
    | some run =>
      match run.status, run.inbox with
      | .running, .proceed :: _ => rehearsal.standAside (.resumed place)
      | .running, _ :: _ => handleEvents place fuel (rehearsal.act place .handle)
      | .running, [] => rehearsal.act place .expire
      | _, _ => rehearsal

/-- Sets the timer of a session anew, after all timers that were set before. -/
def rewind (rehearsal : Rehearsal) (place : Nat) : Rehearsal :=
  let rehearsal := rehearsal.clearAlarms (.session place)
  match rehearsal.run? place with
  | some run =>
    match run.status, run.session.outcomeDeadline with
    | .running, some deadline => rehearsal.setAlarm (.session place) deadline
    | _, _ => rehearsal
  | none => rehearsal

/-- Lets a session do something first and then handle its events. -/
def sessionTurn (place : Nat) (first : RunAction) (rehearsal : Rehearsal) : Rehearsal :=
  ((rehearsal.act place first).handleEvents place stretch).rewind place

/-! ## Turns of targets -/

/-- Ends a conversation together with its exchange. -/
def hangUp (rehearsal : Rehearsal) (conversation : Conversation) (action : RunAction) :
    Rehearsal :=
  let rehearsal :=
    { rehearsal with
      conversations := rehearsal.conversations.filter (·.party != conversation.party) }
  ((rehearsal.clearAlarms conversation.party).act conversation.place action).rouse

/-- Brings a conversation to its ending, if the target comes to one. -/
def conclude (rehearsal : Rehearsal) (conversation : Conversation) : Rehearsal :=
  match conversation.behaviour.ending.outcome? conversation.exchange.request with
  | some outcome => rehearsal.hangUp conversation (.finish conversation.exchange.token outcome)
  | none => rehearsal

/-- Lets a target take its time before the ending. -/
def pause (rehearsal : Rehearsal) (conversation : Conversation) : Rehearsal :=
  let wakesAt := rehearsal.now + nanosOfMillis conversation.behaviour.delay
  let conversation := { conversation with phase := .pausing wakesAt, pulls := [] }
  let rehearsal := rehearsal.update conversation
  if wakesAt ≤ rehearsal.now then rehearsal.conclude conversation
  else if conversation.behaviour.ending = .hang then rehearsal
  else rehearsal.setAlarm conversation.party wakesAt

/-- Notes the answer that a target has got to a request of its own. -/
def pullAnswered (rehearsal : Rehearsal) (conversation : Conversation)
    (answer : Except UpdateError Response) : Rehearsal :=
  { rehearsal with pulled := rehearsal.pulled.push ⟨conversation.endpoint, answer⟩ }

/-- Lets a target put its requests to the newest session of its endpoint, until one has to be
waited for. -/
def pull (conversation : Conversation) : List Request → Rehearsal → Rehearsal
  | [], rehearsal => rehearsal.pause conversation
  | request :: later, rehearsal =>
    match rehearsal.host.newest? conversation.endpoint with
    | some (place, run) =>
      if run.isOpen then
        let ticket := rehearsal.acts
        let conversation := { conversation with phase := .asking ticket, pulls := later }
        ((rehearsal.update conversation).act place (.inbound (.handle ticket) request)).rouse
      else pull conversation later (rehearsal.pullAnswered conversation (.error .sessionClosed))
    | none => pull conversation later (rehearsal.pullAnswered conversation (.error .sessionClosed))

/-- Lets a target look at its request. The script decides how it behaves. -/
def attend (rehearsal : Rehearsal) (conversation : Conversation) : Rehearsal :=
  let request := conversation.exchange.request
  let (behaviour, script) := Script.pick conversation.endpoint request rehearsal.script
  let conversation := { conversation with behaviour := behaviour, pulls := behaviour.pulls }
  let rehearsal :=
    { rehearsal with
      script := script
      sent := rehearsal.sent.push ⟨rehearsal.now, conversation.endpoint, request⟩ }
  let rehearsal :=
    match conversation.exchange.deadline with
    | some deadline => rehearsal.setAlarm conversation.party deadline
    | none => rehearsal
  pull conversation behaviour.pulls rehearsal

/-- Lets a target go on with its script. -/
def goOn (rehearsal : Rehearsal) (conversation : Conversation) : Rehearsal :=
  match conversation.phase with
  | .untouched => rehearsal.attend conversation
  | .asking _ => rehearsal
  | .told answer =>
    pull conversation conversation.pulls (rehearsal.pullAnswered conversation answer)
  | .pausing wakesAt =>
    if wakesAt ≤ rehearsal.now then rehearsal.conclude conversation else rehearsal

/-- Lets a target go on with its script. If that leaves it waiting, the agent may have stopped
waiting for it. -/
def targetTurn (party : Party) (rehearsal : Rehearsal) : Rehearsal :=
  match rehearsal.conversation? party with
  | none => rehearsal
  | some conversation =>
    let rehearsal := rehearsal.goOn conversation
    match rehearsal.conversation? party with
    | some conversation =>
      if conversation.exchange.isOverdue rehearsal.now then
        rehearsal.hangUp conversation (.timeOut conversation.exchange.token)
      else rehearsal
    | none => rehearsal

/-! ## What happens at one moment -/

def takeTurn (rehearsal : Rehearsal) : Party → Rehearsal
  | .session place => rehearsal.sessionTurn place .begin
  | .resumed place => rehearsal.sessionTurn place .handle
  | .target place token => rehearsal.targetTurn (.target place token)

/-- The number of turns after which those who stand aside come back in any case. -/
def longestStreak : Nat := 61

/-- Counts a turn. The rehearsal is looked at when nobody is ready, and after many turns. -/
def countTurn (rehearsal : Rehearsal) : Rehearsal :=
  if rehearsal.ready.isEmpty then { rehearsal with streak := 0 }
  else if rehearsal.streak + 1 = longestStreak then { rehearsal.readmit with streak := 0 }
  else { rehearsal with streak := rehearsal.streak + 1 }

/-- Ends the first wait at the coordinator whose run has ended. -/
def endWait? (rehearsal : Rehearsal) : Option Rehearsal :=
  match rehearsal.host with
  | .fleet _ => none
  | .coordinator agent =>
    agent.waits.findSome? fun wait =>
      (agent.resume? wait.ticket).map fun (agent, report) =>
        { rehearsal with reports := (wait.ticket, report) :: rehearsal.reports }.withCoordinator
          agent []

/-- Finishes the first read of the package. -/
def finishRead? (rehearsal : Rehearsal) : Option Rehearsal :=
  ((List.range rehearsal.host.sessions.runs.length).find? fun place =>
      (rehearsal.run? place).any (!·.reads.isEmpty)).map
    fun place => rehearsal.act place (.finishRead 0)

/-- Makes the next thing happen at the current moment. -/
def tick? (rehearsal : Rehearsal) : Option Rehearsal :=
  match rehearsal.ready with
  | party :: ready => some ({ rehearsal with ready := ready }.takeTurn party).countTurn
  | [] =>
    rehearsal.endWait?
      <|> (if rehearsal.aside.isEmpty then none else some rehearsal.readmit)
      <|> rehearsal.finishRead?

/-- More than the number of things that can happen before every update has ended. Each step of an
update takes a few of them, and a few more for every request that its target puts to the session. -/
def budget (rehearsal : Rehearsal) : Nat :=
  let steps := totalOf (rehearsal.host.sessions.runs.map fun run =>
    2 * run.session.record.componentCount + run.inbox.length + run.reads.length + 8)
  let pulls := (rehearsal.script.map (·.behaviour.pulls.length)).foldl max 0
  let waiting := totalOf (rehearsal.conversations.map (·.pulls.length + 4))
  (steps + waiting + 8) * (9 + 4 * pulls)

/-- Makes things happen until `stop` holds when the rehearsal is looked at, as far as the fuel
lasts. -/
def settleUntil (stop : Rehearsal → Bool) : Nat → Rehearsal → Rehearsal
  | 0, rehearsal => rehearsal
  | fuel + 1, rehearsal =>
    if rehearsal.streak = 0 ∧ stop rehearsal then rehearsal
    else
      match rehearsal.tick? with
      | some next => settleUntil stop fuel next
      | none => rehearsal

/-- Makes everything happen that can happen at the current moment. -/
def settle (rehearsal : Rehearsal) : Rehearsal :=
  rehearsal.settleUntil (fun _ => false) rehearsal.budget

/-! ## The clock -/

/-- The moment at which the next timer fires. -/
def nextTimer? (rehearsal : Rehearsal) : Option Instant :=
  ((rehearsal.alarms.map (·.moment)).filter (rehearsal.now < ·)).min?

/-- Moves the clock to a moment. The timers that are due by then fire. -/
def moveTo (rehearsal : Rehearsal) (moment : Instant) : Rehearsal :=
  let (due, later) := rehearsal.alarms.partition (·.moment ≤ moment)
  let nanos := moment - rehearsal.now
  (due.map (·.party)).foldl lineUp
    ({ rehearsal with alarms := later }.withHost
      (rehearsal.host.modifySessions (·.elapse nanos)) [])

/-- Lets time pass up to a moment. Every timer fires on the way, with all its consequences. -/
def advance (moment : Instant) : Nat → Rehearsal → Rehearsal
  | 0, rehearsal => rehearsal.moveTo moment
  | fuel + 1, rehearsal =>
    match rehearsal.nextTimer? with
    | some timer =>
      if timer ≤ moment then advance moment fuel (rehearsal.moveTo timer).settle
      else rehearsal.moveTo moment
    | none => rehearsal.moveTo moment

/-- Lets things happen, and time pass if it has to, until `stop` holds. -/
def playUntil (stop : Rehearsal → Bool) : Nat → Rehearsal → Rehearsal
  | 0, rehearsal => rehearsal
  | fuel + 1, rehearsal =>
    let rehearsal := rehearsal.settleUntil stop rehearsal.budget
    if stop rehearsal then rehearsal
    else
      match rehearsal.nextTimer? with
      | some timer => playUntil stop fuel (rehearsal.moveTo timer)
      | none => rehearsal

end Rehearsal

end FirmwareAgent
