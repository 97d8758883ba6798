import FirmwareAgent.Proofs.Run.CommandOrder
import FirmwareAgent.Proofs.Run.Inbound
import FirmwareAgent.Proofs.Session.LocalFaults

/-!
# Requests that are not sent

Each step of an update sends its request, or the session gives up for the first fault that keeps the
request from being sent, and then sends nothing but CancelUpdate. A session that gives up as it
starts sends nothing at all and has not touched the pool.

* `proceed_cases`: what comes of a step that is due.
* `hasPassed_through`: after the table, a step fails only for want of an instance id.
* `localFaults_through`: what comes of every step, in any history.
-/

namespace FirmwareAgent

/-- A step sends the request of a command, or the session gives up for a fault. -/
structure RunStep.Attempts (command : Command) (fault? : Option UpdateError) (step : RunStep) :
    Prop where
  sends_iff : (∃ exchange ∈ step.sent, exchange.command = command) ↔ fault? = none
  sent : fault? = none → ∃ exchange pending, step.sent = [exchange] ∧
    step.run.session.pending = some pending ∧ exchange.token = some pending.token ∧
    pending.command = command ∧ step.run.session.state.command? = some command
  gaveUp : ∀ reason, fault? = some reason →
    step.run.session.state = .failed reason ∧ IsFarewellOnly step.sent

/-- The step that a session has to take after its start, with the fault that keeps its request from
being written. -/
inductive Session.Due (context : SessionContext) (session : Session) :
    Command → Option UpdateError → Prop
  | passComponentTable {position : Nat} {index : ComponentIndex} {component : ComponentImage}
      (state : session.state = .passingComponentTable position)
      (found : session.componentAt? context position = some (index, component)) :
      Due context session .passComponentTable
        (componentFault? context .passComponentTable index component)
  | updateComponent {position : Nat} (state : session.state = .updatingComponent position) :
      Due context session .updateComponent none
  | activateFirmware (state : session.state = .activatingFirmware) :
      Due context session .activateFirmware none

/-! ## A step that is due -/

section

variable {context : SessionContext} {now : Instant} {session : Session} {pool : InstanceIdPool}
  {turn : Turn} {command : Command} {run : Run}

/-- A step fails for the first fault of its request, or it sends the request. -/
theorem proceed_cases (reaction : Reaction context now session pool .proceed turn)
    (own : session.state.command? = some command) :
    (∃ reason, ((session.nextDraft? context).bind faultOf? <|> session.idFault? pool now) =
        some reason ∧ turn = Turn.fail context now reason ⟨session, pool, []⟩) ∨
      ((session.nextDraft? context).bind faultOf? <|> session.idFault? pool now) = none ∧
        ∃ exchange pending, turn.effects.filterMap (Effect.exchange? context now) = [exchange] ∧
          turn.session.pending = some pending ∧ exchange.token = some pending.token ∧
          exchange.command = command ∧ pending.command = command ∧
          turn.session.state = session.state := by
  cases reaction with
  | ignored idle => cases own.symm.trans idle
  | @failed _ reason cause =>
    refine .inl ⟨reason, ?_, by rw [Session.informed_of_entersUpdateMode_eq_false rfl]⟩
    cases cause with
    | unwritable due =>
      rw [due]
      rfl
    | noId due refused =>
      rw [due, ← faultOf?_acquire, refused]
      rfl
  | @submitted draft lease lent due acquired =>
    obtain rfl := Option.some.inj (own.symm.trans (Session.command?_of_nextDraft? due))
    refine .inr ⟨?_, _, _, rfl, rfl, rfl, rfl, rfl, rfl⟩
    rw [due, ← faultOf?_acquire, acquired]
    rfl

/-- A step in which the session gives up sends no request. -/
theorem attempts_fail {reason : UpdateError} (running : run.status = .running)
    (live : session.state.isTerminal = false) (sentBy : command ≠ .cancelUpdate) :
    (run.settle context now (Turn.fail context now reason ⟨session, pool, []⟩)).Attempts command
      (some reason) := by
  have farewell : IsFarewellOnly
      (run.settle context now (Turn.fail context now reason ⟨session, pool, []⟩)).sent := by
    rw [Run.sent_settle]
    exact isFarewellOnly_fail live
  refine ⟨iff_of_false ?_ nofun, nofun, fun _ same => ?_⟩
  · rintro ⟨exchange, mem, command_eq⟩
    rcases farewell with none_sent | ⟨cancel, sent, isFarewell⟩
    · rw [none_sent] at mem
      cases mem
    · rw [sent] at mem
      obtain rfl := List.mem_singleton.mp mem
      exact sentBy (command_eq.symm.trans isFarewell.command)
  · obtain rfl := Option.some.inj same
    refine ⟨?_, farewell⟩
    rw [(Run.state_settle context now running (.inl (Turn.isCalm_fail live))).2,
      Turn.state_fail _ _ _ _ live]

/-- A step that is due sends its request or fails for the first fault of it. -/
theorem attempts_of_reaction (running : run.status = .running)
    (own : session.state.command? = some command)
    (reaction : Reaction context now session pool .proceed turn) :
    (run.settle context now turn).Attempts command
      ((session.nextDraft? context).bind faultOf? <|> session.idFault? pool now) := by
  have live := SessionState.live_of_command? own
  rcases proceed_cases reaction own with
    ⟨reason, fault, rfl⟩ |
      ⟨faultless, exchange, pending, sent, slot, token, carries, asks, state⟩
  · rw [fault]
    exact attempts_fail running live (SessionState.ne_cancelUpdate_of_command? own)
  · have calm : turn.IsCalm := by
      rcases reaction.orderly live with calm | ⟨asked, crash⟩
      · exact calm
      · rw [crash] at sent
        cases sent
    have session_eq := (Run.settle_calm context now running calm).1
    rw [faultless]
    refine ⟨iff_of_true ⟨exchange, ?_, carries⟩ rfl, fun _ => ⟨exchange, pending, ?_⟩, nofun⟩
    · rw [Run.sent_settle, sent]
      exact List.mem_singleton_self _
    · rw [Run.sent_settle, session_eq, state]
      exact ⟨sent, slot, token, asks, own⟩

end

/-! ## The start -/

/-- The first fault that keeps a session from starting. -/
def Session.startFault? (context : SessionContext) (session : Session) (pool : InstanceIdPool)
    (now : Instant) : Option UpdateError :=
  session.recordFault? context <|> session.updateFault? <|> session.idFault? pool now

section

variable {context : SessionContext} {now : Instant} {pool : InstanceIdPool} {run : Run}

/-- A session that gives up before the target knows of it, and before it has an instance id, sends
nothing and leaves the pool alone. -/
theorem unnoticed_fail {session : Session} {reason : UpdateError} (running : run.status = .running)
    (live : session.state.isTerminal = false) (free : session.pending = none)
    (unknown : session.inUpdateMode = false) :
    let step := run.settle context now (Turn.fail context now reason ⟨session, pool, []⟩)
    step.sent = [] ∧ step.pool = pool := by
  dsimp only
  rw [Run.sent_settle, (Run.settle_calm context now running (Turn.isCalm_fail live)).2]
  rcases Turn.fail_cases context now reason ⟨session, pool, []⟩ live with
    silent | ⟨_, _, told, _⟩
  · rw [silent]
    exact ⟨rfl, by simp [Session.surrender, free]⟩
  · cases unknown.symm.trans told

/-- A session that starts sends RequestUpdate, or it fails for the first fault of its record and of
the request, and then nobody learns of it. -/
theorem attempts_start (running : run.status = .running)
    (fresh : run.session = { record := run.session.record }) :
    let fault? := run.session.startFault? context pool now
    let step := run.settle context now (Turn.start context now ⟨run.session, pool, []⟩)
    step.Attempts .requestUpdate fault? ∧
      (fault? ≠ none → step.sent = [] ∧ step.pool = pool) := by
  have live : run.session.state.isTerminal = false := by
    rw [fresh]
    rfl
  have free : run.session.pending = none := by rw [fresh]
  have unknown : run.session.inUpdateMode = false := by rw [fresh]
  have refusal : faultOf? (run.session.checkRecord context) = run.session.recordFault? context :=
    faultOf?_checkRecord
  dsimp only
  unfold Session.startFault?
  rcases start_cases context now run.session pool with
    ⟨reason, refused, failed⟩ | ⟨checked, reaction⟩
  · rw [refused] at refusal
    rw [← refusal, failed]
    exact ⟨attempts_fail running live nofun, fun _ => unnoticed_fail running live free unknown⟩
  · rw [checked] at refusal
    rw [← refusal]
    have attempts := attempts_of_reaction running rfl reaction
    have draft : (Session.nextDraft? context
        { run.session with state := .awaitingUpdateAck, outcomeDeadline := none }).bind faultOf? =
          run.session.updateFault? := faultOf?_updateDraft
    rw [draft] at attempts
    refine ⟨attempts, fun faulty => ?_⟩
    rcases proceed_cases reaction rfl with ⟨reason, _, gave_up⟩ | ⟨faultless, _⟩
    · rw [gave_up]
      exact unnoticed_fail running rfl free unknown
    · rw [draft] at faultless
      exact absurd faultless faulty

end

/-! ## Past the table -/

section

variable {context : SessionContext} {now : Instant} {pool : InstanceIdPool} {run : Run}
  {turn : Turn}

theorem Session.entriesWritten_abandoned (session : Session) :
    Session.entriesWritten { session with pending := none, outcomeDeadline := none } ≤
      session.entriesWritten := by
  cases state : session.state <;> simp [entriesWritten, state]

/-- A session that has got no further than RequestUpdate has passed no entry. -/
theorem Session.HasPassed.of_attempts {session : Session} {fault? : Option UpdateError}
    {step : RunStep} (session_eq : step.run.session = session)
    (attempts : step.Attempts .requestUpdate fault?) : session.HasPassed context := by
  have early : session.state = .awaitingUpdateAck ∨ ∃ reason, session.state = .failed reason := by
    subst session_eq
    cases fault? with
    | none =>
      obtain ⟨_, _, _, _, _, _, own⟩ := attempts.sent rfl
      rcases SessionState.command?_eq_some.mp own with
        ⟨state, _⟩ | ⟨_, _, other⟩ | ⟨_, _, other⟩ | ⟨_, other⟩
      · exact .inl state
      all_goals cases other
    | some reason => exact .inr ⟨reason, (attempts.gaveUp reason rfl).1⟩
  rcases early with state | ⟨reason, state⟩
  all_goals
    refine ⟨fun position updating => ?_, fun position before => ?_⟩
    · cases state.symm.trans updating
    · rw [entriesWritten, state] at before
      cases before

/-- Handling an event keeps to the entries that could be written. -/
theorem hasPassed_settle {session : Session} {event : Event} (running : run.status = .running)
    (live : session.state.isTerminal = false)
    (inRange : session.state.InRange session.record.componentCount)
    (reaction : Reaction context now session pool event turn) (passed : session.HasPassed context) :
    (run.settle context now turn).run.session.HasPassed context := by
  have after := reaction.hasPassed live inRange passed
  rcases reaction.orderly live with calm | ⟨asked, crash⟩
  · rw [(Run.settle_calm context now running calm).1]
    exact after
  · rw [(Run.settle_crash context now run crash).1]
    exact after.of_le rfl after.inRange (Session.entriesWritten_abandoned _)

/-- Whatever a session has passed of the table, it was able to write. -/
theorem hasPassed_through (context : SessionContext) (record : DeviceRecord)
    (moments : List Moment) :
    (History.through context record moments).run.session.HasPassed context := by
  suffices kept : (History.through context record moments).run.Sound ∧
      (History.through context record moments).run.session.HasPassed context from kept.2
  refine History.induct (motive := fun history =>
    history.run.Sound ∧ history.run.session.HasPassed context) ?_ ?_ moments
  · exact ⟨.waiting rfl rfl rfl rfl, nofun, nofun⟩
  · rintro history moment ⟨sound, passed⟩
    refine ⟨sound.act, ?_⟩
    rw [History.run_extend]
    rcases meet_cases context moment sound with
      ⟨_, rests⟩ | ⟨_, _, fresh, met⟩ | ⟨event, inbox, turn, _, running, reaction, met⟩
    · rw [rests.session]
      exact passed
    · have started : ({ history.run with status := .running } : Run).status = .running := rfl
      rw [met]
      exact .of_attempts rfl (attempts_start started fresh).1
    · have still : ({ history.run with inbox := inbox } : Run).status = .running := running
      obtain ⟨inRange, driven⟩ := sound.driven running
      rw [met]
      exact hasPassed_settle still driven.live inRange reaction passed

end

/-! ## The result -/

/-- How a run takes its steps. -/
structure Run.TakesSteps (context : SessionContext) (run : Run) (moment : Moment) : Prop where
  /-- A session that cannot start tells nobody and leaves the pool alone. -/
  start : run.status = .waiting → moment.action = .begin →
    let fault? := run.session.startFault? context moment.pool moment.now
    let step := run.meet context moment
    step.Attempts .requestUpdate fault? ∧
      (fault? ≠ none → step.sent = [] ∧ step.pool = moment.pool)
  /-- Any other step is taken if its request can be written and gets an instance id. -/
  step : ∀ inbox, run.next? moment.now moment.action = some (.proceed, inbox) →
    ∃ command fault?, run.session.Due context command fault? ∧
      (run.meet context moment).Attempts command
        (fault? <|> run.session.idFault? moment.pool moment.now)
  /-- What comes after the table can be written at all times. -/
  writable : (∃ position, run.session.state = .updatingComponent position) ∨
      run.session.state = .activatingFirmware →
    ∃ draft, run.session.nextDraft? context = some (.ok draft)

section

variable {context : SessionContext} {run : Run}

/-- A step that is due is one of the three after RequestUpdate, and its fault is known. -/
theorem due_of_driven (sound : run.Sound) (running : run.status = .running)
    (checked : run.session.checkRecord context = .ok ()) (passed : run.session.HasPassed context)
    {now : Instant} {action : RunAction} {inbox : List Event}
    (next : run.next? now action = some (.proceed, inbox)) :
    ∃ command, run.session.state.command? = some command ∧
      run.session.Due context command ((run.session.nextDraft? context).bind faultOf?) := by
  obtain ⟨inRange, driven⟩ := sound.driven running
  obtain ⟨command, own, later⟩ : ∃ command, run.session.state.command? = some command ∧
      command ≠ .requestUpdate := by
    cases driven.next next with
    | due own later => exact ⟨_, own, later⟩
    | underWay slot own untimed steps | withTarget state free timed steps =>
      simp [Run.steps, Event.isProceed] at steps
  refine ⟨command, own, ?_⟩
  have faultless_of (state : (∃ position, run.session.state = .updatingComponent position) ∨
      run.session.state = .activatingFirmware) :
      (run.session.nextDraft? context).bind faultOf? = none := by
    obtain ⟨draft, due⟩ := passed.writable state
    rw [due]
    rfl
  rcases SessionState.command?_eq_some.mp own with
    ⟨_, rfl⟩ | ⟨position, state, rfl⟩ | ⟨position, state, rfl⟩ | ⟨state, rfl⟩
  · exact absurd rfl later
  · obtain ⟨index, component, found⟩ :=
      componentAt?_of_checkRecord checked (inRange.position position (by rw [state]; rfl))
    have fault : (run.session.nextDraft? context).bind faultOf? =
        Session.componentFault? context .passComponentTable index component := by
      rw [Session.nextDraft?, state]
      exact faultOf?_tableDraft found
    rw [fault]
    exact .passComponentTable state found
  · rw [faultless_of (.inl ⟨position, state⟩)]
    exact .updateComponent state
  · rw [faultless_of (.inr state)]
    exact .activateFirmware state

end

/-- Whatever happens to a run, in whatever order: each of its steps sends its request, or the
session fails for the first fault that keeps the request from being sent, and does not send it. -/
theorem localFaults_through (context : SessionContext) (record : DeviceRecord)
    (moments : List Moment) (moment : Moment) :
    (History.through context record moments).run.TakesSteps context moment := by
  have sound := (sound_through context record moments).1
  have passed := hasPassed_through context record moments
  have checked := checked_through context record moments
  generalize (History.through context record moments).run = run at *
  refine ⟨fun waiting begins => ?start, fun inbox next => ?step, passed.writable⟩
  case start =>
    have met : run.meet context moment = { run with status := .running }.settle context moment.now
        (Turn.start context moment.now ⟨run.session, moment.pool, []⟩) := by
      rw [Run.meet, begins]
      exact if_pos waiting
    have started : ({ run with status := .running } : Run).status = .running := rfl
    rw [met]
    exact attempts_start started (sound.fresh waiting).1
  case step =>
    have running := (Run.next?_eq_some.mp next).1
    obtain ⟨command, own, due⟩ := due_of_driven sound running (checked running) passed next
    refine ⟨command, _, due, ?_⟩
    rcases meet_cases context moment sound with
      ⟨idle, _⟩ | ⟨idle, _⟩ | ⟨event, rest, turn, handled, _, reaction, met⟩
    · cases idle.symm.trans next
    · cases idle.symm.trans next
    · obtain ⟨rfl, rfl⟩ := Prod.mk.inj (Option.some.inj (handled.symm.trans next))
      have still : ({ run with inbox := rest } : Run).status = .running := running
      rw [met]
      exact attempts_of_reaction still own reaction

end FirmwareAgent
