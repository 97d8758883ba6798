import FirmwareAgent.Proofs.Run.Driver
import FirmwareAgent.Proofs.Session.Judgement

/-!
# What a request of the target does

A running session answers every request of its target, and does next to nothing else: it may time
the target's silence anew, and it goes on to the next component when the target reports the end of
one. `Run.Heard` says so with the whole run before and after, so whatever it does not name stays as
it was.

* `canStart_through`: a session whose update is in progress has a record that passed its check, so
  the component that a target pulls is always there, and it could write RequestUpdate.
* `heard_through`: how any request is handled, in any state that a running session can be in.
-/

namespace FirmwareAgent

/-! ## The component at work is there -/

section

variable {context : SessionContext} {session : Session} {run : Run} {moment : Moment}

/-- A record that is not refused has a component at each of its positions. -/
theorem componentAt?_of_checkRecord {position : Nat}
    (checked : session.checkRecord context = .ok ())
    (within : position < session.record.componentCount) :
    ∃ index component, session.componentAt? context position = some (index, component) := by
  unfold Session.checkRecord at checked
  split at checked
  · cases checked
  split at checked
  · cases checked
  · rename_i all_found
    have listed : session.record.applicableComponents[position]? =
        some session.record.applicableComponents[position] := Array.getElem?_eq_getElem within
    have present := Array.find?_eq_none.mp all_found _ (Array.getElem_mem within)
    cases found : context.components.get? session.record.applicableComponents[position] with
    | none => simp [found] at present
    | some component =>
      exact ⟨session.record.applicableComponents[position], component, by
        simp [Session.componentAt?, listed, found]⟩

/-- A session can start: its record is not refused, and RequestUpdate can be written. -/
structure Session.CanStart (context : SessionContext) (session : Session) : Prop where
  checked : session.checkRecord context = .ok ()
  drafted : ∃ draft, session.updateDraft context = .ok draft

theorem Session.CanStart.congr {other : Session} (can : session.CanStart context)
    (same : other.record = session.record) : other.CanStart context where
  checked := by simpa only [Session.checkRecord, Session.endpoint, same] using can.checked
  drafted := by simpa only [Session.updateDraft, same] using can.drafted

/-- A running session is between RequestUpdate and its end. -/
theorem Run.Driven.inProgress (driven : run.Driven) :
    run.session.state.isInProgress = true := by
  cases driven with
  | due own | underWay slot own =>
    cases state : run.session.state <;> simp_all [SessionState.command?, SessionState.isInProgress,
      SessionState.isTerminal]
  | withTarget state =>
    rw [state]
    rfl

/-- A run whose session fails as it starts is over. -/
theorem not_inProgress_of_fail {reason : UpdateError}
    (live : session.state.isTerminal = false) :
    ({ run with status := .running }.settle context moment.now
      (Turn.fail context moment.now reason ⟨session, moment.pool, []⟩)).run.session.state.isInProgress
        = false := by
  have calm : (Turn.fail context moment.now reason ⟨session, moment.pool, []⟩).IsCalm :=
    Turn.isCalm_fail live
  have terminal : (Turn.fail context moment.now reason
      ⟨session, moment.pool, []⟩).session.state.isTerminal = true := by
    rw [Turn.state_fail _ _ _ _ live]
    rfl
  have ended := Run.settle_ends context moment.now { run with status := .running } calm rfl terminal
  rw [ended.1, SessionState.isInProgress, terminal]
  exact Bool.and_false _

/-- An update is in progress only if it was before, or if it has just started. -/
theorem inProgress_of_meet (sound : run.Sound)
    (inProgress : (run.meet context moment).run.session.state.isInProgress = true) :
    run.session.state.isInProgress = true ∨
      run.status = .waiting ∧ run.session.CanStart context := by
  have change : Run.Change context moment.now moment.pool run moment.action
    (run.meet context moment) := Run.change_act sound.live
  generalize run.meet context moment = step at inProgress change
  rcases change.rests_or_turns with
    rests | ⟨waiting, rfl⟩ | ⟨event, inbox, turn, running, _⟩
  · exact .inl (rests.session ▸ inProgress)
  · obtain ⟨fresh, _⟩ := sound.fresh waiting
    have live : run.session.state.isTerminal = false := by
      rw [fresh]
      rfl
    rcases start_cases context moment.now run.session moment.pool with
      ⟨reason, _, failed⟩ | ⟨checked, reaction⟩
    · rw [failed, not_inProgress_of_fail live] at inProgress
      cases inProgress
    · generalize Turn.start context moment.now ⟨run.session, moment.pool, []⟩ = turn
        at inProgress reaction
      cases reaction with
      | ignored idle => cases idle
      | failed cause =>
        cases cause with
        | unwritable =>
          rw [not_inProgress_of_fail rfl] at inProgress
          cases inProgress
        | noId due => exact .inr ⟨waiting, checked, _, Option.some.inj due⟩
      | submitted due => exact .inr ⟨waiting, checked, _, Option.some.inj due⟩
  · exact .inl (sound.driven running).2.inProgress

/-- A session whose update is in progress was able to start. -/
theorem canStart_through (context : SessionContext) (record : DeviceRecord)
    (moments : List Moment) :
    (History.through context record moments).run.session.state.isInProgress = true →
      (History.through context record moments).run.session.CanStart context := by
  suffices kept : (History.through context record moments).run.Sound ∧
      ((History.through context record moments).run.session.state.isInProgress = true →
        (History.through context record moments).run.session.CanStart context) from kept.2
  refine History.induct (motive := fun history => history.run.Sound ∧
    (history.run.session.state.isInProgress = true → history.run.session.CanStart context))
    ?_ ?_ moments
  · exact ⟨.waiting rfl rfl rfl rfl, nofun⟩
  · rintro history moment ⟨sound, can⟩
    refine ⟨sound.act, fun inProgress => ?_⟩
    rw [History.run_extend] at inProgress ⊢
    have record_eq : (history.run.meet context moment).run.session.record =
        history.run.session.record := record_act sound
    rcases inProgress_of_meet sound inProgress with was_inProgress | ⟨_, starts⟩
    · exact (can was_inProgress).congr record_eq
    · exact starts.congr record_eq

/-- The record of a running session is not refused. -/
theorem checked_through (context : SessionContext) (record : DeviceRecord) (moments : List Moment)
    (running : (History.through context record moments).run.status = .running) :
    (History.through context record moments).run.session.checkRecord context = .ok () :=
  have sound := (sound_through context record moments).1
  (canStart_through context record moments (sound.driven running).2.inProgress).checked

end

/-! ## Handling a request -/

/-- A session breaks down over a request of its target: the clock cannot show the deadline that the
request asks for, or a source that is read at once breaks down. -/
def Session.BreaksOver (context : SessionContext) (now : Instant) (session : Session)
    (request : Request) : Prop :=
  (session.showsLife request = true ∧
      now.after? context.clockEnd context.config.componentOutcomeTimeout = none) ∨
    session.BreaksAt context request

namespace Run

/-- How a run that handles a request of its target goes on. -/
inductive Heard (context : SessionContext) (moment : Moment) (run : Run) (inbox : List Event)
    (caller : Caller) (request : Request) : RunStep → Prop
  /-- The answer is given at once. -/
  | answered {code : UInt8} {body : Bytes} {deadline : Option Instant}
      (judged : run.session.Judges context request code body)
      (goes_on : run.session.endsComponent request = false)
      (timed : run.session.Times context moment.now request deadline) :
      Heard context moment run inbox caller request
        ⟨{ run with
            session := { run.session with outcomeDeadline := deadline }
            inbox := inbox },
          moment.pool, [.answered caller (request.respond code body)]⟩
  /-- The answer waits for the package to be read. -/
  | deferred {code : UInt8} {body : Bytes} {deadline : Option Instant}
      (judged : run.session.Judges context request code body)
      (goes_on : run.session.endsComponent request = false)
      (timed : run.session.Times context moment.now request deadline) :
      Heard context moment run inbox caller request
        ⟨{ run with
            session := { run.session with outcomeDeadline := deadline }
            inbox := inbox
            reads := run.reads ++ [(caller, request.respond code body)] },
          moment.pool, []⟩
  /-- The request ends the component at work. -/
  | finished {position : Nat} {report : ApplyCompleteRequest}
      (state : run.session.state = .awaitingComponentOutcome position)
      (ends : run.session.endsComponent request = true)
      (decoded : Body.decode ApplyCompleteRequest request.payload = .ok report) :
      Heard context moment run inbox caller request
        ⟨{ run with
            session := { run.session with
              state := .afterComponent run.session.record.componentCount position
              outcomeDeadline := none }
            inbox := inbox ++ [.proceed] },
          moment.pool,
          [.notified (.applied run.session.endpoint (run.session.componentIndex position)
              report.succeeded),
            .answered caller (request.respond CompletionCode.success [])]⟩
  /-- The session breaks down over the request. -/
  | brokeDown (cause : run.session.BreaksOver context moment.now request) :
      Heard context moment run inbox caller request
        ⟨{ run with
            session := { run.session with pending := none, outcomeDeadline := none }
            status := .crashed
            inbox := [] },
          run.session.surrender moment.pool,
          ((caller, request) :: inbox.filterMap Event.request?).map fun (caller, request) =>
            .unanswered caller request⟩

variable {context : SessionContext} {moment : Moment} {run : Run} {inbox : List Event}
  {caller : Caller} {request : Request} {turn : Turn}

/-- The component that a running session serves is there. -/
theorem placed_of_checkRecord
    (inRange : run.session.state.InRange run.session.record.componentCount)
    (checked : run.session.checkRecord context = .ok ()) (position : Nat)
    (served : run.session.servedPosition? = some position) :
    ∃ index component, run.session.componentAt? context position = some (index, component) := by
  refine componentAt?_of_checkRecord checked (inRange.position position ?_)
  unfold Session.servedPosition? at served
  split at served
  · rename_i other state
    rw [state]
    exact served
  · rename_i other state
    split at served
    · rw [state]
      exact served
    · cases served
  · cases served

/-- A session that goes on leaves the run as its effects do. -/
theorem settle_live (calm : turn.IsCalm) (live : turn.session.state.isTerminal = false) :
    run.settle context moment.now turn =
      turn.effects.foldl (RunStep.perform context moment.now)
        ⟨{ run with session := turn.session }, turn.pool, []⟩ := by
  have session_eq := (foldl_perform_calm context moment.now
    ⟨{ run with session := turn.session }, turn.pool, []⟩ calm).1
  unfold settle RunStep.closeIfTerminal
  exact if_neg fun ended => by simp [session_eq, live] at ended

/-- A session that breaks down at a request leaves it, and all that wait, without an answer. -/
theorem heard_of_crash {deadline : Option Instant}
    (cause : run.session.BreaksOver context moment.now request) :
    run.Heard context moment inbox caller request ({ run with inbox := inbox }.settle context
      moment.now ⟨{ run.session with outcomeDeadline := deadline }, moment.pool,
        [.crash (some (caller, request))]⟩) := by
  have broke : run.Heard context moment inbox caller request _ := .brokeDown cause
  simpa [settle, RunStep.closeIfTerminal, RunStep.perform, RunStep.close, RunStep.abandonSession,
    RunStep.occur, Turn.dropPending_eq, Session.surrender] using broke

theorem heard_of_reaction (inProgress : run.session.state.isInProgress = true)
    (placed : ∀ position, run.session.servedPosition? = some position →
      ∃ index component, run.session.componentAt? context position = some (index, component))
    (reaction : Reaction context moment.now run.session moment.pool (.inbound caller request)
      turn) :
    run.Heard context moment inbox caller request
      ({ run with inbox := inbox }.settle context moment.now turn) := by
  have live : run.session.state.isTerminal = false := by
    simp only [SessionState.isInProgress, Bool.and_eq_true, Bool.not_eq_true'] at inProgress
    exact inProgress.2
  have due := Session.isDue_replyTo context request inProgress placed
  have ends_eq := Session.isSome_reported? request inProgress
  cases reaction with
  | ignored idle => exact idle.elim
  | failed cause => cases cause
  | answered rearmed unreported ready =>
    rw [ready] at due
    obtain ⟨code, body, judged, rfl⟩ := due
    rw [unreported] at ends_eq
    rw [settle_live (by simp [Turn.IsCalm, Effect.isCrash]) live]
    exact .answered judged ends_eq.symm (Session.times_of_deadlineAfter? inProgress rearmed)
  | deferred rearmed reading =>
    have unreported : run.session.reported? request = none := by
      refine Option.eq_none_iff_forall_not_mem.mpr fun reported found => ?_
      have disposed := (Session.reported?_eq_some found).1
      rw [Session.replyTo, disposed] at reading
      cases reading
    rw [reading] at due
    obtain ⟨code, body, judged, rfl⟩ := due
    rw [unreported] at ends_eq
    rw [settle_live (by simp [Turn.IsCalm, Effect.isCrash]) live]
    exact .deferred judged ends_eq.symm (Session.times_of_deadlineAfter? inProgress rearmed)
  | brokeDown rearmed crash =>
    rw [crash] at due
    exact heard_of_crash (.inr due)
  | overran beyond =>
    exact heard_of_crash (.inl (Session.overruns_of_deadlineAfter? inProgress beyond))
  | finished state reported =>
    obtain ⟨_, report, decoded, rfl⟩ := Session.reported?_eq_some reported
    rw [reported] at ends_eq
    obtain ⟨command, next_own, _⟩ :=
      SessionState.command?_afterComponent run.session.record.componentCount
    rw [settle_live (by simp [Turn.IsCalm, Effect.isCrash])
      (SessionState.live_of_command? next_own)]
    exact .finished state ends_eq.symm decoded

variable (context) in
/-- A run that handles a request lets its session react to it. -/
theorem meet_inbound (live : run.session.state.isTerminal = false)
    (handled : run.next? moment.now moment.action = some (.inbound caller request, inbox)) :
    ∃ turn, Reaction context moment.now run.session moment.pool (.inbound caller request) turn ∧
      run.meet context moment = { run with inbox := inbox }.settle context moment.now turn :=
  ⟨_, reaction_handle context moment.now moment.pool live (.inbound caller request),
    meet_of_next? context handled⟩

/-- A request that ends nothing, and whose deadline the clock can show, has its reply carried out. -/
theorem effects_of_reaction
    (reaction : Reaction context moment.now run.session moment.pool (.inbound caller request) turn)
    (unreported : run.session.reported? request = none)
    (shown : run.session.deadlineAfter? context moment.now request ≠ none) :
    turn.effects = (Turn.reply caller request ⟨run.session, moment.pool, []⟩
      (run.session.replyTo context request)).effects := by
  cases reaction with
  | ignored idle => exact idle.elim
  | failed cause => cases cause
  | answered rearmed _ ready => rw [ready]; rfl
  | deferred rearmed reading => rw [reading]; rfl
  | brokeDown rearmed crash => rw [crash]; rfl
  | overran beyond => exact absurd beyond shown
  | finished state reported => cases unreported.symm.trans reported

end Run

/-- Whatever state a running session is in when it handles a request of its target: the request has
the one answer that it is due, now or once the package has been read, and nothing else changes but
the timer and, at the end of a component, the state. No answer is given only if the session breaks
down. -/
theorem heard_through (context : SessionContext) (record : DeviceRecord) (moments : List Moment)
    (moment : Moment) (caller : Caller) (request : Request) (inbox : List Event)
    (handled : (History.through context record moments).run.next? moment.now moment.action =
      some (.inbound caller request, inbox)) :
    (History.through context record moments).run.Heard context moment inbox caller request
      ((History.through context record moments).run.meet context moment) := by
  have sound := (sound_through context record moments).1
  have checked := checked_through context record moments
  generalize (History.through context record moments).run = run at handled sound checked ⊢
  have running := (Run.next?_eq_some.mp handled).1
  obtain ⟨inRange, driven⟩ := sound.driven running
  have placed := Run.placed_of_checkRecord inRange (checked running)
  obtain ⟨turn, reaction, met⟩ := Run.meet_inbound context driven.live handled
  rw [met]
  exact Run.heard_of_reaction driven.inProgress placed reaction

/-! ## A request ahead of its time -/

/-- A device with one component of 40 bytes, which start at the second byte of the package. The
clock counts its seconds in signed 64-bit numbers. -/
def oneComponent (package : PackageSource) : SessionContext where
  config := {}
  components :=
    { components := #[⟨10, 1, 2, 0, 0, 40, 1, "1.0"⟩]
      classificationIndices := [((10, 1), 0)] }
  package := package
  clockEnd := nanosPerSecond * (UInt64.size / 2)

def Moment.of (action : RunAction) : Moment :=
  ⟨0, { expiry := .ofSeconds 5 }, action⟩

/-- The target grants the command of a token. -/
def RunAction.granted (token : Nat) (command : Command) (body : Bytes) : RunAction :=
  .finish (some token)
    (.ok ((Request.firmwareUpdate (Header.instanceIdOf 0) command []).respond
      CompletionCode.success body))

/-- The update up to UpdateComponent, whose answer a request of the target overtakes. -/
def overtaken (request : Request) : List Moment :=
  [ .begin,
    .granted 0 .requestUpdate [0, 0, 0], .handle,
    .handle, .granted 1 .passComponentTable [0, 0], .handle,
    .handle, .inbound (.handle 0) request ].map .of

/-- The run whose inbox holds the request. -/
def overtakenRun (package : PackageSource) (request : Request) : Run :=
  (History.through (oneComponent package) ⟨9, #[0], #[], "set"⟩ (overtaken request)).run

/-- A report that a component was applied, before its announcement is answered. -/
def appliedAhead : Request :=
  ⟨Header.instanceIdOf 7, firmwareUpdateType, Command.applyComplete.code, [0, 0, 0]⟩

theorem heard_appliedAhead :
    (overtakenRun (.memory #[]) appliedAhead).next? 0 .handle =
        some (.inbound (.handle 0) appliedAhead, []) ∧
      (overtakenRun (.memory #[]) appliedAhead).Heard (oneComponent (.memory #[])) (.of .handle) []
        (.handle 0) appliedAhead
        ((overtakenRun (.memory #[]) appliedAhead).meet (oneComponent (.memory #[]))
          (.of .handle)) ∧
      ((overtakenRun (.memory #[]) appliedAhead).meet (oneComponent (.memory #[]))
          (.of .handle)).answers =
        [(.handle 0, ⟨7, 5, 0x18, CompletionCode.commandNotExpected, []⟩)] :=
  ⟨rfl, heard_through _ _ _ (.of .handle) (.handle 0) appliedAhead [] rfl, by decide +kernel⟩

/-- The pull with which a target starts. -/
def pulledFirst : Request :=
  ⟨Header.instanceIdOf 7, firmwareUpdateType, Command.requestFirmwareData.code,
    [0, 0, 0, 0, 32, 0, 0, 0]⟩

/-- The session reads the package itself and breaks down with its source. The pull has no answer,
nor will it have one, and the pending command is gone. -/
theorem unanswered_pulledFirst :
    (overtakenRun (.crashing true) pulledFirst).next? 0 .handle =
        some (.inbound (.handle 0) pulledFirst, []) ∧
      (overtakenRun (.crashing true) pulledFirst).session.pending.isSome = true ∧
      ((overtakenRun (.crashing true) pulledFirst).meet (oneComponent (.crashing true))
          (.of .handle)).occurrences = [.unanswered (.handle 0) pulledFirst] ∧
      ((overtakenRun (.crashing true) pulledFirst).meet (oneComponent (.crashing true))
          (.of .handle)).run.reads = [] ∧
      ((overtakenRun (.crashing true) pulledFirst).meet (oneComponent (.crashing true))
          (.of .handle)).run.session.pending = none :=
  ⟨rfl, by decide +kernel, by decide +kernel, by decide +kernel, by decide +kernel⟩

end FirmwareAgent
