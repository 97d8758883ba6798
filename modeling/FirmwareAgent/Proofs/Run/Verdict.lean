import FirmwareAgent.Proofs.Run.Farewell
import FirmwareAgent.Proofs.Run.Inbound
import FirmwareAgent.Proofs.Session.Verdict

/-!
# Outcomes in a run

In any history the pending command of a session belongs to its state, so the verdict on its outcome
is never that it came out of turn. A run whose session has failed keeps the reason.

* `Run.Sound.judgesOutcomes`: what a session of a sound run makes of outcomes, and of anything else
  once it has failed.
* `verdict_through`: the result, for whole histories.
-/

namespace FirmwareAgent

/-- What a session makes of the outcomes of commands. -/
structure Session.JudgesOutcomes (context : SessionContext) (session : Session) : Prop where
  /-- An outcome of the pending command decides about it, and uses it up. -/
  judged : ∀ pending, session.pending = some pending → ∀ now pool outcome,
    let turn := Turn.handle context now (.response pending.token outcome) ⟨session, pool, []⟩
    Verdict context now session pending outcome turn ∧ turn.session.pending = none
  /-- Any other outcome changes nothing. -/
  stray : ∀ token, (∀ pending, session.pending = some pending → pending.token ≠ token) →
    ∀ now pool outcome, Turn.handle context now (.response token outcome) ⟨session, pool, []⟩ =
      ⟨session, pool, []⟩
  /-- The reason for a failure stands, whatever the session hears. -/
  final : ∀ reason, session.state = .failed reason → ∀ now pool event,
    (Turn.handle context now event ⟨session, pool, []⟩).session.state = .failed reason

section

variable {context : SessionContext} {run : Run}

/-- A command is pending only while its run goes on, and then it belongs to the state. -/
theorem Run.Sound.own_of_pending {pending : PendingCommand} (sound : run.Sound)
    (slot : run.session.pending = some pending) :
    run.session.state.command? = some pending.command ∧
      run.session.state.InRange run.session.record.componentCount := by
  cases sound with
  | waiting status fresh =>
    rw [fresh] at slot
    cases slot
  | running status inRange driven =>
    cases driven with
    | due own later free | withTarget state free => cases free.symm.trans slot
    | underWay slot' own =>
      obtain rfl := Option.some.inj (slot.symm.trans slot')
      exact ⟨own, inRange⟩
  | stopped closed free => cases free.symm.trans slot

theorem Run.Sound.judgesOutcomes (sound : run.Sound) : run.session.JudgesOutcomes context where
  judged := by
    intro pending slot now pool outcome
    obtain ⟨own, inRange⟩ := sound.own_of_pending slot
    exact ⟨verdict_handle context now pool ⟨slot, rfl⟩ own inRange outcome,
      pending_handle context now pool ⟨slot, rfl⟩ (SessionState.live_of_command? own) outcome⟩
  stray := by
    intro token other now pool outcome
    exact handle_of_stray context now pool (fun pending awaited =>
      other pending awaited.slot awaited.token) outcome
  final := by
    intro reason failed now pool event
    have terminal : run.session.state.isTerminal = true := by
      rw [failed]
      rfl
    have free : run.session.pending = none := by
      refine Option.eq_none_iff_forall_not_mem.mpr fun pending slot => ?_
      have live := SessionState.live_of_command? (sound.own_of_pending slot).1
      cases live.symm.trans terminal
    rw [handle_of_terminal context now pool terminal free, failed]

/-- A run that handles an event is then in the state in which the event puts its session, even if
the session breaks down. -/
theorem state_meet {moment : Moment} {event : Event} {inbox : List Event} (sound : run.Sound)
    (next : run.next? moment.now moment.action = some (event, inbox)) :
    (run.meet context moment).run.session.state =
      (Turn.handle context moment.now event ⟨run.session, moment.pool, []⟩).session.state := by
  have running := (Run.next?_eq_some.mp next).1
  have live := sound.live running
  have still : ({ run with inbox := inbox } : Run).status = .running := running
  rw [Run.meet_of_next? context next]
  have reaction := reaction_handle context moment.now moment.pool live event
  exact (Run.state_settle context moment.now still (reaction.orderly live)).2

end

/-- Whatever happens to a run, in whatever order: its session judges each outcome of its pending
command, and no other, the run takes over the state that this leads to, and the reason for which the
update is given up first remains. -/
theorem verdict_through (context : SessionContext) (record : DeviceRecord)
    (moments : List Moment) :
    let run := (History.through context record moments).run
    run.session.JudgesOutcomes context ∧
      (∀ moment event inbox, run.next? moment.now moment.action = some (event, inbox) →
        (run.meet context moment).run.session.state =
          (Turn.handle context moment.now event ⟨run.session, moment.pool, []⟩).session.state) ∧
      ∀ reason, run.session.state = .failed reason → ∀ later,
        (History.through context record (moments ++ later)).run.session.state = .failed reason := by
  intro run
  have sound : run.Sound := (sound_through context record moments).1
  refine ⟨sound.judgesOutcomes, fun moment event inbox next => state_meet sound next, ?_⟩
  intro reason failed later
  have terminal : run.session.state.isTerminal = true := by
    rw [failed]
    rfl
  rw [(rests_through (closed_of_terminal sound terminal) later).1]
  exact failed

/-- An agent that would wait for a component as long as a duration can be. -/
def patientAgent : SessionContext :=
  { oneComponent (.memory #[]) with config := { componentOutcomeTimeout := .longest } }

/-- The target takes the component. -/
def componentTaken : Response :=
  (Request.firmwareUpdate (Header.instanceIdOf 0) .updateComponent []).respond
    CompletionCode.success (List.replicate 8 0)

/-- The run of that agent whose inbox holds the answer. -/
def takenRun : Run :=
  (History.through patientAgent ⟨9, #[0], #[], "set"⟩
    ([ .begin,
       .granted 0 .requestUpdate [0, 0, 0], .handle,
       .handle, .granted 1 .passComponentTable [0, 0], .handle,
       .handle, .finish (some 2) (.ok componentTaken) ].map .of)).run

/-- The configuration is in range, but the clock cannot show the deadline. The session breaks down
over the answer, and the update gets no further. -/
theorem stuck_componentTaken :
    patientAgent.config.validate = .ok () ∧
      takenRun.next? 0 .handle = some (.response 2 (.ok componentTaken), []) ∧
      takenRun.session.pending.map (·.token) = some 2 ∧
      componentTaken.command = Command.updateComponent.code ∧
      Body.decode UpdateComponentResponse componentTaken.body = .ok ⟨0, 0, 0, 0⟩ ∧
      takenRun.session.state = .updatingComponent 0 ∧
      (takenRun.meet patientAgent (.of .handle)).run.session.state = .updatingComponent 0 ∧
      (takenRun.meet patientAgent (.of .handle)).run.status = .crashed :=
  ⟨by decide +kernel, rfl, by decide +kernel, rfl, rfl, by decide +kernel, by decide +kernel,
    by decide +kernel⟩

end FirmwareAgent
