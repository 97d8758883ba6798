import FirmwareAgent.Proofs.Run.Inbound

/-!
# Breakdowns

A session breaks down if it has to set a deadline that the clock cannot show, or if the package
source breaks down while the session reads it itself. Nothing else breaks a session down. It stays
in the state that it was in, and its run neither goes on nor comes to an end.

* `Session.BreaksOn`: the events over which a session breaks down.
* `brokeDown_through`: a run that has broken down has handled such an event, and its session is not
  over.
-/

namespace FirmwareAgent

/-- The events over which a session breaks down. -/
inductive Session.BreaksOn (context : SessionContext) (now : Instant) (session : Session) :
    Event → Prop
  | asked {caller : Caller} {request : Request}
      (breaks : session.BreaksOver context now request) :
      BreaksOn context now session (.inbound caller request)
  /-- The target takes the announced component, and the clock cannot show the deadline. -/
  | taken {token position : Nat} {response : Response} {body : UpdateComponentResponse}
      (state : session.state = .updatingComponent position)
      (granted : response.Grants .updateComponent)
      (decoded : Body.decode UpdateComponentResponse response.body = .ok body)
      (compatible : body.isCompatible = true)
      (beyond : now.after? context.clockEnd context.config.componentOutcomeTimeout = none) :
      BreaksOn context now session (.response token (.ok response))

/-- The run has handled an event over which its session broke down. -/
def History.BrokeDown (context : SessionContext) (history : History) : Prop :=
  ∃ entry ∈ history.entries, ∃ event inbox,
    entry.run.next? entry.moment.now entry.moment.action = some (event, inbox) ∧
      entry.run.session.BreaksOn context entry.moment.now event

section

variable {context : SessionContext} {now : Instant} {pool : InstanceIdPool} {session : Session}
  {event : Event} {turn : Turn} {run : Run} {asked : Option (Caller × Request)}

/-- A turn in which an update fails does not break down. -/
theorem effects_fail_ne_crash {reason : UpdateError} (live : session.state.isTerminal = false) :
    (Turn.fail context now reason ⟨session, pool, []⟩).effects ≠ [.crash asked] := by
  intro crash
  have calm : (Turn.fail context now reason ⟨session, pool, []⟩).IsCalm := Turn.isCalm_fail live
  simp [Turn.IsCalm, crash, Effect.isCrash] at calm

/-- A session breaks down in the state that it was in. -/
theorem Reaction.state_of_crash (reaction : Reaction context now session pool event turn)
    (live : session.state.isTerminal = false) (crash : turn.effects = [.crash asked]) :
    turn.session.state = session.state := by
  cases reaction with
  | @failed event reason cause =>
    have informed_live : (session.informed event).state.isTerminal = false := live
    exact (effects_fail_ne_crash informed_live crash).elim
  | untimed | brokeDown | overran => rfl
  | _ => simp at crash

/-- A session whose component is there breaks down over the events that are named, and over no
other. -/
theorem Reaction.breaksOn (reaction : Reaction context now session pool event turn)
    (inProgress : session.state.isInProgress = true)
    (placed : ∀ position, session.servedPosition? = some position →
      ∃ index component, session.componentAt? context position = some (index, component))
    (crash : turn.effects = [.crash asked]) : session.BreaksOn context now event := by
  cases reaction with
  | @failed event reason cause =>
    simp only [SessionState.isInProgress, Bool.and_eq_true, Bool.not_eq_true'] at inProgress
    have informed_live : (session.informed event).state.isTerminal = false := inProgress.2
    exact (effects_fail_ne_crash informed_live crash).elim
  | untimed awaited state command granted decoded compatible beyond =>
    exact .taken state (command ▸ granted) decoded compatible beyond
  | @brokeDown caller request deadline rearmed broke =>
    have due := Session.isDue_replyTo context request inProgress placed
    rw [broke] at due
    exact .asked (.inr due)
  | overran beyond => exact .asked (.inl (Session.overruns_of_deadlineAfter? inProgress beyond))
  | _ => simp at crash

/-- A run that has broken down by a turn was told to. -/
theorem Run.effects_of_crashed_settle (running : run.status = .running) (orderly : turn.IsOrderly)
    (crashed : (run.settle context now turn).run.status = .crashed) :
    ∃ asked, turn.effects = [.crash asked] := by
  refine orderly.resolve_left fun calm => ?_
  cases live : turn.session.state.isTerminal with
  | true => cases (Run.settle_ends context now run calm running live).2.1.symm.trans crashed
  | false =>
    have status := (Run.settle_continues context now run calm live).1.status
    cases (status.symm.trans crashed).symm.trans running

end

section

variable {context : SessionContext} {moment : Moment} {run : Run}

/-- A run that is broken down after a moment was so before, or its session has just broken down over
an event, in the state that it was in. -/
theorem Run.crashed_of_meet (sound : run.Sound)
    (checked : run.status = .running → run.session.checkRecord context = .ok ())
    (crashed : (run.meet context moment).run.status = .crashed) :
    (run.status = .crashed ∧ (run.meet context moment).run.session = run.session) ∨
      ∃ event inbox, run.next? moment.now moment.action = some (event, inbox) ∧
        run.session.BreaksOn context moment.now event ∧
        (run.meet context moment).run.session.state = run.session.state := by
  rcases meet_cases context moment sound with
    ⟨_, rests⟩ | ⟨_, waiting, fresh, met⟩ | ⟨event, inbox, turn, next, running, reaction, met⟩
  · exact .inl ⟨rests.status.symm.trans crashed, rests.session⟩
  · -- Neither the check of the record nor the first request breaks a session down.
    have live : run.session.state.isTerminal = false := by
      rw [fresh]
      rfl
    rw [met] at crashed
    rcases start_cases context moment.now run.session moment.pool with
      ⟨reason, _, failed⟩ | ⟨_, reaction⟩
    · rw [failed] at crashed
      obtain ⟨_, crash⟩ :=
        Run.effects_of_crashed_settle rfl (.inl (Turn.isCalm_fail live)) crashed
      exact (effects_fail_ne_crash live crash).elim
    · obtain ⟨_, crash⟩ := Run.effects_of_crashed_settle rfl (reaction.orderly rfl) crashed
      generalize Turn.start context moment.now ⟨run.session, moment.pool, []⟩ = turn
        at reaction crash
      cases reaction with
      | ignored => simp at crash
      | failed => exact (effects_fail_ne_crash rfl crash).elim
      | submitted => simp at crash
  · obtain ⟨inRange, driven⟩ := sound.driven running
    have still : ({ run with inbox := inbox } : Run).status = .running := running
    have orderly := reaction.orderly driven.live
    rw [met] at crashed ⊢
    obtain ⟨_, crash⟩ := Run.effects_of_crashed_settle still orderly crashed
    have placed := Run.placed_of_checkRecord inRange (checked running)
    exact .inr ⟨event, inbox, next, reaction.breaksOn driven.inProgress placed crash,
      (Run.state_settle context moment.now still orderly).2.trans
        (reaction.state_of_crash driven.live crash)⟩

end

/-- A run that has broken down has handled an event over which its session did, and the session is
not over. -/
theorem brokeDown_through (context : SessionContext) (record : DeviceRecord)
    (moments : List Moment) :
    let history := History.through context record moments
    history.run.status = .crashed →
      history.BrokeDown context ∧ history.run.session.state.isTerminal = false := by
  induction moments using List.reverseRecOn with
  | nil => exact nofun
  | append_singleton moments moment ih =>
    intro history crashed
    have sound := (sound_through context record moments).1
    have checked := checked_through context record moments
    have through_eq : history = (History.through context record moments).extend context moment :=
      History.through_concat moments
    rw [through_eq, History.run_extend] at crashed
    rw [through_eq, History.run_extend]
    rcases Run.crashed_of_meet sound checked crashed with
      ⟨before, session⟩ | ⟨event, inbox, next, breaks, state⟩
    · obtain ⟨⟨entry, mem, broke⟩, live⟩ := ih before
      exact ⟨⟨entry, History.mem_entries_extend mem, broke⟩, session ▸ live⟩
    · refine ⟨⟨_, List.mem_append_right _ (List.mem_singleton_self _), event, inbox, next, breaks⟩,
        ?_⟩
      rw [state]
      exact sound.live (Run.next?_eq_some.mp next).1

end FirmwareAgent
