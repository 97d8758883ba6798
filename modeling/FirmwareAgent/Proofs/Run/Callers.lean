import FirmwareAgent.Proofs.Run.Driver

/-!
# Whom a run answers

A request waits in the inbox of a run until the session handles it, and its answer may wait for the
package to be read. When the run ends, what is left in the inbox gets no answer.

* `Run.OwesOnly` is the invariant: whatever a run has still to settle was asked for.
* `Run.OwesOnly.act`: its step, with what the run settles.
-/

namespace FirmwareAgent

/-! ## Whom something concerns -/

/-- Who put the request of an event. -/
def Event.caller? (event : Event) : Option Caller :=
  event.request?.map Prod.fst

/-- Whom an effect answers, now or later, or leaves without an answer. -/
def Effect.caller? : Effect → Option Caller
  | answer caller _ | answerLater caller _ => some caller
  | crash asked => asked.map Prod.fst
  | _ => none

/-- Whose request is answered, or stays unanswered. -/
def Occurrence.caller? : Occurrence → Option Caller
  | answered caller _ | unanswered caller _ => some caller
  | sent _ | notified _ => none

/-- Whose request an action puts to a run. -/
def RunAction.caller? : RunAction → Option Caller
  | inbound caller _ => some caller
  | _ => none

/-! ## What a run has still to settle -/

/-- What a run has still to settle was asked for. -/
structure Run.OwesOnly (asked : Caller → Prop) (run : Run) : Prop where
  inbox : ∀ event ∈ run.inbox, ∀ caller ∈ event.caller?, asked caller
  reads : ∀ read ∈ run.reads, asked read.1

/-- So was what a step has settled, and what it leaves to be settled. -/
structure RunStep.SettlesOnly (asked : Caller → Prop) (step : RunStep) : Prop where
  owes : step.run.OwesOnly asked
  settled : ∀ occurrence ∈ step.occurrences, ∀ caller ∈ occurrence.caller?, asked caller

theorem Run.OwesOnly.mono {asked later : Caller → Prop} {run : Run} (owes : run.OwesOnly asked)
    (more : ∀ caller, asked caller → later caller) : run.OwesOnly later :=
  ⟨fun event mem caller asks => more caller (owes.inbox event mem caller asks),
    fun read mem => more read.1 (owes.reads read mem)⟩

namespace RunStep.SettlesOnly

variable {asked : Caller → Prop} {step : RunStep} {context : SessionContext} {now : Instant}

theorem enqueue (settles : step.SettlesOnly asked) {event : Event}
    (own : ∀ caller ∈ event.caller?, asked caller) : (step.enqueue event).SettlesOnly asked where
  owes :=
    ⟨List.forall_mem_append.mpr ⟨settles.owes.inbox, List.forall_mem_singleton.mpr own⟩,
      settles.owes.reads⟩
  settled := settles.settled

/-- What nobody asks for is nobody's concern. -/
theorem enqueue_unasked (settles : step.SettlesOnly asked) {event : Event}
    (unasked : event.caller? = none) : (step.enqueue event).SettlesOnly asked :=
  settles.enqueue (by simp [unasked])

theorem occur (settles : step.SettlesOnly asked) {occurrence : Occurrence}
    (own : ∀ caller ∈ occurrence.caller?, asked caller) :
    (step.occur occurrence).SettlesOnly asked where
  owes := settles.owes
  settled := List.forall_mem_append.mpr ⟨settles.settled, List.forall_mem_singleton.mpr own⟩

/-- What the inbox of a run that ends leaves unanswered was asked for. -/
theorem close (settles : step.SettlesOnly asked) (status : RunStatus) :
    (step.close status).SettlesOnly asked where
  owes := ⟨List.forall_mem_nil _, settles.owes.reads⟩
  settled := by
    refine List.forall_mem_append.mpr ⟨settles.settled, ?_⟩
    rintro occurrence mem caller concerns
    obtain ⟨⟨asker, request⟩, waits, rfl⟩ := List.mem_map.mp mem
    obtain ⟨event, queued, event_request⟩ := List.mem_filterMap.mp waits
    obtain rfl := Option.some.inj concerns
    exact settles.owes.inbox event queued asker (by simp [Event.caller?, event_request])

theorem send (settles : step.SettlesOnly asked) (exchange : Exchange) :
    (step.send exchange).SettlesOnly asked where
  owes := ⟨settles.owes.inbox, settles.owes.reads⟩
  settled := List.forall_mem_append.mpr ⟨settles.settled, List.forall_mem_singleton.mpr nofun⟩

theorem abandonSession (settles : step.SettlesOnly asked) :
    step.abandonSession.SettlesOnly asked :=
  ⟨⟨settles.owes.inbox, settles.owes.reads⟩, settles.settled⟩

theorem perform (settles : step.SettlesOnly asked) {effect : Effect}
    (own : ∀ caller ∈ effect.caller?, asked caller) :
    (step.perform context now effect).SettlesOnly asked := by
  cases effect with
  | submit | submitCancel => exact settles.send _
  | scheduleProceed => exact settles.enqueue_unasked rfl
  | notify notification => exact settles.occur nofun
  | answer caller response => exact settles.occur own
  | answerLater caller response =>
    exact ⟨⟨settles.owes.inbox, List.forall_mem_append.mpr
      ⟨settles.owes.reads, List.forall_mem_singleton.mpr (own caller rfl)⟩⟩, settles.settled⟩
  | crash unanswered =>
    cases unanswered with
    | none => exact settles.abandonSession.close .crashed
    | some asker =>
      obtain ⟨caller, request⟩ := asker
      have unanswered : ∀ asker ∈ (Occurrence.unanswered caller request).caller?, asked asker := own
      exact (settles.abandonSession.occur unanswered).close .crashed

theorem foldl_perform {effects : List Effect} (settles : step.SettlesOnly asked)
    (own : ∀ effect ∈ effects, ∀ caller ∈ effect.caller?, asked caller) :
    (effects.foldl (RunStep.perform context now) step).SettlesOnly asked := by
  induction effects generalizing step with
  | nil => exact settles
  | cons effect effects ih =>
    obtain ⟨first, rest⟩ := List.forall_mem_cons.mp own
    exact ih (settles.perform first) rest

theorem closeIfTerminal (settles : step.SettlesOnly asked) :
    step.closeIfTerminal.SettlesOnly asked := by
  unfold RunStep.closeIfTerminal
  split
  · exact settles.close .ended
  · exact settles

end RunStep.SettlesOnly

section

variable {context : SessionContext} {now : Instant} {pool : InstanceIdPool} {session : Session}

/-- Giving up settles nothing. -/
theorem caller?_fail {reason : UpdateError} (live : session.state.isTerminal = false) :
    ∀ effect ∈ (Turn.fail context now reason ⟨session, pool, []⟩).effects,
      effect.caller? = none := by
  obtain ⟨farewell, effects, shape⟩ := Turn.effects_fail context now reason ⟨session, pool, []⟩ live
  rw [effects]
  rcases shape with rfl | ⟨_, lease, rfl⟩ <;> simp [Effect.caller?]

/-- What a session settles is the request that it handles. -/
theorem Reaction.caller? {event : Event} {turn : Turn}
    (reaction : Reaction context now session pool event turn)
    (live : session.state.isTerminal = false) :
    ∀ effect ∈ turn.effects, ∀ caller ∈ effect.caller?, event.caller? = some caller := by
  cases reaction with
  | failed cause =>
    have informed_live : (session.informed event).state.isTerminal = false := live
    intro effect mem caller concerns
    rw [caller?_fail informed_live effect mem] at concerns
    cases concerns
  | _ => simp [Effect.caller?, Event.caller?, Event.request?]

end

namespace Run

variable {asked : Caller → Prop} {run : Run} {action : RunAction} {context : SessionContext}
  {now : Instant} {pool : InstanceIdPool}

variable (context now pool) in
/-- A run settles, and is to settle, only what it had to and what it is asked for. -/
theorem OwesOnly.act (owes : run.OwesOnly asked) (sound : run.Sound)
    (own : ∀ caller ∈ action.caller?, asked caller) :
    (run.act context now pool action).SettlesOnly asked := by
  have unchanged : RunStep.SettlesOnly asked ⟨run, pool, []⟩ :=
    ⟨owes, List.forall_mem_nil _⟩
  have finish (exchange : Exchange) (outcome : Except UpdateError Response) :
      (run.finishExchange pool exchange outcome).SettlesOnly asked := by
    have without (pool : InstanceIdPool) :
        RunStep.SettlesOnly asked ⟨run.without exchange, pool, []⟩ :=
      ⟨⟨owes.inbox, owes.reads⟩, List.forall_mem_nil _⟩
    unfold finishExchange
    dsimp only
    split
    · exact without _
    · split
      · exact (without pool).enqueue_unasked rfl
      · exact without pool
  cases action with
  | begin =>
    simp only [Run.act]
    split
    · rename_i waiting
      refine RunStep.SettlesOnly.closeIfTerminal
        (.foldl_perform ⟨⟨owes.inbox, owes.reads⟩, List.forall_mem_nil _⟩
          fun effect mem caller concerns => ?_)
      dsimp only at mem
      rcases start_cases context now run.session pool with ⟨reason, _, failed⟩ | ⟨_, reaction⟩
      · have live : run.session.state.isTerminal = false := by
          rw [(sound.fresh waiting).1]
          rfl
        rw [failed] at mem
        rw [caller?_fail live effect mem] at concerns
        cases concerns
      · cases reaction.caller? rfl effect mem caller concerns
    · exact unchanged
  | handle =>
    simp only [Run.act]
    split
    · rename_i event inbox running queue
      have waits := owes.inbox
      rw [queue] at waits
      obtain ⟨first, rest⟩ := List.forall_mem_cons.mp waits
      refine RunStep.SettlesOnly.closeIfTerminal
        (.foldl_perform ⟨⟨rest, owes.reads⟩, List.forall_mem_nil _⟩
          fun effect mem caller concerns => ?_)
      exact first caller ((reaction_handle context now pool (sound.live running) event).caller?
        (sound.live running) effect mem caller concerns)
    · exact unchanged
  | expire =>
    simp only [Run.act]
    split
    · rename_i due
      refine RunStep.SettlesOnly.closeIfTerminal
        (.foldl_perform ⟨⟨owes.inbox, owes.reads⟩, List.forall_mem_nil _⟩
          fun effect mem caller concerns => ?_)
      cases (reaction_handle context now pool (sound.live due.1) .outcomeTimeout).caller?
        (sound.live due.1) effect mem caller concerns
    · exact unchanged
  | finish token outcome =>
    simp only [Run.act]
    split
    · exact finish _ _
    · exact unchanged
  | timeOut token =>
    simp only [Run.act]
    split
    · split
      · exact finish _ _
      · exact unchanged
    · exact unchanged
  | inbound caller request =>
    simp only [Run.act]
    split
    · exact unchanged.enqueue own
    · exact unchanged.occur own
  | cancel =>
    simp only [Run.act]
    split
    · exact unchanged.enqueue_unasked rfl
    · exact unchanged
  | finishRead place =>
    simp only [Run.act]
    split
    · rename_i caller response waits
      refine RunStep.SettlesOnly.occur
        ⟨⟨owes.inbox, fun read left => ?_⟩, List.forall_mem_nil _⟩ ?_
      · exact owes.reads read (List.mem_of_mem_eraseIdx left)
      · rintro asker ⟨⟩
        exact owes.reads _ (List.mem_of_getElem? waits)
    · exact unchanged

end Run

end FirmwareAgent
