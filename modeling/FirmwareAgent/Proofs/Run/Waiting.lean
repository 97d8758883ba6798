import FirmwareAgent.Proofs.Run.Callers
import FirmwareAgent.Proofs.Run.Inbound

/-!
# Requests that wait

What happens to the requests of one caller in a run. Until the session handles one of them it stays
in the inbox, and the run is as if it were not there. If the run closes first, the request is left
unanswered.

* `Run.PassesOver`: what a step that handles no request of the caller leaves of them.
* `Run.spares_act`: such a step is the same without them.
* `Run.Heard.replies`: what becomes of a request that is handled.
* `Run.comes_closer`: a request that waits comes to its turn.
-/

namespace FirmwareAgent

/-! ## The requests of a caller -/

/-- Whether an event is a request of the caller. -/
def Event.isOf (caller : Caller) (event : Event) : Bool :=
  event.caller? == some caller

/-- Whether a request of the caller is answered, or stays unanswered. -/
def Occurrence.isOf (caller : Caller) (occurrence : Occurrence) : Bool :=
  occurrence.caller? == some caller

@[simp]
theorem Event.isOf_inbound (caller : Caller) (request : Request) :
    (Event.inbound caller request).isOf caller = true :=
  beq_self_eq_true _

@[simp]
theorem Occurrence.isOf_answered (caller : Caller) (response : Response) :
    (Occurrence.answered caller response).isOf caller = true :=
  beq_self_eq_true _

@[simp]
theorem Occurrence.isOf_unanswered (caller : Caller) (request : Request) :
    (Occurrence.unanswered caller request).isOf caller = true :=
  beq_self_eq_true _

namespace Run

/-- The requests of a caller that wait to be handled. -/
def queue (run : Run) (caller : Caller) : List Event :=
  run.inbox.filter (·.isOf caller)

/-- The answers to a caller that wait for the package to be read. -/
def readsFor (run : Run) (caller : Caller) : List (Caller × Response) :=
  run.reads.filter (·.1 == caller)

/-- The run owes the caller nothing. -/
structure IsFree (run : Run) (caller : Caller) : Prop where
  queue : run.queue caller = []
  reads : run.readsFor caller = []

/-- The run without the requests of the caller that wait to be handled. -/
def forget (caller : Caller) (run : Run) : Run :=
  { run with inbox := run.inbox.filter fun event => !event.isOf caller }

end Run

namespace RunStep

/-- What a step has settled of the caller's requests. -/
def settled (step : RunStep) (caller : Caller) : List Occurrence :=
  step.occurrences.filter (·.isOf caller)

/-- The step without the requests of the caller and what others see of them. -/
def forget (caller : Caller) (step : RunStep) : RunStep where
  run := step.run.forget caller
  pool := step.pool
  occurrences := step.occurrences.filter fun occurrence => !occurrence.isOf caller

end RunStep

/-- The requests among events, left unanswered. -/
def leftUnanswered (events : List Event) : List Occurrence :=
  (events.filterMap Event.request?).map fun (caller, request) => .unanswered caller request

/-- A step has handled no request of the caller: they all wait still, or the run has closed and they
are left unanswered. -/
inductive RunStep.PassesOver (caller : Caller) (before after : RunStep) : Prop
  | kept (taken : after.run.isOpen = before.run.isOpen)
      (queue : after.run.queue caller = before.run.queue caller)
      (settled : after.settled caller = before.settled caller)
  | closed (ended : after.run.isOpen = false) (queue : after.run.queue caller = [])
      (settled : after.settled caller =
        before.settled caller ++ leftUnanswered (before.run.queue caller))

theorem leftUnanswered_cons (event : Event) (events : List Event) :
    leftUnanswered (event :: events) = leftUnanswered [event] ++ leftUnanswered events := by
  cases event <;> rfl

theorem filter_leftUnanswered (chosen : Option Caller → Bool) (events : List Event) :
    (leftUnanswered events).filter (chosen ·.caller?) =
      leftUnanswered (events.filter (chosen ·.caller?)) := by
  induction events with
  | nil => rfl
  | cons event events ih =>
    rw [leftUnanswered_cons, List.filter_append, ih, List.filter_cons]
    cases event with
    | inbound asker request =>
      by_cases own : chosen (some asker) = true <;>
        simp [leftUnanswered, Event.caller?, Event.request?, Occurrence.caller?, own]
    | _ => split <;> rfl

/-! ## Effects that do not concern the caller -/

namespace RunStep

variable {caller : Caller} {before step : RunStep} {context : SessionContext} {now : Instant}

namespace PassesOver

variable (passes : before.PassesOver caller step)

include passes

/-- What does not touch the caller's requests, nor closes the run, passes them over. -/
theorem congr {after : RunStep} (queue : after.run.queue caller = step.run.queue caller)
    (status : after.run.status = step.run.status)
    (settled : after.settled caller = step.settled caller) : before.PassesOver caller after := by
  cases passes with
  | kept taken queue' settled' =>
    refine .kept (Eq.trans ?_ taken) (queue.trans queue') (settled.trans settled')
    simp only [Run.isOpen, status]
  | closed ended queue' settled' =>
    exact .closed (by rwa [Run.isOpen, status]) (queue.trans queue') (settled.trans settled')

theorem close {status : RunStatus} (ended : status ≠ .waiting ∧ status ≠ .running) :
    before.PassesOver caller (step.close status) := by
  have settled : (step.close status).settled caller =
      step.settled caller ++ leftUnanswered (step.run.queue caller) := by
    rw [RunStep.settled, RunStep.close, List.filter_append]
    exact congrArg _ (filter_leftUnanswered (· == some caller) step.run.inbox)
  refine .closed (by simp [RunStep.close, Run.isOpen, ended]) rfl (settled.trans ?_)
  cases passes with
  | kept _ queue' settled' => rw [queue', settled']
  | closed _ queue' settled' =>
    rw [queue', settled']
    exact List.append_nil _

theorem occur {occurrence : Occurrence} (foreign : occurrence.isOf caller = false) :
    before.PassesOver caller (step.occur occurrence) :=
  passes.congr rfl rfl (by simp [settled, RunStep.occur, foreign])

theorem enqueue {event : Event} (foreign : event.isOf caller = false) :
    before.PassesOver caller (step.enqueue event) :=
  passes.congr (by simp [Run.queue, RunStep.enqueue, foreign]) rfl rfl

theorem perform {effect : Effect} (foreign : effect.caller? ≠ some caller) :
    before.PassesOver caller (step.perform context now effect) := by
  cases effect with
  | submit | submitCancel =>
    exact passes.congr rfl rfl (by
      simp [settled, RunStep.perform, send, RunStep.occur, Occurrence.isOf, Occurrence.caller?])
  | scheduleProceed => exact passes.enqueue rfl
  | notify notification => exact passes.occur rfl
  | answer asker response => exact passes.occur (beq_eq_false_iff_ne.mpr foreign)
  | answerLater asker response => exact passes.congr rfl rfl rfl
  | crash asked =>
    have abandoned : before.PassesOver caller step.abandonSession := passes.congr rfl rfl rfl
    cases asked with
    | none => exact abandoned.close (by decide)
    | some asker =>
      obtain ⟨asker, request⟩ := asker
      have other : (Occurrence.unanswered asker request).isOf caller = false :=
        beq_eq_false_iff_ne.mpr foreign
      exact (abandoned.occur other).close (by decide)

theorem foldl_perform {effects : List Effect}
    (foreign : ∀ effect ∈ effects, effect.caller? ≠ some caller) :
    before.PassesOver caller (effects.foldl (RunStep.perform context now) step) := by
  induction effects generalizing step with
  | nil => exact passes
  | cons effect effects ih =>
    obtain ⟨first, rest⟩ := List.forall_mem_cons.mp foreign
    exact ih (passes.perform first) rest

theorem closeIfTerminal : before.PassesOver caller step.closeIfTerminal := by
  unfold RunStep.closeIfTerminal
  split
  · exact passes.close (by decide)
  · exact passes

/-- If none waited, none waits and none has been settled. -/
theorem of_queue_nil (none_waits : before.run.queue caller = []) :
    step.run.queue caller = [] ∧ step.settled caller = before.settled caller := by
  cases passes with
  | kept _ queue settled => exact ⟨queue.trans none_waits, settled⟩
  | closed _ queue settled =>
    rw [none_waits] at settled
    exact ⟨queue, settled.trans (List.append_nil _)⟩

end PassesOver

@[simp] theorem forget_close (status : RunStatus) :
    (step.close status).forget caller = (step.forget caller).close status := by
  have unanswered := filter_leftUnanswered (fun asker => !asker == some caller) step.run.inbox
  simp only [forget, close, List.filter_append]
  exact congrArg (RunStep.mk _ _ <| _ ++ ·) unanswered

variable (step) in
theorem forget_occur {occurrence : Occurrence} (foreign : occurrence.isOf caller = false) :
    (step.occur occurrence).forget caller = (step.forget caller).occur occurrence := by
  simp [forget, occur, foreign]

variable (step) in
theorem forget_enqueue {event : Event} (foreign : event.isOf caller = false) :
    (step.enqueue event).forget caller = (step.forget caller).enqueue event := by
  simp [forget, enqueue, Run.forget, foreign]

theorem forget_perform {effect : Effect} (foreign : effect.caller? ≠ some caller) :
    (step.perform context now effect).forget caller =
      (step.forget caller).perform context now effect := by
  cases effect with
  | submit | submitCancel =>
    simp [forget, perform, send, occur, Run.forget, Occurrence.isOf, Occurrence.caller?]
  | scheduleProceed => exact forget_enqueue step rfl
  | notify notification => exact forget_occur step rfl
  | answer asker response => exact forget_occur step (beq_eq_false_iff_ne.mpr foreign)
  | answerLater asker response => rfl
  | crash asked =>
    cases asked with
    | none => exact forget_close .crashed
    | some asker =>
      obtain ⟨asker, request⟩ := asker
      have other : (Occurrence.unanswered asker request).isOf caller = false :=
        beq_eq_false_iff_ne.mpr foreign
      simp only [perform, forget_close, forget_occur _ other]
      rfl

theorem forget_foldl_perform {effects : List Effect}
    (foreign : ∀ effect ∈ effects, effect.caller? ≠ some caller) :
    (effects.foldl (RunStep.perform context now) step).forget caller =
      effects.foldl (RunStep.perform context now) (step.forget caller) := by
  induction effects generalizing step with
  | nil => rfl
  | cons effect effects ih =>
    obtain ⟨first, rest⟩ := List.forall_mem_cons.mp foreign
    rw [List.foldl_cons, ih rest, forget_perform first, List.foldl_cons]

@[simp] theorem forget_closeIfTerminal :
    step.closeIfTerminal.forget caller = (step.forget caller).closeIfTerminal := by
  unfold closeIfTerminal
  rw [apply_ite (RunStep.forget caller), forget_close]
  rfl

end RunStep

/-! ## Steps that handle no request of the caller -/

theorem filter_eraseIdx_of_not {α : Type} {items : List α} {item : α} {place : Nat}
    {chosen : α → Bool} (found : items[place]? = some item) (foreign : ¬ chosen item = true) :
    (items.eraseIdx place).filter chosen = items.filter chosen := by
  induction items generalizing place with
  | nil => rfl
  | cons first items ih =>
    cases place with
    | zero =>
      obtain rfl := Option.some.inj found
      exact (List.filter_cons_of_neg foreign).symm
    | succ place =>
      rw [List.eraseIdx_cons_succ, List.filter_cons, List.filter_cons, ih found]

theorem filter_eraseIdx_of_single {α : Type} {items : List α} {item only : α} {place : Nat}
    {chosen : α → Bool} (single : items.filter chosen = [only])
    (found : items[place]? = some item) (own : chosen item = true) :
    item = only ∧ (items.eraseIdx place).filter chosen = [] := by
  induction items generalizing place with
  | nil => cases found
  | cons first items ih =>
    cases place with
    | zero =>
      obtain rfl := Option.some.inj found
      rw [List.filter_cons_of_pos own] at single
      exact List.cons.inj single
    | succ place =>
      cases first_own : chosen first with
      | true =>
        rw [List.filter_cons_of_pos first_own] at single
        have among : item ∈ items.filter chosen :=
          List.mem_filter.mpr ⟨List.mem_of_getElem? found, own⟩
        rw [(List.cons.inj single).2] at among
        cases among
      | false =>
        have foreign : ¬ chosen first = true := Bool.eq_false_iff.mp first_own
        rw [List.filter_cons_of_neg foreign] at single
        rw [List.eraseIdx_cons_succ, List.filter_cons_of_neg foreign]
        exact ih single found

namespace Run

/-- An action neither puts a request of the caller nor comes to one of its requests or answers. -/
structure Ignores (now : Instant) (run : Run) (action : RunAction) (caller : Caller) : Prop where
  unasked : action.caller? ≠ some caller
  unhandled : ∀ event inbox, run.next? now action = some (event, inbox) → event.isOf caller = false
  unread : ∀ place response, action = .finishRead place →
    run.reads[place]? ≠ some (caller, response)

variable {run : Run} {action : RunAction} {caller : Caller} {context : SessionContext}
  {now : Instant} {pool : InstanceIdPool} {turn : Turn}

theorem passesOver_settle {start : Run} (taken : start.isOpen = run.isOpen)
    (queue : start.queue caller = run.queue caller)
    (foreign : ∀ effect ∈ turn.effects, effect.caller? ≠ some caller) :
    RunStep.PassesOver caller ⟨run, pool, []⟩ (start.settle context now turn) :=
  have begins : RunStep.PassesOver caller ⟨run, pool, []⟩
      ⟨{ start with session := turn.session }, turn.pool, []⟩ := .kept taken queue rfl
  (begins.foldl_perform foreign).closeIfTerminal

theorem forget_settle (foreign : ∀ effect ∈ turn.effects, effect.caller? ≠ some caller) :
    (run.settle context now turn).forget caller = (run.forget caller).settle context now turn := by
  rw [settle, RunStep.forget_closeIfTerminal, RunStep.forget_foldl_perform foreign]
  rfl

theorem readsFor_settle (foreign : ∀ effect ∈ turn.effects, effect.caller? ≠ some caller) :
    (run.settle context now turn).run.readsFor caller = run.readsFor caller := by
  rw [readsFor, reads_settle, List.filter_append]
  refine (congrArg _ (List.filter_eq_nil_iff.mpr fun read mem => ?_)).trans (List.append_nil _)
  obtain ⟨effect, among, shown⟩ := List.mem_filterMap.mp mem
  cases effect with
  | answerLater asker response =>
    obtain rfl := Option.some.inj shown
    exact fun own => foreign _ among (congrArg some (eq_of_beq own))
  | _ => cases shown

/-- A start settles no request. -/
theorem foreign_start {session : Session} (fresh : session.state.isTerminal = false) :
    ∀ effect ∈ (Turn.start context now ⟨session, pool, []⟩).effects,
      effect.caller? ≠ some caller := by
  intro effect mem concerns
  rcases start_cases context now session pool with ⟨reason, _, failed⟩ | ⟨_, reaction⟩
  · rw [failed] at mem
    rw [caller?_fail fresh effect mem] at concerns
    cases concerns
  · cases reaction.caller? rfl effect mem caller concerns

/-- A session that handles no request of the caller settles none. -/
theorem foreign_reaction {session : Session} {event : Event}
    (live : session.state.isTerminal = false)
    (reaction : Reaction context now session pool event turn)
    (foreign : event.isOf caller = false) :
    ∀ effect ∈ turn.effects, effect.caller? ≠ some caller := by
  intro effect mem concerns
  have own := reaction.caller? live effect mem caller concerns
  simp [Event.isOf, own] at foreign

variable (caller pool run) in
/-- A step leaves the requests of the caller to wait, and it is the other step but for them. -/
structure Spares (step twin : RunStep) : Prop where
  passes : RunStep.PassesOver caller ⟨run, pool, []⟩ step
  reads : step.run.readsFor caller = run.readsFor caller
  forget : twin = step.forget caller

theorem Spares.idle : run.Spares caller pool ⟨run, pool, []⟩ ⟨run.forget caller, pool, []⟩ :=
  ⟨.kept rfl rfl rfl, rfl, rfl⟩

/-- The requests are spared if they are in the same one of two cases. -/
theorem Spares.ite {p q : Prop} [Decidable p] [Decidable q] {first other first' other' : RunStep}
    (same : p ↔ q) (yes : p → run.Spares caller pool first first')
    (no : ¬ p → run.Spares caller pool other other') :
    run.Spares caller pool (if p then first else other) (if q then first' else other') := by
  by_cases holds : p
  · rw [if_pos holds, if_pos (same.mp holds)]
    exact yes holds
  · rw [if_neg holds, if_neg fun also => holds (same.mpr also)]
    exact no holds

theorem spares_settle {start : Run} (taken : start.isOpen = run.isOpen)
    (queue : start.queue caller = run.queue caller)
    (reads : start.reads = run.reads)
    (foreign : ∀ effect ∈ turn.effects, effect.caller? ≠ some caller) :
    run.Spares caller pool (start.settle context now turn)
      ((start.forget caller).settle context now turn) where
  passes := passesOver_settle taken queue foreign
  reads := by
    rw [readsFor_settle foreign, readsFor, reads]
    rfl
  forget := (forget_settle foreign).symm

/-- What joins the inbox is not of the caller. -/
theorem spares_enqueue {after : Run} {event : Event} (status : after.status = run.status)
    (inbox : after.inbox = run.inbox) (reads : after.reads = run.reads)
    (foreign : event.isOf caller = false) :
    run.Spares caller pool (RunStep.enqueue ⟨after, pool, []⟩ event)
      (RunStep.enqueue ⟨after.forget caller, pool, []⟩ event) where
  passes :=
    have same : RunStep.PassesOver caller ⟨run, pool, []⟩ ⟨after, pool, []⟩ :=
      .kept (by simp only [isOpen, status]) (by simp only [queue, inbox]) rfl
    same.enqueue foreign
  reads := by simp only [readsFor, RunStep.enqueue, reads]
  forget := (RunStep.forget_enqueue ⟨after, pool, []⟩ foreign).symm

theorem spares_finishExchange (exchange : Exchange) (outcome : Except UpdateError Response) :
    run.Spares caller pool (run.finishExchange pool exchange outcome)
      ((run.forget caller).finishExchange pool exchange outcome) := by
  unfold finishExchange
  dsimp only
  split
  · exact ⟨.kept rfl rfl rfl, rfl, rfl⟩
  · exact .ite Iff.rfl (fun _ => spares_enqueue rfl rfl rfl rfl) fun _ =>
      ⟨.kept rfl rfl rfl, rfl, rfl⟩

/-- The oldest event of the inbox is still the oldest when the requests of the caller are gone. -/
theorem spares_handle (context : SessionContext) (sound : run.Sound)
    (ignores : run.Ignores now .handle caller) :
    run.Spares caller pool (run.act context now pool .handle)
      ((run.forget caller).act context now pool .handle) := by
  obtain ⟨session, status, inbox, exchanges, reads⟩ := run
  cases status with
  | running =>
    cases inbox with
    | nil => exact .idle
    | cons event inbox =>
      have foreign : event.isOf caller = false := ignores.unhandled event inbox rfl
      have live : session.state.isTerminal = false := sound.live rfl
      have handled : (forget caller ⟨session, .running, event :: inbox, exchanges, reads⟩) =
          ⟨session, .running, event :: inbox.filter fun event => !event.isOf caller, exchanges,
            reads⟩ := by
        simp [forget, foreign]
      rw [handled]
      have spared : Spares ⟨session, .running, event :: inbox, exchanges, reads⟩ caller pool
          (settle context now ⟨session, .running, inbox, exchanges, reads⟩
            (Turn.handle context now event ⟨session, pool, []⟩)) _ :=
        spares_settle rfl (by simp [queue, foreign]) rfl
          (foreign_reaction live (reaction_handle context now pool live event) foreign)
      exact spared
  | _ => exact .idle

theorem spares_finishRead (context : SessionContext) {place : Nat}
    (ignores : run.Ignores now (.finishRead place) caller) :
    run.Spares caller pool (run.act context now pool (.finishRead place))
      ((run.forget caller).act context now pool (.finishRead place)) := by
  cases found : run.reads[place]? with
  | none =>
    have idle : run.Spares caller pool _ _ := .idle
    simpa [act, forget, found] using idle
  | some read =>
    obtain ⟨asker, response⟩ := read
    have foreign : (asker == caller) = false := by
      refine beq_eq_false_iff_ne.mpr ?_
      rintro rfl
      exact ignores.unread place response rfl found
    have other : (Occurrence.answered asker response).isOf caller = false := foreign
    have left : (run.reads.eraseIdx place).filter (·.1 == caller) = run.readsFor caller :=
      filter_eraseIdx_of_not found (by simp [foreign])
    have act_eq (run : Run) (found : run.reads[place]? = some (asker, response)) :
        run.act context now pool (.finishRead place) = RunStep.occur
          ⟨{ run with reads := run.reads.eraseIdx place }, pool, []⟩
          (.answered asker response) := by
      simp [act, found]
    rw [act_eq run found, act_eq (run.forget caller) found]
    have same : RunStep.PassesOver caller ⟨run, pool, []⟩
        ⟨{ run with reads := run.reads.eraseIdx place }, pool, []⟩ := .kept rfl rfl rfl
    exact ⟨same.occur other, left, (RunStep.forget_occur
      ⟨{ run with reads := run.reads.eraseIdx place }, pool, []⟩ other).symm⟩

variable (context pool)

/-- A step that comes to nothing of the caller's spares its requests. -/
theorem spares_act (sound : run.Sound) (ignores : run.Ignores now action caller) :
    run.Spares caller pool (run.act context now pool action)
      ((run.forget caller).act context now pool action) := by
  cases action with
  | begin =>
    refine .ite Iff.rfl (fun waiting => ?_) fun _ => .idle
    have fresh : run.session.state.isTerminal = false := by
      rw [(sound.fresh waiting).1]
      rfl
    have spared : run.Spares caller pool (settle context now { run with status := .running }
        (Turn.start context now ⟨run.session, pool, []⟩)) _ :=
      spares_settle (by simp [isOpen, waiting]) rfl rfl (foreign_start fresh)
    exact spared
  | handle => exact spares_handle context sound ignores
  | expire =>
    refine .ite Iff.rfl (fun due => ?_) fun _ => .idle
    have live := sound.live due.1
    have spared : run.Spares caller pool (settle context now run
        (Turn.handle context now .outcomeTimeout ⟨run.session, pool, []⟩)) _ :=
      spares_settle rfl rfl rfl (foreign_reaction live (reaction_handle _ _ _ live _) rfl)
    exact spared
  | finish token outcome =>
    have same : (run.forget caller).exchange? token = run.exchange? token := rfl
    simp only [act, same]
    cases run.exchange? token with
    | none => exact .idle
    | some exchange => exact spares_finishExchange exchange outcome
  | timeOut token =>
    have same : (run.forget caller).exchange? token = run.exchange? token := rfl
    simp only [act, same]
    cases run.exchange? token with
    | none => exact .idle
    | some exchange =>
      exact .ite Iff.rfl (fun _ => spares_finishExchange exchange _) fun _ => .idle
  | inbound asker request =>
    have foreign : (Event.inbound asker request).isOf caller = false :=
      beq_eq_false_iff_ne.mpr ignores.unasked
    refine .ite Iff.rfl (fun _ => spares_enqueue rfl rfl rfl foreign) fun _ => ?_
    have other : (Occurrence.unanswered asker request).isOf caller = false := foreign
    exact ⟨.occur (.kept rfl rfl rfl) other, rfl, (RunStep.forget_occur ⟨run, pool, []⟩ other).symm⟩
  | cancel => exact .ite Iff.rfl (fun _ => spares_enqueue rfl rfl rfl rfl) fun _ => .idle
  | finishRead place => exact spares_finishRead context ignores

end Run

/-! ## The one request of a caller -/

namespace Run

variable {run : Run} {action : RunAction} {caller : Caller} {now : Instant}

theorem next?_mem_queue {event : Event} {inbox : List Event} (own : event.isOf caller = true)
    (next : run.next? now action = some (event, inbox)) :
    run.queue caller = event :: inbox.filter (·.isOf caller) := by
  obtain ⟨_, ⟨_, queue⟩ | ⟨_, _, rfl, _⟩⟩ := next?_eq_some.mp next
  · rw [Run.queue, queue, List.filter_cons_of_pos own]
  · cases own

theorem not_read_of_readsFor_nil (reads : run.readsFor caller = []) (place : Nat)
    (response : Response) : run.reads[place]? ≠ some (caller, response) := by
  intro found
  have waits : (caller, response) ∈ run.readsFor caller :=
    List.mem_filter.mpr ⟨List.mem_of_getElem? found, beq_self_eq_true caller⟩
  rw [reads] at waits
  cases waits

/-- What a run owes nothing is ignored by it. -/
theorem IsFree.ignores (free : run.IsFree caller) (unasked : action.caller? ≠ some caller) :
    run.Ignores now action caller where
  unasked := unasked
  unhandled := by
    intro event inbox next
    refine Bool.eq_false_iff.mpr fun own => ?_
    cases free.queue.symm.trans (next?_mem_queue own next)
  unread place response _ := not_read_of_readsFor_nil free.reads place response

/-- A request is all that a run owes a caller whom it owed nothing before. -/
theorem IsFree.queue_enqueue (free : run.IsFree caller) (pool : InstanceIdPool)
    (request : Request) :
    (RunStep.enqueue ⟨run, pool, []⟩ (.inbound caller request)).run.queue caller =
      [.inbound caller request] := by
  have empty : run.inbox.filter (·.isOf caller) = [] := free.queue
  simp [Run.queue, RunStep.enqueue, empty]

/-- A run that owes the caller nothing is not made to owe anything by others. -/
theorem IsFree.act {context : SessionContext} {pool : InstanceIdPool} (free : run.IsFree caller)
    (sound : run.Sound) (unasked : action.caller? ≠ some caller) :
    (run.act context now pool action).run.IsFree caller ∧
      (run.act context now pool action).settled caller = [] := by
  obtain ⟨passes, reads, _⟩ := spares_act context pool sound (free.ignores unasked)
  obtain ⟨queue, settled⟩ := passes.of_queue_nil free.queue
  exact ⟨⟨queue, reads.trans free.reads⟩, settled⟩

variable (now) in
/-- The only request that waits is handled, or nothing comes of it yet. -/
theorem handles_or_ignores {request : Request}
    (queue : run.queue caller = [.inbound caller request])
    (reads : run.readsFor caller = []) (unasked : action.caller? ≠ some caller) :
    (∃ inbox, run.next? now action = some (.inbound caller request, inbox) ∧
      inbox.filter (·.isOf caller) = []) ∨ run.Ignores now action caller := by
  by_cases handled : ∃ event inbox, run.next? now action = some (event, inbox) ∧
      event.isOf caller = true
  · obtain ⟨event, inbox, next, own⟩ := handled
    obtain ⟨rfl, alone⟩ := List.cons.inj (queue.symm.trans (next?_mem_queue own next))
    exact .inl ⟨inbox, next, alone.symm⟩
  · refine .inr ⟨unasked, fun event inbox next => ?_, fun place response _ => ?_⟩
    · exact Bool.eq_false_iff.mpr fun own => handled ⟨event, inbox, next, own⟩
    · exact not_read_of_readsFor_nil reads place response

variable (now) in
/-- The only answer that waits is given, or nothing comes of it yet. -/
theorem reads_or_ignores {response : Response} (queue : run.queue caller = [])
    (reads : run.readsFor caller = [(caller, response)]) (unasked : action.caller? ≠ some caller) :
    (∃ place, action = .finishRead place ∧ run.reads[place]? = some (caller, response) ∧
      (run.reads.eraseIdx place).filter (·.1 == caller) = []) ∨ run.Ignores now action caller := by
  by_cases read : ∃ place answer, action = .finishRead place ∧
      run.reads[place]? = some (caller, answer)
  · obtain ⟨place, answer, rfl, found⟩ := read
    obtain ⟨same, none_left⟩ := filter_eraseIdx_of_single reads found (beq_self_eq_true caller)
    exact .inl ⟨place, rfl, same ▸ found, none_left⟩
  · refine .inr ⟨unasked, fun event inbox next => ?_, fun place answer finishes found => ?_⟩
    · refine Bool.eq_false_iff.mpr fun own => ?_
      cases queue.symm.trans (next?_mem_queue own next)
    · exact read ⟨place, answer, finishes, found⟩

end Run

/-! ## Handling the one request of a caller -/

namespace Run

/-- What becomes of the only request of a caller when it is handled. -/
inductive Replies (context : SessionContext) (now : Instant) (run : Run) (caller : Caller)
    (request : Request) (step : RunStep) : Prop
  | answered {response : Response} (due : run.session.AnswersDue context request response)
      (goes_on : step.run.status = run.status)
      (settled : step.settled caller = [.answered caller response])
      (free : step.run.IsFree caller)
  | deferred {response : Response} (due : run.session.AnswersDue context request response)
      (goes_on : step.run.status = run.status)
      (settled : step.settled caller = []) (queue : step.run.queue caller = [])
      (reads : step.run.readsFor caller = [(caller, response)])
  | brokeDown (cause : run.session.BreaksOver context now request)
      (crashed : step.run.status = .crashed)
      (settled : step.settled caller = [.unanswered caller request])
      (free : step.run.IsFree caller)

/-- A report that ends a component is acknowledged. -/
theorem answersDue_of_endsComponent {session : Session} {context : SessionContext}
    {request : Request} (ends : session.endsComponent request = true) :
    session.AnswersDue context request (request.respond CompletionCode.success []) := by
  simp only [Session.endsComponent, Bool.and_eq_true, beq_iff_eq] at ends
  exact ⟨_, [], .served ends.1 ends.2 (.acknowledged (by decide)), rfl⟩

theorem Heard.replies {context : SessionContext} {moment : Moment} {run : Run}
    {inbox : List Event} {caller : Caller} {request : Request} {step : RunStep}
    (heard : run.Heard context moment inbox caller request step)
    (alone : inbox.filter (·.isOf caller) = []) (reads : run.readsFor caller = []) :
    run.Replies context moment.now caller request step := by
  cases heard with
  | answered judged =>
    refine .answered ⟨_, _, judged, rfl⟩ rfl ?_ ⟨alone, reads⟩
    simp [RunStep.settled]
  | deferred judged =>
    refine .deferred ⟨_, _, judged, rfl⟩ rfl rfl alone ?_
    simp only [readsFor] at reads
    simp [readsFor, List.filter_append, reads]
  | finished state ends =>
    refine .answered (answersDue_of_endsComponent ends) rfl ?_ ⟨?_, reads⟩
    · simp [RunStep.settled, Occurrence.isOf, Occurrence.caller?]
    · rw [queue, List.filter_append, alone]
      rfl
  | brokeDown cause =>
    have none_left : (leftUnanswered inbox).filter (·.isOf caller) = [] := by
      have left := filter_leftUnanswered (· == some caller) inbox
      exact left.trans (congrArg leftUnanswered alone)
    refine .brokeDown cause rfl ?_ ⟨rfl, reads⟩
    change List.filter _ (.unanswered caller request :: leftUnanswered inbox) = _
    rw [List.filter_cons_of_pos (Occurrence.isOf_unanswered caller request), none_left]

end Run

/-! ## The turn of a request -/

namespace Run

variable {run : Run} {caller : Caller} {context : SessionContext} {now : Instant}
  {pool : InstanceIdPool}

/-- How much a run does before it comes to the first request of the caller. -/
def ahead (run : Run) (caller : Caller) : Nat :=
  (if run.status = .waiting then 1 else 0) + run.inbox.findIdx (·.isOf caller)

theorem findIdx_lt_of_queue (waits : run.queue caller ≠ []) :
    run.inbox.findIdx (·.isOf caller) < run.inbox.length := by
  obtain ⟨event, mem⟩ := List.exists_mem_of_ne_nil _ waits
  obtain ⟨queued, own⟩ := List.mem_filter.mp mem
  exact List.findIdx_lt_length_of_exists ⟨event, queued, own⟩

/-- What a turn adds to the inbox does not come before a request that waits. -/
theorem ahead_settle {turn : Turn} (running : run.status = .running) (orderly : turn.IsOrderly)
    (waits : run.queue caller ≠ [])
    (taken : (run.settle context now turn).run.isOpen = true) :
    (run.settle context now turn).run.ahead caller = run.inbox.findIdx (·.isOf caller) := by
  obtain ⟨calm, live⟩ := calm_of_isOpen_settle running orderly taken
  obtain ⟨⟨_, status, inbox⟩, _⟩ := settle_continues context now run calm live
  rw [ahead, status, running, inbox, List.findIdx_append, if_pos (findIdx_lt_of_queue waits)]
  exact Nat.zero_add _

theorem orderly_start {session : Session} (live : session.state.isTerminal = false) :
    (Turn.start context now ⟨session, pool, []⟩).IsOrderly := by
  rcases start_cases context now session pool with ⟨reason, _, failed⟩ | ⟨_, reaction⟩
  · rw [failed]
    exact .inl (Turn.isCalm_fail live)
  · exact reaction.orderly rfl

variable (context now pool)

/-- Beginning brings a run closer to a request that waits, unless it is over then. -/
theorem begin_closer (sound : run.Sound) (waiting : run.status = .waiting)
    (waits : run.queue caller ≠ []) :
    (run.act context now pool .begin).run.isOpen = false ∨
      (run.act context now pool .begin).run.ahead caller < run.ahead caller := by
  have live : run.session.state.isTerminal = false := by
    rw [(sound.fresh waiting).1]
    rfl
  have began : run.act context now pool .begin = { run with status := .running }.settle context
      now (Turn.start context now ⟨run.session, pool, []⟩) := by
    unfold act
    exact if_pos waiting
  rw [began]
  refine (Bool.eq_false_or_eq_true _).symm.imp_right fun taken_after => ?_
  have started : ({ run with status := .running } : Run).status = .running := rfl
  rw [ahead_settle started (orderly_start live) waits taken_after, ahead, if_pos waiting]
  exact Nat.lt_add_of_pos_left Nat.one_pos

/-- So does handling another event. -/
theorem handle_closer (sound : run.Sound) (running : run.status = .running) {event : Event}
    {inbox : List Event} (queue : run.inbox = event :: inbox) (other : event.isOf caller = false)
    (waits : run.queue caller ≠ []) :
    (run.act context now pool .handle).run.isOpen = false ∨
      (run.act context now pool .handle).run.ahead caller < run.ahead caller := by
  have live := sound.live running
  have next : run.next? now .handle = some (event, inbox) :=
    next?_eq_some.mpr ⟨running, .inl ⟨rfl, queue⟩⟩
  have handled : run.act context now pool .handle = { run with inbox := inbox }.settle context
      now (Turn.handle context now event ⟨run.session, pool, []⟩) :=
    @meet_of_next? context ⟨now, pool, .handle⟩ run event inbox next
  have rest_waits : ({ run with inbox := inbox } : Run).queue caller ≠ [] := by
    rw [Run.queue, queue, List.filter_cons_of_neg (by simp [other])] at waits
    exact waits
  have still_running : ({ run with inbox := inbox } : Run).status = .running := running
  rw [handled]
  refine (Bool.eq_false_or_eq_true _).symm.imp_right fun taken_after => ?_
  rw [ahead_settle still_running ((reaction_handle context now pool live event).orderly live)
    rest_waits taken_after, ahead, queue, List.findIdx_cons, other]
  simp [running]

/-- A run that has a request of the caller to handle does so next, or it is over next, or it comes
closer to the request. -/
theorem comes_closer (sound : run.Sound) (taken : run.isOpen = true)
    (waits : run.queue caller ≠ []) :
    ∃ action ∈ [RunAction.begin, .handle],
      (∃ event inbox, run.next? now action = some (event, inbox) ∧ event.isOf caller = true) ∨
        (run.act context now pool action).run.isOpen = false ∨
        (run.act context now pool action).run.ahead caller < run.ahead caller := by
  have status : run.status = .waiting ∨ run.status = .running := by simpa [isOpen] using taken
  rcases status with waiting | running
  · exact ⟨.begin, by simp, .inr (begin_closer context now pool sound waiting waits)⟩
  · obtain ⟨event, inbox, queue⟩ : ∃ event inbox, run.inbox = event :: inbox := by
      refine List.exists_cons_of_ne_nil fun empty => waits ?_
      rw [Run.queue, empty]
      rfl
    refine ⟨.handle, by simp, ?_⟩
    cases own : event.isOf caller with
    | true =>
      exact .inl ⟨event, inbox, next?_eq_some.mpr ⟨running, .inl ⟨rfl, queue⟩⟩, own⟩
    | false => exact .inr (handle_closer context now pool sound running queue own waits)

end Run

end FirmwareAgent
