import FirmwareAgent.Proofs.Run.Driver
import FirmwareAgent.Proofs.Session.Lockstep
import Mathlib.Data.List.Induction

/-!
# Runs that do not send CancelUpdate

An agent may be configured not to tell a target by CancelUpdate that it gives an update up. Beside a
run of an agent that does so, the run of one that does not goes the same way, whatever becomes of
CancelUpdate.

* `Turn.lockstep_silent`: the sessions go in lockstep, up to the last effect.
* `Run.twin_act`: the runs are the same after the same action, but for the exchange of CancelUpdate.
* `twin_through`: so they are at all times.
-/

namespace FirmwareAgent

/-- The context of an agent that is not configured to send CancelUpdate. -/
def SessionContext.silent (context : SessionContext) : SessionContext :=
  { context with config := { context.config with cancelOnFailure := false } }

/-! ## Sessions -/

def Effect.isCancel : Effect → Bool
  | .submitCancel .. => true
  | _ => false

theorem SessionContext.alike_silent (context : SessionContext) : context.Alike context.silent :=
  ⟨rfl, rfl, rfl⟩

namespace Turn

/-- Two turns are the same, and CancelUpdate has not been sent. -/
def SameSoFar (turn other : Turn) : Prop :=
  other = turn ∧ ∀ effect ∈ turn.effects, effect.isCancel = false

/-- The second turn is the first one without its CancelUpdate. -/
structure Twin (turn other : Turn) : Prop where
  session : other.session = turn.session
  effects : other.effects = turn.effects.filter (!·.isCancel)

variable {context : SessionContext} {now : Instant} {turn other : Turn}

theorem SameSoFar.twin (same : turn.SameSoFar other) : turn.Twin other := by
  obtain ⟨rfl, quiet⟩ := same
  refine ⟨rfl, (List.filter_eq_self.mpr fun effect mem => ?_).symm⟩
  rw [quiet effect mem]
  rfl

theorem SameSoFar.emit {effect : Effect} (quiet : effect.isCancel = false)
    (same : turn.SameSoFar other) : (turn.emit effect).SameSoFar (other.emit effect) := by
  obtain ⟨rfl, quiet_before⟩ := same
  refine ⟨rfl, fun earlier mem => ?_⟩
  rcases List.mem_append.mp mem with old | new
  · exact quiet_before earlier old
  · rw [List.mem_singleton.mp new]
    exact quiet

/-- Giving up comes to the same, but for CancelUpdate. -/
theorem SameSoFar.fail (reason : UpdateError) (same : turn.SameSoFar other) :
    (turn.fail context now reason).Twin (other.fail context.silent now reason) := by
  obtain ⟨rfl, quiet⟩ := same
  have unsent : other.effects.filter (!·.isCancel) = other.effects :=
    List.filter_eq_self.mpr fun effect mem => by rw [quiet effect mem]; rfl
  cases live : other.session.state.isTerminal with
  | true =>
    rw [Turn.fail, Turn.fail, if_pos live, if_pos live]
    exact ⟨rfl, unsent.symm⟩
  | false =>
    have silent : other.fail context.silent now reason =
        ⟨other.session.givenUp reason, other.session.surrender other.pool,
          other.effects ++ [.notify (.completed other.session.endpoint false)]⟩ := by
      rcases fail_cases context.silent now reason other live with
        silent | ⟨_, _, _, asked, _⟩
      · exact silent
      · cases asked
    rw [silent]
    rcases fail_cases context now reason other live with
      quiet_fail | ⟨lease, lent, _, _, _, told⟩
    · rw [quiet_fail]
      exact ⟨rfl, by rw [List.filter_append, unsent]; rfl⟩
    · rw [told]
      exact ⟨rfl, by rw [List.filter_append, unsent]; rfl⟩

/-- A session that is to send CancelUpdate and one that is not go in lockstep. -/
theorem lockstep_silent (context : SessionContext) (now : Instant) :
    Lockstep context context.silent now SameSoFar Twin where
  alike := by
    rintro turn other ⟨rfl, _⟩
    exact .refl _
  weaken := SameSoFar.twin
  change := by
    rintro turn other change - ⟨rfl, quiet⟩
    exact ⟨rfl, quiet⟩
  emit := by
    rintro turn other effect isLocal same
    cases effect with
    | submit | submitCancel => cases isLocal
    | _ => exact same.emit rfl
  dropPending := by
    rintro turn other ⟨rfl, quiet⟩
    refine ⟨rfl, ?_⟩
    rw [dropPending_eq]
    exact quiet
  fail := SameSoFar.fail
  submit := by
    rintro turn other draft ⟨rfl, quiet⟩
    have same : other.SameSoFar other := ⟨rfl, quiet⟩
    unfold Turn.submit
    split
    · exact same.fail _
    · simp only [dropPending_eq]
      exact SameSoFar.twin (SameSoFar.emit rfl ⟨rfl, quiet⟩)

end Turn

/-! ## Runs -/

/-- A run without the exchange of its CancelUpdate. -/
def Run.withoutCancel (run : Run) : Run :=
  { run with exchanges := run.exchanges.filter (·.token.isSome) }

/-- The second step is the first one without CancelUpdate. The pool may be another one. -/
structure RunStep.Twin (step twin : RunStep) : Prop where
  run : twin.run = step.run.withoutCancel
  notifications : twin.notifications = step.notifications

namespace RunStep

variable {context : SessionContext} {now : Instant} {step twin : RunStep}

theorem Twin.perform {effect : Effect} (quiet : effect.isCancel = false) (same : step.Twin twin) :
    (step.perform context now effect).Twin (twin.perform context.silent now effect) := by
  obtain ⟨run, pool, occurrences⟩ := twin
  obtain ⟨rfl, told⟩ := same
  refine ⟨?_, ?_⟩
  · cases effect with
    | submitCancel => cases quiet
    | crash asked =>
      cases asked <;>
        simp [RunStep.perform, close, abandonSession, occur, Turn.dropPending_eq,
          Run.withoutCancel]
    | submit =>
      simp [RunStep.perform, send, occur, Run.withoutCancel, List.filter_append,
        SessionContext.silent]
    | _ => simp [RunStep.perform, occur, enqueue, Run.withoutCancel]
  · have blind : ∀ caller request,
        Occurrence.notification? (.unanswered caller request) = none := fun _ _ => rfl
    unfold RunStep.notifications at told ⊢
    rw [filterMap_perform blind, filterMap_perform blind]
    exact congrArg₂ _ told rfl

theorem Twin.performCancel {effect : Effect} (cancels : effect.isCancel = true)
    (same : step.Twin twin) : (step.perform context now effect).Twin twin := by
  obtain ⟨run_eq, told⟩ := same
  cases effect with
  | submitCancel lease request =>
    refine ⟨?_, ?_⟩
    · rw [run_eq]
      simp [RunStep.perform, send, occur, Run.withoutCancel, List.filter_append]
    · rw [told]
      simp [RunStep.perform, send, occur, RunStep.notifications, Occurrence.notification?]
  | _ => cases cancels

theorem Twin.foldl (effects : List Effect) {step twin : RunStep} (same : step.Twin twin) :
    (effects.foldl (RunStep.perform context now) step).Twin
      ((effects.filter (!·.isCancel)).foldl (RunStep.perform context.silent now) twin) := by
  induction effects generalizing step twin with
  | nil => exact same
  | cons effect effects ih =>
    cases cancels : effect.isCancel with
    | false => simpa [List.filter_cons, cancels] using ih (same.perform cancels)
    | true => simpa [List.filter_cons, cancels] using ih (same.performCancel cancels)

/-- Both are twins if they are twins in the same one of two cases. -/
theorem Twin.ite {p q : Prop} [Decidable p] [Decidable q] {first other first' other' : RunStep}
    (same : p ↔ q) (yes : p → first.Twin first') (no : ¬ p → other.Twin other') :
    (if p then first else other).Twin (if q then first' else other') := by
  by_cases holds : p
  · rw [if_pos holds, if_pos (same.mp holds)]
    exact yes holds
  · rw [if_neg holds, if_neg fun also => holds (same.mpr also)]
    exact no holds

theorem Twin.closeIfTerminal (same : step.Twin twin) :
    step.closeIfTerminal.Twin twin.closeIfTerminal := by
  obtain ⟨run, pool, occurrences⟩ := twin
  obtain ⟨rfl, told⟩ := same
  refine .ite Iff.rfl (fun _ => ⟨rfl, ?_⟩) fun _ => ⟨rfl, told⟩
  unfold RunStep.notifications at told ⊢
  rw [filterMap_close fun _ _ => rfl, filterMap_close fun _ _ => rfl, told]

end RunStep

namespace Run

variable {context : SessionContext} {now : Instant} {pool : InstanceIdPool} {run : Run}

variable (context now pool run) in
/-- A turn that both sessions take in lockstep. -/
theorem twin_take {change change' : Turn → Turn}
    (turned : ∀ {turn twin : Turn}, turn.SameSoFar twin → (change turn).Twin (change' twin)) :
    (run.take context now pool change).Twin
      (run.withoutCancel.take context.silent now pool change') := by
  obtain ⟨session, effects⟩ := @turned ⟨run.session, pool, []⟩ ⟨run.session, pool, []⟩ ⟨rfl, nofun⟩
  unfold take
  dsimp only
  refine RunStep.Twin.closeIfTerminal ?_
  rw [show run.withoutCancel.session = run.session from rfl, effects]
  refine RunStep.Twin.foldl _ ⟨?_, rfl⟩
  rw [session]
  rfl

theorem exchange?_withoutCancel (token : Nat) :
    run.withoutCancel.exchange? (some token) = run.exchange? (some token) := by
  unfold exchange? withoutCancel
  rw [List.find?_filter]
  congr
  funext exchange
  cases same : exchange.token == some token with
  | false => simp
  | true => simp [eq_of_beq same]

theorem twin_finishExchange {exchange : Exchange} {token : Nat}
    (token_eq : exchange.token = some token) (outcome : Except UpdateError Response) :
    (run.finishExchange pool exchange outcome).Twin
      (run.withoutCancel.finishExchange pool exchange outcome) := by
  have commute : (run.exchanges.filter (·.token.isSome)).filter (·.token != exchange.token) =
      (run.exchanges.filter (·.token != exchange.token)).filter (·.token.isSome) := by
    simp only [List.filter_filter, Bool.and_comm]
  unfold finishExchange
  simp only [token_eq, withoutCancel, isOpen] at commute ⊢
  rw [commute]
  split <;> exact ⟨rfl, rfl⟩

/-- The end of the exchange of CancelUpdate is nothing to a run that has none. -/
theorem twin_finishCancel {exchange : Exchange} (token_eq : exchange.token = none)
    (outcome : Except UpdateError Response) :
    (run.finishExchange pool exchange outcome).Twin ⟨run.withoutCancel, pool, []⟩ := by
  unfold finishExchange
  rw [token_eq]
  refine ⟨?_, rfl⟩
  simp only [withoutCancel, List.filter_filter, Run.mk.injEq, true_and, and_true]
  congr
  funext other
  cases other.token <;> simp

theorem exchange?_none_withoutCancel : run.withoutCancel.exchange? none = none := by
  unfold exchange? withoutCancel
  rw [List.find?_filter, List.find?_eq_none]
  rintro exchange -
  cases exchange.token <;> simp

variable (context now pool run) in
/-- A run that is to send CancelUpdate and one that is not do the same at the same action, but for
CancelUpdate. -/
theorem twin_act (action : RunAction) :
    (run.act context now pool action).Twin
      (run.withoutCancel.act context.silent now pool action) := by
  have lockstep := Turn.lockstep_silent context now
  have same := context.alike_silent
  have idle : RunStep.Twin ⟨run, pool, []⟩ ⟨run.withoutCancel, pool, []⟩ := ⟨rfl, rfl⟩
  cases action with
  | begin =>
    have started := twin_take context now pool { run with status := .running }
      fun related => lockstep.start same related
    exact .ite Iff.rfl (fun _ => started) fun _ => idle
  | handle =>
    obtain ⟨session, status, inbox, exchanges, reads⟩ := run
    cases status with
    | running =>
      cases inbox with
      | nil => exact idle
      | cons event inbox =>
        exact twin_take context now pool _ fun related =>
          lockstep.handle_of_package_eq same related rfl event
    | waiting | ended | crashed => exact idle
  | expire =>
    exact .ite Iff.rfl
      (fun _ => twin_take context now pool _ fun related =>
        lockstep.handle_of_package_eq same related rfl _)
      fun _ => idle
  | finish token outcome =>
    unfold act
    dsimp only
    cases token with
    | none =>
      rw [exchange?_none_withoutCancel]
      cases found : run.exchange? none with
      | none => exact idle
      | some exchange => exact twin_finishCancel (token_of_exchange? found) outcome
    | some token =>
      rw [exchange?_withoutCancel]
      cases found : run.exchange? (some token) with
      | none => exact idle
      | some exchange => exact twin_finishExchange (token_of_exchange? found) outcome
  | timeOut token =>
    unfold act
    dsimp only
    cases token with
    | none =>
      rw [exchange?_none_withoutCancel]
      cases found : run.exchange? none with
      | none => exact idle
      | some exchange =>
        dsimp only
        split
        · exact twin_finishCancel (token_of_exchange? found) _
        · exact idle
    | some token =>
      rw [exchange?_withoutCancel]
      cases found : run.exchange? (some token) with
      | none => exact idle
      | some exchange =>
        dsimp only
        split
        · exact twin_finishExchange (token_of_exchange? found) _
        · exact idle
  | inbound caller request =>
    exact .ite Iff.rfl (fun _ => ⟨rfl, rfl⟩) fun _ => ⟨rfl, rfl⟩
  | cancel =>
    exact .ite Iff.rfl (fun _ => ⟨rfl, rfl⟩) fun _ => idle
  | finishRead place =>
    unfold act
    dsimp only
    rw [show run.withoutCancel.reads = run.reads from rfl]
    cases run.reads[place]? with
    | none => exact idle
    | some read => exact ⟨rfl, rfl⟩

end Run

/-- A run and one that is not configured to send CancelUpdate are the same at all times, but for
the exchange of CancelUpdate. -/
theorem twin_through (context : SessionContext) (record : DeviceRecord) (moments : List Moment) :
    (History.through context.silent record moments).run =
        (History.through context record moments).run.withoutCancel ∧
      (History.through context.silent record moments).notifications =
        (History.through context record moments).notifications := by
  induction moments using List.reverseRecOn with
  | nil => exact ⟨rfl, rfl⟩
  | append_singleton moments moment ih =>
    obtain ⟨run_eq, told⟩ := ih
    have twin := Run.twin_act context moment.now moment.pool
      (History.through context record moments).run moment.action
    rw [History.through_concat, History.through_concat, History.run_extend, History.run_extend,
      History.notifications_extend, History.notifications_extend, told, run_eq]
    exact ⟨twin.run, congrArg _ twin.notifications⟩

end FirmwareAgent
