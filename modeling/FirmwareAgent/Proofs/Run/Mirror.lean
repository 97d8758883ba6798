import FirmwareAgent.Proofs.Pool.Mirror
import FirmwareAgent.Proofs.Run.Lending
import FirmwareAgent.Proofs.Session.Lockstep
import Mathlib.Data.List.Forall2

/-!
# Two runs that differ in the generations of their leases

A run sees of the pool no more than what the pool has lent of the run's endpoint. So two runs that
are the same but for the leases they have stay so at every action, if their pools are alike at the
endpoint; and what others see of them is the same but for the leases.

* `Turn.lockstep_mirrors`: the turn of a session.
* `Run.matches_act`: the action of a run.
* `Run.Lending.spares`: what an action does to the pool is nothing to any other endpoint.
-/

namespace FirmwareAgent

namespace LeasePairing

/-- All pairs of the one are pairs of the other. -/
def Within (paired paired' : LeasePairing) : Prop :=
  ∀ lease lease', paired lease lease' → paired' lease lease'

/-- Something holds of the pairing once some pairs are added. -/
def Grows (paired : LeasePairing) (holds : LeasePairing → Prop) : Prop :=
  ∃ paired', paired.Within paired' ∧ holds paired'

theorem within_refl (paired : LeasePairing) : paired.Within paired :=
  fun _ _ => id

theorem within_add (paired : LeasePairing) (lease lease' : Lease) :
    paired.Within (paired.add lease lease') :=
  fun _ _ => .inl

theorem Grows.imp {paired : LeasePairing} {holds holds' : LeasePairing → Prop}
    (grows : paired.Grows holds) (implies : ∀ paired', holds paired' → holds' paired') :
    paired.Grows holds' :=
  let ⟨paired', within, now_holds⟩ := grows
  ⟨paired', within, implies paired' now_holds⟩

end LeasePairing

variable {paired paired' : LeasePairing} {count : Nat} {endpoint : EndpointId}
  {context : SessionContext} {now : Instant}

/-! ## Sessions and what they do -/

/-- Two pending commands are the same but for their leases. -/
structure PendingCommand.Matches (paired : LeasePairing) (pending other : PendingCommand) :
    Prop where
  facts : other.facts = pending.facts
  lease : paired pending.lease other.lease

/-- Two sessions are the same but for the leases of their pending commands. -/
structure Session.Matches (paired : LeasePairing) (session other : Session) : Prop where
  rest : other = { session with pending := other.pending }
  slot : Option.Rel (PendingCommand.Matches paired) session.pending other.pending

/-- Two effects are the same but for the leases of the requests they put on their way. -/
inductive Effect.Matches (paired : LeasePairing) : Effect → Effect → Prop
  | same {effect : Effect} (isLocal : effect.IsLocal) : Matches paired effect effect
  | submit {lease lease' : Lease} (token : Nat) (command : Command) (request : Request)
      (pair : paired lease lease') :
      Matches paired (.submit token command lease request) (.submit token command lease' request)
  | submitCancel {lease lease' : Lease} (request : Request) (pair : paired lease lease') :
      Matches paired (.submitCancel lease request) (.submitCancel lease' request)

/-- Two turns are the same but for the leases, and their pools are alike at the endpoint. -/
structure Turn.Matches (paired : LeasePairing) (count : Nat) (endpoint : EndpointId)
    (turn other : Turn) : Prop where
  home : turn.session.endpoint = endpoint
  session : turn.session.Matches paired other.session
  pool : turn.pool.Mirrors paired count endpoint other.pool
  effects : List.Forall₂ (Effect.Matches paired) turn.effects other.effects

namespace Session.Matches

variable {session other : Session} (matched : session.Matches paired other)

include matched

theorem alike : session.Alike other := by
  refine ⟨matched.rest, ?_⟩
  have slot := matched.slot
  generalize session.pending = pending, other.pending = pending' at slot ⊢
  cases slot with
  | none => rfl
  | some same => exact congrArg some same.facts

theorem outcomeDeadline : other.outcomeDeadline = session.outcomeDeadline := by
  rw [matched.rest]

theorem mono (within : paired.Within paired') : session.Matches paired' other := by
  refine ⟨matched.rest, ?_⟩
  have slot := matched.slot
  generalize session.pending = pending, other.pending = pending' at slot ⊢
  cases slot with
  | none => exact .none
  | some same => exact .some ⟨same.facts, within _ _ same.lease⟩

theorem change (change : Session → Session) (internal : Session.IsInternal change) :
    (change session).Matches paired (change other) := by
  have kept := congrArg Session.pending (internal.pending session session.pending)
  have other_eq : change other = { change session with pending := other.pending } := by
    rw [← internal.pending, ← matched.rest]
  refine ⟨by rw [other_eq], ?_⟩
  rw [other_eq, kept]
  exact matched.slot

end Session.Matches

theorem Effect.Matches.mono {effect effect' : Effect} (matched : effect.Matches paired effect')
    (within : paired.Within paired') : effect.Matches paired' effect' := by
  cases matched with
  | same isLocal => exact .same isLocal
  | submit token command request pair => exact .submit token command request (within _ _ pair)
  | submitCancel request pair => exact .submitCancel request (within _ _ pair)

namespace Turn

variable {turn other : Turn}

namespace Matches

theorem emit {effect effect' : Effect} (matched : turn.Matches paired count endpoint other)
    (same : effect.Matches paired effect') :
    (turn.emit effect).Matches paired count endpoint (other.emit effect') :=
  ⟨matched.home, matched.session, matched.pool,
    List.rel_append matched.effects (.cons same .nil)⟩

variable (matched : turn.Matches paired count endpoint other)

include matched

theorem change (change : Session → Session) (internal : Session.IsInternal change) :
    Matches paired count endpoint { turn with session := change turn.session }
      { other with session := change other.session } := by
  refine ⟨?_, matched.session.change change internal, matched.pool, matched.effects⟩
  rw [← matched.home]
  exact congrArg DeviceRecord.endpoint (internal.record turn.session)

theorem enter (state : SessionState) :
    (turn.enter state).Matches paired count endpoint (other.enter state) :=
  matched.change (fun session => { session with state := state, outcomeDeadline := none })
    ⟨fun _ _ => rfl, fun _ => rfl⟩

theorem later : turn.Matches paired (count + 1) endpoint other :=
  ⟨matched.home, matched.session, matched.pool.later, matched.effects⟩

theorem dropPending :
    turn.dropPending.Matches paired count endpoint other.dropPending := by
  obtain ⟨session, pool, effects⟩ := turn
  obtain ⟨⟨record, state, slot, nextToken, deadline, mode⟩, pool', effects'⟩ := other
  obtain ⟨own, ⟨rest, same⟩, mirrors, told⟩ := matched
  obtain ⟨rfl, rfl, -, rfl, rfl, rfl⟩ := Session.mk.inj rest
  cases pending : session.pending with
  | none =>
    rw [pending] at same
    cases same
    simp only [Turn.dropPending, pending]
    exact ⟨own, ⟨rfl, by rw [pending]; exact .none⟩, mirrors, told⟩
  | some command =>
    rw [pending] at same
    obtain @⟨_, command', same⟩ := same
    simp only [Turn.dropPending, pending]
    exact ⟨own, ⟨rfl, .none⟩, mirrors.drop same.lease, told⟩

/-- Both acquire an id, and the leases stand for each other from then on, or neither can. -/
theorem acquire (few : count < UInt64.size) (now : Instant) :
    (∃ error, turn.pool.acquire turn.session.endpoint now = .error error ∧
        other.pool.acquire other.session.endpoint now = .error error) ∨
      ∃ lease lent lease' lent',
        turn.pool.acquire turn.session.endpoint now = .ok (lease, lent) ∧
        other.pool.acquire other.session.endpoint now = .ok (lease', lent') ∧
        lease'.id = lease.id ∧
        Matches (paired.add lease lease') (count + 1) endpoint { turn with pool := lent }
          { other with pool := lent' } := by
  rw [matched.session.alike.endpoint, matched.home]
  rcases matched.pool.acquire few now with
    refused | ⟨lease, lent, lease', lent', own, others, id, mirrors⟩
  · exact .inl refused
  · have within := paired.within_add lease lease'
    exact .inr ⟨lease, lent, lease', lent', own, others, id, matched.home,
      matched.session.mono within, mirrors,
      matched.effects.imp fun _ _ same => same.mono within⟩

theorem sendCancel (few : count < UInt64.size) (now : Instant) :
    paired.Grows fun paired => (turn.sendCancel now).Matches paired (count + 1) endpoint
      (other.sendCancel now) := by
  unfold Turn.sendCancel
  rcases matched.acquire few now with
    ⟨error, own, others⟩ | ⟨lease, lent, lease', lent', own, others, id, lent_matched⟩
  · rw [own, others]
    exact ⟨paired, paired.within_refl, matched.later⟩
  · rw [own, others]
    dsimp only
    rw [id]
    exact ⟨_, paired.within_add lease lease',
      lent_matched.emit (.submitCancel _ (.inr ⟨rfl, rfl⟩))⟩

theorem fail (few : count < UInt64.size) (context : SessionContext) (now : Instant)
    (reason : UpdateError) :
    paired.Grows fun paired => (turn.fail context now reason).Matches paired (count + 1) endpoint
      (other.fail context now reason) := by
  have dropped := matched.dropPending
  have left : paired.Grows fun paired =>
      (if turn.dropPending.session.inUpdateMode && context.config.cancelOnFailure then
        turn.dropPending.sendCancel now else turn.dropPending).Matches paired (count + 1) endpoint
      (if other.dropPending.session.inUpdateMode && context.config.cancelOnFailure then
        other.dropPending.sendCancel now else other.dropPending) := by
    rw [show other.dropPending.session.inUpdateMode = turn.dropPending.session.inUpdateMode by
      rw [dropped.session.rest]]
    split
    · exact dropped.sendCancel few now
    · exact ⟨paired, paired.within_refl, dropped.later⟩
  unfold Turn.fail
  rw [matched.session.alike.state]
  split
  · exact ⟨paired, paired.within_refl, matched.later⟩
  · refine left.imp fun paired' given_up => ?_
    dsimp only
    rw [given_up.session.alike.endpoint]
    exact (given_up.enter _).emit (.same trivial)

theorem submit (few : count < UInt64.size) (context : SessionContext) (now : Instant)
    (draft : Draft) :
    paired.Grows fun paired => (turn.submit context now draft).Matches paired (count + 1) endpoint
      (other.submit context now draft) := by
  unfold Turn.submit
  rcases matched.acquire few now with
    ⟨error, own, others⟩ | ⟨lease, lent, lease', lent', own, others, id, lent_matched⟩
  · rw [own, others]
    exact matched.fail few context now error
  · rw [own, others]
    dsimp only
    have dropped := lent_matched.dropPending
    have pair : paired.add lease lease' lease lease' := .inr ⟨rfl, rfl⟩
    refine ⟨_, paired.within_add lease lease', ?_⟩
    rw [id, show (Turn.dropPending { other with pool := lent' }).session.nextToken =
      (Turn.dropPending { turn with pool := lent }).session.nextToken by
        rw [dropped.session.rest]]
    refine Matches.emit ⟨dropped.home, ⟨?_, .some ⟨rfl, pair⟩⟩, dropped.pool, dropped.effects⟩
      (.submit _ _ _ pair)
    rw [dropped.session.rest]

end Matches

/-- Two sessions whose pools are alike at their endpoint go in lockstep. -/
theorem lockstep_mirrors (few : count < UInt64.size) (paired : LeasePairing)
    (endpoint : EndpointId) (context : SessionContext) (now : Instant) :
    Lockstep context context now (Matches paired count endpoint) fun turn other =>
      paired.Grows fun paired => turn.Matches paired (count + 1) endpoint other where
  alike matched := matched.session.alike
  weaken matched := ⟨paired, paired.within_refl, matched.later⟩
  change change internal matched := matched.change change internal
  emit _ isLocal matched := matched.emit (.same isLocal)
  dropPending matched := matched.dropPending
  fail reason matched := matched.fail few context now reason
  submit draft matched := matched.submit few context now draft

end Turn

/-! ## Runs -/

/-- Two exchanges are the same but for their leases. -/
structure Exchange.Matches (paired : LeasePairing) (exchange other : Exchange) : Prop where
  rest : other = { exchange with lease := other.lease }
  lease : paired exchange.lease other.lease

/-- Others see the same but for the leases. -/
inductive Occurrence.Matches (paired : LeasePairing) : Occurrence → Occurrence → Prop
  | sent {exchange other : Exchange} (same : exchange.Matches paired other) :
      Matches paired (.sent exchange) (.sent other)
  | notified (notification : Notification) :
      Matches paired (.notified notification) (.notified notification)
  | answered (caller : Caller) (response : Response) :
      Matches paired (.answered caller response) (.answered caller response)
  | unanswered (caller : Caller) (request : Request) :
      Matches paired (.unanswered caller request) (.unanswered caller request)

/-- Two runs are the same but for the leases they have. -/
structure Run.Matches (paired : LeasePairing) (run other : Run) : Prop where
  session : run.session.Matches paired other.session
  status : other.status = run.status
  inbox : other.inbox = run.inbox
  exchanges : List.Forall₂ (Exchange.Matches paired) run.exchanges other.exchanges
  reads : other.reads = run.reads

/-- Two steps come to the same but for the leases, and their pools are alike at the endpoint. -/
structure RunStep.Matches (paired : LeasePairing) (count : Nat) (endpoint : EndpointId)
    (step other : RunStep) : Prop where
  home : step.run.endpoint = endpoint
  run : step.run.Matches paired other.run
  pool : step.pool.Mirrors paired count endpoint other.pool
  occurrences : List.Forall₂ (Occurrence.Matches paired) step.occurrences other.occurrences

namespace Exchange.Matches

variable {exchange other : Exchange} (matched : exchange.Matches paired other)

include matched

theorem mono (within : paired.Within paired') : exchange.Matches paired' other :=
  ⟨matched.rest, within _ _ matched.lease⟩

theorem token : other.token = exchange.token := by rw [matched.rest]

theorem command : other.command = exchange.command := by rw [matched.rest]

theorem isOverdue : other.isOverdue now = exchange.isOverdue now := by
  rw [matched.rest]
  rfl

end Exchange.Matches

theorem Run.Matches.mono {run other : Run} (matched : run.Matches paired other)
    (within : paired.Within paired') : run.Matches paired' other :=
  ⟨matched.session.mono within, matched.status, matched.inbox,
    matched.exchanges.imp fun _ _ same => same.mono within, matched.reads⟩

theorem Run.Matches.isOpen {run other : Run} (matched : run.Matches paired other) :
    other.isOpen = run.isOpen := by
  simp only [Run.isOpen, matched.status]

namespace RunStep

variable {step other : RunStep}

namespace Matches

variable (matched : step.Matches paired count endpoint other)

include matched

theorem occur {occurrence occurrence' : Occurrence}
    (same : occurrence.Matches paired occurrence') :
    (step.occur occurrence).Matches paired count endpoint (other.occur occurrence') :=
  ⟨matched.home, matched.run, matched.pool, List.rel_append matched.occurrences (.cons same .nil)⟩

theorem enqueue (event : Event) :
    (step.enqueue event).Matches paired count endpoint (other.enqueue event) :=
  ⟨matched.home, ⟨matched.run.session, matched.run.status,
    congrArg (· ++ [event]) matched.run.inbox, matched.run.exchanges, matched.run.reads⟩,
    matched.pool, matched.occurrences⟩

theorem send {exchange exchange' : Exchange} (same : exchange.Matches paired exchange') :
    (step.send exchange).Matches paired count endpoint (other.send exchange') := by
  have underWay : Matches paired count endpoint
      { step with run := { step.run with exchanges := step.run.exchanges ++ [exchange] } }
      { other with run := { other.run with exchanges := other.run.exchanges ++ [exchange'] } } :=
    ⟨matched.home, ⟨matched.run.session, matched.run.status, matched.run.inbox,
      List.rel_append matched.run.exchanges (.cons same .nil), matched.run.reads⟩,
      matched.pool, matched.occurrences⟩
  exact underWay.occur (.sent same)

theorem close (status : RunStatus) :
    (step.close status).Matches paired count endpoint (other.close status) := by
  refine ⟨matched.home, ⟨matched.run.session, rfl, rfl, matched.run.exchanges, matched.run.reads⟩,
    matched.pool, List.rel_append matched.occurrences ?_⟩
  rw [matched.run.inbox, List.forall₂_map_left_iff, List.forall₂_map_right_iff, List.forall₂_same]
  exact fun _ _ => .unanswered _ _

theorem abandonSession :
    step.abandonSession.Matches paired count endpoint other.abandonSession := by
  have turn : Turn.Matches paired count endpoint ⟨step.run.session, step.pool, []⟩
      ⟨other.run.session, other.pool, []⟩ := ⟨matched.home, matched.run.session, matched.pool, .nil⟩
  have dropped := turn.dropPending
  exact ⟨dropped.home, ⟨dropped.session.change (fun session =>
      { session with outcomeDeadline := none }) ⟨fun _ _ => rfl, fun _ => rfl⟩,
    matched.run.status, matched.run.inbox, matched.run.exchanges, matched.run.reads⟩,
    dropped.pool, matched.occurrences⟩

theorem perform {effect effect' : Effect} (same : effect.Matches paired effect') :
    (step.perform context now effect).Matches paired count endpoint
      (other.perform context now effect') := by
  cases same with
  | submit token command request pair => exact matched.send ⟨rfl, pair⟩
  | submitCancel request pair => exact matched.send ⟨rfl, pair⟩
  | same isLocal =>
    cases effect with
    | submit | submitCancel => cases isLocal
    | scheduleProceed => exact matched.enqueue .proceed
    | notify notification => exact matched.occur (.notified notification)
    | answer caller response => exact matched.occur (.answered caller response)
    | answerLater caller response =>
      exact ⟨matched.home, ⟨matched.run.session, matched.run.status, matched.run.inbox,
        matched.run.exchanges, congrArg (· ++ [(caller, response)]) matched.run.reads⟩,
        matched.pool, matched.occurrences⟩
    | crash asked =>
      cases asked with
      | none => exact matched.abandonSession.close .crashed
      | some asked => exact (matched.abandonSession.occur (.unanswered _ _)).close .crashed

omit matched in
theorem foldl {effects effects' : List Effect}
    (same : List.Forall₂ (Effect.Matches paired) effects effects') {step other : RunStep}
    (matched : step.Matches paired count endpoint other) :
    (effects.foldl (RunStep.perform context now) step).Matches paired count endpoint
      (effects'.foldl (RunStep.perform context now) other) := by
  induction same generalizing step other with
  | nil => exact matched
  | cons first _ ih => exact ih (matched.perform first)

theorem closeIfTerminal :
    step.closeIfTerminal.Matches paired count endpoint other.closeIfTerminal := by
  unfold RunStep.closeIfTerminal
  rw [matched.run.status, matched.run.session.alike.state]
  split
  · exact matched.close .ended
  · exact matched

theorem later : step.Matches paired (count + 1) endpoint other :=
  ⟨matched.home, matched.run, matched.pool.later, matched.occurrences⟩

end Matches

/-- Two steps come to the same but for the leases, old ones and at most one new one. -/
def StaysMatched (paired : LeasePairing) (count : Nat) (endpoint : EndpointId)
    (step other : RunStep) : Prop :=
  paired.Grows fun paired => step.Matches paired (count + 1) endpoint other

theorem Matches.stays (matched : step.Matches paired count endpoint other) :
    step.StaysMatched paired count endpoint other :=
  ⟨paired, paired.within_refl, matched.later⟩

end RunStep

namespace Run

variable {run other : Run} {pool pool' : InstanceIdPool}

theorem matches_take {change change' : Turn → Turn}
    (turned : ∀ {turn turn' : Turn}, turn.Matches paired count endpoint turn' →
      paired.Grows fun paired =>
        (change turn).Matches paired (count + 1) endpoint (change' turn'))
    (matched : RunStep.Matches paired count endpoint ⟨run, pool, []⟩ ⟨other, pool', []⟩) :
    (run.take context now pool change).StaysMatched paired count endpoint
      (other.take context now pool' change') := by
  have turn : Turn.Matches paired count endpoint ⟨run.session, pool, []⟩
      ⟨other.session, pool', []⟩ := ⟨matched.home, matched.run.session, matched.pool, .nil⟩
  obtain ⟨paired', within, now_matched⟩ := turned turn
  have before := matched.run.mono within
  refine ⟨paired', within, RunStep.Matches.closeIfTerminal (.foldl now_matched.effects ?_)⟩
  exact ⟨now_matched.home, ⟨now_matched.session, before.status, before.inbox, before.exchanges,
    before.reads⟩, now_matched.pool, .nil⟩

/-- Exchanges with the same token stand for each other. -/
theorem Matches.exchange? (matched : run.Matches paired other) (token : Option Nat) :
    Option.Rel (Exchange.Matches paired) (run.exchange? token) (other.exchange? token) := by
  unfold Run.exchange?
  have exchanges := matched.exchanges
  generalize run.exchanges = own, other.exchanges = others at exchanges
  induction exchanges with
  | nil => exact .none
  | cons first _ ih =>
    simp only [List.find?_cons, first.token]
    split
    · exact .some first
    · exact ih

theorem matches_finishExchange {exchange exchange' : Exchange}
    (matched : RunStep.Matches paired count endpoint ⟨run, pool, []⟩ ⟨other, pool', []⟩)
    (same : exchange.Matches paired exchange') (outcome : Except UpdateError Response) :
    (run.finishExchange pool exchange outcome).Matches paired count endpoint
      (other.finishExchange pool' exchange' outcome) := by
  have left : List.Forall₂ (Exchange.Matches paired)
      (run.exchanges.filter (·.token != exchange.token))
      (other.exchanges.filter (·.token != exchange.token)) := by
    refine List.rel_filter (fun _ _ related => ?_) matched.run.exchanges
    dsimp only
    rw [related.token]
  have without : RunStep.Matches paired count endpoint
      ⟨{ run with exchanges := run.exchanges.filter (·.token != exchange.token) }, pool, []⟩
      ⟨{ other with exchanges := other.exchanges.filter (·.token != exchange.token) }, pool', []⟩ :=
    ⟨matched.home, ⟨matched.run.session, matched.run.status, matched.run.inbox, left,
      matched.run.reads⟩, matched.pool, .nil⟩
  unfold finishExchange
  rw [same.token]
  generalize exchange.token = token at without ⊢
  cases token with
  | none => exact ⟨without.home, without.run, without.pool.drop same.lease, .nil⟩
  | some token =>
    have taken := without.run.isOpen
    dsimp only at taken ⊢
    rw [taken]
    split
    · exact without.enqueue _
    · exact without

/-- Two runs that are the same but for their leases do the same at the same action. -/
theorem matches_act (few : count < UInt64.size)
    (matched : RunStep.Matches paired count endpoint ⟨run, pool, []⟩ ⟨other, pool', []⟩)
    (action : RunAction) :
    (run.act context now pool action).StaysMatched paired count endpoint
      (other.act context now pool' action) := by
  have lockstep := Turn.lockstep_mirrors few paired endpoint context now
  have same_context : context.Alike context := ⟨rfl, rfl, rfl⟩
  have status : other.status = run.status := matched.run.status
  have reads : other.reads = run.reads := matched.run.reads
  unfold act
  cases action with
  | begin =>
    dsimp only
    rw [status]
    split
    · refine matches_take (fun related => lockstep.start same_context related) ?_
      exact ⟨matched.home, ⟨matched.run.session, rfl, matched.run.inbox, matched.run.exchanges,
        reads⟩, matched.pool, .nil⟩
    · exact matched.stays
  | handle =>
    dsimp only
    rw [status, show other.inbox = run.inbox from matched.run.inbox]
    cases running : run.status with
    | waiting | ended | crashed => exact matched.stays
    | running =>
      cases run.inbox with
      | nil => exact matched.stays
      | cons event inbox =>
        refine matches_take (fun related =>
          lockstep.handle_of_package_eq same_context related rfl event) ?_
        exact ⟨matched.home, ⟨matched.run.session, rfl, rfl, matched.run.exchanges, reads⟩,
          matched.pool, .nil⟩
  | expire =>
    dsimp only
    rw [status, show other.session.outcomeDeadline = run.session.outcomeDeadline from
      matched.run.session.outcomeDeadline]
    split
    · exact matches_take (fun related =>
        lockstep.handle_of_package_eq same_context related rfl _) matched
    · exact matched.stays
  | finish token outcome =>
    have found := matched.run.exchange? token
    dsimp only at found ⊢
    generalize run.exchange? token = exchange, other.exchange? token = exchange' at found ⊢
    cases found with
    | none => exact matched.stays
    | some same => exact (matches_finishExchange matched same outcome).stays
  | timeOut token =>
    have found := matched.run.exchange? token
    dsimp only at found ⊢
    generalize run.exchange? token = exchange, other.exchange? token = exchange' at found ⊢
    cases found with
    | none => exact matched.stays
    | some same =>
      dsimp only
      rw [same.command, same.isOverdue]
      split
      · exact (matches_finishExchange matched same _).stays
      · exact matched.stays
  | inbound caller request =>
    dsimp only
    rw [show other.isOpen = run.isOpen from matched.run.isOpen]
    split
    · exact (matched.enqueue _).stays
    · exact (matched.occur (.unanswered _ _)).stays
  | cancel =>
    dsimp only
    rw [show other.isOpen = run.isOpen from matched.run.isOpen]
    split
    · exact (matched.enqueue _).stays
    · exact matched.stays
  | finishRead place =>
    dsimp only
    rw [reads]
    split
    · have left : RunStep.Matches paired count endpoint
          ⟨{ run with reads := run.reads.eraseIdx place }, pool, []⟩
          ⟨{ other with reads := run.reads.eraseIdx place }, pool', []⟩ :=
        ⟨matched.home, ⟨matched.run.session, status, matched.run.inbox, matched.run.exchanges,
          rfl⟩, matched.pool, .nil⟩
      exact (left.occur (.answered _ _)).stays
    · exact matched.stays

/-! ## What a run does to other endpoints -/

/-- The leases of a run are of its endpoint. -/
def IsAtHome (run : Run) : Prop :=
  ∀ lease ∈ run.leases, lease.endpoint = run.endpoint

variable {step : RunStep}

theorem mem_leases {lease : Lease} : lease ∈ run.leases ↔
    (∃ pending, run.session.pending = some pending ∧ pending.lease = lease) ∨
      ∃ exchange ∈ run.exchanges, exchange.token = none ∧ exchange.lease = lease := by
  simp [leases, withdrawals, and_assoc]

theorem Lending.isAtHome (lending : run.Lending now pool step) (atHome : run.IsAtHome)
    (endpoint : step.run.endpoint = run.endpoint) : step.run.IsAtHome := by
  intro lease mem
  rw [endpoint]
  rw [mem_leases] at mem
  cases lending with
  | kept _ pending exchanges =>
    rw [pending, exchanges, ← mem_leases] at mem
    exact atHome lease mem
  | surrendered _ pending exchanges =>
    rw [pending, exchanges] at mem
    exact atHome lease (mem_leases.mpr (mem.imp_left fun ⟨_, slot, _⟩ => nomatch slot))
  | lent exchange acquired exchanges _ _ owner =>
    have new := InstanceIdPool.endpoint_of_acquire acquired
    rcases mem with ⟨pending, slot, rfl⟩ | ⟨other, found, token, rfl⟩
    · rcases owner with ⟨_, free⟩ | ⟨_, _, _, taken⟩
      · simp [free] at slot
      · obtain rfl := Option.some.inj (taken.symm.trans slot)
        exact new
    · rw [exchanges] at found
      rcases List.mem_append.mp found with old | added
      · exact atHome _ (mem_leases.mpr (.inr ⟨other, old, token, rfl⟩))
      · obtain rfl := List.mem_singleton.mp added
        exact new
  | ended _ _ run_eq exchanges =>
    rw [run_eq.1, exchanges] at mem
    refine atHome lease (mem_leases.mpr (mem.imp_right ?_))
    rintro ⟨other, left, withdrawn⟩
    exact ⟨other, (List.mem_filter.mp left).1, withdrawn⟩

variable (pool) in
theorem spares_surrender (atHome : run.IsAtHome) (elsewhere : run.endpoint ≠ endpoint) :
    pool.Spares endpoint (run.session.surrender pool) := by
  unfold Session.surrender
  cases slot : run.session.pending with
  | none => exact .refl endpoint pool
  | some pending =>
    refine InstanceIdPool.spares_drop ?_
    rwa [atHome pending.lease (mem_leases.mpr (.inl ⟨pending, slot, rfl⟩))]

theorem Lending.spares (lending : run.Lending now pool step) (atHome : run.IsAtHome)
    (elsewhere : run.endpoint ≠ endpoint) : pool.Spares endpoint step.pool := by
  have surrendered := spares_surrender pool atHome elsewhere
  cases lending with
  | kept pool_eq =>
    rw [pool_eq]
    exact .refl endpoint pool
  | surrendered pool_eq =>
    rw [pool_eq]
    exact surrendered
  | lent exchange acquired =>
    exact surrendered.trans (InstanceIdPool.spares_acquire elsewhere acquired)
  | @ended exchange found pool_eq =>
    rw [pool_eq]
    split
    · rename_i token
      refine InstanceIdPool.spares_drop ?_
      rwa [atHome _ (mem_leases.mpr (.inr ⟨exchange, found, token, rfl⟩))]
    · exact .refl endpoint pool

end Run

end FirmwareAgent
