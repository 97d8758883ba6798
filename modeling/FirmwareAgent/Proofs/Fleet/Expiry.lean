import FirmwareAgent.Proofs.Fleet.HeldIds
import FirmwareAgent.Proofs.Pool.Allocation
import FirmwareAgent.Proofs.Run.Tenancy

/-!
# Ids in use do not expire

An id that has been held for longer than the expiry may be taken from its holder. The runs of any
number of agents share a pool and a clock, with one another and with anyone else. As long as nobody
is configured to wait for an outcome for longer than the expiry, and time does not pass while
something is due, the ids that runs use are too young to be taken.

* `AgentRun.InTime` is the invariant: the id of a request is as old as the wait for its outcome.
  `InTime.act` and `InTime.elapse` are its steps.
* `sparesIds_through`: the result. With the standard configuration an id is exactly as old as the
  expiry when the wait for its outcome ends, so it matters that an id is taken only after that.
-/

namespace FirmwareAgent

/-! ## Runs that share a pool -/

/-- A run with all that its agent has configured. -/
structure AgentRun where
  context : SessionContext
  run : Run

/-- Runs of any number of agents that share a clock and a pool of instance ids. -/
structure Cohort where
  now : Instant := 0
  pool : InstanceIdPool
  members : List AgentRun := []

/-- What can happen to a cohort. -/
inductive CohortAction
  /-- An agent adds a run for a device. -/
  | join (context : SessionContext) (record : DeviceRecord)
  /-- Something happens to the run at a place. -/
  | act (place : Nat) (action : RunAction)
  /-- Someone other than a session acquires an id. -/
  | acquire (endpoint : EndpointId)
  /-- Someone's lease ends. -/
  | drop (lease : Lease)
  /-- Someone releases an id by hand, whoever holds it. -/
  | release (endpoint : EndpointId) (id : InstanceId)
  | elapse (nanos : Nat)

def AgentRun.act (now : Instant) (pool : InstanceIdPool) (member : AgentRun) (action : RunAction) :
    RunStep :=
  member.run.act member.context now pool action

/-- The time after which the agent stops waiting for the outcome of a request. -/
def AgentRun.timeout (member : AgentRun) : Duration :=
  member.context.config.commandTimeout

/-- Whether a run has nothing to handle. -/
def Run.isIdle (run : Run) : Bool :=
  run.status != .running || run.inbox.isEmpty

/-- Whether none of the waits for an outcome ends before an instant. -/
def Run.waitsUntil (later : Instant) (run : Run) : Bool :=
  run.exchanges.all (·.deadline.all (later ≤ ·))

namespace Cohort

/-- The cohort after an action. -/
def apply (cohort : Cohort) : CohortAction → Cohort
  | .join context record =>
    { cohort with members := cohort.members ++ [⟨context, { session := { record := record } }⟩] }
  | .act place action =>
    match cohort.members[place]? with
    | none => cohort
    | some member =>
      let step := member.act cohort.now cohort.pool action
      { cohort with
        pool := step.pool
        members := cohort.members.set place { member with run := step.run } }
  | .acquire endpoint =>
    match cohort.pool.acquire endpoint cohort.now with
    | .ok (_, pool) => { cohort with pool := pool }
    | .error _ => cohort
  | .drop lease => { cohort with pool := cohort.pool.drop lease }
  | .release endpoint id => { cohort with pool := cohort.pool.release endpoint id }
  | .elapse nanos => { cohort with now := cohort.now + nanos }

/-- The cohort after a list of actions. -/
def through (cohort : Cohort) (actions : List CohortAction) : Cohort :=
  actions.foldl apply cohort

/-- The ids that an action takes from their holders. A run acquires an id for each request that it
sends, once its pending command has given its own back. -/
def reclaimed (cohort : Cohort) : CohortAction → List (EndpointId × InstanceId)
  | .act place action =>
    match cohort.members[place]? with
    | none => []
    | some member =>
      ((member.act cohort.now cohort.pool action).sent.map (·.lease.key)).filter fun key =>
        (member.run.session.surrender cohort.pool).isHeld key.1 key.2
  | .acquire endpoint =>
    match cohort.pool.acquire endpoint cohort.now with
    | .ok (lease, _) => [lease.key].filter fun key => cohort.pool.isHeld key.1 key.2
    | .error _ => []
  | .join _ _ | .drop _ | .release _ _ | .elapse _ => []

/-- Whether an action does not let time pass while a run has something to handle, nor beyond the end
of a wait or of the clock. -/
def permits (cohort : Cohort) : CohortAction → Bool
  | .elapse nanos =>
    nanos == 0 ||
      cohort.members.all fun member =>
        cohort.now + nanos < member.context.clockEnd && member.run.isIdle &&
          member.run.waitsUntil (cohort.now + nanos)
  | _ => true

/-- Whether all actions are punctual in this way. -/
def isPunctual (cohort : Cohort) : List CohortAction → Bool
  | [] => true
  | action :: actions => cohort.permits action && (cohort.apply action).isPunctual actions

/-- What holds of the ids that the runs use, at any time. -/
structure SparesIds (cohort : Cohort) : Prop where
  /-- Whoever is recorded for the id of a pending command or of a CancelUpdate under way has held it
  no longer than the agent waits for an outcome. -/
  young : ∀ member ∈ cohort.members, ∀ lease ∈ member.run.leases, ∀ holder,
    cohort.pool.holder? lease.endpoint lease.id = some holder →
    cohort.now - holder.acquiredAt ≤ member.timeout.nanos
  /-- That never exceeds the expiry. -/
  unexpired : ∀ member ∈ cohort.members, member.timeout.nanos ≤ cohort.pool.expiry.nanos
  /-- Whatever happens next, none of these ids is taken from its holder. -/
  spared : ∀ action, ∀ member ∈ cohort.members, ∀ lease ∈ member.run.leases,
    lease.key ∉ cohort.reclaimed action

end Cohort

/-! ## Records of a pool -/

namespace InstanceIdPool

/-- Every holder is one from before, or it has acquired its id now. -/
structure Renews (now : Instant) (pool later : InstanceIdPool) : Prop where
  expiry : later.expiry = pool.expiry
  holder : ∀ (key : EndpointId × InstanceId) holder, later.holder? key.1 key.2 = some holder →
    pool.holder? key.1 key.2 = some holder ∨ holder.acquiredAt = now

variable {pool lent later : InstanceIdPool} {endpoint : EndpointId} {now : Instant} {lease : Lease}
  {holder : Holder}

theorem Renews.refl (now : Instant) (pool : InstanceIdPool) : pool.Renews now pool :=
  ⟨rfl, fun _ _ => .inl⟩

theorem Renews.trans (renews : pool.Renews now lent) (again : lent.Renews now later) :
    pool.Renews now later := by
  refine ⟨again.expiry.trans renews.expiry, fun key holder held => ?_⟩
  rcases again.holder key holder held with before | new
  · exact renews.holder key holder before
  · exact .inr new

theorem renews_release (now : Instant) (pool : InstanceIdPool) (endpoint : EndpointId)
    (id : InstanceId) : pool.Renews now (pool.release endpoint id) := by
  refine ⟨rfl, fun key holder held => .inl ?_⟩
  rw [holder?_release] at held
  split at held
  · cases held
  · exact held

theorem renews_drop (now : Instant) (pool : InstanceIdPool) (lease : Lease) :
    pool.Renews now (pool.drop lease) := by
  unfold drop
  split
  · exact renews_release now pool lease.endpoint lease.id
  · exact .refl now pool

theorem renews_acquire (acquired : pool.acquire endpoint now = .ok (lease, lent)) :
    pool.Renews now lent := by
  obtain ⟨id, _, rfl⟩ := eq_hold_of_acquire acquired
  refine ⟨rfl, fun key holder held => ?_⟩
  rw [holder?_hold] at held
  split at held
  · cases held
    exact .inr rfl
  · exact .inl held

/-- An acquisition takes an id from its holder only after the expiry. -/
theorem expired_of_acquire (acquired : pool.acquire endpoint now = .ok (lease, lent))
    (held : pool.holder? lease.endpoint lease.id = some holder) :
    pool.expiry.nanos < now - holder.acquiredAt := by
  unfold acquire at acquired
  split at acquired
  · rename_i id found
    cases acquired
    have free : pool.holder? endpoint id = none := (lowest_of_lowestFree? found).1
    rw [show pool.holder? endpoint id = some holder from held] at free
    cases free
  · split at acquired
    · cases acquired
    · rename_i id oldest found
      split at acquired
      · rename_i expired
        cases acquired
        have recorded := (isOldest_of_oldest? found).held
        rw [show pool.holder? endpoint id = some holder from held] at recorded
        rwa [Option.some.inj recorded]
      · cases acquired

end InstanceIdPool

/-! ## Leases of a wait -/

/-- The wait for the outcome of a request began at an instant and has not lasted longer than the
timeout, and nobody has held the request's id for longer than that. -/
structure Lease.IsYoung (pool : InstanceIdPool) (now : Instant) (timeout : Duration)
    (start : Instant) (lease : Lease) : Prop where
  begun : start ≤ now
  lasts : now ≤ start + timeout.nanos
  since : ∀ holder, pool.holder? lease.endpoint lease.id = some holder → start ≤ holder.acquiredAt

section

variable {pool later : InstanceIdPool} {now : Instant} {timeout : Duration} {start : Instant}
  {lease : Lease}

theorem Lease.IsYoung.renews (young : lease.IsYoung pool now timeout start)
    (renews : pool.Renews now later) : lease.IsYoung later now timeout start where
  begun := young.begun
  lasts := young.lasts
  since holder held := by
    rcases renews.holder lease.key holder held with before | new
    · exact young.since holder before
    · rw [new]
      exact young.begun

theorem Lease.IsYoung.age {holder : Holder} (young : lease.IsYoung pool now timeout start)
    (held : pool.holder? lease.endpoint lease.id = some holder) :
    now - holder.acquiredAt ≤ timeout.nanos := by
  have since : start + timeout.nanos ≤ holder.acquiredAt + timeout.nanos :=
    Nat.add_le_add_right (young.since holder held) timeout.nanos
  exact Nat.sub_le_iff_le_add'.mpr (Nat.le_trans young.lasts since)

theorem Lease.IsYoung.elapse {nanos : Nat} (young : lease.IsYoung pool now timeout start)
    (lasts : now + nanos ≤ start + timeout.nanos) :
    lease.IsYoung pool (now + nanos) timeout start :=
  ⟨Nat.le_add_right_of_le young.begun, lasts, young.since⟩

theorem Lease.isYoung_acquire {lent : InstanceIdPool} {endpoint : EndpointId}
    (acquired : pool.acquire endpoint now = .ok (lease, lent)) (timeout : Duration) :
    lease.IsYoung lent now timeout now where
  begun := Nat.le_refl now
  lasts := Nat.le_add_right now timeout.nanos
  since holder held := by
    obtain ⟨id, rfl, rfl⟩ := InstanceIdPool.eq_hold_of_acquire acquired
    rw [InstanceIdPool.holder?_hold id (endpoint, id), if_pos rfl] at held
    cases held
    exact Nat.le_refl now

/-- A wait that has not ended has not lasted longer than the timeout, even if the clock cannot show
its end. -/
theorem le_of_after? {instant clockEnd : Instant} (shown : instant < clockEnd)
    (waits : (start.after? clockEnd timeout).all (instant ≤ ·) = true) :
    instant ≤ start + timeout.nanos := by
  unfold Instant.after? at waits
  split at waits
  · simpa using waits
  · rename_i unshown
    exact Nat.le_trans (Nat.le_of_lt shown) (Nat.not_lt.mp unshown)

end

/-! ## What a run does to the records -/

namespace Run

variable {context : SessionContext} {now : Instant} {pool : InstanceIdPool} {run : Run}
  {step : RunStep} {action : RunAction} {exchange : Exchange}

theorem renews_surrender (now : Instant) (pool : InstanceIdPool) (session : Session) :
    pool.Renews now (session.surrender pool) := by
  unfold Session.surrender
  cases session.pending with
  | none => exact .refl now pool
  | some pending => exact InstanceIdPool.renews_drop now pool pending.lease

theorem Lending.renews (lending : run.Lending now pool step) : pool.Renews now step.pool := by
  cases lending with
  | kept pool_eq =>
    rw [pool_eq]
    exact .refl now pool
  | surrendered pool_eq =>
    rw [pool_eq]
    exact renews_surrender now pool run.session
  | lent exchange acquired =>
    exact (renews_surrender now pool run.session).trans (InstanceIdPool.renews_acquire acquired)
  | @ended exchange found pool_eq =>
    rw [pool_eq]
    split
    · exact InstanceIdPool.renews_drop now pool exchange.lease
    · exact .refl now pool

/-- A request goes out with an id that has been acquired for it. -/
theorem acquire_of_sent (sound : run.Sound)
    (sent : exchange ∈ (run.act context now pool action).sent) :
    (run.session.surrender pool).acquire run.endpoint now =
      .ok (exchange.lease, (run.act context now pool action).pool) := by
  have unsent (fewer : (run.act context now pool action).run.exchanges.length ≤
      run.exchanges.length) : False := by
    rw [sent_eq_nil sound fewer] at sent
    cases sent
  have lending : run.Lending now pool (run.act context now pool action) := lending_act sound
  cases lending with
  | kept _ _ exchanges | surrendered _ _ exchanges =>
    exact (unsent (Nat.le_of_eq (congrArg _ exchanges))).elim
  | lent started acquired _ only =>
    rw [only, List.mem_singleton] at sent
    rwa [sent]
  | ended _ _ _ exchanges => exact (unsent (exchanges ▸ List.length_filter_le _ _)).elim

/-- The wait for the outcome of a request begins when the request goes out. -/
theorem deadline_of_sent (sound : run.Sound)
    (sent : exchange ∈ (run.act context now pool action).sent) :
    exchange.deadline = now.after? context.clockEnd context.config.commandTimeout := by
  rcases rests_or_goes context now pool run action sound with rests | ⟨session, turn, goes⟩
  · rw [rests.sent] at sent
    cases sent
  · rw [goes.sent] at sent
    obtain ⟨effect, _, puts⟩ := List.mem_filterMap.mp sent
    cases effect <;> cases puts <;> rfl

/-- A run that is over does not start again. -/
theorem isOpen_of_act (sound : run.Sound)
    (taken : (run.act context now pool action).run.isOpen = true) : run.isOpen = true := by
  rcases rests_or_goes context now pool run action sound with rests | ⟨session, turn, goes⟩
  · rwa [isOpen, rests.status] at taken
  · exact goes.taken

/-- The outcome of a pending command that is not in the inbox is still to come. -/
theorem Sound.exists_exchange {pending : PendingCommand} (sound : run.Sound)
    (slot : run.session.pending = some pending) (idle : run.isIdle = true) :
    ∃ exchange ∈ run.exchanges, exchange.lease = pending.lease ∧ run.keepsId exchange = true := by
  cases sound with
  | waiting status fresh =>
    rw [fresh] at slot
    cases slot
  | stopped closed free =>
    rw [free] at slot
    cases slot
  | running status inRange driven =>
    have empty : run.inbox = [] := by simpa [isIdle, status] using idle
    cases driven with
    | due own later free | withTarget state free =>
      rw [free] at slot
      cases slot
    | @underWay command own_slot own untimed steps flight carried =>
      obtain rfl : command = pending := Option.some.inj (own_slot.symm.trans slot)
      rw [Run.flight, empty, List.filterMap_nil, List.map_nil, List.append_nil] at flight
      obtain ⟨exchange, only, _⟩ := List.map_eq_singleton_iff.mp flight
      have found : exchange ∈ run.exchanges := only ▸ List.mem_singleton_self exchange
      exact ⟨exchange, found, (carried exchange found).2, by simp [keepsId, isOpen, status]⟩

end Run

/-! ## The invariant -/

/-- What holds of a run at all times. -/
structure AgentRun.InTime (pool : InstanceIdPool) (now : Instant) (member : AgentRun) : Prop where
  sound : member.run.Sound
  /-- The wait for an outcome ends the timeout after its beginning. -/
  exchanges : ∀ exchange ∈ member.run.exchanges, member.run.keepsId exchange = true →
    ∃ start, exchange.lease.IsYoung pool now member.timeout start ∧
      exchange.deadline = start.after? member.context.clockEnd member.timeout
  /-- A pending command has its id for no longer than that, even if the wait has just ended. -/
  pending : ∀ pending, member.run.session.pending = some pending →
    ∃ start, pending.lease.IsYoung pool now member.timeout start

namespace AgentRun

variable {pool later : InstanceIdPool} {now : Instant} {member : AgentRun}

theorem InTime.renews (inTime : member.InTime pool now) (renews : pool.Renews now later) :
    member.InTime later now where
  sound := inTime.sound
  exchanges exchange found keeps := by
    obtain ⟨start, young, deadline⟩ := inTime.exchanges exchange found keeps
    exact ⟨start, young.renews renews, deadline⟩
  pending pending slot := by
    obtain ⟨start, young⟩ := inTime.pending pending slot
    exact ⟨start, young.renews renews⟩

theorem inTime_join (pool : InstanceIdPool) (now : Instant) (context : SessionContext)
    (record : DeviceRecord) :
    AgentRun.InTime pool now ⟨context, { session := { record := record } }⟩ where
  sound := .waiting rfl rfl rfl rfl
  exchanges := nofun
  pending := nofun

/-- Whatever happens to a run, the wait for an outcome and the use of its id begin together. -/
theorem InTime.act (inTime : member.InTime pool now) (action : RunAction) :
    AgentRun.InTime (member.act now pool action).pool now
      { member with run := (member.act now pool action).run } := by
  have sound := inTime.sound
  have lending : member.run.Lending now pool (member.act now pool action) := Run.lending_act sound
  have kept := inTime.renews lending.renews
  refine ⟨sound.act, fun exchange found keeps => ?_, fun pending slot => ?_⟩
  · rcases Run.mem_exchanges_act sound found with old | sent
    · have kept_before : member.run.keepsId exchange = true := by
        rcases Bool.or_eq_true_iff.mp keeps with token | taken
        · exact Bool.or_eq_true_iff.mpr (.inl token)
        · exact Bool.or_eq_true_iff.mpr (.inr (Run.isOpen_of_act sound taken))
      exact kept.exchanges exchange old kept_before
    · exact ⟨now, Lease.isYoung_acquire (Run.acquire_of_sent sound sent) member.timeout,
        Run.deadline_of_sent sound sent⟩
  · have slot : (member.act now pool action).run.session.pending = some pending := slot
    cases lending with
    | kept _ pending_eq => exact kept.pending pending (pending_eq ▸ slot)
    | surrendered _ free =>
      rw [free] at slot
      cases slot
    | lent exchange acquired _ _ _ owner =>
      rcases owner with ⟨_, free⟩ | ⟨token, command, _, own⟩
      · rw [free] at slot
        cases slot
      · obtain rfl := Option.some.inj (own.symm.trans slot)
        exact ⟨now, Lease.isYoung_acquire acquired member.timeout⟩
    | ended _ _ run_eq => exact kept.pending pending (run_eq.1 ▸ slot)

/-- Time that passes before the end of every wait does not make an id too old. -/
theorem InTime.elapse {nanos : Nat} (inTime : member.InTime pool now)
    (shown : now + nanos < member.context.clockEnd) (idle : member.run.isIdle = true)
    (waits : member.run.waitsUntil (now + nanos) = true) :
    member.InTime pool (now + nanos) := by
  have exchanges : ∀ exchange ∈ member.run.exchanges, member.run.keepsId exchange = true →
      ∃ start, exchange.lease.IsYoung pool (now + nanos) member.timeout start ∧
        exchange.deadline = start.after? member.context.clockEnd member.timeout := by
    intro exchange found keeps
    obtain ⟨start, young, deadline⟩ := inTime.exchanges exchange found keeps
    have waits := List.all_eq_true.mp waits exchange found
    rw [deadline] at waits
    exact ⟨start, young.elapse (le_of_after? shown waits), deadline⟩
  refine ⟨inTime.sound, exchanges, fun pending slot => ?_⟩
  obtain ⟨exchange, found, lease_eq, keeps⟩ := inTime.sound.exists_exchange slot idle
  obtain ⟨start, young, _⟩ := exchanges exchange found keeps
  exact ⟨start, lease_eq ▸ young⟩

/-- The ids that a run uses are young. -/
theorem InTime.isYoung {lease : Lease} (inTime : member.InTime pool now)
    (uses : lease ∈ member.run.leases) :
    ∃ start, lease.IsYoung pool now member.timeout start := by
  rcases Run.mem_leases.mp uses with ⟨pending, slot, rfl⟩ | ⟨exchange, found, token, rfl⟩
  · exact inTime.pending pending slot
  · obtain ⟨start, young, _⟩ := inTime.exchanges exchange found (by simp [Run.keepsId, token])
    exact ⟨start, young⟩

end AgentRun

namespace Cohort

/-- What holds of a cohort at all times. -/
structure InTime (expiry : Duration) (cohort : Cohort) : Prop where
  pool_expiry : cohort.pool.expiry = expiry
  fits : ∀ member ∈ cohort.members, member.timeout.nanos ≤ expiry.nanos
  members : ∀ member ∈ cohort.members, member.InTime cohort.pool cohort.now

variable {expiry : Duration} {cohort : Cohort} {action : CohortAction}

theorem InTime.renews {later : InstanceIdPool} (inTime : cohort.InTime expiry)
    (renews : cohort.pool.Renews cohort.now later) :
    { cohort with pool := later }.InTime expiry where
  pool_expiry := renews.expiry.trans inTime.pool_expiry
  fits := inTime.fits
  members member found := (inTime.members member found).renews renews

theorem InTime.act (inTime : cohort.InTime expiry) (place : Nat) (action : RunAction) :
    (cohort.apply (.act place action)).InTime expiry := by
  cases found : cohort.members[place]? with
  | none =>
    simp only [Cohort.apply, found]
    exact inTime
  | some member =>
    simp only [Cohort.apply, found]
    have mem := List.mem_of_getElem? found
    have own := inTime.members member mem
    have renews := (Run.lending_act own.sound : member.run.Lending cohort.now cohort.pool
      (member.act cohort.now cohort.pool action)).renews
    have others := inTime.renews renews
    refine ⟨others.pool_expiry, fun other among => ?_, fun other among => ?_⟩
    · rcases List.mem_or_eq_of_mem_set among with left | rfl
      · exact inTime.fits other left
      · exact inTime.fits member mem
    · rcases List.mem_or_eq_of_mem_set among with left | rfl
      · exact others.members other left
      · exact own.act action

theorem InTime.apply (inTime : cohort.InTime expiry) (punctual : cohort.permits action = true)
    (fits : ∀ context record, action = .join context record →
      context.config.commandTimeout.nanos ≤ expiry.nanos) :
    (cohort.apply action).InTime expiry := by
  cases action with
  | join context record =>
    refine ⟨inTime.pool_expiry, fun member mem => ?_, fun member mem => ?_⟩
    · rcases List.mem_append.mp mem with old | new
      · exact inTime.fits member old
      · rw [List.mem_singleton.mp new]
        exact fits context record rfl
    · rcases List.mem_append.mp mem with old | new
      · exact inTime.members member old
      · rw [List.mem_singleton.mp new]
        exact AgentRun.inTime_join cohort.pool cohort.now context record
  | act place action => exact inTime.act place action
  | acquire endpoint =>
    simp only [Cohort.apply]
    split
    · rename_i acquired
      exact inTime.renews (InstanceIdPool.renews_acquire acquired)
    · exact inTime
  | drop lease => exact inTime.renews (InstanceIdPool.renews_drop cohort.now cohort.pool lease)
  | release endpoint id =>
    exact inTime.renews (InstanceIdPool.renews_release cohort.now cohort.pool endpoint id)
  | elapse nanos =>
    simp only [permits, Bool.or_eq_true, Bool.and_eq_true, beq_iff_eq, decide_eq_true_eq,
      List.all_eq_true] at punctual
    rcases punctual with rfl | ready
    · exact inTime
    · refine ⟨inTime.pool_expiry, inTime.fits, fun member mem => ?_⟩
      obtain ⟨⟨shown, idle⟩, waits⟩ := ready member mem
      exact (inTime.members member mem).elapse shown idle waits

theorem InTime.through {actions : List CohortAction} (inTime : cohort.InTime expiry)
    (punctual : cohort.isPunctual actions = true)
    (fits : ∀ context record, .join context record ∈ actions →
      context.config.commandTimeout.nanos ≤ expiry.nanos) :
    (cohort.through actions).InTime expiry := by
  induction actions generalizing cohort with
  | nil => exact inTime
  | cons action actions ih =>
    obtain ⟨permitted, punctual⟩ := Bool.and_eq_true_iff.mp punctual
    have next := inTime.apply permitted fun context record joins =>
      fits context record (joins ▸ List.mem_cons_self)
    exact ih next punctual fun context record joins =>
      fits context record (List.mem_cons_of_mem _ joins)

/-! ## The result -/

/-- A holder whose id an acquisition takes has held it for longer than the expiry. -/
theorem InTime.expired_of_acquire {pool lent : InstanceIdPool} {endpoint : EndpointId}
    {lease : Lease} (inTime : cohort.InTime expiry)
    (renews : cohort.pool.Renews cohort.now pool)
    (acquired : pool.acquire endpoint cohort.now = .ok (lease, lent))
    (held : pool.isHeld lease.key.1 lease.key.2 = true) :
    ∃ pool holder, cohort.pool.Renews cohort.now pool ∧
      pool.holder? lease.key.1 lease.key.2 = some holder ∧
      expiry.nanos < cohort.now - holder.acquiredAt := by
  obtain ⟨holder, recorded⟩ := Option.isSome_iff_exists.mp held
  have expired := InstanceIdPool.expired_of_acquire acquired recorded
  rw [renews.expiry, inTime.pool_expiry] at expired
  exact ⟨pool, holder, renews, recorded, expired⟩

/-- Only ids that have been held for longer than the expiry are taken from their holders. -/
theorem InTime.expired {key : EndpointId × InstanceId} (inTime : cohort.InTime expiry)
    (taken : key ∈ cohort.reclaimed action) :
    ∃ pool holder, cohort.pool.Renews cohort.now pool ∧ pool.holder? key.1 key.2 = some holder ∧
      expiry.nanos < cohort.now - holder.acquiredAt := by
  unfold reclaimed at taken
  split at taken
  · rename_i place action
    split at taken
    · cases taken
    · rename_i member found
      obtain ⟨listed, held⟩ := List.mem_filter.mp taken
      obtain ⟨exchange, sent, rfl⟩ := List.mem_map.mp listed
      have sound := (inTime.members member (List.mem_of_getElem? found)).sound
      exact inTime.expired_of_acquire
        (Run.renews_surrender cohort.now cohort.pool member.run.session)
        (Run.acquire_of_sent sound sent) held
  · split at taken
    · rename_i acquired
      obtain ⟨listed, held⟩ := List.mem_filter.mp taken
      rw [List.mem_singleton.mp listed] at held ⊢
      exact inTime.expired_of_acquire (.refl cohort.now cohort.pool) acquired held
    · cases taken
  all_goals cases taken

theorem InTime.sparesIds (inTime : cohort.InTime expiry) : cohort.SparesIds where
  young member found lease uses holder held := by
    obtain ⟨start, young⟩ := (inTime.members member found).isYoung uses
    exact young.age held
  unexpired member found := by
    rw [inTime.pool_expiry]
    exact inTime.fits member found
  spared action member found lease uses taken := by
    obtain ⟨start, young⟩ := (inTime.members member found).isYoung uses
    obtain ⟨pool, holder, renews, held, expired⟩ := inTime.expired taken
    have age := (young.renews renews).age held
    exact Nat.lt_irrefl _ <| calc
      expiry.nanos < cohort.now - holder.acquiredAt := expired
      _ ≤ member.timeout.nanos := age
      _ ≤ expiry.nanos := inTime.fits member found

/-- Whatever runs and other users do to a pool, in whatever order: if no agent waits for an outcome
for longer than the expiry, and time passes only while no run has anything to handle and no wait is
over, then the ids of pending commands and of CancelUpdate are never taken from their holders. -/
theorem sparesIds_through (cohort : Cohort) (empty : cohort.members = [])
    (actions : List CohortAction) (punctual : cohort.isPunctual actions = true)
    (fits : ∀ context record, .join context record ∈ actions →
      context.config.commandTimeout.nanos ≤ cohort.pool.expiry.nanos) :
    (cohort.through actions).SparesIds := by
  have begun : cohort.InTime cohort.pool.expiry := ⟨rfl, by simp [empty], by simp [empty]⟩
  exact (begun.through punctual fits).sparesIds

end Cohort

/-! ## The cohort of one agent -/

namespace Fleet

/-- The runs of a fleet, all of the same agent. -/
def cohort (fleet : Fleet) : Cohort where
  now := fleet.now
  pool := fleet.pool
  members := fleet.runs.map (⟨fleet.context, ·⟩)

/-- A session waits for the outcome of RequestUpdate until the timeout is over. Meanwhile others
acquire all other ids of the endpoint. -/
def heldToTheEnd : List CohortAction :=
  [.join singleComponent.context ⟨9, #[0], #[], "set"⟩, .act 0 .begin] ++
    List.replicate 31 (.acquire 9) ++ [.elapse singleComponent.context.config.commandTimeout.nanos]

theorem sparesIds_heldToTheEnd :
    singleComponent.cohort.members = [] ∧ singleComponent.cohort.isPunctual heldToTheEnd = true ∧
      (∀ context record, .join context record ∈ heldToTheEnd →
        context.config.commandTimeout.nanos ≤ singleComponent.cohort.pool.expiry.nanos) ∧
      (singleComponent.cohort.through heldToTheEnd).SparesIds := by
  have fits (context : SessionContext) (record : DeviceRecord)
      (joins : .join context record ∈ heldToTheEnd) :
      context.config.commandTimeout.nanos ≤ singleComponent.cohort.pool.expiry.nanos := by
    obtain ⟨own, _⟩ : context = singleComponent.context ∧ record = ⟨9, #[0], #[], "set"⟩ := by
      simpa [heldToTheEnd] using joins
    rw [own]
    decide
  exact ⟨rfl, by decide +kernel, fits,
    Cohort.sparesIds_through singleComponent.cohort rfl heldToTheEnd (by decide +kernel) fits⟩

example : (singleComponent.cohort.through heldToTheEnd).reclaimed (.acquire 9) = [] := by
  decide +kernel

-- With an expiry that is a nanosecond shorter, the session's id is taken.
example : (({ singleComponent.cohort with pool := { expiry := ⟨4999999999, by decide⟩ } } :
    Cohort).through heldToTheEnd).reclaimed (.acquire 9) = [(9, 0)] := by
  decide +kernel

end Fleet

end FirmwareAgent
