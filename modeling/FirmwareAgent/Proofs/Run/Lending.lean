import FirmwareAgent.Proofs.Pool.Holders
import FirmwareAgent.Proofs.Run.Driver

/-!
# What a run does to the pool

A run has the lease of its pending command, and its CancelUpdate has a lease of its own. An action
of the run gives such a lease back, takes a new one, or does neither: `lending_act`.

* `Lending.lends`: the leases of the run and those of everyone else stay good, as long as no id is
  taken from its holder.
* `Lending.borrows`: a command that nobody waits for any more has lost its id for good.
-/

namespace FirmwareAgent

namespace Run

/-- The leases of the CancelUpdate exchanges. -/
def withdrawals (run : Run) : List Lease :=
  (run.exchanges.filter (·.token.isNone)).map (·.lease)

/-- The leases that the run is to give back: that of its pending command and those of its
CancelUpdate exchanges. -/
def leases (run : Run) : List Lease :=
  (run.session.pending.map (·.lease)).toList ++ run.withdrawals

/-- Whether an exchange has its id to itself: it is that of CancelUpdate, or the run still waits for
its outcome. -/
def keepsId (run : Run) (exchange : Exchange) : Bool :=
  exchange.token.isNone || run.isOpen

/-- Whether an action takes an instance id from its holder, the session itself apart. -/
def reclaims (context : SessionContext) (now : Instant) (pool : InstanceIdPool) (run : Run)
    (action : RunAction) : Bool :=
  (run.act context now pool action).sent.any fun exchange =>
    (run.session.surrender pool).isHeld run.endpoint exchange.lease.id

/-- What an action does to the leases of a run. -/
inductive Lending (now : Instant) (pool : InstanceIdPool) (run : Run) (step : RunStep) : Prop
  | kept (pool_eq : step.pool = pool)
      (pending : step.run.session.pending = run.session.pending)
      (exchanges : step.run.exchanges = run.exchanges)
  /-- The pending command gives its id back. -/
  | surrendered (pool_eq : step.pool = run.session.surrender pool)
      (pending : step.run.session.pending = none)
      (exchanges : step.run.exchanges = run.exchanges)
  /-- A request goes out with a new id, after the pending command has given its own back. -/
  | lent (exchange : Exchange)
      (acquired : (run.session.surrender pool).acquire run.endpoint now =
        .ok (exchange.lease, step.pool))
      (exchanges : step.run.exchanges = run.exchanges ++ [exchange])
      (sent : step.sent = [exchange])
      (tagged : exchange.request.instanceId = exchange.lease.id)
      (owner : exchange.token = none ∧ step.run.session.pending = none ∨
        ∃ token command, exchange.token = some token ∧
          step.run.session.pending = some ⟨token, command, exchange.lease⟩)
  /-- An exchange ends. That of CancelUpdate gives its id back. -/
  | ended {exchange : Exchange} (found : exchange ∈ run.exchanges)
      (pool_eq : step.pool = if exchange.token = none then pool.drop exchange.lease else pool)
      (run_eq : step.run.session = run.session ∧ step.run.status = run.status)
      (exchanges : step.run.exchanges = run.exchanges.filter (·.token != exchange.token))

variable {context : SessionContext} {now : Instant} {pool : InstanceIdPool} {run : Run}
  {step : RunStep} {action : RunAction}

/-! ## Every action is one of these -/

section

variable {before : Run} {turn : Turn} (running : before.status = .running)
  (exchanges : before.exchanges = run.exchanges)

include running exchanges

theorem lending_settle_kept (calm : turn.IsCalm) (pool_eq : turn.pool = pool)
    (pending : turn.session.pending = run.session.pending)
    (unsent : turn.effects.filterMap (Effect.exchange? context now) = []) :
    run.Lending now pool (before.settle context now turn) := by
  obtain ⟨session, settled⟩ := settle_calm context now running calm
  exact .kept (settled.trans pool_eq) (by rw [session, pending])
    (by rw [exchanges_settle, unsent, List.append_nil, exchanges])

theorem lending_settle_surrendered (calm : turn.IsCalm)
    (pool_eq : turn.pool = run.session.surrender pool) (free : turn.session.pending = none)
    (unsent : turn.effects.filterMap (Effect.exchange? context now) = []) :
    run.Lending now pool (before.settle context now turn) := by
  obtain ⟨session, settled⟩ := settle_calm context now running calm
  exact .surrendered (settled.trans pool_eq) (by rw [session, free])
    (by rw [exchanges_settle, unsent, List.append_nil, exchanges])

omit running in
/-- A session that breaks down gives its command's id back. -/
theorem lending_settle_crash {asked : Option (Caller × Request)}
    (crash : turn.effects = [.crash asked])
    (surrenders : turn.session.surrender turn.pool = run.session.surrender pool) :
    run.Lending now pool (before.settle context now turn) := by
  obtain ⟨session, _, _, settled⟩ := settle_crash context now before crash
  refine .surrendered (settled.trans surrenders) (by rw [session]) ?_
  rw [exchanges_settle, crash, exchanges]
  simp [Effect.exchange?]

/-- A session that gives up gives its command's id back, and may take one for CancelUpdate. -/
theorem lending_settle_fail {giver : Session} (reason : UpdateError)
    (live : giver.state.isTerminal = false) (pending : giver.pending = run.session.pending)
    (endpoint : giver.endpoint = run.endpoint) :
    run.Lending now pool
      (before.settle context now (Turn.fail context now reason ⟨giver, pool, []⟩)) := by
  have calm : (Turn.fail context now reason ⟨giver, pool, []⟩).IsCalm := Turn.isCalm_fail live
  have surrender_eq : giver.surrender pool = run.session.surrender pool := by
    simp [Session.surrender, pending]
  rcases Turn.fail_cases context now reason ⟨giver, pool, []⟩ live with
    silent | ⟨lease, lent, _, _, acquired, told⟩
  · rw [silent] at calm ⊢
    exact lending_settle_surrendered running exchanges calm surrender_eq rfl rfl
  · rw [told] at calm ⊢
    obtain ⟨session, settled⟩ := settle_calm context now running calm
    refine .lent ⟨none, .cancelUpdate, .firmwareUpdate lease.id .cancelUpdate [], lease,
      now.after? context.clockEnd context.config.commandTimeout⟩ ?_ ?_ ?_ rfl (.inl ⟨rfl, ?_⟩)
    · rw [settled, ← surrender_eq, ← endpoint]
      exact acquired
    · rw [exchanges_settle, exchanges]
      rfl
    · rw [sent_settle]
      rfl
    · rw [session]
      rfl

end

theorem Goes.lending {session : Session} {turn : Turn}
    (goes : run.Goes context now pool step session turn) : run.Lending now pool step := by
  have pending := goes.pending
  have endpoint : session.endpoint = run.endpoint := congrArg DeviceRecord.endpoint goes.record
  have surrender_eq : session.surrender pool = run.session.surrender pool := by
    simp [Session.surrender, pending]
  obtain ⟨before, running, exchanges, rfl⟩ := goes.settled
  rcases goes.turned with ⟨reason, rfl⟩ | ⟨event, reaction, _, free⟩
  · exact lending_settle_fail running exchanges reason goes.live pending endpoint
  have surrender_of_awaits {token : Nat} {command : PendingCommand}
      (awaited : session.Awaits token command) :
      pool.drop command.lease = run.session.surrender pool := by
    rw [← surrender_eq, Session.surrender, awaited.slot]
    rfl
  cases reaction with
  | ignored idle =>
    exact lending_settle_kept running exchanges (by simp [Turn.IsCalm]) rfl pending rfl
  | @failed event reason cause =>
    exact lending_settle_fail running exchanges reason goes.live pending endpoint
  | @submitted draft lease lent due acquired =>
    have free := free rfl
    have calm : Turn.IsCalm _ := goes.orderly.resolve_right (by simp)
    obtain ⟨settled, pool_eq⟩ := settle_calm context now running calm
    have unpending : session.surrender lent = lent := by simp [Session.surrender, free]
    refine .lent ⟨some session.nextToken, draft.command,
      .firmwareUpdate lease.id draft.command draft.payload, lease,
      now.after? context.clockEnd context.config.commandTimeout⟩ ?_ ?_ ?_ rfl
      (.inr ⟨session.nextToken, draft.command, rfl, ?_⟩)
    · rw [pool_eq, ← surrender_eq, ← endpoint, unpending]
      simpa [Session.surrender, free] using acquired
    · rw [exchanges_settle, exchanges]
      rfl
    · rw [sent_settle]
      rfl
    · rw [settled]
  | acknowledged awaited | accepted awaited | declined awaited | activated awaited =>
    exact lending_settle_surrendered running exchanges (by simp [Turn.IsCalm, Effect.isCrash])
      (surrender_of_awaits awaited) rfl rfl
  | untimed awaited =>
    exact lending_settle_crash exchanges rfl (surrender_of_awaits awaited)
  | brokeDown | overran =>
    exact lending_settle_crash exchanges rfl surrender_eq
  | answered | deferred | finished =>
    exact lending_settle_kept running exchanges (by simp [Turn.IsCalm, Effect.isCrash]) rfl
      pending rfl

/-- Whatever an action of a sound run does to its leases is in the list. -/
theorem lending_act (sound : run.Sound) :
    run.Lending now pool (run.act context now pool action) := by
  generalize applied : run.act context now pool action = step
  have change : Change context now pool run action step := applied ▸ change_act sound.live
  cases change with
  | idle | queued | read => exact .kept rfl rfl rfl
  | began waiting =>
    obtain ⟨_, _, goes⟩ := goes_of_waiting context now pool sound waiting
    exact goes.lending
  | turned running next reaction => exact (goes_of_next? sound running next reaction).lending
  | returned _ token_eq ends | lost _ token_eq ends | withdrawn token_eq ends =>
    exact .ended (List.mem_of_find?_eq_some ends.found) (by simp [token_eq]) ⟨rfl, rfl⟩ rfl

/-! ## What is on loan stays good -/

theorem lends_surrender {frame : List Lease} (lends : pool.Lends (run.leases ++ frame)) :
    (run.session.surrender pool).Lends (run.withdrawals ++ frame) := by
  cases slot : run.session.pending with
  | none => simpa [leases, Session.surrender, slot] using lends
  | some pending =>
    have with_pending : pool.Lends (pending.lease :: (run.withdrawals ++ frame)) := by
      simpa [leases, slot] using lends
    simpa [Session.surrender, slot] using with_pending.drop

/-- The leases of a run and of everyone else follow the pool, unless an id is taken from its
holder. -/
theorem Lending.lends {frame : List Lease} (lending : run.Lending now pool step)
    (peaceful : (step.sent.any fun exchange =>
      (run.session.surrender pool).isHeld run.endpoint exchange.lease.id) = false)
    (lends : pool.Lends (run.leases ++ frame)) : step.pool.Lends (step.run.leases ++ frame) := by
  -- In every case the frame stays where it is, behind the leases of the run.
  cases lending with
  | kept pool_eq pending exchanges =>
    rwa [leases, withdrawals, pool_eq, pending, exchanges]
  | surrendered pool_eq pending exchanges =>
    rw [leases, withdrawals, pool_eq, pending, exchanges]
    exact lends_surrender lends
  | lent exchange acquired exchanges sent tagged owner =>
    have free : (run.session.surrender pool).isHeld exchange.lease.endpoint exchange.lease.id =
        false := by
      simpa [sent, InstanceIdPool.endpoint_of_acquire acquired] using peaceful
    have lent := (lends_surrender lends).acquire acquired free
    rcases owner with ⟨token, pending⟩ | ⟨token, command, token_eq, pending⟩
    · have leases_eq : step.run.leases ++ frame =
          run.withdrawals ++ exchange.lease :: frame := by
        simp [leases, withdrawals, pending, exchanges, token]
      rw [leases_eq]
      exact lent.perm List.perm_middle.symm
    · have leases_eq : step.run.leases ++ frame =
          exchange.lease :: (run.withdrawals ++ frame) := by
        simp [leases, withdrawals, pending, exchanges, token_eq]
      rwa [leases_eq]
  | @ended exchange found pool_eq run_eq exchanges =>
    rw [leases, withdrawals, pool_eq, run_eq.1, exchanges, List.filter_filter]
    cases token_eq : exchange.token with
    | some token =>
      have unchanged (other : Exchange) :
          (other.token.isNone && other.token != some token) = other.token.isNone := by
        cases other.token <;> simp
      simp only [unchanged]
      simpa [leases, withdrawals] using lends
    | none =>
      have mem : exchange.lease ∈ run.withdrawals :=
        List.mem_map_of_mem (List.mem_filter.mpr ⟨found, by simp [token_eq]⟩)
      obtain ⟨front, back, split⟩ := List.append_of_mem mem
      have leases_eq : run.leases ++ frame =
          ((run.session.pending.map (·.lease)).toList ++ front) ++
            exchange.lease :: (back ++ frame) := by
        simp [leases, split]
      rw [leases_eq] at lends
      have withdrawn := (lends.perm List.perm_middle).drop
      -- Whatever else had no token goes with it.
      have none_left : run.exchanges.filter
          (fun other => other.token.isNone && other.token != none) = [] := by
        rw [List.filter_eq_nil_iff]
        rintro other -
        cases other.token <;> simp
      simp only [none_left, List.map_nil, List.append_nil, if_true]
      exact withdrawn.sublist
        ((List.sublist_append_left _ front).append (List.sublist_append_right back frame))

/-! ## What is given back stays lost -/

theorem nextGeneration_surrender (session : Session) :
    (session.surrender pool).nextGeneration = pool.nextGeneration := by
  unfold Session.surrender
  cases session.pending with
  | none => rfl
  | some pending => exact InstanceIdPool.nextGeneration_drop

theorem isHolder_of_surrender {session : Session} {lease : Lease}
    (good : (session.surrender pool).isHolder lease = true) : pool.isHolder lease = true := by
  unfold Session.surrender at good
  cases slot : session.pending with
  | none => simpa [slot] using good
  | some pending =>
    rw [slot] at good
    exact InstanceIdPool.isHolder_of_drop good

theorem follows_surrender (session : Session) : pool.Follows (session.surrender pool) :=
  ⟨.inl (nextGeneration_surrender session), fun _ good => .inl (isHolder_of_surrender good)⟩

/-- Nobody else gets a lease by what a run does. -/
theorem Lending.follows (lending : run.Lending now pool step) : pool.Follows step.pool := by
  cases lending with
  | kept pool_eq =>
    rw [pool_eq]
    exact .refl pool
  | surrendered pool_eq =>
    rw [pool_eq]
    exact follows_surrender run.session
  | lent exchange acquired =>
    obtain ⟨generation, holder⟩ := InstanceIdPool.follows_acquire acquired
    rw [nextGeneration_surrender] at generation holder
    refine ⟨generation, fun lease good => ?_⟩
    exact (holder lease good).imp_left isHolder_of_surrender
  | @ended exchange found pool_eq =>
    rw [pool_eq]
    split
    · exact InstanceIdPool.follows_drop pool exchange.lease
    · exact .refl pool

/-- What holds of the exchanges of a run after `count` actions of its fleet. -/
structure Borrows (pool : InstanceIdPool) (count : Nat) (run : Run) : Prop where
  /-- A request goes to the device, and it carries the id of its lease. -/
  tagged : ∀ exchange ∈ run.exchanges, exchange.lease.endpoint = run.endpoint ∧
    exchange.request.instanceId = exchange.lease.id
  recent : ∀ exchange ∈ run.exchanges, pool.IsRecent count exchange.lease
  /-- A command that nobody waits for has lost its id. -/
  lost : count < UInt64.size → ∀ exchange ∈ run.exchanges, run.keepsId exchange = false →
    pool.isHolder exchange.lease = false

variable {count : Nat}

theorem Borrows.follows {later : InstanceIdPool} (borrows : run.Borrows pool count)
    (follows : pool.Follows later) : run.Borrows later (count + 1) where
  tagged := borrows.tagged
  recent exchange mem := follows.isRecent (borrows.recent exchange mem)
  lost few exchange mem gone :=
    follows.lost (borrows.recent exchange mem) (Nat.lt_of_succ_lt few)
      (borrows.lost (Nat.lt_of_succ_lt few) exchange mem gone)

/-- The command under way loses its id when the pending command gives it back. -/
theorem Borrows.lost_of_surrender {exchange : Exchange} (borrows : run.Borrows pool count)
    (sound : run.Sound) (few : count < UInt64.size) (mem : exchange ∈ run.exchanges)
    (command : exchange.token.isNone = false) :
    (run.session.surrender pool).isHolder exchange.lease = false := by
  cases taken : run.isOpen with
  | true =>
    obtain ⟨pending, slot, lease_eq⟩ := sound.carried taken mem
    rw [Session.surrender, slot, lease_eq]
    exact InstanceIdPool.isHolder_drop_self
  | false =>
    have lost := borrows.lost few exchange mem (by simp [keepsId, command, taken])
    refine Bool.eq_false_iff.mpr fun good => ?_
    simp [isHolder_of_surrender good] at lost

/-- A run that is over has no command pending. -/
theorem Sound.free (sound : run.Sound) (closed : run.isOpen = false) :
    run.session.pending = none := by
  cases sound with
  | waiting status | running status => simp [isOpen, status] at closed
  | stopped _ free => exact free

/-- A run that starts no exchange has only lost commands to watch. -/
theorem Borrows.of_subset {after : Run} {later : InstanceIdPool} (borrows : run.Borrows pool count)
    (follows : pool.Follows later) (endpoint : after.endpoint = run.endpoint)
    (left : ∀ exchange ∈ after.exchanges, exchange ∈ run.exchanges)
    (lost : count + 1 < UInt64.size → ∀ exchange ∈ after.exchanges,
      after.keepsId exchange = false → later.isHolder exchange.lease = false) :
    after.Borrows later (count + 1) where
  tagged exchange mem := by
    rw [endpoint]
    exact borrows.tagged exchange (left exchange mem)
  recent exchange mem := follows.isRecent (borrows.recent exchange (left exchange mem))
  lost := lost

/-- An action lets the run's command lose its id only if the run is over then. -/
theorem Lending.borrows (lending : run.Lending now pool step) (sound : run.Sound)
    (sound_step : step.run.Sound) (endpoint : step.run.endpoint = run.endpoint)
    (borrows : run.Borrows pool count) : step.run.Borrows step.pool (count + 1) := by
  have follows := lending.follows
  have surrendered_lost (few : count + 1 < UInt64.size) {exchange : Exchange}
      (mem : exchange ∈ run.exchanges) (gone : step.run.keepsId exchange = false) :
      (run.session.surrender pool).isHolder exchange.lease = false :=
    borrows.lost_of_surrender sound (Nat.lt_of_succ_lt few) mem (Bool.or_eq_false_iff.mp gone).1
  cases lending with
  | kept pool_eq pending exchanges =>
    refine borrows.of_subset follows endpoint (by simp [exchanges]) fun few exchange mem gone => ?_
    rw [exchanges] at mem
    have lost := surrendered_lost few mem gone
    have free := sound_step.free (Bool.or_eq_false_iff.mp gone).2
    rw [Session.surrender, ← pending, free] at lost
    rw [pool_eq]
    exact lost
  | surrendered pool_eq pending exchanges =>
    refine borrows.of_subset follows endpoint (by simp [exchanges]) fun few exchange mem gone => ?_
    rw [pool_eq]
    exact surrendered_lost few (exchanges ▸ mem) gone
  | lent started acquired exchanges sent tagged owner =>
    have old_or_new {exchange : Exchange} (mem : exchange ∈ step.run.exchanges) :
        exchange ∈ run.exchanges ∨ exchange = started := by
      simpa [exchanges] using mem
    refine ⟨fun exchange mem => ?_, fun exchange mem => ?_, fun few exchange mem gone => ?_⟩
    · rcases old_or_new mem with old | rfl
      · rw [endpoint]
        exact borrows.tagged exchange old
      · exact ⟨(InstanceIdPool.endpoint_of_acquire acquired).trans endpoint.symm, tagged⟩
    · rcases old_or_new mem with old | rfl
      · exact follows.isRecent (borrows.recent exchange old)
      · exact InstanceIdPool.isRecent_acquire acquired count
    · obtain ⟨command, closed⟩ := Bool.or_eq_false_iff.mp gone
      rcases old_or_new mem with old | rfl
      · have surrendered_recent : (run.session.surrender pool).IsRecent count exchange.lease := by
          rw [InstanceIdPool.IsRecent, nextGeneration_surrender]
          exact borrows.recent exchange old
        exact (InstanceIdPool.follows_acquire acquired).lost surrendered_recent
          (Nat.lt_of_succ_lt few) (surrendered_lost few old gone)
      · -- A command that has just gone out is pending, so the run is not over.
        have free := sound_step.free closed
        rcases owner with ⟨token, _⟩ | ⟨token, name, _, pending⟩
        · simp [token] at command
        · simp [free] at pending
  | ended found pool_eq run_eq exchanges =>
    have left (exchange : Exchange) (mem : exchange ∈ step.run.exchanges) :
        exchange ∈ run.exchanges := by
      rw [exchanges] at mem
      exact (List.mem_filter.mp mem).1
    refine borrows.of_subset follows endpoint left fun few exchange mem gone => ?_
    have keepsId_eq : step.run.keepsId exchange = run.keepsId exchange := by
      simp [keepsId, isOpen, run_eq.2]
    exact (borrows.follows follows).lost few exchange (left exchange mem) (keepsId_eq ▸ gone)

end Run

end FirmwareAgent
