import Mathlib.Data.List.Induction
import FirmwareAgent.Proofs.Pool.Tenant
import FirmwareAgent.Proofs.Run.CommandOrder
import FirmwareAgent.Proofs.Run.Mirror

/-!
# A run gives every id back

A run is one of the users of its pool. The others, be they runs of the same endpoint or anyone else
with a lease or a handle on the pool, use it in between as they like: they may take an id from the
run, release it by hand, or lose one of theirs to the run.

* `Tenancy.Keeps` is the invariant: a run has at most one lease, that of its pending command or that
  of CancelUpdate, and the records of the pool are those of that lease and of the others.
* `returnsIds_through`: the result. What a run holds at any time is the id of that lease, and once
  everything is over the pool is as the others have left it.
-/

namespace FirmwareAgent

/-! ## A run among the users of a pool -/

/-- A use of the pool, by the run or by anybody else. -/
inductive PoolUse
  /-- Something happens to the run. -/
  | run (now : Instant) (action : RunAction)
  /-- Somebody else acquires an id. -/
  | acquire (endpoint : EndpointId) (now : Instant)
  /-- Somebody else's lease ends. -/
  | drop (lease : Lease)
  /-- Somebody else releases an id, whoever holds it. -/
  | release (endpoint : EndpointId) (id : InstanceId)

/-- A run and the pool that it shares with everyone else. -/
structure Tenancy where
  run : Run
  shared : SharedPool

namespace Tenancy

/-- A run that has not started, with a pool that it finds as it is. -/
def opened (record : DeviceRecord) (pool : InstanceIdPool) : Tenancy :=
  ⟨{ session := { record := record } }, .opened pool⟩

/-- What an action does to the run and to the pool. -/
def act (context : SessionContext) (now : Instant) (tenancy : Tenancy) (action : RunAction) :
    RunStep :=
  tenancy.run.act context now tenancy.shared.pool action

/-- The run and the pool after one more use. The run acquires an id for each request that it sends,
once its pending command has given its own back. -/
def use (context : SessionContext) (tenancy : Tenancy) : PoolUse → Tenancy
  | .run now action =>
    let step := tenancy.act context now action
    ⟨step.run, tenancy.shared.used (tenancy.run.session.surrender tenancy.shared.pool) step.pool
      (step.sent.map (·.lease.key))⟩
  | .acquire endpoint now =>
    match tenancy.shared.pool.acquire endpoint now with
    | .ok (lease, lent) => { tenancy with shared := tenancy.shared.written lease.key lent }
    | .error _ => tenancy
  | .drop lease =>
    if tenancy.shared.pool.isHolder lease then
      { tenancy with
        shared := tenancy.shared.written lease.key
          (tenancy.shared.pool.release lease.endpoint lease.id) }
    else tenancy
  | .release endpoint id =>
    { tenancy with
      shared := tenancy.shared.written (endpoint, id) (tenancy.shared.pool.release endpoint id) }

/-- A device's run and its pool through some uses of the pool. -/
def through (context : SessionContext) (record : DeviceRecord) (pool : InstanceIdPool)
    (uses : List PoolUse) : Tenancy :=
  uses.foldl (use context) (opened record pool)

/-- A run leaks no instance id: after `count` uses of a pool that was `initial` at first. -/
structure ReturnsIds (context : SessionContext) (initial : InstanceIdPool) (count : Nat)
    (tenancy : Tenancy) : Prop where
  /-- A run without a command holds nothing, unless it has failed. -/
  idle : tenancy.run.session.pending = none →
    (∀ reason, tenancy.run.session.state ≠ .failed reason) → ∀ key, ¬ tenancy.shared.Holds key
  /-- A run with a command holds the command's id and no other, unless somebody else has acquired or
  released that id since. -/
  pending : ∀ pending, tenancy.run.session.pending = some pending →
    (∀ key, tenancy.shared.Holds key → key = pending.lease.key) ∧
    (tenancy.shared.own pending.lease.key = true →
      tenancy.shared.pool.isHolder pending.lease = true)
  /-- A session that has ended holds at most the id of CancelUpdate, and only as long as the agent
  waits for its outcome. -/
  terminal : tenancy.run.session.state.isTerminal = true → ∀ key, tenancy.shared.Holds key →
    ∃ cancel ∈ tenancy.run.exchanges, cancel.IsFarewell ∧ cancel.lease.key = key
  /-- A run never holds two ids. -/
  alone : ∀ key key', tenancy.shared.Holds key → tenancy.shared.Holds key' → key = key'
  /-- A session that ends, for whatever reason, keeps no id. What is held then is held for the
  CancelUpdate that has just gone out. -/
  fails : ∀ now action, tenancy.run.session.state.isTerminal = false →
    (tenancy.use context (.run now action)).run.session.state.isTerminal = true →
    ∀ key, (tenancy.use context (.run now action)).shared.Holds key →
      ∃ cancel ∈ (tenancy.act context now action).sent, cancel.IsFarewell ∧ cancel.lease.key = key
  /-- What the run does not hold, and nobody else has had to do with, is recorded as at first. -/
  frame : ∀ key, ¬ tenancy.shared.Holds key → tenancy.shared.touched key = false →
    tenancy.shared.pool.holder? key.1 key.2 = initial.holder? key.1 key.2
  /-- What the run does not hold is as the others have left it, stale leases or not, as long as the
  generations are not used up. -/
  others : count < UInt64.size → ∀ key, ¬ tenancy.shared.Holds key →
    tenancy.shared.pool.holder? key.1 key.2 = tenancy.shared.others key
  /-- So once the run and all its exchanges are over, the holders are those of the beginning, apart
  from what the others have done and from the ids that the run took from them. -/
  settled : tenancy.run.isOpen = false → tenancy.run.exchanges = [] → ∀ key,
    ¬ tenancy.shared.Holds key ∧
    (tenancy.shared.touched key = false →
      tenancy.shared.pool.holder? key.1 key.2 = initial.holder? key.1 key.2)

end Tenancy

/-! ## CancelUpdate is the last request -/

section

variable {context : SessionContext} {now : Instant} {pool : InstanceIdPool} {run : Run}
  {step : RunStep} {session : Session} {turn : Turn} {action : RunAction}

namespace Run

/-- Only a session that has failed has a request under way that it does not wait for, and that is
CancelUpdate. -/
def IsParting (run : Run) : Prop :=
  ∀ exchange ∈ run.exchanges, exchange.token = none →
    exchange.IsFarewell ∧ ∃ reason, run.session.state = .failed reason

theorem Goes.sent (goes : run.Goes context now pool step session turn) :
    step.sent = turn.effects.filterMap (Effect.exchange? context now) := by
  obtain ⟨before, _, _, rfl⟩ := goes.settled
  exact sent_settle context now before

theorem Goes.exchanges (goes : run.Goes context now pool step session turn) :
    step.run.exchanges = run.exchanges ++ step.sent := by
  rw [goes.sent]
  obtain ⟨before, _, exchanges, rfl⟩ := goes.settled
  rw [exchanges_settle, exchanges]

/-- A turn that sends a request without waiting for its outcome gives the update up. -/
theorem Goes.parting {exchange : Exchange}
    (goes : run.Goes context now pool step session turn) (sent : exchange ∈ step.sent)
    (token : exchange.token = none) :
    exchange.IsFarewell ∧ ∃ reason, step.run.session.state = .failed reason := by
  rw [goes.sent] at sent
  have given_up {giver : Session} (reason : UpdateError) (live : giver.state.isTerminal = false)
      (failed : turn = Turn.fail context now reason ⟨giver, pool, []⟩) :
      exchange.IsFarewell ∧ ∃ reason, step.run.session.state = .failed reason := by
    rw [goes.after.2]
    subst failed
    refine ⟨?_, reason, Turn.state_fail context now reason ⟨giver, pool, []⟩ live⟩
    rcases isFarewellOnly_fail live with silent | ⟨cancel, only, farewell⟩
    · rw [silent] at sent
      cases sent
    · rw [only] at sent
      exact List.mem_singleton.mp sent ▸ farewell
  rcases goes.turned with ⟨reason, failed⟩ | ⟨event, reaction, _⟩
  · exact given_up reason goes.live failed
  cases reaction with
  | @failed event reason cause =>
    have informed_live : (session.informed event).state.isTerminal = false := goes.live
    exact given_up reason informed_live rfl
  | submitted =>
    obtain rfl : exchange = _ := by simpa [Effect.exchange?] using sent
    cases token
  | _ => simp [Effect.exchange?] at sent

theorem IsParting.closed {exchange : Exchange} (parting : run.IsParting) (sound : run.Sound)
    (found : exchange ∈ run.exchanges) (token : exchange.token = none) : run.isOpen = false := by
  obtain ⟨_, reason, failed⟩ := parting exchange found token
  exact closed_of_terminal sound (by rw [failed]; rfl)

/-- The requests of a run that is open are waited for. -/
theorem IsParting.waited (parting : run.IsParting) (sound : run.Sound)
    (taken : run.isOpen = true) : run.exchanges.filter (·.token.isNone) = [] := by
  rw [List.filter_eq_nil_iff]
  intro exchange found token
  have closed := parting.closed sound found (by simpa using token)
  simp [taken] at closed

/-- A session that an action leaves alone has no new exchanges. -/
theorem Lending.mem_of_unsent {exchange : Exchange} (lending : run.Lending now pool step)
    (unsent : step.sent = []) (found : exchange ∈ step.run.exchanges) :
    exchange ∈ run.exchanges := by
  cases lending with
  | kept _ _ exchanges | surrendered _ _ exchanges => rwa [exchanges] at found
  | lent _ _ _ sent => simp [sent] at unsent
  | ended _ _ _ exchanges =>
    rw [exchanges] at found
    exact (List.mem_filter.mp found).1

theorem mem_exchanges_act {exchange : Exchange} (sound : run.Sound)
    (found : exchange ∈ (run.act context now pool action).run.exchanges) :
    exchange ∈ run.exchanges ∨ exchange ∈ (run.act context now pool action).sent := by
  rcases rests_or_goes context now pool run action sound with rests | ⟨session, turn, goes⟩
  · exact .inl ((lending_act sound).mem_of_unsent rests.sent found)
  · rw [goes.exchanges] at found
    exact List.mem_append.mp found

theorem IsParting.act (parting : run.IsParting) (sound : run.Sound) :
    (run.act context now pool action).run.IsParting := by
  intro exchange found token
  rcases rests_or_goes context now pool run action sound with rests | ⟨session, turn, goes⟩
  · have old := (lending_act sound).mem_of_unsent rests.sent found
    rw [rests.session]
    exact parting exchange old token
  · rw [goes.exchanges] at found
    rcases List.mem_append.mp found with old | sent
    · have closed := parting.closed sound old token
      simp [goes.taken] at closed
    · exact goes.parting sent token

/-! ## The lease of a run -/

/-- An action that does not put another exchange under way sends nothing. -/
theorem sent_eq_nil (sound : run.Sound)
    (fewer : (run.act context now pool action).run.exchanges.length ≤ run.exchanges.length) :
    (run.act context now pool action).sent = [] := by
  rcases rests_or_goes context now pool run action sound with rests | ⟨session, turn, goes⟩
  · exact rests.sent
  · rw [goes.exchanges, List.length_append] at fewer
    exact List.length_eq_zero_iff.mp (by omega)

theorem taken_of_sent {exchange : Exchange} (sound : run.Sound)
    (sent : exchange ∈ (run.act context now pool action).sent) : run.isOpen = true := by
  rcases rests_or_goes context now pool run action sound with rests | ⟨session, turn, goes⟩
  · rw [rests.sent] at sent
    cases sent
  · exact goes.taken

variable {initial : InstanceIdPool} {count : Nat} {shared : SharedPool} {lease? : Option Lease}

/-- When the pending command has given its id back, the run has at most the lease of
CancelUpdate. -/
theorem account_surrender (leases_eq : run.leases = lease?.toList)
    (account : shared.Account initial count lease?) :
    ∃ left? : Option Lease, run.withdrawals = left?.toList ∧
      { shared with pool := run.session.surrender shared.pool }.Account initial count left? := by
  cases slot : run.session.pending with
  | none =>
    refine ⟨lease?, ?_, ?_⟩
    · simpa [leases, slot] using leases_eq
    · simpa [Session.surrender, slot] using account
  | some pending =>
    have only : pending.lease :: run.withdrawals = lease?.toList := by
      simpa [leases, slot] using leases_eq
    cases lease? with
    | none => cases only
    | some lease =>
      obtain ⟨rfl, none_left⟩ := List.cons_eq_cons.mp only
      refine ⟨none, none_left, ?_⟩
      simpa [Session.surrender, slot] using account.gives

/-- The end of an exchange takes the lease of CancelUpdate with it, if it is that exchange. -/
theorem withdrawals_ended {exchange : Exchange}
    (exchanges : step.run.exchanges = run.exchanges.filter (·.token != exchange.token)) :
    step.run.withdrawals = if exchange.token = none then [] else run.withdrawals := by
  rw [withdrawals, exchanges, List.filter_filter]
  cases exchange.token with
  | none =>
    rw [if_pos rfl, List.map_eq_nil_iff, List.filter_eq_nil_iff]
    rintro other -
    cases other.token <;> simp
  | some token =>
    have unchanged (other : Exchange) :
        (other.token.isNone && other.token != some token) = other.token.isNone := by
      cases other.token <;> simp
    simp only [unchanged]
    rfl

/-- An action leaves a run with at most one lease, and with an account of the pool for it. -/
theorem account_act (sound : run.Sound) (parting : run.IsParting)
    (leases_eq : run.leases = lease?.toList) (account : shared.Account initial count lease?) :
    let step := run.act context now shared.pool action
    ∃ after? : Option Lease, step.run.leases = after?.toList ∧
      (shared.used (run.session.surrender shared.pool) step.pool
        (step.sent.map (·.lease.key))).Account initial (count + 1) after? := by
  intro step
  have lending : run.Lending now shared.pool step := lending_act sound
  have unsent (fewer : step.run.exchanges.length ≤ run.exchanges.length) : step.sent = [] :=
    sent_eq_nil sound fewer
  obtain ⟨left?, withdrawals_eq, surrendered⟩ := account_surrender leases_eq account
  cases lending with
  | kept pool_eq pending exchanges =>
    rw [unsent (Nat.le_of_eq (congrArg _ exchanges)), List.map_nil, SharedPool.used_nil, pool_eq]
    refine ⟨lease?, ?_, account.later⟩
    rwa [leases, withdrawals, pending, exchanges]
  | surrendered pool_eq pending exchanges =>
    rw [unsent (Nat.le_of_eq (congrArg _ exchanges)), List.map_nil, SharedPool.used_nil, pool_eq]
    refine ⟨left?, ?_, surrendered.later⟩
    rwa [leases, withdrawals, pending, exchanges]
  | lent exchange acquired exchanges sent tagged owner =>
    have taken : run.isOpen = true := taken_of_sent sound (sent ▸ List.mem_singleton_self exchange)
    have waited := parting.waited sound taken
    obtain rfl : left? = none := by
      simpa [withdrawals, waited] using withdrawals_eq.symm
    rw [sent]
    refine ⟨some exchange.lease, ?_, surrendered.takes acquired⟩
    rcases owner with ⟨token, pending⟩ | ⟨token, command, token_eq, pending⟩
    · simp [leases, withdrawals, exchanges, waited, token, pending]
    · simp [leases, withdrawals, exchanges, waited, token_eq, pending]
  | @ended exchange found pool_eq run_eq exchanges =>
    rw [unsent (exchanges ▸ List.length_filter_le _ _), List.map_nil, SharedPool.used_nil, pool_eq]
    rw [leases, withdrawals_ended exchanges, run_eq.1]
    cases token_eq : exchange.token with
    | some token => exact ⟨lease?, leases_eq, account.later⟩
    | none =>
      -- It was the only lease of the run, which is over.
      have free := sound.free (parting.closed sound found token_eq)
      have withdrawn : exchange.lease ∈ run.withdrawals :=
        List.mem_map_of_mem (List.mem_filter.mpr ⟨found, by simp [token_eq]⟩)
      obtain rfl : lease? = some exchange.lease := by
        have owed : exchange.lease ∈ run.leases := List.mem_append_right _ withdrawn
        rwa [leases_eq, Option.mem_toList] at owed
      refine ⟨none, ?_, account.gives.later⟩
      rw [free]
      rfl

end Run

end

/-! ## The invariant -/

namespace Tenancy

/-- What holds of a run and its pool after `count` uses of the pool. -/
structure Keeps (initial : InstanceIdPool) (count : Nat) (tenancy : Tenancy) : Prop where
  sound : tenancy.run.Sound
  parting : tenancy.run.IsParting
  account : ∃ lease? : Option Lease, tenancy.run.leases = lease?.toList ∧
    tenancy.shared.Account initial count lease?

variable {context : SessionContext} {initial : InstanceIdPool} {count : Nat} {tenancy : Tenancy}

/-- The others may use the pool as they like. -/
theorem Keeps.written {key : EndpointId × InstanceId} {after : InstanceIdPool}
    (keeps : tenancy.Keeps initial count) (writes : tenancy.shared.pool.Writes key after) :
    { tenancy with shared := tenancy.shared.written key after }.Keeps initial (count + 1) := by
  obtain ⟨lease?, leases_eq, account⟩ := keeps.account
  exact ⟨keeps.sound, keeps.parting, lease?, leases_eq, account.written writes⟩

theorem Keeps.later (keeps : tenancy.Keeps initial count) : tenancy.Keeps initial (count + 1) := by
  obtain ⟨lease?, leases_eq, account⟩ := keeps.account
  exact ⟨keeps.sound, keeps.parting, lease?, leases_eq, account.later⟩

theorem Keeps.use (keeps : tenancy.Keeps initial count) (use : PoolUse) :
    (tenancy.use context use).Keeps initial (count + 1) := by
  cases use with
  | run now action =>
    obtain ⟨lease?, leases_eq, account⟩ := keeps.account
    exact ⟨keeps.sound.act, keeps.parting.act keeps.sound,
      Run.account_act keeps.sound keeps.parting leases_eq account⟩
  | acquire endpoint now =>
    unfold Tenancy.use
    dsimp only
    split
    · rename_i acquired
      exact keeps.written (InstanceIdPool.writes_acquire acquired)
    · exact keeps.later
  | drop lease =>
    unfold Tenancy.use
    dsimp only
    split
    · exact keeps.written (InstanceIdPool.writes_release _ lease.endpoint lease.id)
    · exact keeps.later
  | release endpoint id => exact keeps.written (InstanceIdPool.writes_release _ endpoint id)

theorem keeps_opened (record : DeviceRecord) (pool : InstanceIdPool) :
    (opened record pool).Keeps pool 0 where
  sound := .waiting rfl rfl rfl rfl
  parting := nofun
  account := ⟨none, rfl, SharedPool.account_opened pool⟩

theorem keeps_through (context : SessionContext) (record : DeviceRecord) (pool : InstanceIdPool)
    (uses : List PoolUse) : (through context record pool uses).Keeps pool uses.length := by
  induction uses using List.reverseRecOn with
  | nil => exact keeps_opened record pool
  | append_singleton uses last ih =>
    rw [through, List.foldl_concat, List.length_append]
    exact ih.use last

/-! ## The result -/

/-- What a run holds is the id of its pending command or that of CancelUpdate. -/
theorem Keeps.leased {key : EndpointId × InstanceId} (keeps : tenancy.Keeps initial count)
    (holds : tenancy.shared.Holds key) :
    (∃ pending, tenancy.run.session.pending = some pending ∧ pending.lease.key = key) ∨
      ∃ cancel ∈ tenancy.run.exchanges, cancel.token = none ∧ cancel.lease.key = key := by
  obtain ⟨lease?, leases_eq, account⟩ := keeps.account
  obtain ⟨lease, rfl, rfl⟩ := account.leased key holds
  have owed : lease ∈ tenancy.run.leases := by simp [leases_eq]
  rcases Run.mem_leases.mp owed with ⟨pending, slot, rfl⟩ | ⟨cancel, found, token, rfl⟩
  · exact .inl ⟨pending, slot, rfl⟩
  · exact .inr ⟨cancel, found, token, rfl⟩

/-- A run that is over holds nothing but the id of CancelUpdate. -/
theorem Keeps.leased_of_closed {key : EndpointId × InstanceId} (keeps : tenancy.Keeps initial count)
    (closed : tenancy.run.isOpen = false) (holds : tenancy.shared.Holds key) :
    ∃ cancel ∈ tenancy.run.exchanges, cancel.IsFarewell ∧ cancel.lease.key = key := by
  rcases keeps.leased holds with ⟨pending, slot, _⟩ | ⟨cancel, found, token, own⟩
  · rw [keeps.sound.free closed] at slot
    cases slot
  · exact ⟨cancel, found, (keeps.parting cancel found token).1, own⟩

theorem Keeps.returnsIds (keeps : tenancy.Keeps initial count) :
    tenancy.ReturnsIds context initial count := by
  obtain ⟨lease?, leases_eq, account⟩ := keeps.account
  have frame (key : EndpointId × InstanceId) (idle : ¬ tenancy.shared.Holds key)
      (untouched : tenancy.shared.touched key = false) :
      tenancy.shared.pool.holder? key.1 key.2 = initial.holder? key.1 key.2 :=
    account.initial_of idle untouched
  refine ⟨?idle, ?pending, ?terminal, ?alone, ?fails, frame, ?others, ?settled⟩
  case idle =>
    intro free intact key holds
    rcases keeps.leased holds with ⟨pending, slot, _⟩ | ⟨cancel, found, token, _⟩
    · rw [free] at slot
      cases slot
    · obtain ⟨_, reason, failed⟩ := keeps.parting cancel found token
      exact intact reason failed
  case pending =>
    intro pending slot
    constructor
    · intro key holds
      rcases keeps.leased holds with ⟨other, taken, rfl⟩ | ⟨cancel, found, token, _⟩
      · rw [Option.some.inj (slot.symm.trans taken)]
      · rw [keeps.sound.free (keeps.parting.closed keeps.sound found token)] at slot
        cases slot
    · intro own
      have owed : pending.lease ∈ tenancy.run.leases :=
        Run.mem_leases.mpr (.inl ⟨pending, slot, rfl⟩)
      rw [leases_eq, Option.mem_toList] at owed
      exact account.good pending.lease owed own
  case terminal =>
    intro terminal key holds
    exact keeps.leased_of_closed (closed_of_terminal keeps.sound terminal) holds
  case alone =>
    intro key key' holds holds'
    obtain ⟨lease, slot, rfl⟩ := account.leased key holds
    obtain ⟨lease', slot', rfl⟩ := account.leased key' holds'
    rw [Option.some.inj (slot.symm.trans slot')]
  case fails =>
    intro now action live terminal key holds
    have after : (tenancy.use context (.run now action)).Keeps initial (count + 1) :=
      keeps.use (.run now action)
    have closed := closed_of_terminal after.sound terminal
    obtain ⟨cancel, found, farewell, own⟩ := after.leased_of_closed closed holds
    refine ⟨cancel, ?_, farewell, own⟩
    -- A session that has not ended has no CancelUpdate under way.
    rcases Run.mem_exchanges_act keeps.sound found with old | sent
    · obtain ⟨_, reason, failed⟩ := keeps.parting cancel old farewell.token
      rw [failed] at live
      cases live
    · exact sent
  case others =>
    intro few key idle
    exact account.others_of few idle
  case settled =>
    intro closed none_left key
    have idle : ¬ tenancy.shared.Holds key := by
      intro holds
      obtain ⟨cancel, found, _⟩ := keeps.leased_of_closed closed holds
      rw [none_left] at found
      cases found
    exact ⟨idle, frame key idle⟩

/-- Whatever happens to a run and to its pool, in whatever order: the run holds the id of its
pending command or that of CancelUpdate and no other, and gives it back without touching what the
others hold. -/
theorem returnsIds_through (context : SessionContext) (record : DeviceRecord)
    (pool : InstanceIdPool) (uses : List PoolUse) :
    (through context record pool uses).ReturnsIds context pool uses.length :=
  (keeps_through context record pool uses).returnsIds

end Tenancy

end FirmwareAgent
