import Mathlib.Data.List.Flatten
import FirmwareAgent.Fleet
import FirmwareAgent.Proofs.Pool.Allocation
import FirmwareAgent.Proofs.Run.Lending

/-!
# Instance ids of a fleet

Which of the requests under way in a fleet still hold their instance id, as long as no id is taken
from its holder.

* `Fleet.Lent` is the invariant of the fleet, `Fleet.Lent.apply` its step.
* `holdsIds_through`: CancelUpdate and the commands that a session waits for hold their ids, and
  they are the only requests that do. A command whose session has given up stays under way without
  an id.
* `idShared_givenUpOnTable`: such a command may share its id with the CancelUpdate that follows.
-/

namespace FirmwareAgent

/-- What can happen to a fleet. -/
inductive FleetAction
  /-- A run is added for a device. -/
  | add (record : DeviceRecord)
  /-- Something happens to the run at a place. -/
  | act (place : Nat) (action : RunAction)
  | elapse (nanos : Nat)
  /-- Someone other than a session acquires an id, for good. -/
  | acquire (endpoint : EndpointId)
  /-- Someone releases an id by hand, whoever holds it. -/
  | release (endpoint : EndpointId) (id : InstanceId)

namespace Fleet

/-- The fleet after an action. -/
def apply (fleet : Fleet) : FleetAction → Fleet
  | .add record => fleet.add record
  | .act place action => (fleet.act place action).1
  | .elapse nanos => fleet.elapse nanos
  | .acquire endpoint =>
    match fleet.acquire endpoint with
    | .ok (_, fleet) => fleet
    | .error _ => fleet
  | .release endpoint id => fleet.release endpoint id

/-- Whether an action takes an instance id from its holder. -/
def reclaims (fleet : Fleet) : FleetAction → Bool
  | .act place action =>
    fleet.runs[place]?.any (·.reclaims fleet.context fleet.now fleet.pool action)
  | .acquire endpoint =>
    match fleet.acquire endpoint with
    | .ok (id, _) => fleet.pool.isHeld endpoint id
    | .error _ => false
  | .release endpoint id => fleet.pool.isHeld endpoint id
  | .add _ | .elapse _ => false

/-- The fleet after a list of actions. -/
def through (fleet : Fleet) (actions : List FleetAction) : Fleet :=
  actions.foldl apply fleet

/-- Whether none of the actions takes an instance id from its holder. -/
def isPeaceful (fleet : Fleet) : List FleetAction → Bool
  | [] => true
  | action :: actions => !fleet.reclaims action && (fleet.apply action).isPeaceful actions

/-- What holds of a fleet after `count` actions. -/
structure Lent (count : Nat) (fleet : Fleet) : Prop where
  sound : ∀ run ∈ fleet.runs, run.Sound
  borrows : ∀ run ∈ fleet.runs, run.Borrows fleet.pool count
  lends : fleet.pool.Lends (fleet.runs.flatMap Run.leases)

variable {count : Nat} {fleet : Fleet}

/-! ## Every action keeps the ids on loan -/

theorem exists_split_of_getElem? {α : Type} {items : List α} {place : Nat} {item : α}
    (found : items[place]? = some item) :
    ∃ front back, items.take place = front ∧ items = front ++ item :: back ∧
      ∀ other, items.set place other = front ++ other :: back := by
  obtain ⟨bound, rfl⟩ := List.getElem?_eq_some_iff.mp found
  refine ⟨items.take place, items.drop (place + 1), rfl, ?_, fun other => ?_⟩
  · rw [List.getElem_cons_drop, List.take_append_drop]
  · rw [List.set_eq_take_append_cons_drop, if_pos bound]

/-- The leases of one run and those of the others. -/
theorem perm_leases (front back : List Run) (run : Run) :
    ((front ++ run :: back).flatMap Run.leases).Perm
      (run.leases ++ (front ++ back).flatMap Run.leases) := by
  simp only [List.flatMap_append, List.flatMap_cons]
  rw [← List.append_assoc, ← List.append_assoc]
  exact List.perm_append_comm.append_right _

theorem Lent.wait (lent : fleet.Lent count) : fleet.Lent (count + 1) where
  sound := lent.sound
  borrows run mem := (lent.borrows run mem).follows (.refl fleet.pool)
  lends := lent.lends

theorem Lent.add (lent : fleet.Lent count) (record : DeviceRecord) :
    (fleet.add record).Lent (count + 1) := by
  have old_or_new {run : Run} (mem : run ∈ (fleet.add record).runs) :
      run ∈ fleet.runs ∨ run = { session := { record := record } } := by
    simpa [Fleet.add] using mem
  refine ⟨fun run mem => ?_, fun run mem => ?_, ?_⟩
  · rcases old_or_new mem with old | rfl
    · exact lent.sound run old
    · exact .waiting rfl rfl rfl rfl
  · rcases old_or_new mem with old | rfl
    · exact lent.wait.borrows run old
    · exact ⟨by simp, by simp, by simp⟩
  · simpa [Fleet.add, Run.leases, Run.withdrawals] using lent.lends

/-- An action of one run keeps the ids on loan to all of them. -/
theorem Lent.act (lent : fleet.Lent count) {place : Nat} {action : RunAction}
    (peaceful : fleet.reclaims (.act place action) = false) :
    (fleet.act place action).1.Lent (count + 1) := by
  unfold Fleet.act
  cases found : fleet.runs[place]? with
  | none => exact lent.wait
  | some run =>
    obtain ⟨front, back, _, runs_eq, set_eq⟩ := exists_split_of_getElem? found
    have mem : run ∈ fleet.runs := List.mem_of_getElem? found
    have sound := lent.sound run mem
    have kept_peace : run.reclaims fleet.context fleet.now fleet.pool action = false := by
      simpa [reclaims, found] using peaceful
    dsimp only
    generalize applied : run.act fleet.context fleet.now fleet.pool action = step
    have lending : run.Lending fleet.now fleet.pool step := applied ▸ Run.lending_act sound
    have sound_step : step.run.Sound := applied ▸ sound.act
    have endpoint : step.run.endpoint = run.endpoint :=
      congrArg DeviceRecord.endpoint (applied ▸ record_act sound)
    -- The other runs are as they were; for them the run did nothing but move the pool on.
    refine ⟨fun other among => ?_, fun other among => ?_, ?_⟩
    · rcases List.mem_or_eq_of_mem_set among with left | rfl
      · exact lent.sound other left
      · exact sound_step
    · rcases List.mem_or_eq_of_mem_set among with left | rfl
      · exact (lent.borrows other left).follows lending.follows
      · exact lending.borrows sound sound_step endpoint (lent.borrows run mem)
    · have lends := lent.lends
      rw [runs_eq] at lends
      dsimp only
      rw [set_eq]
      refine (lending.lends ?_ (lends.perm (perm_leases front back run))).perm
        (perm_leases front back step.run).symm
      rw [← applied]
      exact kept_peace

/-- Someone else's acquisition keeps the ids on loan. -/
theorem Lent.acquire (lent : fleet.Lent count) {endpoint : EndpointId}
    (peaceful : fleet.reclaims (.acquire endpoint) = false) :
    (fleet.apply (.acquire endpoint)).Lent (count + 1) := by
  cases acquired : fleet.pool.acquire endpoint fleet.now with
  | error error =>
    simp only [apply, Fleet.acquire, acquired]
    exact lent.wait
  | ok granted =>
    obtain ⟨lease, pool⟩ := granted
    simp only [reclaims, Fleet.acquire, acquired] at peaceful
    simp only [apply, Fleet.acquire, acquired]
    have free : fleet.pool.isHeld lease.endpoint lease.id = false := by
      rw [InstanceIdPool.endpoint_of_acquire acquired]
      exact peaceful
    exact ⟨lent.sound,
      fun run mem => (lent.borrows run mem).follows (InstanceIdPool.follows_acquire acquired),
      (lent.lends.acquire acquired free).sublist (List.sublist_cons_self _ _)⟩

/-- There is nothing to release but free ids. -/
theorem Lent.release (lent : fleet.Lent count) {endpoint : EndpointId} {id : InstanceId}
    (peaceful : fleet.reclaims (.release endpoint id) = false) :
    (fleet.apply (.release endpoint id)).Lent (count + 1) := by
  have free : fleet.pool.holder? endpoint id = none :=
    Option.isNone_iff_eq_none.mp (Option.isSome_eq_false_iff.mp peaceful)
  simp only [apply, Fleet.release, InstanceIdPool.release_of_free free]
  exact lent.wait

/-- Whatever happens to a fleet, the ids on loan stay on loan. -/
theorem Lent.apply (lent : fleet.Lent count) {action : FleetAction}
    (peaceful : fleet.reclaims action = false) : (fleet.apply action).Lent (count + 1) := by
  cases action with
  | add record => exact lent.add record
  | act place action => exact lent.act peaceful
  | elapse nanos => exact ⟨lent.sound, lent.wait.borrows, lent.lends⟩
  | acquire endpoint => exact lent.acquire peaceful
  | release endpoint id => exact lent.release peaceful

theorem Lent.through {actions : List FleetAction} (lent : fleet.Lent count)
    (peaceful : fleet.isPeaceful actions = true) :
    (fleet.through actions).Lent (count + actions.length) := by
  -- The invariant counts the actions, so the count moves along with the fleet.
  induction actions generalizing fleet count with
  | nil => exact lent
  | cons action actions ih =>
    simp only [isPeaceful, Bool.and_eq_true, Bool.not_eq_true'] at peaceful
    have next := ih (lent.apply peaceful.1) peaceful.2
    rwa [Nat.add_right_comm, Nat.add_assoc] at next

/-- A fleet without runs has nothing on loan. -/
theorem lent_of_idle (idle : fleet.runs = []) : fleet.Lent 0 :=
  ⟨by simp [idle], by simp [idle], by simp [idle], by simp [idle]⟩

/-! ## Who holds an id -/

/-- The exchanges of the fleet that keep their ids. -/
def keepers (fleet : Fleet) : List Exchange :=
  fleet.runs.flatMap fun run => run.exchanges.filter run.keepsId

/-- What holds of the instance ids of the requests under way. -/
structure HoldsIds (count : Nat) (fleet : Fleet) : Prop where
  /-- A request goes to the device of its run, and it carries the id of its lease. -/
  tagged : ∀ run ∈ fleet.runs, ∀ exchange ∈ run.exchanges,
    exchange.lease.endpoint = run.endpoint ∧ exchange.request.instanceId = exchange.lease.id
  /-- CancelUpdate, and a command that its session waits for, is the recorded holder of its id. -/
  held : ∀ run ∈ fleet.runs, ∀ exchange ∈ run.exchanges, run.keepsId exchange = true →
    fleet.pool.isHolder exchange.lease = true
  /-- A command whose run is over is not, unless the generations have been used up. -/
  lost : count < UInt64.size → ∀ run ∈ fleet.runs, ∀ exchange ∈ run.exchanges,
    run.keepsId exchange = false → fleet.pool.isHolder exchange.lease = false
  /-- No two of the requests that keep their ids share one at an endpoint. -/
  distinct : (fleet.keepers.map fun exchange =>
    (exchange.lease.endpoint, exchange.request.instanceId)).Nodup

/-- The exchanges of a run that keep their ids have leases that the run is to give back. -/
theorem sublist_leases {run : Run} (sound : run.Sound) :
    ((run.exchanges.filter run.keepsId).map (·.lease)).Sublist run.leases := by
  cases taken : run.isOpen with
  | false =>
    have filter_eq : run.exchanges.filter run.keepsId =
        run.exchanges.filter (·.token.isNone) :=
      List.filter_congr fun exchange _ => by simp [Run.keepsId, taken]
    rw [filter_eq]
    exact List.sublist_append_right _ _
  | true =>
    cases exchanges : run.exchanges with
    | nil => exact List.nil_sublist _
    | cons exchange others =>
      have mem : exchange ∈ run.exchanges := exchanges ▸ List.mem_cons_self
      obtain ⟨_, only, _⟩ := sound.only_exchange taken mem
      obtain ⟨pending, slot, lease_eq⟩ := sound.carried taken mem
      rw [exchanges] at only
      simp [only, Run.keepsId, Run.leases, taken, slot, lease_eq]

theorem Lent.holdsIds (lent : fleet.Lent count) : fleet.HoldsIds count := by
  have keepers_leases : (fleet.keepers.map (·.lease)).Sublist
      (fleet.runs.flatMap Run.leases) := by
    rw [keepers, List.map_flatMap]
    exact List.Sublist.flatMap_right _ fun run mem => sublist_leases (lent.sound run mem)
  have kept := lent.lends.sublist keepers_leases
  refine ⟨fun run mem => (lent.borrows run mem).tagged, fun run mem exchange found keeps => ?_,
    fun few run mem => (lent.borrows run mem).lost few, ?_⟩
  · refine kept.good _ (List.mem_map_of_mem (List.mem_flatMap.mpr ⟨run, mem, ?_⟩))
    exact List.mem_filter.mpr ⟨found, keeps⟩
  · have keys : (fleet.keepers.map fun exchange =>
        (exchange.lease.endpoint, exchange.request.instanceId)) =
        (fleet.keepers.map (·.lease)).map Lease.key := by
      rw [List.map_map]
      refine List.map_congr_left fun exchange mem => ?_
      obtain ⟨run, run_mem, filtered⟩ := List.mem_flatMap.mp mem
      have tagged := ((lent.borrows run run_mem).tagged exchange (List.mem_filter.mp filtered).1).2
      simp [Lease.key, tagged]
    rw [keys]
    exact kept.distinct

/-- Whatever happens to a fleet, in whatever order, as long as no id is taken from its holder: of
the requests under way exactly CancelUpdate and the commands that a session waits for hold their
ids, and these ids are different at an endpoint. -/
theorem holdsIds_through (fleet : Fleet) (idle : fleet.runs = []) (actions : List FleetAction)
    (peaceful : fleet.isPeaceful actions = true) :
    (fleet.through actions).HoldsIds actions.length := by
  have lent := (lent_of_idle idle).through peaceful
  rw [Nat.zero_add] at lent
  exact lent.holdsIds

/-! ## A command that loses its id -/

/-- An agent with a package of one component. Its clock counts its seconds in signed 64-bit
numbers. -/
def singleComponent : Fleet where
  context :=
    { config := {}
      components :=
        { components := #[⟨10, 1, 2, 0, 0, 64, 0, "1.0"⟩]
          classificationIndices := [((10, 1), 0)] }
      package := .memory #[]
      clockEnd := nanosPerSecond * (UInt64.size / 2) }
  pool := { expiry := .ofSeconds 5 }

/-- A target accepts RequestUpdate and is silent on PassComponentTable. The update is given up
before the exchange is over. -/
def givenUpOnTable : List FleetAction :=
  [ .add ⟨9, #[0], #[], "set"⟩,
    .act 0 .begin,
    .act 0 (.finish (some 0)
      (.ok ⟨0, firmwareUpdateType, Command.requestUpdate.code, CompletionCode.success, [0, 0, 0]⟩)),
    .act 0 .handle,
    .act 0 .handle,
    .act 0 .cancel,
    .act 0 .handle ]

theorem holdsIds_givenUpOnTable :
    singleComponent.runs = [] ∧ singleComponent.isPeaceful givenUpOnTable = true ∧
      (singleComponent.through givenUpOnTable).HoldsIds givenUpOnTable.length :=
  ⟨rfl, by decide +kernel, holdsIds_through singleComponent rfl givenUpOnTable (by decide +kernel)⟩

/-- PassComponentTable and CancelUpdate are both under way with id 0, which only CancelUpdate
holds. -/
theorem idShared_givenUpOnTable :
    singleComponent.isPeaceful givenUpOnTable = true ∧
      ((singleComponent.through givenUpOnTable).runs.flatMap (·.exchanges)).map
          (fun exchange => (exchange.command, exchange.lease.endpoint,
            exchange.request.instanceId,
            (singleComponent.through givenUpOnTable).pool.isHolder exchange.lease)) =
        [(.passComponentTable, 9, 0, false), (.cancelUpdate, 9, 0, true)] :=
  ⟨by decide +kernel, by decide +kernel⟩

end Fleet

end FirmwareAgent
