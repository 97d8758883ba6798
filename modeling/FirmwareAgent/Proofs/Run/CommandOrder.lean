import FirmwareAgent.Proofs.Run.Driver
import Mathlib.Data.List.Forall2

/-!
# The order of the commands

Whatever happens to a run, the requests that it sends are the first ones of its plan, followed by
at most one CancelUpdate, and it sends none but CancelUpdate before all earlier ones are granted.

* `Run.OnPlan` is the invariant on the requests, `onPlan_act` its step.
* `History.Accounted` is the invariant on their answers, `accounted_extend` its step.
* `commandOrder_through`: the result.
-/

namespace FirmwareAgent

/-! ## The order as it is seen from outside -/

/-- An exchange carries CancelUpdate, and nobody waits for its outcome. -/
structure Exchange.IsFarewell (exchange : Exchange) : Prop where
  token : exchange.token = none
  command : exchange.command = .cancelUpdate
  request : exchange.request = .firmwareUpdate exchange.lease.id .cancelUpdate []

/-- There is nothing more to a list of exchanges than at most one CancelUpdate. -/
def IsFarewellOnly (exchanges : List Exchange) : Prop :=
  exchanges = [] ∨ ∃ cancel, exchanges = [cancel] ∧ cancel.IsFarewell

/-- The exchanges carry the first requests of the plan, and then at most CancelUpdate. -/
def FollowsPlan (context : SessionContext) (record : DeviceRecord) (sent : List Exchange) : Prop :=
  ∃ planned steps farewell, planned <+: plan record.componentCount ∧ sent = steps ++ farewell ∧
    List.Forall₂ (PlannedStep.SentBy context record) planned steps ∧ IsFarewellOnly farewell

namespace History

/-- An exchange ended with an outcome at some moment of the history. -/
def Returned (history : History) (exchange : Exchange) (outcome : Except UpdateError Response) :
    Prop :=
  ∃ entry ∈ history.entries, entry.run.Ends entry.moment.now entry.moment.action exchange outcome

/-- An exchange ended with a response that grants its command. -/
def Granted (history : History) (exchange : Exchange) : Prop :=
  ∃ response, history.Returned exchange (.ok response) ∧ response.Grants exchange.command

end History

/-! ## What a reaction sends -/

/-- What a turn sends, and how that moves the session on in its plan. -/
inductive Sends (context : SessionContext) (now : Instant) (session : Session) (turn : Turn) : Prop
  | nothing (unsent : turn.effects.filterMap (Effect.exchange? context now) = [])
      (steps : turn.IsCalm → turn.session.stepsTaken = session.stepsTaken)
  | step {step : PlannedStep} {exchange : Exchange} {pending : PendingCommand}
      (free : session.pending = none)
      (next : (plan session.record.componentCount)[session.stepsTaken]? = some step)
      (carries : step.SentBy context session.record exchange)
      (sent : turn.effects.filterMap (Effect.exchange? context now) = [exchange])
      (slot : turn.session.pending = some pending) (token : exchange.token = some pending.token)
      (command : exchange.command = pending.command)
      (steps : turn.session.stepsTaken = session.stepsTaken + 1)
  | farewell (terminal : turn.session.state.isTerminal = true)
      (sent : IsFarewellOnly (turn.effects.filterMap (Effect.exchange? context now)))

section

variable {context : SessionContext} {now : Instant} {session : Session} {pool : InstanceIdPool}
  {event : Event} {turn : Turn}

theorem isFarewellOnly_fail {reason : UpdateError} (live : session.state.isTerminal = false) :
    IsFarewellOnly ((Turn.fail context now reason ⟨session, pool, []⟩).effects.filterMap
      (Effect.exchange? context now)) := by
  obtain ⟨farewell, effects, shape⟩ := Turn.effects_fail context now reason ⟨session, pool, []⟩ live
  rw [effects]
  rcases shape with rfl | ⟨_, lease, rfl⟩
  · exact .inl rfl
  · exact .inr ⟨_, rfl, rfl, rfl, rfl⟩

theorem Reaction.sends (reaction : Reaction context now session pool event turn)
    (live : session.state.isTerminal = false)
    (inRange : session.state.InRange session.record.componentCount)
    (free : event = .proceed → session.pending = none) : Sends context now session turn := by
  cases reaction with
  | failed cause =>
    refine .farewell ?_ (isFarewellOnly_fail live)
    rw [Turn.session_fail _ _ _ _ live]
    rfl
  | submitted due acquired =>
    obtain ⟨step, next, command, reads⟩ := readsAs_of_nextDraft? due
    have steps : session.stepsTaken = session.state.place session.record.componentCount := by
      simp [Session.stepsTaken, free rfl]
    refine .step (free rfl) (by rw [steps, next]) ⟨command, _, reads, by rw [command]⟩
      rfl rfl rfl rfl ?_
    rw [steps]
    rfl
  | acknowledged awaited own granted next_eq =>
    refine .nothing rfl fun _ => ?_
    simp [Session.stepsTaken, Session.settled, Session.informed, awaited.slot,
      SessionState.place_of_acknowledged? inRange next_eq]
  | accepted awaited state =>
    refine .nothing rfl fun _ => ?_
    simp [Session.stepsTaken, Session.settled, Session.informed, awaited.slot, state,
      SessionState.place]
  | declined awaited state =>
    have lt := inRange.position _ (by rw [state]; rfl)
    refine .nothing rfl fun _ => ?_
    simp only [Session.stepsTaken, Session.settled, Session.informed, awaited.slot, state]
    rw [SessionState.place_afterComponent lt]
    rfl
  | activated awaited state =>
    refine .nothing rfl fun _ => ?_
    simp [Session.stepsTaken, Session.settled, Session.informed, awaited.slot, state,
      SessionState.place]
  | finished state =>
    have lt := inRange.position _ (by rw [state]; rfl)
    refine .nothing rfl fun _ => ?_
    simp only [Session.stepsTaken, state]
    rw [SessionState.place_afterComponent lt]
    rfl
  | untimed | brokeDown | overran =>
    exact .nothing rfl fun calm => by simp [Turn.IsCalm, Effect.isCrash] at calm
  | ignored | answered | deferred => exact .nothing rfl fun _ => rfl

end

namespace Run.Goes

variable {context : SessionContext} {now : Instant} {pool : InstanceIdPool} {run : Run}
  {step : RunStep} {session : Session} {turn : Turn}

theorem sends (goes : run.Goes context now pool step session turn) :
    Sends context now session turn := by
  rcases goes.turned with ⟨reason, rfl⟩ | ⟨event, reaction, inRange, free⟩
  · refine .farewell ?_ (isFarewellOnly_fail goes.live)
    rw [Turn.session_fail _ _ _ _ goes.live]
    rfl
  · exact reaction.sends goes.live inRange free

/-- A session that has just started has taken no step of its plan. -/
theorem stepsTaken_eq (goes : run.Goes context now pool step session turn) :
    session.stepsTaken = run.session.stepsTaken := by
  rcases goes.origin with rfl | ⟨fresh, rfl⟩
  · rfl
  · rw [fresh]
    rfl

theorem sent_eq (goes : run.Goes context now pool step session turn) :
    step.sent = turn.effects.filterMap (Effect.exchange? context now) := by
  obtain ⟨before, _, _, rfl⟩ := goes.settled
  exact sent_settle context now before

end Run.Goes

/-! ## The requests follow the plan -/

/-- The exchanges of a run follow its plan, and as long as the run is open they are exactly the
steps that its session has taken. -/
structure Run.OnPlan (context : SessionContext) (sent : List Exchange) (run : Run) : Prop where
  follows : FollowsPlan context run.session.record sent
  upTo : run.isOpen = true → List.Forall₂ (PlannedStep.SentBy context run.session.record)
    ((plan run.session.record.componentCount).take run.session.stepsTaken) sent

section

variable {context : SessionContext} {now : Instant} {pool : InstanceIdPool} {run : Run}
  {sent : List Exchange}

theorem FollowsPlan.of_take {record : DeviceRecord} {steps : Nat} {farewell : List Exchange}
    (carried : List.Forall₂ (PlannedStep.SentBy context record)
      ((plan record.componentCount).take steps) sent)
    (only : IsFarewellOnly farewell) : FollowsPlan context record (sent ++ farewell) :=
  ⟨_, _, _, List.take_prefix _ _, rfl, carried, only⟩

theorem Run.OnPlan.of_eq {after : Run} (onPlan : run.OnPlan context sent)
    (session : after.session = run.session) (status : after.status = run.status) :
    after.OnPlan context sent := by
  obtain ⟨follows, upTo⟩ := onPlan
  refine ⟨by rw [session]; exact follows, fun taken => ?_⟩
  rw [session]
  exact upTo (by simpa [isOpen, status] using taken)

/-- A turn that goes by the plan keeps the run on it. -/
theorem Run.Goes.onPlan {step : RunStep} {session : Session} {turn : Turn}
    (goes : run.Goes context now pool step session turn) (onPlan : run.OnPlan context sent) :
    step.run.OnPlan context (sent ++ step.sent) := by
  have carried := onPlan.upTo goes.taken
  rw [← goes.record, ← goes.stepsTaken_eq] at carried
  have record : step.run.session.record = session.record := goes.after.1.trans goes.record.symm
  rw [goes.sent_eq]
  cases goes.sends with
  | nothing unsent steps =>
    rw [unsent]
    refine ⟨by rw [record]; exact .of_take carried (.inl rfl), fun taken => ?_⟩
    obtain ⟨calm, _, session_eq⟩ := goes.going_on taken
    rw [record, session_eq, steps calm, List.append_nil]
    exact carried
  | @step planned exchange pending free next carries one slot token command steps =>
    have carried_next : List.Forall₂ (PlannedStep.SentBy context session.record)
        ((plan session.record.componentCount).take (session.stepsTaken + 1))
        (sent ++ [exchange]) := by
      rw [List.take_add_one, next]
      exact List.rel_append carried (.cons carries .nil)
    rw [one]
    refine ⟨?_, fun taken => ?_⟩
    · rw [record]
      simpa using FollowsPlan.of_take carried_next (.inl rfl)
    · obtain ⟨_, _, session_eq⟩ := goes.going_on taken
      rw [record, session_eq, steps]
      exact carried_next
  | farewell terminal only =>
    refine ⟨by rw [record]; exact .of_take carried only, fun taken => ?_⟩
    obtain ⟨_, live, _⟩ := goes.going_on taken
    rw [terminal] at live
    cases live

/-- Whatever an action does to a run, the run stays on its plan. -/
theorem onPlan_act {action : RunAction} (sound : run.Sound) (onPlan : run.OnPlan context sent) :
    (run.act context now pool action).run.OnPlan context
      (sent ++ (run.act context now pool action).sent) := by
  rcases rests_or_goes _ _ _ _ _ sound with rests | ⟨session, turn, goes⟩
  · rw [rests.sent, List.append_nil]
    exact onPlan.of_eq rests.session rests.status
  · exact goes.onPlan onPlan

end

/-! ## Every request but the last is granted -/

namespace History

/-- The session still waits for the outcome of an exchange, which is under way or has put its
outcome into the inbox. -/
def Awaits (history : History) (exchange : Exchange) : Prop :=
  ∃ pending, history.run.session.pending = some pending ∧ exchange.token = some pending.token ∧
    exchange.command = pending.command ∧
    (exchange ∈ history.run.exchanges ∨
      ∃ outcome, Event.response pending.token outcome ∈ history.run.inbox ∧
        history.Returned exchange outcome)

/-- As long as a run is open, each of its exchanges is granted or awaited. -/
def Accounted (history : History) : Prop :=
  history.run.isOpen = true →
    ∀ exchange ∈ history.sent, history.Granted exchange ∨ history.Awaits exchange

variable {context : SessionContext} {history : History} {moment : Moment} {exchange : Exchange}

theorem Returned.extend {outcome : Except UpdateError Response}
    (returned : history.Returned exchange outcome) :
    (history.extend context moment).Returned exchange outcome := by
  obtain ⟨entry, old, ends⟩ := returned
  exact ⟨entry, mem_entries_extend old, ends⟩

theorem Granted.extend (granted : history.Granted exchange) :
    (history.extend context moment).Granted exchange := by
  obtain ⟨response, returned, grants⟩ := granted
  exact ⟨response, returned.extend, grants⟩

/-- A moment at which an exchange ends is its return. -/
theorem returned_extend {outcome : Except UpdateError Response}
    (ends : history.run.Ends moment.now moment.action exchange outcome) :
    (history.extend context moment).Returned exchange outcome :=
  ⟨_, List.mem_append_right _ (List.mem_singleton_self _), ends⟩

/-- A session that waits for nothing has had all its requests granted. -/
theorem Accounted.granted (accounted : history.Accounted) (taken : history.run.isOpen = true)
    (free : history.run.session.pending = none) (sent : exchange ∈ history.sent) :
    history.Granted exchange := by
  rcases accounted taken exchange sent with granted | ⟨pending, slot, _⟩
  · exact granted
  · simp [free] at slot

theorem Awaits.extend (awaits : history.Awaits exchange)
    (slot : (history.run.meet context moment).run.session.pending = history.run.session.pending)
    (carried : exchange ∈ history.run.exchanges →
      exchange ∈ (history.run.meet context moment).run.exchanges)
    (kept : ∀ token outcome, Event.response token outcome ∈ history.run.inbox →
      Event.response token outcome ∈ (history.run.meet context moment).run.inbox) :
    (history.extend context moment).Awaits exchange := by
  obtain ⟨pending, held, token, command, under_way | ⟨outcome, arrived, returned⟩⟩ := awaits
  · exact ⟨pending, slot.trans held, token, command, .inl (carried under_way)⟩
  · exact ⟨pending, slot.trans held, token, command,
      .inr ⟨outcome, kept _ _ arrived, returned.extend⟩⟩

/-- An exchange whose outcome is handled and grants the pending command is granted. -/
theorem Awaits.granted {token : Nat} {response : Response} {pending : PendingCommand}
    {inbox : List Event} (awaits : history.Awaits exchange) (driven : history.run.Driven)
    (queue : history.run.inbox = Event.response token (.ok response) :: inbox)
    (awaited : history.run.session.Awaits token pending)
    (grants : response.Grants pending.command) : history.Granted exchange := by
  obtain ⟨other, slot, token_eq, command, under_way | ⟨outcome, arrived, returned⟩⟩ := awaits
  · have none_arrived := (driven.only_exchange under_way).2.1
    rw [queue] at none_arrived
    cases none_arrived
  · obtain rfl : other = pending := Option.some.inj (slot.symm.trans awaited.slot)
    rw [queue, List.mem_cons] at arrived
    have outcome_eq : outcome = .ok response := by
      rcases arrived with head | later
      · exact (Event.response.inj head).2
      · have only : { history.run with
            inbox := Event.response token (.ok response) :: inbox }.Driven := by
          rw [← queue]
          exact driven
        obtain ⟨_, _, _, _, _, flight⟩ := only.response
        have none_later := List.map_eq_nil_iff.mp (List.append_eq_nil_iff.mp flight).2
        rw [List.filterMap_eq_nil_iff] at none_later
        cases none_later _ later
    subst outcome_eq
    exact ⟨response, returned, command ▸ grants⟩

/-- An exchange that is sent is awaited, unless the run ends with it. -/
theorem awaits_of_sent (sound : history.run.Sound)
    (taken : (history.run.meet context moment).run.isOpen = true)
    (sent : exchange ∈ (history.run.meet context moment).sent) :
    (history.extend context moment).Awaits exchange := by
  rcases rests_or_goes context _ _ _ _ sound with rests | ⟨session, turn, goes⟩
  · rw [Run.meet, rests.sent] at sent
    cases sent
  · obtain ⟨calm, live, session_eq⟩ := goes.going_on taken
    obtain ⟨before, _, _, settled⟩ := goes.settled
    rw [Run.meet, goes.sent_eq] at sent
    cases goes.sends with
    | nothing unsent =>
      rw [unsent] at sent
      cases sent
    | @step step other pending free next carries one slot token command =>
      obtain rfl : exchange = other := by simpa [one] using sent
      refine ⟨pending, ?_, token, command, .inl ?_⟩
      · rw [run_extend, Run.meet, session_eq, slot]
      · rw [run_extend, Run.meet, settled, Run.exchanges_settle, one]
        exact List.mem_append_right _ (List.mem_singleton_self _)
    | farewell terminal =>
      rw [terminal] at live
      cases live

/-- An outcome that is not handled next stays in the inbox. -/
theorem mem_inbox_of_next? {run : Run} {now : Instant} {action : RunAction} {event : Event}
    {inbox : List Event} (next : run.next? now action = some (event, inbox))
    (other : event.token? = none) (token : Nat) (outcome : Except UpdateError Response)
    (waits : Event.response token outcome ∈ run.inbox) : Event.response token outcome ∈ inbox := by
  obtain ⟨_, ⟨_, queue⟩ | ⟨_, _, _, rfl⟩⟩ := Run.next?_eq_some.mp next
  · rw [queue, List.mem_cons] at waits
    rcases waits with rfl | later
    · cases other
    · exact later
  · exact waits

/-- A turn that does not end the run leaves every earlier exchange granted or awaited. -/
theorem accounted_turn {event : Event} {inbox : List Event} {turn : Turn}
    (sound : history.run.Sound) (accounted : history.Accounted)
    (running : history.run.status = .running)
    (next : history.run.next? moment.now moment.action = some (event, inbox))
    (reaction : Reaction context moment.now history.run.session moment.pool event turn)
    (turned : history.run.meet context moment =
      { history.run with inbox := inbox }.settle context moment.now turn)
    (taken : (history.run.meet context moment).run.isOpen = true)
    (old : exchange ∈ history.sent) :
    (history.extend context moment).Granted exchange ∨
      (history.extend context moment).Awaits exchange := by
  have driven := (sound.driven running).2
  have still : { history.run with inbox := inbox }.status = .running := running
  have before : history.run.isOpen = true := by simp [Run.isOpen, running]
  rw [turned] at taken
  obtain ⟨calm, live⟩ := Run.calm_of_isOpen_settle still (reaction.orderly driven.live) taken
  obtain ⟨session_eq, _, inbox_eq⟩ :=
    (Run.settle_continues context moment.now { history.run with inbox := inbox } calm live).1
  -- An event that is no outcome leaves what the session waits for as it was.
  have keeps (other : event.token? = none)
      (slot : turn.session.pending = history.run.session.pending) :
      (history.extend context moment).Granted exchange ∨
        (history.extend context moment).Awaits exchange := by
    refine (accounted before exchange old).imp Granted.extend (·.extend ?_ ?_ ?_)
    · rw [turned, session_eq, slot]
    · rw [turned, Run.exchanges_settle]
      exact List.mem_append_left _
    · intro token outcome waits
      rw [turned, inbox_eq]
      exact List.mem_append_left _ (mem_inbox_of_next? next other token outcome waits)
  cases reaction with
  | failed cause =>
    rw [Turn.session_fail _ _ _ _ driven.live] at live
    cases live
  | untimed | brokeDown | overran => simp [Turn.IsCalm, Effect.isCrash] at calm
  | activated => cases live
  | submitted =>
    have free := (driven.next next).proceed.2.1
    exact .inl (accounted.granted before free old).extend
  | acknowledged awaited own granted | accepted awaited state command granted
  | declined awaited state command granted =>
    rcases accounted before exchange old with earlier | awaits
    · exact .inl earlier.extend
    · obtain ⟨_, ⟨_, queue⟩ | ⟨_, _, timer, _⟩⟩ := Run.next?_eq_some.mp next
      · exact .inl (awaits.granted driven queue awaited granted).extend
      · cases timer
  | ignored idle =>
    cases event with
    | response token outcome =>
      obtain ⟨pending, awaited, _⟩ := (driven.next next).response
      exact absurd awaited (idle pending)
    | _ => exact keeps rfl rfl
  | answered | deferred | finished => exact keeps rfl rfl

/-- Whatever happens, the requests of an open run stay accounted for. -/
theorem accounted_extend (sound : history.run.Sound) (accounted : history.Accounted) :
    (history.extend context moment).Accounted := by
  intro taken exchange sent
  rw [sent_extend, List.mem_append] at sent
  rcases sent with old | new
  swap
  · exact .inr (awaits_of_sent sound taken new)
  rw [run_extend] at taken
  obtain ⟨now, pool, action⟩ := moment
  generalize applied : history.run.meet context ⟨now, pool, action⟩ = step at taken
  have change : Run.Change context now pool history.run action step :=
    applied ▸ Run.change_act sound.live
  -- So does an action that moves neither the pending command nor its exchange.
  have keeps (before : history.run.isOpen = true)
      (slot : step.run.session.pending = history.run.session.pending)
      (carried : exchange ∈ history.run.exchanges → exchange ∈ step.run.exchanges)
      (kept : ∀ token outcome, Event.response token outcome ∈ history.run.inbox →
        Event.response token outcome ∈ step.run.inbox) :
      (history.extend context ⟨now, pool, action⟩).Granted exchange ∨
        (history.extend context ⟨now, pool, action⟩).Awaits exchange := by
    subst applied
    exact (accounted before exchange old).imp Granted.extend (·.extend slot carried kept)
  cases change with
  | began waiting =>
    have free : history.run.session.pending = none := by rw [(sound.fresh waiting).1]
    exact .inl (accounted.granted (by simp [Run.isOpen, waiting]) free old).extend
  | turned running next reaction =>
    exact accounted_turn sound accounted running next reaction applied (applied ▸ taken) old
  | @returned _ token ended outcome before token_eq ends =>
    rcases accounted before exchange old with granted | awaits
    · exact .inl granted.extend
    · obtain ⟨pending, slot, exchange_token, command, under_way | ⟨_, arrived, returned⟩⟩ := awaits
      · -- The exchange that ended is the only one.
        have only := (sound.only_exchange before under_way).2.1
        have found := List.mem_of_find?_eq_some ends.found
        rw [only, List.mem_singleton] at found
        subst found
        obtain rfl : token = pending.token := by simpa [token_eq] using exchange_token
        refine .inr ⟨pending, ?_, exchange_token, command, .inr ⟨outcome, ?_, returned_extend ends⟩⟩
        · rw [run_extend, applied]
          exact slot
        · rw [run_extend, applied]
          exact List.mem_append_right _ (List.mem_singleton_self _)
      · refine .inr ⟨pending, ?_, exchange_token, command, .inr ⟨_, ?_, returned.extend⟩⟩
        · rw [run_extend, applied]
          exact slot
        · rw [run_extend, applied]
          exact List.mem_append_left _ arrived
  | lost closed => exact absurd taken (by simpa [Run.isOpen, Run.without] using closed)
  | withdrawn token_eq ends =>
    obtain ⟨_, _, pending, _, token⟩ :=
      sound.only_exchange taken (List.mem_of_find?_eq_some ends.found)
    cases token_eq.symm.trans token
  | queued before => exact keeps before rfl id fun _ _ => List.mem_append_left _
  | idle | read => exact keeps taken rfl id fun _ _ => id

end History

/-! ## The result -/

/-- Whatever a run sends next, it is at most one request, and it is CancelUpdate unless every
earlier request is granted. -/
theorem sent_meet {context : SessionContext} {history : History} {moment : Moment}
    (sound : history.run.Sound) (accounted : history.Accounted) :
    (history.run.meet context moment).sent = [] ∨
      ∃ exchange, (history.run.meet context moment).sent = [exchange] ∧
        (exchange.IsFarewell ∨ ∀ earlier ∈ history.sent, history.Granted earlier) := by
  rcases rests_or_goes context _ _ _ _ sound with rests | ⟨session, turn, goes⟩
  · exact .inl rests.sent
  · rw [Run.meet, goes.sent_eq]
    cases goes.sends with
    | nothing unsent => exact .inl unsent
    | step free next carries one =>
      have granted : ∀ earlier ∈ history.sent, history.Granted earlier := fun earlier old =>
        accounted.granted goes.taken (goes.pending ▸ free) old
      exact .inr ⟨_, one, .inr granted⟩
    | farewell terminal only =>
      rcases only with unsent | ⟨cancel, one, isFarewell⟩
      · exact .inl unsent
      · exact .inr ⟨cancel, one, .inl isFarewell⟩

/-- The exchanges of a run are on its plan and accounted for at all times. -/
theorem onPlan_through (context : SessionContext) (record : DeviceRecord) (moments : List Moment) :
    let history := History.through context record moments
    history.run.Sound ∧ history.run.OnPlan context history.sent ∧ history.Accounted := by
  refine History.induct (motive := fun history => history.run.Sound ∧
    history.run.OnPlan context history.sent ∧ history.Accounted) ?_ ?_ moments
  · have nothing : FollowsPlan context record [] :=
      ⟨[], [], [], List.nil_prefix, rfl, .nil, .inl rfl⟩
    exact ⟨.waiting rfl rfl rfl rfl, ⟨nothing, fun _ => .nil⟩, fun _ _ sent => nomatch sent⟩
  · rintro history moment ⟨sound, onPlan, accounted⟩
    rw [History.run_extend, History.sent_extend]
    exact ⟨sound.act, onPlan_act sound onPlan, History.accounted_extend sound accounted⟩

/-- Whatever happens to a run, in whatever order, what it sends are the first requests of the plan
for its device and then at most one CancelUpdate. Nothing but CancelUpdate goes out before every
earlier request was answered with its own command code, SUCCESS and a body that can be read. -/
theorem commandOrder_through (context : SessionContext) (record : DeviceRecord)
    (moments : List Moment) :
    let history := History.through context record moments
    FollowsPlan context record history.sent ∧
      ∀ moment, (history.run.meet context moment).sent = [] ∨
        ∃ exchange, (history.run.meet context moment).sent = [exchange] ∧
          (exchange.IsFarewell ∨ ∀ earlier ∈ history.sent, history.Granted earlier) := by
  obtain ⟨sound, onPlan, accounted⟩ := onPlan_through context record moments
  have follows := onPlan.follows
  rw [(sound_through context record moments).2] at follows
  exact ⟨follows, fun moment => sent_meet sound accounted⟩

end FirmwareAgent
