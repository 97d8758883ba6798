import FirmwareAgent.Proofs.Coordinator.ProgressStream
import FirmwareAgent.Rehearsal.Directive

/-!
# What a rehearsal does to its host

A rehearsal does nothing to its host but what can happen to a fleet or to a coordinator, and it
reports nothing but what comes of that. So whatever holds of all histories of coordinators, or of
runs, holds of what a rehearsal reports.

* `Host.Goes` is a sequence of actions of a host, `Rehearsal.Leads` a part of a rehearsal that does
  such a sequence. `leads_act` and `leads_withCoordinator` are its steps, `leads_settle`,
  `leads_advance` and `leads_follow` its runs.
* `reports_play`: the entries of a rehearsal report on its host.
* `exists_history_of_play`: the entries of a rehearsed coordinator are told from its history.
* `exists_actions_of_play`: the entries of a rehearsed fleet are told from its actions.
  `Fleet.isLived_through`: what these are to one of its runs is a history of the run.
-/

namespace FirmwareAgent

/-! ## Actions of a host -/

/-- What the runs of a fleet tell by an action. -/
def Fleet.notifications (fleet : Fleet) : FleetAction → List Notification
  | .act place action => (fleet.act place action).2.filterMap Occurrence.notification?
  | _ => []

/-- What they tell through a list of actions, in that order. -/
def Fleet.tellings (fleet : Fleet) : List FleetAction → List Notification
  | [] => []
  | action :: actions => fleet.notifications action ++ (fleet.apply action).tellings actions

namespace Host

/-- What the action with the number makes of a host, and what is announced by it. -/
inductive Does (number : Nat) : Host → List Announcement → Host → Prop
  | fleet (own : Fleet) (action : FleetAction) :
      Does number (.fleet own) ((own.notifications action).map .notification)
        (.fleet (own.apply action))
  | coordinator (agent : Coordinator) (action : CoordinatorAction) :
      Does number (.coordinator agent) ((agent.apply number action).published.map .progress)
        (.coordinator (agent.apply number action).coordinator)

/-- What some actions make of a host, one after another. The first one has the number. -/
inductive Goes (host : Host) (number : Nat) : List Announcement → Host → Nat → Prop
  | stays : Goes host number [] host number
  | step {announced more : List Announcement} {next last : Host} {later : Nat}
      (goes : Goes host number announced next later) (does : next.Does later more last) :
      Goes host number (announced ++ more) last (later + 1)

theorem Goes.trans {host next last : Host} {number later latest : Nat}
    {announced more : List Announcement} (goes : host.Goes number announced next later)
    (on : next.Goes later more last latest) : host.Goes number (announced ++ more) last latest := by
  induction on with
  | stays => exact (List.append_nil announced).symm ▸ goes
  | step _ does ih => exact List.append_assoc announced _ _ ▸ ih.step does

end Host

/-! ## Parts of a rehearsal -/

/-- What is announced when the host shows something. -/
def Sight.announcement? : Sight → Option Announcement
  | notified notification => some (.notification notification)
  | published progress => some (.progress progress)
  | sent .. | answered .. => none

namespace Rehearsal

/-- Where a rehearsal stands with its host: the host, the number of things done to it, and what has
been announced since the last report. -/
def standing (rehearsal : Rehearsal) : Host × Nat × Array Announcement :=
  (rehearsal.host, rehearsal.acts, rehearsal.announcements)

/-- The second rehearsal has come of the first by actions of the host. -/
def Leads (before after : Rehearsal) : Prop :=
  ∃ announced, before.host.Goes before.acts announced after.host after.acts ∧
    after.announcements.toList = before.announcements.toList ++ announced

variable {rehearsal before next after : Rehearsal}

theorem Leads.of_standing (same : after.standing = before.standing) : before.Leads after := by
  obtain ⟨host, acts, announcements⟩ : after.host = before.host ∧ after.acts = before.acts ∧
      after.announcements = before.announcements := by simpa [standing] using same
  refine ⟨[], ?_, by rw [announcements, List.append_nil]⟩
  rw [host, acts]
  exact .stays

theorem Leads.trans (leads : before.Leads next) (on : next.Leads after) : before.Leads after := by
  obtain ⟨announced, goes, told⟩ := leads
  obtain ⟨more, goes_on, told_more⟩ := on
  exact ⟨announced ++ more, goes.trans goes_on, by rw [told_more, told, List.append_assoc]⟩

theorem Leads.then (leads : before.Leads next) (same : after.standing = next.standing) :
    before.Leads after :=
  leads.trans (.of_standing same)

theorem Leads.since (leads : next.Leads after) (same : next.standing = before.standing) :
    before.Leads after :=
  (Leads.of_standing same).trans leads

/-! ### What stays within the rehearsal -/

theorem standing_foldl {α : Type} {change : Rehearsal → α → Rehearsal}
    (keeps : ∀ rehearsal item, (change rehearsal item).standing = rehearsal.standing)
    (items : List α) : (items.foldl change rehearsal).standing = rehearsal.standing := by
  induction items generalizing rehearsal with
  | nil => rfl
  | cons item items ih => exact ih.trans (keeps rehearsal item)

theorem standing_lineUp (party : Party) :
    (rehearsal.lineUp party).standing = rehearsal.standing := by
  unfold lineUp
  split <;> rfl

theorem standing_rouse : rehearsal.rouse.standing = rehearsal.standing := by
  refine standing_foldl (fun rehearsal place => ?_) _
  dsimp only
  split
  · exact standing_lineUp _
  · rfl

theorem standing_readmit : rehearsal.readmit.standing = rehearsal.standing :=
  standing_foldl (fun _ => standing_lineUp) rehearsal.aside

theorem standing_deliver (ticket : Nat) (answer : Except UpdateError Response) :
    (rehearsal.deliver ticket answer).standing = rehearsal.standing := by
  unfold deliver
  split
  · exact standing_lineUp _
  · rfl

theorem standing_rewind (place : Nat) :
    (rehearsal.rewind place).standing = rehearsal.standing := by
  unfold rewind
  dsimp only
  split
  · split <;> rfl
  · rfl

theorem standing_countTurn : rehearsal.countTurn.standing = rehearsal.standing := by
  unfold countTurn
  split
  · rfl
  · split
    · exact standing_readmit
    · rfl

/-! ### What is done to the host -/

variable (rehearsal) in
theorem standing_see (sight : Sight) : (rehearsal.see sight).standing =
    (rehearsal.host, rehearsal.acts,
      rehearsal.announcements ++ sight.announcement?.toList.toArray) := by
  cases sight with
  | sent place exchange => exact (standing_lineUp _).trans (by simp [standing, Sight.announcement?])
  | notified notification => simp [see, standing, Sight.announcement?]
  | published progress => simp [see, standing, Sight.announcement?]
  | answered ticket answer =>
    exact (standing_deliver _ _).trans (by simp [standing, Sight.announcement?])

theorem standing_withHost (host : Host) (sights : List Sight) :
    (rehearsal.withHost host sights).standing =
      (host, rehearsal.acts + 1,
        rehearsal.announcements ++ (sights.filterMap Sight.announcement?).toArray) := by
  unfold withHost
  suffices seen : ∀ rehearsal : Rehearsal, (sights.foldl see rehearsal).standing =
      (rehearsal.host, rehearsal.acts,
        rehearsal.announcements ++ (sights.filterMap Sight.announcement?).toArray) from seen _
  induction sights with
  | nil => exact fun rehearsal => by simp [standing]
  | cons sight sights ih =>
    intro rehearsal
    have seen := standing_see rehearsal sight
    simp only [standing, Prod.mk.injEq] at seen
    rw [List.foldl_cons, ih, seen.1, seen.2.1, seen.2.2]
    cases announced : sight.announcement? <;> simp [announced]

/-- Something that can happen to the host is done to it. -/
theorem leads_withHost {host : Host} {sights : List Sight}
    (does : rehearsal.host.Does rehearsal.acts (sights.filterMap Sight.announcement?) host) :
    rehearsal.Leads (rehearsal.withHost host sights) := by
  have done := rehearsal.standing_withHost host sights
  simp only [standing, Prod.mk.injEq] at done
  refine ⟨_, ?_, by rw [done.2.2, Array.toList_append]⟩
  rw [done.1, done.2.1]
  exact .step .stays does

/-- What a coordinator's events announce is the progress in them. -/
theorem announced_events (events : List CoordinatorEvent) :
    (events.map Sight.ofCoordinatorEvent).filterMap Sight.announcement? =
      (events.filterMap CoordinatorEvent.progress?).map .progress := by
  rw [List.filterMap_map, List.map_filterMap]
  refine List.filterMap_congr fun event _ => ?_
  cases event <;> rfl

theorem announced_occurrences (place : Nat) (occurrences : List Occurrence) :
    (occurrences.map (Sight.ofOccurrence place)).filterMap Sight.announcement? =
      (occurrences.filterMap Occurrence.notification?).map .notification := by
  rw [List.filterMap_map, List.map_filterMap]
  refine List.filterMap_congr fun occurrence _ => ?_
  cases occurrence <;> rfl

/-- An action of the coordinator is done. -/
theorem leads_withCoordinator {agent next : Coordinator} {events : List CoordinatorEvent}
    {result : CallResult} (host : rehearsal.host = .coordinator agent) (action : CoordinatorAction)
    (applied : agent.apply rehearsal.acts action = ⟨next, events, result⟩) :
    rehearsal.Leads (rehearsal.withCoordinator next events) := by
  have does : Host.Does rehearsal.acts (.coordinator agent) _ _ := .coordinator agent action
  rw [applied] at does
  refine leads_withHost ?_
  rw [announced_events, host]
  exact does

/-- An action of the fleet is done. -/
theorem leads_withFleet {own : Fleet} (host : rehearsal.host = .fleet own) (action : FleetAction)
    {sights : List Sight} (announced : sights.filterMap Sight.announcement? =
      (own.notifications action).map .notification) :
    rehearsal.Leads (rehearsal.withHost (.fleet (own.apply action)) sights) := by
  refine leads_withHost ?_
  rw [host, announced]
  exact .fleet own action

/-- Whatever happens to a run of a coordinator is an action of the coordinator. -/
theorem exists_action_of_act (agent : Coordinator) (number place : Nat) (action : RunAction) :
    ∃ doing, agent.apply number doing =
      ⟨(agent.act place action).1, (agent.act place action).2, .done⟩ := by
  cases located : agent.fleet.runs[place]? with
  | none =>
    -- Nothing happens, as if no time had passed.
    exact ⟨.elapse 0, by simp [Coordinator.act, Fleet.act, located, Coordinator.observeAll,
      Coordinator.apply, Fleet.elapse]⟩
  | some run =>
    have found := Fleet.place?_eq_some.mpr
      ⟨Fleet.endpoints_eq_some.mpr ⟨run, located, rfl⟩, rfl⟩
    exact ⟨.act run.endpoint (agent.fleet.numberOf run.endpoint place) action,
      by simp [Coordinator.apply, found]⟩

theorem leads_act (place : Nat) (action : RunAction) :
    rehearsal.Leads (rehearsal.act place action) := by
  cases host : rehearsal.host with
  | fleet own =>
    simp only [act, host, Host.act]
    exact leads_withFleet host (.act place action) (announced_occurrences place _)
  | coordinator agent =>
    obtain ⟨doing, applied⟩ := exists_action_of_act agent rehearsal.acts place action
    simp only [act, host, Host.act]
    exact leads_withCoordinator host doing applied

/-! ### Turns -/

theorem leads_handleEvents (place fuel : Nat) :
    rehearsal.Leads (rehearsal.handleEvents place fuel) := by
  induction fuel generalizing rehearsal with
  | zero => exact .of_standing rfl
  | succ fuel ih =>
    unfold handleEvents
    split
    · exact .of_standing rfl
    · split
      · exact .of_standing rfl
      · exact (leads_act place .handle).trans ih
      · exact leads_act place .expire
      · exact .of_standing rfl

theorem leads_sessionTurn (place : Nat) (first : RunAction) :
    rehearsal.Leads (rehearsal.sessionTurn place first) :=
  ((leads_act place first).trans (leads_handleEvents place stretch)).then (standing_rewind place)

theorem leads_hangUp (conversation : Conversation) (action : RunAction) :
    rehearsal.Leads (rehearsal.hangUp conversation action) :=
  ((leads_act conversation.place action).then standing_rouse).since rfl

theorem leads_conclude (conversation : Conversation) :
    rehearsal.Leads (rehearsal.conclude conversation) := by
  unfold conclude
  split
  · exact leads_hangUp _ _
  · exact .of_standing rfl

theorem leads_pause (conversation : Conversation) :
    rehearsal.Leads (rehearsal.pause conversation) := by
  unfold pause
  dsimp only
  split
  · exact (leads_conclude _).since rfl
  · split <;> exact .of_standing rfl

theorem leads_pull (conversation : Conversation) (requests : List Request) :
    rehearsal.Leads (pull conversation requests rehearsal) := by
  induction requests generalizing rehearsal conversation with
  | nil => exact leads_pause conversation
  | cons request later ih =>
    unfold pull
    split
    · split
      · exact ((leads_act _ _).then standing_rouse).since rfl
      · exact (ih conversation).since rfl
    · exact (ih conversation).since rfl

theorem leads_attend (conversation : Conversation) :
    rehearsal.Leads (rehearsal.attend conversation) := by
  unfold attend
  dsimp only
  split <;> exact (leads_pull _ _).since rfl

theorem leads_goOn (conversation : Conversation) :
    rehearsal.Leads (rehearsal.goOn conversation) := by
  unfold goOn
  split
  · exact leads_attend _
  · exact .of_standing rfl
  · exact (leads_pull _ _).since rfl
  · split
    · exact leads_conclude _
    · exact .of_standing rfl

theorem leads_targetTurn (party : Party) : rehearsal.Leads (rehearsal.targetTurn party) := by
  unfold targetTurn
  split
  · exact .of_standing rfl
  · rename_i conversation _
    refine (leads_goOn conversation).trans ?_
    dsimp only
    split
    · split
      · exact leads_hangUp _ _
      · exact .of_standing rfl
    · exact .of_standing rfl

theorem leads_takeTurn (party : Party) : rehearsal.Leads (rehearsal.takeTurn party) := by
  cases party with
  | session place => exact leads_sessionTurn place .begin
  | resumed place => exact leads_sessionTurn place .handle
  | target place token => exact leads_targetTurn _

/-- A wait ends as it does when its call goes on. -/
theorem leads_endWait? (found : rehearsal.endWait? = some after) : rehearsal.Leads after := by
  unfold endWait? at found
  cases host : rehearsal.host with
  | fleet own => simp [host] at found
  | coordinator agent =>
    simp only [host] at found
    obtain ⟨wait, _, ended⟩ := List.exists_of_findSome?_eq_some found
    obtain ⟨⟨rest, report⟩, resumed, rfl⟩ := Option.map_eq_some_iff.mp ended
    -- The wait that goes on is the first one with the ticket.
    obtain ⟨own, listed, _⟩ := Option.bind_eq_some_iff.mp resumed
    have waits : agent.wait? own.endpoint wait.ticket = some own := by
      simp [Coordinator.wait?, listed]
    have applied : agent.apply rehearsal.acts (.wake own.endpoint wait.ticket) =
        ⟨rest, [], .returned report⟩ := by simp [Coordinator.apply, waits, resumed]
    exact (leads_withCoordinator host _ applied).since rfl

theorem leads_finishRead? (found : rehearsal.finishRead? = some after) :
    rehearsal.Leads after := by
  obtain ⟨place, _, rfl⟩ := Option.map_eq_some_iff.mp found
  exact leads_act place (.finishRead 0)

theorem leads_tick? (found : rehearsal.tick? = some after) : rehearsal.Leads after := by
  unfold tick? at found
  split at found
  · obtain rfl := Option.some.inj found
    exact ((leads_takeTurn _).then standing_countTurn).since rfl
  · rcases (Option.orElse_eq_some ..).mp found with ended | ⟨_, found⟩
    · exact leads_endWait? ended
    · rcases (Option.orElse_eq_some ..).mp found with readmitted | ⟨_, read⟩
      · obtain ⟨_, same⟩ := Option.ite_none_left_eq_some.mp readmitted
        exact Option.some.inj same ▸ .of_standing standing_readmit
      · exact leads_finishRead? read

theorem leads_settleUntil (stop : Rehearsal → Bool) (fuel : Nat) :
    rehearsal.Leads (rehearsal.settleUntil stop fuel) := by
  induction fuel generalizing rehearsal with
  | zero => exact .of_standing rfl
  | succ fuel ih =>
    unfold settleUntil
    split
    · exact .of_standing rfl
    · split
      · exact (leads_tick? ‹_›).trans ih
      · exact .of_standing rfl

theorem leads_settle : rehearsal.Leads rehearsal.settle :=
  leads_settleUntil _ _

/-! ### The clock -/

/-- Time passes for a coordinator as it does for its fleet, and so do other things that happen to
the fleet alone. -/
theorem leads_elapse (nanos : Nat) : rehearsal.Leads
    (rehearsal.withHost (rehearsal.host.modifySessions (·.elapse nanos)) []) := by
  cases host : rehearsal.host with
  | fleet own => exact leads_withFleet host (.elapse nanos) rfl
  | coordinator agent => exact leads_withCoordinator host (.elapse nanos) rfl

theorem leads_moveTo (moment : Instant) : rehearsal.Leads (rehearsal.moveTo moment) := by
  refine Leads.then ?_ (standing_foldl (fun _ => standing_lineUp) _)
  exact (leads_elapse _).since rfl

theorem leads_advance (moment : Instant) (fuel : Nat) :
    rehearsal.Leads (rehearsal.advance moment fuel) := by
  induction fuel generalizing rehearsal with
  | zero => exact leads_moveTo moment
  | succ fuel ih =>
    unfold advance
    split
    · split
      · exact ((leads_moveTo _).trans leads_settle).trans ih
      · exact leads_moveTo moment
    · exact leads_moveTo moment

theorem leads_playUntil (stop : Rehearsal → Bool) (fuel : Nat) :
    rehearsal.Leads (rehearsal.playUntil stop fuel) := by
  induction fuel generalizing rehearsal with
  | zero => exact .of_standing rfl
  | succ fuel ih =>
    unfold playUntil
    dsimp only
    refine (leads_settleUntil stop rehearsal.budget).trans ?_
    split
    · exact .of_standing rfl
    · split
      · exact (leads_moveTo _).trans ih
      · exact .of_standing rfl

/-! ### Directives -/

theorem leads_putRequest (endpoint : EndpointId) (request : Request) :
    rehearsal.Leads (rehearsal.putRequest endpoint request).2 := by
  unfold putRequest
  dsimp only
  split
  · rename_i agent host
    exact leads_withCoordinator host (.inbound endpoint request) rfl
  · split
    · exact .of_standing rfl
    · exact leads_act _ _

theorem leads_ask (endpoint : EndpointId) (incoming : Incoming) :
    rehearsal.Leads (rehearsal.ask endpoint incoming).2 := by
  unfold ask
  split
  · exact leads_putRequest endpoint _
  · rename_i bytes agent host
    dsimp only
    rw [Coordinator.inboundBytes]
    cases Coordinator.readInbound bytes with
    | error error => exact .of_standing rfl
    | ok request => exact leads_withCoordinator host (.inbound endpoint request) rfl
  · split
    · exact leads_putRequest endpoint _
    · exact .of_standing rfl

theorem leads_cancelSession (endpoint : EndpointId) :
    rehearsal.Leads (rehearsal.cancelSession endpoint).2 := by
  unfold cancelSession
  split
  · exact .of_standing rfl
  · split
    · exact leads_act _ _
    · exact .of_standing rfl

theorem leads_cancel (endpoint : EndpointId) :
    rehearsal.Leads (rehearsal.cancel endpoint).2 := by
  unfold cancel
  split
  · exact leads_cancelSession endpoint
  · rename_i agent host
    split
    · rename_i next events cancelled
      have applied : agent.apply rehearsal.acts (.cancel endpoint) = ⟨next, events, .done⟩ := by
        simp [Coordinator.apply, cancelled]
      exact leads_withCoordinator host _ applied
    · exact .of_standing rfl

theorem leads_wait (endpoint : EndpointId) :
    rehearsal.Leads (rehearsal.wait endpoint).2 := by
  unfold wait
  split
  · split
    · exact .of_standing rfl
    · split <;> exact .of_standing rfl
  · rename_i agent host
    dsimp only
    split
    · rename_i next begun
      have applied : agent.apply rehearsal.acts (.wait endpoint) = ⟨next, [], .done⟩ := by
        simp [Coordinator.apply, begun]
      exact leads_withCoordinator host _ applied
    · exact .of_standing rfl

theorem leads_perform (endpoint : EndpointId) (deed : Deed) :
    rehearsal.Leads (rehearsal.perform endpoint deed).2 := by
  cases deed with
  | ask incoming => exact leads_ask endpoint incoming
  | cancel => exact leads_cancel endpoint
  | cancelSession => exact leads_cancelSession endpoint
  | wait => exact leads_wait endpoint

theorem leads_performAll (deeds : List (EndpointId × Deed)) :
    rehearsal.Leads (rehearsal.performAll deeds).2 := by
  induction deeds generalizing rehearsal with
  | nil => exact .of_standing rfl
  | cons head deeds ih =>
    exact ((leads_perform head.1 head.2).then standing_rouse).trans ih

theorem leads_await (promises : List Promise) :
    rehearsal.Leads (rehearsal.await promises).2 :=
  leads_playUntil _ _

theorem leads_start (device : DeviceRecord) : rehearsal.Leads (rehearsal.start device).2 := by
  unfold start
  split
  · rename_i own host
    exact leads_withFleet host (.add device) rfl
  · rename_i agent host
    split
    · rename_i next progress started
      have applied : agent.apply rehearsal.acts (.start device) =
          ⟨next, [.published progress], .done⟩ := by simp [Coordinator.apply, started]
      exact leads_withCoordinator host _ applied
    · exact .of_standing rfl

theorem leads_waitFor (endpoint : EndpointId) (goal : Goal) :
    rehearsal.Leads (rehearsal.waitFor endpoint goal).2 := by
  unfold waitFor
  split
  · exact .of_standing rfl
  · dsimp only
    split <;> exact leads_playUntil _ _

theorem leads_acquire {endpoint : EndpointId} {id : InstanceId}
    (acquired : rehearsal.acquire endpoint = .ok (id, after)) : rehearsal.Leads after := by
  unfold acquire at acquired
  split at acquired
  · rename_i lent fleet acquisition
    obtain ⟨rfl, rfl⟩ := Prod.mk.inj (Except.ok.inj acquired)
    cases host : rehearsal.host with
    | fleet own =>
      have applied : own.apply (.acquire endpoint) = fleet := by
        simp only [host, Host.sessions] at acquisition
        simp [Fleet.apply, acquisition]
      exact applied ▸ leads_withFleet host (.acquire endpoint) rfl
    | coordinator agent =>
      have applied : agent.apply rehearsal.acts (.acquire endpoint) =
          ⟨{ agent with fleet := fleet }, [], .lent lent⟩ := by
        simp only [host, Host.sessions] at acquisition
        simp [Coordinator.apply, acquisition]
      exact leads_withCoordinator host _ applied
  · cases acquired

theorem leads_acquireAll (endpoint : EndpointId) (fuel : Nat) :
    rehearsal.Leads (acquireAll endpoint fuel rehearsal).2 := by
  induction fuel generalizing rehearsal with
  | zero => exact .of_standing rfl
  | succ fuel ih =>
    unfold acquireAll
    split
    · exact (leads_acquire ‹_›).trans ih
    · exact .of_standing rfl

theorem leads_release (endpoint : EndpointId) (id : InstanceId) : rehearsal.Leads
    (rehearsal.withHost (rehearsal.host.modifySessions (·.release endpoint id)) []) := by
  cases host : rehearsal.host with
  | fleet own => exact leads_withFleet host (.release endpoint id) rfl
  | coordinator agent => exact leads_withCoordinator host (.release endpoint id) rfl

theorem leads_clear : rehearsal.Leads rehearsal.clear := by
  unfold clear
  split
  · exact .of_standing rfl
  · rename_i agent host
    exact leads_withCoordinator host .clearFinishedProgress rfl

variable (rehearsal) in
theorem leads_follow (directive : Directive) :
    rehearsal.Leads (rehearsal.follow directive).2 := by
  cases directive with
  | start device => exact (leads_start device).then standing_rouse
  | script script => exact .of_standing rfl
  | one endpoint deed =>
    exact ((leads_perform endpoint deed).then standing_rouse).trans (leads_await _)
  | several deeds => exact (leads_performAll deeds).trans (leads_await _)
  | advance millis => exact leads_advance _ _
  | waitFor endpoint goal => exact leads_waitFor endpoint goal
  | acquire endpoint =>
    dsimp only [follow]
    split
    · exact leads_acquire ‹_›
    · exact .of_standing rfl
  | acquireAll endpoint =>
    dsimp only [follow]
    exact leads_acquireAll endpoint _
  | release endpoint id => exact leads_release endpoint id
  | subscribe =>
    dsimp only [follow, subscribe]
    split <;> exact .of_standing rfl
  | drain receiver =>
    dsimp only [follow, drain]
    split
    · exact .of_standing rfl
    · exact .of_standing rfl
    · split <;> exact .of_standing rfl
  | clear => exact leads_clear
  | nothing => exact .of_standing rfl

end Rehearsal

/-! ## What a rehearsal reports -/

/-- An entry shows a host. -/
structure Entry.Shows (entry : Entry) (host : Host) : Prop where
  moment : entry.moment = host.sessions.now
  sessions : entry.sessions = host.overview
  coordination : entry.coordination = host.coordination?

/-- Entries report on a host: each shows what has become of it since the one before, and tells what
was announced on the way. The next thing that is done to the host has the number. -/
inductive Host.Reports : Host → Nat → List Entry → Prop
  | nil (host : Host) (number : Nat) : Reports host number []
  | cons {host next : Host} {number later : Nat} {entry : Entry} {entries : List Entry}
      (goes : host.Goes number entry.announcements.toList next later) (shows : entry.Shows next)
      (rest : Reports next later entries) : Reports host number (entry :: entries)

/-- Whatever the script and the directives are, a rehearsal reports what becomes of its host. -/
theorem Rehearsal.reports_play (rehearsal : Rehearsal) (quiet : rehearsal.announcements = #[])
    (directives : List Directive) :
    rehearsal.host.Reports rehearsal.acts (rehearsal.play directives) := by
  induction directives generalizing rehearsal with
  | nil => exact .nil _ _
  | cons directive directives ih =>
    have leads := (rehearsal.leads_follow directive).trans leads_settle
    dsimp only [play, proceed]
    generalize (rehearsal.follow directive).2.settle = after at leads ⊢
    obtain ⟨announced, goes, told⟩ := leads
    rw [quiet, List.nil_append] at told
    exact .cons (told ▸ goes) ⟨rfl, rfl, rfl⟩ (ih (after.report _).2 rfl)

/-- What has become of a host by the time of an entry, and what has been told of it until then. -/
theorem Host.Reports.exists_goes {host : Host} {number : Nat} {entries earlier later : List Entry}
    {entry : Entry} (reports : host.Reports number entries)
    (split : entries = earlier ++ entry :: later) :
    ∃ next count, entry.Shows next ∧
      host.Goes number ((earlier ++ [entry]).flatMap (·.announcements.toList)) next count := by
  induction reports generalizing earlier with
  | nil => cases earlier <;> cases split
  | cons goes shows rest ih =>
    cases earlier with
    | nil =>
      obtain ⟨rfl, rfl⟩ := List.cons.inj split
      exact ⟨_, _, shows, by simpa using goes⟩
    | cons first earlier =>
      obtain ⟨rfl, same⟩ := List.cons.inj split
      obtain ⟨next, count, shows, on⟩ := ih same
      exact ⟨next, count, shows, goes.trans on⟩

/-! ### A coordinator -/

/-- What becomes of a coordinator is its history. -/
theorem CoordinatorHistory.exists_of_goes {context : SessionContext} {pool : InstanceIdPool}
    {announced : List Announcement} {next : Host} {count : Nat}
    (goes : (Host.coordinator (.opened context pool)).Goes 0 announced next count) :
    ∃ actions, next = .coordinator (through context pool actions).coordinator ∧
      count = (through context pool actions).entries.length ∧
      announced = ((through context pool actions).heard 0).map .progress := by
  induction goes with
  | stays => exact ⟨[], rfl, rfl, rfl⟩
  | step _ does ih =>
    obtain ⟨actions, rfl, rfl, rfl⟩ := ih
    cases does with
    | coordinator _ action =>
      refine ⟨actions ++ [action], ?_⟩
      rw [through_concat]
      refine ⟨rfl, by simp [extend], ?_⟩
      rw [heard_extend (Nat.zero_le _), List.map_append]
      rfl

/-- A rehearsed coordinator shows what a history of it has led to, and what is announced is what a
subscriber hears who has been there from the start. -/
theorem exists_history_of_play (context : SessionContext) (pool : InstanceIdPool)
    (script : Script) (directives : List Directive) {earlier later : List Entry} {entry : Entry}
    (split : ({ host := .coordinator (.opened context pool), script := script } : Rehearsal).play
      directives = earlier ++ entry :: later) :
    ∃ actions,
      entry.Shows (.coordinator (CoordinatorHistory.through context pool actions).coordinator) ∧
      (earlier ++ [entry]).flatMap (·.announcements.toList) =
        ((CoordinatorHistory.through context pool actions).heard 0).map .progress := by
  obtain ⟨next, _, shows, goes⟩ := (Rehearsal.reports_play _ rfl directives).exists_goes split
  obtain ⟨actions, rfl, _, told⟩ := CoordinatorHistory.exists_of_goes goes
  exact ⟨actions, shows, told⟩

/-! ### A fleet -/

namespace Fleet

variable {fleet : Fleet}

theorem through_concat (actions : List FleetAction) (action : FleetAction) :
    fleet.through (actions ++ [action]) = (fleet.through actions).apply action := by
  simp [through, List.foldl_append]

theorem tellings_concat (actions : List FleetAction) (action : FleetAction) :
    fleet.tellings (actions ++ [action]) =
      fleet.tellings actions ++ (fleet.through actions).notifications action := by
  induction actions generalizing fleet with
  | nil => simp [tellings, through]
  | cons first actions ih => simp [tellings, ih, through]

/-- What becomes of a fleet is what its actions lead to. -/
theorem exists_of_goes {announced : List Announcement} {next : Host} {number count : Nat}
    (goes : (Host.fleet fleet).Goes number announced next count) :
    ∃ actions, next = .fleet (fleet.through actions) ∧
      announced = (fleet.tellings actions).map .notification := by
  induction goes with
  | stays => exact ⟨[], rfl, rfl⟩
  | step _ does ih =>
    obtain ⟨actions, rfl, rfl⟩ := ih
    cases does with
    | fleet _ action =>
      exact ⟨actions ++ [action], by rw [through_concat],
        by rw [tellings_concat, List.map_append]⟩

theorem context_apply (action : FleetAction) : (fleet.apply action).context = fleet.context := by
  cases action with
  | act place action =>
    dsimp only [apply, act]
    split <;> rfl
  | acquire endpoint =>
    dsimp only [apply, Fleet.acquire]
    split
    · rename_i acquired
      split at acquired <;> cases acquired
      rfl
    · rfl
  | add | elapse | release => rfl

theorem context_through (actions : List FleetAction) :
    (fleet.through actions).context = fleet.context := by
  induction actions using List.reverseRecOn with
  | nil => rfl
  | append_singleton actions action ih => rw [through_concat, context_apply, ih]

/-- Every run of a fleet has come about in a history of its own. -/
def IsLived (fleet : Fleet) : Prop :=
  ∀ run ∈ fleet.runs, ∃ moments,
    run = (History.through fleet.context run.session.record moments).run

theorem IsLived.act (lived : fleet.IsLived) (place : Nat) (action : RunAction) :
    (fleet.act place action).1.IsLived := by
  unfold Fleet.act
  split
  · exact lived
  · rename_i run located
    intro other mem
    rcases List.mem_or_eq_of_mem_set mem with left | rfl
    · exact lived other left
    · obtain ⟨moments, run_eq⟩ := lived run (List.mem_of_getElem? located)
      have sound : run.Sound := run_eq ▸ (sound_through _ _ moments).1
      refine ⟨moments ++ [⟨fleet.now, fleet.pool, action⟩], ?_⟩
      dsimp only
      rw [record_act sound, History.through_concat, History.run_extend, ← run_eq]
      rfl

theorem IsLived.apply (lived : fleet.IsLived) (action : FleetAction) :
    (fleet.apply action).IsLived := by
  cases action with
  | act place action => exact lived.act place action
  | add record =>
    intro run mem
    rcases List.mem_append.mp mem with old | new
    · exact lived run old
    · obtain rfl := List.mem_singleton.mp new
      exact ⟨[], rfl⟩
  | acquire endpoint =>
    dsimp only [Fleet.apply, Fleet.acquire]
    split
    · rename_i acquired
      split at acquired <;> cases acquired
      exact lived
    · exact lived
  | elapse | release => exact lived

/-- Whatever happens to a fleet, what happens to one of its runs is a history of the run. -/
theorem isLived_through (idle : fleet.runs = []) (actions : List FleetAction) :
    (fleet.through actions).IsLived := by
  induction actions using List.reverseRecOn with
  | nil =>
    intro run mem
    simp [through, idle] at mem
  | append_singleton actions action ih =>
    rw [through_concat]
    exact ih.apply action

end Fleet

/-- A rehearsed fleet shows what some actions have led to, and what is announced is what its
sessions have told by them. -/
theorem exists_actions_of_play (own : Fleet) (script : Script) (directives : List Directive)
    {earlier later : List Entry} {entry : Entry}
    (split : ({ host := .fleet own, script := script } : Rehearsal).play directives =
      earlier ++ entry :: later) :
    ∃ actions, entry.Shows (.fleet (own.through actions)) ∧
      (earlier ++ [entry]).flatMap (·.announcements.toList) =
        (own.tellings actions).map .notification := by
  obtain ⟨next, _, shows, goes⟩ := (Rehearsal.reports_play _ rfl directives).exists_goes split
  obtain ⟨actions, rfl, told⟩ := Fleet.exists_of_goes goes
  exact ⟨actions, shows, told⟩

end FirmwareAgent
