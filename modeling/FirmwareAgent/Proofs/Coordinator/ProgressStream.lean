import FirmwareAgent.Proofs.Coordinator.Tracking
import FirmwareAgent.Proofs.Run.Breakdown

/-!
# What a subscriber hears of a session

A subscriber who is there when a session starts hears of its start, of each component in its turn
and of its end, each once, whatever happens to other sessions meanwhile. The numbers in the events
are read back from the tracker, which the sessions share.

* `DeviceRecord.stream` are the events of a session, told from its record, the outcomes of its
  components and its state.
* `CoordinatorHistory.stream` is what a subscriber hears of a session, and `heard` all he hears.
* `stream_through`: the result.
-/

namespace FirmwareAgent

/-! ## The events of a session -/

/-- An event without the progress of all devices together. -/
def UpdateProgress.ofDevice (progress : UpdateProgress) : UpdateProgress :=
  { progress with progressPercent := 0 }

/-- What becomes of a notification of a device of which some components have finished. -/
def Notification.progress (total done : Nat) : Notification → UpdateProgress
  | applied endpoint index success =>
    ⟨endpoint, .componentApplied index success, done + 1, total, 0,
      "Component " ++ toString index.toNat ++ if success then " applied" else " failed"⟩
  | completed endpoint true => ⟨endpoint, .completed, done, total, 0, "Update completed"⟩
  | completed endpoint false => ⟨endpoint, .failed, done, total, 0, "Update failed"⟩

/-- The events of a session: its start, its components as they finish, and its end if it has ended.
A session that goes on, or that broke down, has not told of an end. -/
def DeviceRecord.stream (record : DeviceRecord) (outcomes : List ComponentOutcome)
    (state : SessionState) : List UpdateProgress :=
  ⟨record.endpoint, .started, 0, record.componentCount, 0, "Update started"⟩ ::
    (outcomes.mapIdx (fun finished outcome =>
      ⟨record.endpoint, .componentApplied outcome.index outcome.success, finished + 1,
        record.componentCount, 0, "Component " ++ toString outcome.index.toNat ++
          if outcome.success then " applied" else " failed"⟩) ++
    match state with
    | .completed => [⟨record.endpoint, .completed, outcomes.length, record.componentCount, 0,
        "Update completed"⟩]
    | .failed _ => [⟨record.endpoint, .failed, outcomes.length, record.componentCount, 0,
        "Update failed"⟩]
    | _ => [])

/-- What becomes of the start and of the notifications of a session. -/
def History.progress (life : History) : List UpdateProgress :=
  ⟨life.run.endpoint, .started, 0, life.run.session.record.componentCount, 0, "Update started"⟩ ::
    life.notifications.mapIdx fun told notification =>
      notification.progress life.run.session.record.componentCount told

theorem History.progress_extend {context : SessionContext} {life : History} {moment : Moment}
    (sound : life.run.Sound) : (life.extend context moment).progress =
      life.progress ++ (life.run.meet context moment).notifications.map
        (·.progress life.run.session.record.componentCount life.notifications.length) := by
  have record : (life.run.meet context moment).run.session.record = life.run.session.record :=
    record_act sound
  rw [progress, progress, run_extend, notifications_extend, Run.endpoint, Run.endpoint,
    Session.endpoint, Session.endpoint, record, List.mapIdx_append, List.cons_append]
  refine congrArg (_ :: ·) (congrArg (_ ++ ·) ?_)
  rcases Run.act_tells context moment.now moment.pool sound moment.action with
    silent | ⟨notification, told, _⟩
  · rw [Run.meet, silent]
    rfl
  · rw [Run.meet, told]
    simp

/-- These are the events of a session. -/
theorem stream_eq {life : History} (told : life.run.HasTold life.notifications) :
    life.run.session.record.stream life.outcomes life.run.session.state = life.progress := by
  rw [History.progress]
  rw [(History.told_eq told).1, List.mapIdx_append, List.length_map]
  refine congrArg (_ :: ·) (congrArg₂ (· ++ ·) ?_ ?_)
  · refine List.ext_getElem? fun finished => ?_
    simp only [List.getElem?_mapIdx, List.getElem?_map, Option.map_map]
    rfl
  · cases life.run.session.state <;>
      simp [SessionState.closing, Notification.progress, Run.endpoint, Session.endpoint]

theorem Notification.endpoint_progress (notification : Notification) (total done : Nat) :
    (notification.progress total done).endpoint = notification.endpoint := by
  cases notification with
  | applied => rfl
  | completed endpoint success => cases success <;> rfl

/-- As long as a session goes on, it has told of its components only. -/
theorem length_outcomes {life : History} (told : life.run.HasTold life.notifications)
    (live : life.run.session.state.isTerminal = false) :
    life.outcomes.length = life.notifications.length := by
  rw [(History.told_eq told).1, SessionState.closing_of_live live, List.append_nil, List.length_map]

namespace ProgressTracker

variable {tracker : ProgressTracker} {device : DeviceProgress}

/-- An event takes its numbers from the device. -/
theorem ofDevice_event {endpoint : EndpointId} (found : tracker.device? endpoint = some device)
    (phase : UpdatePhase) (statusMessage : String) :
    (tracker.event endpoint phase statusMessage).ofDevice =
      ⟨endpoint, phase, device.outcomes.size, device.componentsTotal, 0, statusMessage⟩ := by
  rw [event, found]
  rfl

theorem ofDevice_register (tracker : ProgressTracker) (endpoint : EndpointId) (total : Nat) :
    (tracker.register endpoint total).2.ofDevice =
      ⟨endpoint, .started, 0, total, 0, "Update started"⟩ := by
  have found : (tracker.register endpoint total).1.device? endpoint = _ :=
    (tracker.device?_register endpoint total).trans (if_pos rfl)
  exact ofDevice_event found .started "Update started"

theorem ofDevice_record {notification : Notification}
    (found : tracker.device? notification.endpoint = some device) :
    (tracker.record notification).2.ofDevice =
      notification.progress device.componentsTotal device.outcomes.size := by
  cases notification with
  | applied endpoint index success =>
    have found : tracker.device? endpoint = some device := found
    have after : (tracker.record (.applied endpoint index success)).1.device? endpoint =
        some (device.note (.applied endpoint index success)) := by
      rw [device?_record, found]
      exact congrArg some (if_pos rfl)
    refine (ofDevice_event after _ _).trans ?_
    simp [DeviceProgress.note, Notification.progress]
  | completed endpoint success => cases success <;> exact ofDevice_event found _ _

end ProgressTracker

/-! ## What a subscriber hears -/

/-- The session that the events of an action are about. -/
def CoordinatorEntry.source? (number : Nat) (entry : CoordinatorEntry) : Option Nat :=
  match entry.coordinator.deed number entry.action with
  | .started _ => some entry.coordinator.fleet.runs.length
  | .moved place _ => some place
  | _ => none

namespace CoordinatorHistory

/-- What a subscriber hears who joined before the action with the number. -/
def heard (history : CoordinatorHistory) (joined : Nat) : List UpdateProgress :=
  (history.entries.drop joined).flatMap (·.step.published)

/-- What he hears of the session at a place. -/
def stream (history : CoordinatorHistory) (joined place : Nat) : List UpdateProgress :=
  (history.entries.zipIdx.drop joined).flatMap fun (entry, number) =>
    if entry.source? number = some place then entry.step.published else []

/-- What a subscriber hears who joined before the action with the number, when there were `known`
sessions. -/
structure Streams (history : CoordinatorHistory) (joined known : Nat) : Prop where
  /-- A session is what its life has made of it. -/
  lives : ∀ place life, history.life? place = some life →
    history.coordinator.fleet.runs[place]? = some life.run
  /-- Of a session that has started since, he hears all. -/
  whole : ∀ place life, known ≤ place → history.life? place = some life →
    (history.stream joined place).map UpdateProgress.ofDevice =
      life.run.session.record.stream life.outcomes life.run.session.state
  /-- The components are the first ones of the record, and all of them if the session is completed. -/
  components : ∀ place life, history.life? place = some life →
    life.outcomes.map (·.index) <+: life.run.session.record.applicableComponents.toList ∧
      (life.run.session.state = .completed →
        life.outcomes.map (·.index) = life.run.session.record.applicableComponents.toList)
  /-- So every session that is over has told of its end, unless it has broken down over an event that
  it handled. Then it never tells of one. -/
  ended : ∀ place life, history.life? place = some life → life.run.isOpen = false →
    (life.run.session.state = .completed ∨ ∃ reason, life.run.session.state = .failed reason) ∨
      life.run.status = .crashed ∧ life.BrokeDown history.coordinator.fleet.context ∧
        life.run.session.state.isTerminal = false
  /-- What he hears of an endpoint he hears of its sessions, one after the other. -/
  endpoints : ∀ endpoint, (history.heard joined).filter (·.endpoint == endpoint) =
    (List.range history.coordinator.fleet.runs.length).flatMap fun place =>
      if history.coordinator.fleet.endpoints[place]? = some endpoint then
        history.stream joined place
      else []

variable {context : SessionContext} {pool : InstanceIdPool} {history : CoordinatorHistory}
  {action : CoordinatorAction} {joined place : Nat}

theorem heard_extend (before : joined ≤ history.entries.length) :
    (history.extend action).heard joined = history.heard joined ++
      (history.next action).published := by
  rw [heard, CoordinatorHistory.extend, List.drop_append_of_le_length before, List.flatMap_append]
  exact congrArg _ (List.append_nil _)

theorem stream_extend (before : joined ≤ history.entries.length) :
    (history.extend action).stream joined place = history.stream joined place ++
      if CoordinatorEntry.source? history.entries.length
          ⟨history.coordinator, action, history.next action⟩ = some place then
        (history.next action).published
      else [] := by
  rw [stream, CoordinatorHistory.extend, List.zipIdx_append, List.zipIdx_singleton, Nat.zero_add,
    List.drop_append_of_le_length (by simpa using before), List.flatMap_append]
  exact congrArg _ (List.append_nil _)

/-- The events of a session that something happens to are what becomes of its notifications. If
there are any, the session is the newest one of its endpoint. -/
theorem Moves.published {step : RunAction} {run : Run}
    (moves : history.Moves action place step run) (tracks : history.Tracks)
    (lived : history.Lived context) :
    ∃ life, history.life? place = some life ∧ life.run = run ∧
      (history.next action).published.map UpdateProgress.ofDevice =
        (run.meet history.coordinator.fleet.context (history.momentOf step)).notifications.map
          (·.progress run.session.record.componentCount life.notifications.length) ∧
      ∀ progress ∈ (history.next action).published, progress.endpoint = run.endpoint ∧
        history.coordinator.fleet.newest? run.endpoint = some place := by
  obtain ⟨life, living, rfl⟩ := lived.exists_life moves.located
  refine ⟨life, living, rfl, ?_⟩
  rcases moves.tells with ⟨silent, _, nothing⟩ | ⟨notification, told, own, _, live, _, published⟩
  · rw [silent, nothing]
    exact ⟨rfl, List.forall_mem_nil _⟩
  · obtain ⟨uncollected, newest⟩ :=
      (moves.silent_or_newest tracks).resolve_left (by simp [told])
    obtain ⟨device, found⟩ := tracks.tracked _ _ uncollected
    obtain ⟨also, life', newest', living', counts, _⟩ := tracks.device _ device found
    obtain rfl := Option.some.inj (newest'.symm.trans newest)
    obtain rfl := Option.some.inj (living'.symm.trans living)
    have size : device.outcomes.size = life'.notifications.length := by
      rw [← length_outcomes (hasTold_of_life living).2 live, ← counts.outcomes,
        Array.length_toList]
    have event := ProgressTracker.ofDevice_record (own ▸ found)
    rw [counts.total, size] at event
    rw [told, published]
    refine ⟨congrArg (List.cons · []) event, List.forall_mem_singleton.mpr ⟨?_, newest⟩⟩
    exact (congrArg UpdateProgress.endpoint event).trans
      ((notification.endpoint_progress _ _).trans own)

/-! ## Every action goes on with the streams -/

/-- What a subscriber has heard of the sessions. -/
structure Listens (history : CoordinatorHistory) (joined known : Nat) : Prop where
  since : joined ≤ history.entries.length
  old : known ≤ history.coordinator.fleet.runs.length
  unstarted : ∀ place, history.coordinator.fleet.runs.length ≤ place →
    history.stream joined place = []
  whole : ∀ place life, known ≤ place → history.life? place = some life →
    (history.stream joined place).map UpdateProgress.ofDevice = life.progress
  endpoints : ∀ endpoint, (history.heard joined).filter (·.endpoint == endpoint) =
    (List.range history.coordinator.fleet.runs.length).flatMap fun place =>
      if history.coordinator.fleet.endpoints[place]? = some endpoint then
        history.stream joined place
      else []

/-- Only the last one of some pieces grows. -/
theorem flatMap_range_append {α : Type} {count place : Nat} {pieces after : Nat → List α}
    {more : List α} (within : place < count) (here : after place = pieces place ++ more)
    (others : ∀ other, other ≠ place → after other = pieces other)
    (last : ∀ other, place < other → pieces other = []) :
    (List.range count).flatMap after = (List.range count).flatMap pieces ++ more := by
  induction count with
  | zero => cases within
  | succ count ih =>
    simp only [List.range_succ, List.flatMap_append, List.flatMap_singleton]
    rcases Nat.lt_succ_iff_lt_or_eq.mp within with before | rfl
    · rw [ih before, others count (Nat.ne_of_gt before), last count before]
      simp
    · have same : (List.range place).flatMap after = (List.range place).flatMap pieces :=
        List.flatMap_congr fun other mem =>
          others other (Nat.ne_of_lt (List.mem_range.mp mem))
      rw [same, here, List.append_assoc]

theorem Listens.quiet {known : Nat} (listens : history.Listens joined known)
    (quiet : (history.deed action).isQuiet = true) :
    (history.extend action).Listens joined known := by
  have runs : (history.extend action).coordinator.fleet.runs = history.coordinator.fleet.runs :=
    (fleet_quiet quiet).1
  have stream (place : Nat) :
      (history.extend action).stream joined place = history.stream joined place := by
    rw [stream_extend listens.since, published_quiet quiet, ite_self, List.append_nil]
  have heard : (history.extend action).heard joined = history.heard joined := by
    rw [heard_extend listens.since, published_quiet quiet, List.append_nil]
  constructor
  case since => simpa [CoordinatorHistory.extend] using Nat.le_succ_of_le listens.since
  case old => exact runs ▸ listens.old
  case unstarted =>
    intro place beyond
    rw [stream]
    exact listens.unstarted place (runs ▸ beyond)
  case whole =>
    intro place life new living
    rw [stream]
    exact listens.whole place life new (life?_quiet quiet ▸ living)
  case endpoints =>
    intro endpoint
    simp only [heard, stream, Fleet.endpoints, runs]
    exact listens.endpoints endpoint

section

variable {known : Nat} {record : DeviceRecord} (starts : history.Starts action record)

include starts

/-- What is heard of a start is heard of the new session. -/
theorem Starts.stream_extend (before : joined ≤ history.entries.length) :
    (history.extend action).stream joined place = history.stream joined place ++
      if place = history.coordinator.fleet.runs.length then
        [(history.coordinator.tracker.register record.endpoint record.componentCount).2]
      else [] := by
  have deed_eq : history.coordinator.deed history.entries.length action = .started record :=
    starts.deed
  rw [CoordinatorHistory.stream_extend before, starts.published]
  simp only [CoordinatorEntry.source?, deed_eq, Option.some.injEq, eq_comm]

theorem Listens.started (listens : history.Listens joined known)
    (lived : history.Lived context) : (history.extend action).Listens joined known := by
  have living := lived.unborn history.coordinator.fleet.runs.length (Nat.le_refl _)
  constructor
  case since => simpa [CoordinatorHistory.extend] using Nat.le_succ_of_le listens.since
  case old => exact starts.length_runs ▸ Nat.le_succ_of_le listens.old
  case unstarted =>
    intro place beyond
    rw [starts.length_runs] at beyond
    rw [starts.stream_extend listens.since, listens.unstarted place (Nat.le_of_succ_le beyond),
      if_neg (by omega)]
    rfl
  case whole =>
    intro place life new found
    rw [starts.life?_extend living] at found
    rw [starts.stream_extend listens.since]
    split at found
    · rename_i last
      obtain rfl := Option.some.inj found
      rw [listens.unstarted place (Nat.le_of_eq last.symm), if_pos last]
      exact congrArg (List.cons · [])
        (history.coordinator.tracker.ofDevice_register record.endpoint record.componentCount)
    · rename_i before
      rw [if_neg before, List.append_nil]
      exact listens.whole place life new found
  case endpoints =>
    intro endpoint
    have before (place : Nat) (within : place ∈ List.range history.coordinator.fleet.runs.length) :
        (if (history.extend action).coordinator.fleet.endpoints[place]? = some endpoint then
          (history.extend action).stream joined place else []) =
        if history.coordinator.fleet.endpoints[place]? = some endpoint then
          history.stream joined place else [] := by
      have lt := List.mem_range.mp within
      rw [starts.fleet, endpoints_add, List.getElem?_append_left (by rwa [length_endpoints]),
        starts.stream_extend listens.since, if_neg (Nat.ne_of_lt lt), List.append_nil]
    have last : (history.extend action).coordinator.fleet.endpoints[
        history.coordinator.fleet.runs.length]? = some record.endpoint := by
      rw [starts.fleet, endpoints_add, ← length_endpoints, List.getElem?_concat_length]
    rw [heard_extend listens.since, starts.published, List.filter_append, listens.endpoints,
      starts.length_runs, List.range_succ, List.flatMap_append, List.flatMap_singleton,
      List.flatMap_congr before, last, starts.stream_extend listens.since,
      listens.unstarted _ (Nat.le_refl _)]
    have own : (history.coordinator.tracker.register record.endpoint
        record.componentCount).2.endpoint = record.endpoint := rfl
    by_cases same : record.endpoint = endpoint
    · subst same
      simp [own]
    · simp [same, own]

end

section

variable {known : Nat} {step : RunAction} {run : Run} (moves : history.Moves action place step run)

include moves

/-- What is heard is heard of the session that something happens to. -/
theorem Moves.stream_extend (before : joined ≤ history.entries.length) (other : Nat) :
    (history.extend action).stream joined other = history.stream joined other ++
      if other = place then (history.next action).published else [] := by
  have deed_eq : history.coordinator.deed history.entries.length action = .moved place step :=
    moves.deed
  rw [CoordinatorHistory.stream_extend before]
  simp only [CoordinatorEntry.source?, deed_eq, Option.some.injEq, eq_comm]

/-- What is heard of an endpoint goes on where it was, with the newest session. -/
theorem Listens.endpoints_moved (listens : history.Listens joined known)
    (news : ∀ progress ∈ (history.next action).published, progress.endpoint = run.endpoint ∧
      history.coordinator.fleet.newest? run.endpoint = some place) (endpoint : EndpointId) :
    ((history.extend action).heard joined).filter (·.endpoint == endpoint) =
      (List.range history.coordinator.fleet.runs.length).flatMap fun other =>
        if history.coordinator.fleet.endpoints[other]? = some endpoint then
          (history.extend action).stream joined other
        else [] := by
  have within := (List.getElem?_eq_some_iff.mp moves.located).1
  have stream := moves.stream_extend listens.since
  rw [heard_extend listens.since, List.filter_append, listens.endpoints]
  by_cases own : endpoint = run.endpoint ∧ (history.next action).published ≠ []
  · obtain ⟨rfl, told⟩ := own
    obtain ⟨progress, among⟩ := List.exists_mem_of_ne_nil _ told
    obtain ⟨of, newest⟩ := Fleet.newest?_eq_some.mp (news progress among).2
    have all : (history.next action).published.filter (·.endpoint == run.endpoint) =
        (history.next action).published :=
      List.filter_eq_self.mpr fun other mem => by simpa using (news other mem).1
    rw [all]
    refine (flatMap_range_append within ?_ (fun other different => ?_) fun other later => ?_).symm
    · rw [if_pos of, if_pos of, stream, if_pos rfl]
    · rw [stream, if_neg different, List.append_nil]
    · exact if_neg (newest other later)
  · have none_own : (history.next action).published.filter (·.endpoint == endpoint) = [] := by
      refine List.filter_eq_nil_iff.mpr fun progress mem same => own ⟨?_, List.ne_nil_of_mem mem⟩
      exact (eq_of_beq same).symm.trans (news progress mem).1
    rw [none_own, List.append_nil]
    refine (List.flatMap_congr fun other _ => ?_).symm
    split
    · rename_i of
      rw [stream]
      split
      · rename_i same
        subst same
        have same_endpoint : endpoint = run.endpoint := Option.some.inj (of.symm.trans
          (Fleet.endpoints_eq_some.mpr ⟨run, moves.located, rfl⟩))
        have silent : (history.next action).published = [] :=
          not_not.mp fun told => own ⟨same_endpoint, told⟩
        rw [silent, List.append_nil]
      · exact List.append_nil _
    · rfl

theorem Listens.moved (listens : history.Listens joined known) (lived : history.Lived context)
    (tracks : history.Tracks) : (history.extend action).Listens joined known := by
  obtain ⟨life, living, rfl, published, news⟩ := moves.published tracks lived
  have within := (List.getElem?_eq_some_iff.mp moves.located).1
  constructor
  case since => simpa [CoordinatorHistory.extend] using Nat.le_succ_of_le listens.since
  case old => exact moves.length_runs ▸ listens.old
  case unstarted =>
    intro other beyond
    rw [moves.length_runs] at beyond
    rw [moves.stream_extend listens.since, listens.unstarted other beyond, if_neg (by omega)]
    rfl
  case whole =>
    intro other after new found
    rw [moves.life?_extend] at found
    rw [moves.stream_extend listens.since]
    split at found
    · rename_i same
      subst same
      obtain ⟨before, found_before, rfl⟩ := Option.map_eq_some_iff.mp found
      obtain rfl := Option.some.inj (found_before.symm.trans living)
      rw [if_pos rfl, List.map_append, listens.whole other before new found_before, published,
        History.progress_extend moves.run_sound]
    · rename_i different
      rw [if_neg different, List.append_nil]
      exact listens.whole other after new found
  case endpoints =>
    intro endpoint
    rw [moves.length_runs, moves.endpoints]
    exact listens.endpoints_moved moves news endpoint

end

/-- Every action goes on with what a subscriber hears. -/
theorem Listens.extend {known : Nat} (listens : history.Listens joined known)
    (lived : history.Lived context) (tracks : history.Tracks)
    (sound : history.coordinator.fleet.IsSound) (booked : history.Booked)
    (action : CoordinatorAction) : (history.extend action).Listens joined known := by
  cases deed_eq : history.deed action with
  | aside | collected | cleared => exact listens.quiet (by rw [deed_eq]; rfl)
  | started record => exact listens.started (starts deed_eq) lived
  | moved place step =>
    obtain ⟨run, moves⟩ := booked.moves sound deed_eq
    exact listens.moved moves lived tracks

theorem length_entries (context : SessionContext) (pool : InstanceIdPool)
    (actions : List CoordinatorAction) :
    (through context pool actions).entries.length = actions.length := by
  induction actions using List.reverseRecOn with
  | nil => rfl
  | append_singleton actions action ih =>
    rw [through_concat, CoordinatorHistory.extend, List.length_append, ih, List.length_append]
    rfl

/-- A subscriber who joins has heard of nothing yet. -/
theorem listens_now (context : SessionContext) (pool : InstanceIdPool)
    (actions : List CoordinatorAction) : (through context pool actions).Listens actions.length
      (through context pool actions).coordinator.fleet.runs.length := by
  have nothing (place : Nat) : (through context pool actions).stream actions.length place = [] := by
    rw [stream, List.drop_eq_nil_of_le (by simp [length_entries])]
    rfl
  refine ⟨Nat.le_of_eq (length_entries context pool actions).symm, Nat.le_refl _,
    fun place _ => nothing place, fun place life beyond living => ?_, fun endpoint => ?_⟩
  · have located := (lived_through context pool actions).run place life living
    exact absurd (List.getElem?_eq_some_iff.mp located).1 (Nat.not_lt_of_le beyond)
  · rw [heard, List.drop_eq_nil_of_le (by simp [length_entries])]
    simp [nothing]

theorem listens_through (context : SessionContext) (pool : InstanceIdPool)
    (earlier later : List CoordinatorAction) :
    (through context pool (earlier ++ later)).Listens earlier.length
      (through context pool earlier).coordinator.fleet.runs.length := by
  induction later using List.reverseRecOn with
  | nil => exact (List.append_nil earlier).symm ▸ listens_now context pool earlier
  | append_singleton later action ih =>
    obtain ⟨sound, booked⟩ := booked_through context pool (earlier ++ later)
    rw [← List.append_assoc, through_concat]
    exact ih.extend (lived_through _ _ _) (tracks_through _ _ _) sound booked action

/-- Whatever is called and whatever the sessions do, in whatever order: a subscriber who joined
before a session was started hears of its start, of its components in their turn, and of its end
once it has ended, and the events of an endpoint are those of its sessions, one after the other. -/
theorem stream_through (context : SessionContext) (pool : InstanceIdPool)
    (earlier later : List CoordinatorAction) :
    (through context pool (earlier ++ later)).Streams earlier.length
      (through context pool earlier).coordinator.fleet.runs.length where
  lives := (lived_through context pool (earlier ++ later)).run
  whole place life new living := by
    rw [(listens_through context pool earlier later).whole place life new living,
      stream_eq (hasTold_of_life living).2]
  components place life living := (History.told_eq (hasTold_of_life living).2).2
  ended place life living closed := by
    rcases status_of_closed closed with crashed | ended
    · obtain ⟨_, _, rfl⟩ := Option.map_eq_some_iff.mp living
      exact .inr ⟨crashed, brokeDown_through _ _ _ crashed⟩
    · exact .inl (ended_of_life living ended)
  endpoints := (listens_through context pool earlier later).endpoints

/-- An update up to UpdateComponent, and a pull that its session handles. -/
def pulledAtOnce : List CoordinatorAction :=
  .start ⟨9, #[0], #[], "set"⟩ ::
    [ RunAction.begin,
      .granted 0 .requestUpdate [0, 0, 0], .handle,
      .handle, .granted 1 .passComponentTable [0, 0], .handle,
      .handle ].map (.act 9 0) ++ [.inbound 9 pulledFirst, .act 9 0 .handle]

/-- The package source breaks the session down, and a wait finds that it is over. A subscriber who
has been there from the start has heard of its start only. -/
theorem endless_pulledAtOnce :
    ((through (oneComponent (.crashing true)) { expiry := .ofSeconds 5 }
        (pulledAtOnce ++ [.wait 9, .wake 9 10])).coordinator.fleet.runs.map
          fun run => (run.isOpen, run.session.state)) = [(false, .updatingComponent 0)] ∧
      (through (oneComponent (.crashing true)) { expiry := .ofSeconds 5 }
        (pulledAtOnce ++ [.wait 9, .wake 9 10])).coordinator.activeEndpoints = [] ∧
      ((through (oneComponent (.crashing true)) { expiry := .ofSeconds 5 }
        (pulledAtOnce ++ [.wait 9, .wake 9 10])).heard 0).map (·.phase) = [.started] :=
  ⟨by decide +kernel, by decide +kernel, by decide +kernel⟩

end CoordinatorHistory

end FirmwareAgent
