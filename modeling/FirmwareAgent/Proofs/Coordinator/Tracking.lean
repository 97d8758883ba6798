import FirmwareAgent.Proofs.Coordinator.Lives

/-!
# What the tracker knows

A tracker has one device for an endpoint, whatever has been started, collected and cleared. It is
that of the newest session of the endpoint, and the components that have finished are those of which
this session has told. No older session adds to them, because an endpoint is busy until the session
before has been collected, and a session that has been collected is over.

* `CoordinatorHistory.Tracks` is the invariant, `tracks_through` the result.
-/

namespace FirmwareAgent

/-! ## Outcomes -/

/-- The outcome that a notification is about. -/
def Notification.outcome? : Notification → Option ComponentOutcome
  | applied _ index success => some ⟨index, success⟩
  | completed .. => none

/-- The outcomes of which a run has told, in that order. -/
def History.outcomes (history : History) : List ComponentOutcome :=
  history.notifications.filterMap Notification.outcome?

/-- A device with one more notification of its session. -/
def DeviceProgress.note (device : DeviceProgress) : Notification → DeviceProgress
  | .applied _ index success => { device with outcomes := device.outcomes.push ⟨index, success⟩ }
  | .completed .. => device

/-- A device counts the components of a session, and those that have finished. -/
structure DeviceProgress.Counts (device : DeviceProgress) (life : History) : Prop where
  total : device.componentsTotal = life.run.session.record.componentCount
  outcomes : device.outcomes.toList = life.outcomes

@[simp] theorem History.outcomes_extend {context : SessionContext} {history : History}
    {moment : Moment} : (history.extend context moment).outcomes = history.outcomes ++
      (history.run.meet context moment).notifications.filterMap Notification.outcome? := by
  simp [outcomes]

/-- A device takes note of the outcomes of which its session tells, and of nothing else. -/
theorem DeviceProgress.foldl_note (told : List Notification) (device : DeviceProgress) :
    (told.foldl note device).componentsTotal = device.componentsTotal ∧
      (told.foldl note device).isCollected = device.isCollected ∧
      (told.foldl note device).outcomes.toList =
        device.outcomes.toList ++ told.filterMap Notification.outcome? := by
  induction told generalizing device with
  | nil => simp
  | cons notification told ih =>
    obtain ⟨total, mark, outcomes⟩ := ih (device.note notification)
    cases notification with
    | applied endpoint index success =>
      exact ⟨total, mark, outcomes.trans (by simp [note, Notification.outcome?])⟩
    | completed endpoint success => exact ⟨total, mark, outcomes⟩

/-- What a run has told are its outcomes, which name the first of its components in their order, and
then its end. -/
theorem History.told_eq {life : History} (told : life.run.HasTold life.notifications) :
    life.notifications =
        life.outcomes.map (fun outcome =>
            .applied life.run.endpoint outcome.index outcome.success) ++
          life.run.session.state.closing life.run.endpoint ∧
      life.outcomes.map (·.index) <+: life.run.session.record.applicableComponents.toList ∧
      (life.run.session.state = .completed →
        life.outcomes.map (·.index) = life.run.session.record.applicableComponents.toList) := by
  obtain ⟨named, told, part, whole, _⟩ := told
  have closing : (life.run.session.state.closing life.run.endpoint).filterMap
      Notification.outcome? = [] := by
    cases life.run.session.state <;> rfl
  have outcomes : life.outcomes = named.map fun outcome => ⟨outcome.1, outcome.2⟩ := by
    rw [History.outcomes, told, List.filterMap_append, closing, List.append_nil, List.filterMap_map]
    exact congrFun List.filterMap_eq_map' named
  have names : life.outcomes.map (·.index) = named.map Prod.fst := by
    rw [outcomes, List.map_map]
    rfl
  rw [names]
  refine ⟨?_, part, whole⟩
  rw [told, outcomes, List.map_map]
  rfl

/-! ## Looking devices up -/

namespace ProgressTracker

variable {tracker : ProgressTracker} {endpoint : EndpointId} {device : DeviceProgress}

/-- The endpoints that are tracked. -/
def keys (tracker : ProgressTracker) : List EndpointId :=
  tracker.devices.map Prod.fst

theorem mem_devices_of_device? (found : tracker.device? endpoint = some device) :
    (endpoint, device) ∈ tracker.devices := by
  unfold device? at found
  induction devices : tracker.devices generalizing tracker with
  | nil => simp [devices] at found
  | cons entry rest ih =>
    rw [devices, List.lookup_cons] at found
    split at found
    · rename_i same
      obtain rfl := Option.some.inj found
      exact eq_of_beq same ▸ List.mem_cons_self
    · exact List.mem_cons_of_mem _ (@ih ⟨rest⟩ found rfl)

theorem device?_of_mem (nodup : tracker.keys.Nodup) (mem : (endpoint, device) ∈ tracker.devices) :
    tracker.device? endpoint = some device := by
  unfold device? keys at *
  induction devices : tracker.devices generalizing tracker with
  | nil => simp [devices] at mem
  | cons entry rest ih =>
    rw [devices, List.map_cons, List.nodup_cons] at nodup
    rw [devices] at mem
    rw [List.lookup_cons]
    rcases List.mem_cons.mp mem with rfl | later
    · simp
    · have differs : (endpoint == entry.1) = false :=
        beq_false_of_ne fun same => nodup.1 (same ▸ List.mem_map_of_mem later)
      rw [differs]
      exact @ih ⟨rest⟩ nodup.2 later rfl

theorem device?_modify (changed : EndpointId) (change : DeviceProgress → DeviceProgress) :
    (tracker.modify changed change).device? endpoint =
      (tracker.device? endpoint).map fun device =>
        if endpoint = changed then change device else device :=
  Coordinator.lookup_mapValue (fun key device => if key = changed then change device else device)
    endpoint tracker.devices

theorem device?_register (started : EndpointId) (total : Nat) :
    (tracker.register started total).1.device? endpoint =
      if endpoint = started then some { componentsTotal := total }
      else tracker.device? endpoint := by
  rw [register, device?, List.lookup_cons, InstanceIdPool.lookup_filter_ne]
  split <;> simp_all [device?]

theorem device?_collect (collected : EndpointId) :
    (tracker.collect collected).1.device? endpoint =
      (tracker.device? endpoint).map fun device =>
        if endpoint = collected then { device with isCollected := true } else device :=
  device?_modify collected _

theorem device?_record (notification : Notification) :
    (tracker.record notification).1.device? endpoint =
      (tracker.device? endpoint).map fun device =>
        if endpoint = notification.endpoint then device.note notification else device := by
  cases notification with
  | applied other index success => exact device?_modify other _
  | completed other success =>
    cases success <;>
      exact ((congrArg (Option.map · _) (funext fun device => ite_self device)).trans
        (congrFun Option.map_id _)).symm

theorem device?_clearCollected (nodup : tracker.keys.Nodup) :
    tracker.clearCollected.device? endpoint =
      (tracker.device? endpoint).filter (!·.isCollected) := by
  have kept : tracker.clearCollected.keys.Nodup :=
    nodup.sublist (List.Sublist.map _ List.filter_sublist)
  refine Option.ext fun device => ?_
  rw [Option.filter_eq_some_iff]
  constructor
  · intro found
    obtain ⟨mem, open_device⟩ := List.mem_filter.mp (mem_devices_of_device? found)
    exact ⟨device?_of_mem nodup mem, open_device⟩
  · rintro ⟨found, open_device⟩
    exact device?_of_mem kept (List.mem_filter.mpr ⟨mem_devices_of_device? found, open_device⟩)

@[simp] theorem keys_modify (changed : EndpointId) (change : DeviceProgress → DeviceProgress) :
    (tracker.modify changed change).keys = tracker.keys := by
  simp [keys, modify, Function.comp_def]

@[simp] theorem keys_record (notification : Notification) :
    (tracker.record notification).1.keys = tracker.keys := by
  cases notification with
  | applied endpoint index success => exact keys_modify endpoint _
  | completed endpoint success => cases success <;> rfl

theorem nodup_keys_register (nodup : tracker.keys.Nodup) (started : EndpointId) (total : Nat) :
    (tracker.register started total).1.keys.Nodup := by
  refine List.nodup_cons.mpr ⟨fun again => ?_,
    nodup.sublist (List.Sublist.map _ List.filter_sublist)⟩
  obtain ⟨entry, mem, same⟩ := List.mem_map.mp again
  simpa [same] using (List.mem_filter.mp mem).2

theorem nodup_keys_clearCollected (nodup : tracker.keys.Nodup) :
    tracker.clearCollected.keys.Nodup :=
  nodup.sublist (List.Sublist.map _ List.filter_sublist)

end ProgressTracker

/-! ## The newest session of an endpoint -/

namespace Fleet

variable {fleet other : Fleet} {endpoint : EndpointId} {place : Nat}

theorem find?_reverse_range {count : Nat} {chosen : Nat → Bool} :
    (List.range count).reverse.find? chosen = some place ↔
      place < count ∧ chosen place = true ∧
        ∀ later, place < later → later < count → chosen later = false := by
  induction count with
  | zero => simp
  | succ count ih =>
    rw [List.range_succ, List.reverse_append, List.reverse_singleton, List.singleton_append,
      List.find?_cons]
    cases last : chosen count with
    | true =>
      simp only [Option.some.injEq]
      constructor
      · rintro rfl
        exact ⟨Nat.lt_succ_self _, last, fun later after before => by omega⟩
      · rintro ⟨bound, _, newest⟩
        by_contra different
        cases (newest count (by omega) (Nat.lt_succ_self _)).symm.trans last
    | false =>
      simp only [ih]
      constructor
      · rintro ⟨bound, own, newest⟩
        refine ⟨Nat.lt_succ_of_lt bound, own, fun later after before => ?_⟩
        rcases Nat.lt_succ_iff_lt_or_eq.mp before with old | rfl
        · exact newest later after old
        · exact last
      · rintro ⟨bound, own, newest⟩
        rcases Nat.lt_succ_iff_lt_or_eq.mp bound with old | rfl
        · exact ⟨old, own, fun later after before => newest later after (Nat.lt_succ_of_lt before)⟩
        · cases last.symm.trans own

/-- The newest run of an endpoint is the last one. -/
theorem newest?_eq_some : fleet.newest? endpoint = some place ↔
    fleet.endpoints[place]? = some endpoint ∧
      ∀ later, place < later → fleet.endpoints[later]? ≠ some endpoint := by
  have own (place : Nat) : fleet.runs[place]?.any (·.endpoint == endpoint) = true ↔
      fleet.endpoints[place]? = some endpoint := by
    rw [endpoints_eq_some, Option.any_eq_true]
    simp
  have within {place : Nat} (of : fleet.endpoints[place]? = some endpoint) :
      place < fleet.runs.length := by
    rw [← CoordinatorHistory.length_endpoints]
    exact (List.getElem?_eq_some_iff.mp of).1
  rw [newest?, find?_reverse_range, own]
  simp only [← Bool.not_eq_true, own]
  constructor
  · rintro ⟨_, of, newest⟩
    exact ⟨of, fun later after also => newest later after (within also) also⟩
  · rintro ⟨of, newest⟩
    exact ⟨within of, of, fun later after _ => newest later after⟩

theorem newest?_congr (same : other.endpoints = fleet.endpoints) :
    other.newest? endpoint = fleet.newest? endpoint :=
  Option.ext fun place => by rw [newest?_eq_some, newest?_eq_some, same]

/-- A run that is added is the newest one of its endpoint. -/
theorem newest?_add (record : DeviceRecord) : (fleet.add record).newest? endpoint =
    if endpoint = record.endpoint then some fleet.runs.length else fleet.newest? endpoint := by
  refine Option.ext fun place => ?_
  rw [newest?_eq_some, CoordinatorHistory.endpoints_add]
  simp only [ne_eq, CoordinatorHistory.getElem?_concat_eq_some,
    CoordinatorHistory.length_endpoints]
  split
  · rename_i same
    subst same
    constructor
    · rintro ⟨old | new, newest⟩
      · have before := (List.getElem?_eq_some_iff.mp old).1
        rw [CoordinatorHistory.length_endpoints] at before
        exact absurd (.inr ⟨rfl, rfl⟩) (newest _ before)
      · rw [new.2]
    · rintro ⟨⟩
      refine ⟨.inr ⟨rfl, rfl⟩, fun later after also => ?_⟩
      rcases also with old | new
      · have before := (List.getElem?_eq_some_iff.mp old).1
        rw [CoordinatorHistory.length_endpoints] at before
        omega
      · omega
  · rename_i other
    rw [newest?_eq_some]
    simp [other]

end Fleet

/-! ## The tracker and the sessions -/

namespace CoordinatorHistory

/-- What the tracker knows of the sessions. -/
structure Tracks (history : CoordinatorHistory) : Prop where
  /-- A session that has been collected is over. -/
  stopped : ∀ place run, place ∈ history.collected →
    history.coordinator.fleet.runs[place]? = some run → run.isOpen = false
  /-- A session that has not been collected is the newest one of its endpoint. -/
  newest : ∀ endpoint place, history.IsUncollected endpoint place →
    history.coordinator.fleet.newest? endpoint = some place
  keys : history.coordinator.tracker.keys.Nodup
  /-- A device is that of the newest session of its endpoint. -/
  device : ∀ endpoint device, history.coordinator.tracker.device? endpoint = some device →
    ∃ place life, history.coordinator.fleet.newest? endpoint = some place ∧
      history.life? place = some life ∧ device.Counts life ∧
      (device.isCollected = true ↔ place ∈ history.collected)
  /-- A device is tracked at least until its session has been collected. -/
  tracked : ∀ endpoint place, history.IsUncollected endpoint place →
    ∃ device, history.coordinator.tracker.device? endpoint = some device

variable {context : SessionContext} {history : CoordinatorHistory} {action : CoordinatorAction}
  {endpoint : EndpointId} {place : Nat}

section

variable (quiet : (history.deed action).isQuiet = true)

include quiet

theorem newest?_quiet : (history.extend action).coordinator.fleet.newest? endpoint =
    history.coordinator.fleet.newest? endpoint := by
  refine Fleet.newest?_congr ?_
  rw [Fleet.endpoints, CoordinatorHistory.extend, (fleet_quiet quiet).1]
  rfl

theorem isUncollected_quiet : (history.extend action).IsUncollected endpoint place ↔
    history.IsUncollected endpoint place ∧ place ∉ (history.deed action).collects?.toList := by
  unfold IsUncollected
  rw [collected_extend_deed, List.mem_append, not_or, Fleet.endpoints, CoordinatorHistory.extend,
    (fleet_quiet quiet).1, and_assoc]
  rfl

/-- An action that leaves the sessions alone keeps the tracker in order if it keeps the devices in
order. -/
theorem Tracks.of_quiet (tracks : history.Tracks)
    (stopped : ∀ place run, place ∈ (history.deed action).collects? →
      history.coordinator.fleet.runs[place]? = some run → run.isOpen = false)
    (keys : (history.next action).coordinator.tracker.keys.Nodup)
    (device : ∀ endpoint device,
      (history.next action).coordinator.tracker.device? endpoint = some device →
        ∃ before, history.coordinator.tracker.device? endpoint = some before ∧
          device.componentsTotal = before.componentsTotal ∧ device.outcomes = before.outcomes ∧
          (device.isCollected = true ↔ before.isCollected = true ∨
            ∃ place ∈ (history.deed action).collects?,
              history.coordinator.fleet.newest? endpoint = some place))
    (tracked : ∀ endpoint place, history.IsUncollected endpoint place →
      place ∉ (history.deed action).collects?.toList →
        ∃ device, (history.next action).coordinator.tracker.device? endpoint = some device) :
    (history.extend action).Tracks where
  stopped place run mem located := by
    rw [collected_extend_deed, List.mem_append, Option.mem_toList] at mem
    rw [CoordinatorHistory.extend, (fleet_quiet quiet).1] at located
    exact mem.elim (fun old => tracks.stopped place run old located)
      fun new => stopped place run new located
  newest endpoint place uncollected := by
    rw [newest?_quiet quiet]
    exact tracks.newest endpoint place ((isUncollected_quiet quiet).mp uncollected).1
  keys := keys
  device endpoint after found := by
    obtain ⟨before, found_before, total, outcomes, mark⟩ := device endpoint after found
    obtain ⟨place, life, newest, living, counts, mark_before⟩ :=
      tracks.device endpoint before found_before
    refine ⟨place, life, (newest?_quiet quiet).trans newest, (life?_quiet quiet).trans living,
      ⟨total.trans counts.total, outcomes ▸ counts.outcomes⟩, ?_⟩
    rw [mark, mark_before, newest, collected_extend_deed, List.mem_append, Option.mem_toList]
    simp
  tracked endpoint place uncollected := by
    obtain ⟨before, not_collected⟩ := (isUncollected_quiet quiet).mp uncollected
    exact tracked endpoint place before not_collected

end

theorem tracks_aside (tracks : history.Tracks) (deed_eq : history.deed action = .aside) :
    (history.extend action).Tracks := by
  have does := history.does action
  rw [deed_eq] at does
  cases does with
  | aside _ _ tracker =>
    refine tracks.of_quiet (by rw [deed_eq]; rfl) ?_ ?_ ?_ ?_
    · simp [deed_eq, CoordinatorDeed.collects?]
    · exact tracker ▸ tracks.keys
    · rw [tracker]
      exact fun endpoint device found =>
        ⟨device, found, rfl, rfl, by simp [deed_eq, CoordinatorDeed.collects?]⟩
    · rw [tracker]
      exact fun endpoint place uncollected _ => tracks.tracked endpoint place uncollected

theorem tracks_collected (tracks : history.Tracks) (booked : history.Booked) {wait : Wait}
    (deed_eq : history.deed action = .collected wait) : (history.extend action).Tracks := by
  have does := history.does action
  rw [deed_eq] at does
  cases does with
  | collected listed located closed step_eq =>
    have newest := tracks.newest _ _ (booked.waits wait listed).1
    have device?_eq (endpoint : EndpointId) :
        (history.next action).coordinator.tracker.device? endpoint =
          (history.coordinator.tracker.device? endpoint).map fun device =>
            if endpoint = wait.endpoint then { device with isCollected := true } else device := by
      rw [step_eq]
      exact ProgressTracker.device?_collect wait.endpoint
    refine tracks.of_quiet (by rw [deed_eq]; rfl) ?_ ?_ ?_ ?_
    · rw [deed_eq]
      rintro place run ⟨⟩ located'
      obtain rfl := Option.some.inj (located.symm.trans located')
      exact closed
    · rw [step_eq]
      exact (ProgressTracker.keys_modify _ _).symm ▸ tracks.keys
    · intro endpoint device found
      rw [device?_eq] at found
      obtain ⟨before, found_before, rfl⟩ := Option.map_eq_some_iff.mp found
      by_cases own : endpoint = wait.endpoint
      · subst own
        refine ⟨before, found_before, ?_⟩
        simp [deed_eq, CoordinatorDeed.collects?, newest]
      · have elsewhere : history.coordinator.fleet.newest? endpoint ≠ some wait.run := fun same =>
          own (Option.some.inj ((Fleet.newest?_eq_some.mp same).1.symm.trans
            (booked.waits wait listed).1.1))
        refine ⟨before, found_before, ?_⟩
        simp [own, deed_eq, CoordinatorDeed.collects?, elsewhere]
    · intro endpoint place uncollected _
      obtain ⟨device, found⟩ := tracks.tracked endpoint place uncollected
      exact ⟨_, (device?_eq endpoint).trans (by rw [found]; rfl)⟩

theorem tracks_cleared (tracks : history.Tracks) (deed_eq : history.deed action = .cleared) :
    (history.extend action).Tracks := by
  have does := history.does action
  rw [deed_eq] at does
  cases does with
  | cleared step_eq =>
    have device?_eq (endpoint : EndpointId) :
        (history.next action).coordinator.tracker.device? endpoint =
          (history.coordinator.tracker.device? endpoint).filter (!·.isCollected) := by
      rw [step_eq]
      exact ProgressTracker.device?_clearCollected tracks.keys
    refine tracks.of_quiet (by rw [deed_eq]; rfl) ?_ ?_ ?_ ?_
    · simp [deed_eq, CoordinatorDeed.collects?]
    · rw [step_eq]
      exact ProgressTracker.nodup_keys_clearCollected tracks.keys
    · intro endpoint device found
      rw [device?_eq] at found
      exact ⟨device, (Option.filter_eq_some_iff.mp found).1, rfl, rfl, by
        simp [deed_eq, CoordinatorDeed.collects?]⟩
    · intro endpoint place uncollected _
      -- A session that has not been collected is the newest one, and its device is not marked.
      obtain ⟨device, found⟩ := tracks.tracked endpoint place uncollected
      obtain ⟨newest, life, is_newest, _, _, mark⟩ := tracks.device endpoint device found
      have listed := tracks.newest endpoint place uncollected
      obtain rfl := Option.some.inj (is_newest.symm.trans listed)
      refine ⟨device, ?_⟩
      rw [device?_eq, found, Option.filter_eq_some_iff]
      simpa using mt mark.mp uncollected.2

section

variable {record : DeviceRecord} (starts : history.Starts action record)

include starts

theorem Starts.newest?_extend : (history.extend action).coordinator.fleet.newest? endpoint =
    if endpoint = record.endpoint then some history.coordinator.fleet.runs.length
    else history.coordinator.fleet.newest? endpoint := by
  rw [starts.fleet, Fleet.newest?_add]

theorem Starts.device?_extend : (history.extend action).coordinator.tracker.device? endpoint =
    if endpoint = record.endpoint then some { componentsTotal := record.componentCount }
    else history.coordinator.tracker.device? endpoint := by
  rw [starts.tracker, ProgressTracker.device?_register]

/-- No other session of its endpoint waits to be collected when a session starts. -/
theorem Starts.isUncollected_cases (booked : history.Booked)
    (uncollected : (history.extend action).IsUncollected endpoint place) :
    endpoint ≠ record.endpoint ∧ history.IsUncollected endpoint place ∨
      endpoint = record.endpoint ∧ place = history.coordinator.fleet.runs.length := by
  obtain ⟨of, not_collected⟩ := uncollected
  rw [starts.fleet, endpoints_add, getElem?_concat_eq_some, length_endpoints] at of
  rw [starts.collected] at not_collected
  refine of.imp_left fun old => ⟨?_, old, not_collected⟩
  rintro rfl
  exact booked.free_iff.mp starts.free ⟨place, old, not_collected⟩

theorem tracks_started (tracks : history.Tracks) (lived : history.Lived context)
    (booked : history.Booked) : (history.extend action).Tracks := by
  have unborn := lived.unborn history.coordinator.fleet.runs.length (Nat.le_refl _)
  have known {place : Nat} (mem : place ∈ history.collected) :
      place < history.coordinator.fleet.runs.length := by
    rw [← length_endpoints]
    exact booked.started place (booked.owned place mem)
  constructor
  case stopped =>
    intro place run mem located
    rw [starts.collected] at mem
    rw [starts.fleet, Fleet.add, List.getElem?_append_left (known mem)] at located
    exact tracks.stopped place run mem located
  case newest =>
    intro endpoint place uncollected
    rw [starts.newest?_extend]
    rcases starts.isUncollected_cases booked uncollected with ⟨other, old⟩ | ⟨own, new⟩
    · rw [if_neg other]
      exact tracks.newest endpoint place old
    · rw [if_pos own, new]
  case keys =>
    rw [starts.tracker]
    exact ProgressTracker.nodup_keys_register tracks.keys _ _
  case device =>
    intro endpoint device found
    rw [starts.device?_extend] at found
    rw [starts.newest?_extend, starts.collected]
    split at found
    · rename_i own
      obtain rfl := Option.some.inj found
      refine ⟨_, .fresh record, if_pos own, ?_, ⟨rfl, rfl⟩, ?_⟩
      · rw [starts.life?_extend unborn, if_pos rfl]
      · exact iff_of_false Bool.false_ne_true fun mem => Nat.lt_irrefl _ (known mem)
    · rename_i other
      obtain ⟨place, life, newest, living, counts, mark⟩ := tracks.device endpoint device found
      refine ⟨place, life, (if_neg other).trans newest, ?_, counts, mark⟩
      rw [starts.life?_extend unborn, if_neg, living]
      rintro rfl
      have within := (List.getElem?_eq_some_iff.mp (lived.run _ life living)).1
      exact Nat.lt_irrefl _ within
  case tracked =>
    intro endpoint place uncollected
    rw [starts.device?_extend]
    rcases starts.isUncollected_cases booked uncollected with ⟨other, old⟩ | ⟨own, _⟩
    · rw [if_neg other]
      exact tracks.tracked endpoint place old
    · exact ⟨_, if_pos own⟩

end

section

variable {step : RunAction} {run : Run} (moves : history.Moves action place step run)

include moves

/-- The device of the session's endpoint takes note of what the session tells. -/
theorem Moves.device?_extend (endpoint : EndpointId) :
    (history.extend action).coordinator.tracker.device? endpoint =
      (history.coordinator.tracker.device? endpoint).map fun device =>
        if endpoint = run.endpoint then
          (run.meet history.coordinator.fleet.context (history.momentOf step)).notifications.foldl
            DeviceProgress.note device
        else device := by
  rw [CoordinatorHistory.extend]
  rcases moves.tells with ⟨silent, tracker, _⟩ | ⟨notification, told, own, _, _, tracker, _⟩
  · simp [tracker, silent]
  · simp [tracker, told, own, ProgressTracker.device?_record]

theorem Moves.keys_extend : (history.extend action).coordinator.tracker.keys =
    history.coordinator.tracker.keys := by
  rw [CoordinatorHistory.extend]
  rcases moves.tells with ⟨_, tracker, _⟩ | ⟨_, _, _, _, _, tracker, _⟩ <;> simp [tracker]

/-- A session that still tells of something is the newest one of its endpoint. -/
theorem Moves.silent_or_newest (tracks : history.Tracks) :
    (run.meet history.coordinator.fleet.context (history.momentOf step)).notifications = [] ∨
      history.IsUncollected run.endpoint place ∧
        history.coordinator.fleet.newest? run.endpoint = some place := by
  rcases moves.tells with ⟨silent, _⟩ | ⟨_, _, _, taken, _⟩
  · exact .inl silent
  · have uncollected : history.IsUncollected run.endpoint place :=
      ⟨Fleet.endpoints_eq_some.mpr ⟨run, moves.located, rfl⟩, fun mem =>
        Bool.false_ne_true ((tracks.stopped place run mem moves.located).symm.trans taken)⟩
    exact .inr ⟨uncollected, tracks.newest _ _ uncollected⟩

/-- The device of an endpoint goes on counting what its newest session tells. -/
theorem Moves.counts_extend (tracks : history.Tracks) (lived : history.Lived context) {other : Nat}
    {device : DeviceProgress} {life : History}
    (newest : history.coordinator.fleet.newest? endpoint = some other)
    (living : history.life? other = some life) (counts : device.Counts life) :
    ∃ life, (history.extend action).life? other = some life ∧
      (if endpoint = run.endpoint then
          (run.meet history.coordinator.fleet.context (history.momentOf step)).notifications.foldl
            DeviceProgress.note device
        else device).Counts life := by
  have of := (Fleet.newest?_eq_some.mp newest).1
  rw [moves.life?_extend, living]
  by_cases same : other = place
  · subst same
    obtain rfl := Option.some.inj ((lived.run other life living).symm.trans moves.located)
    have own : endpoint = life.run.endpoint := Option.some.inj (of.symm.trans
      (Fleet.endpoints_eq_some.mpr ⟨life.run, moves.located, rfl⟩))
    obtain ⟨total, _, outcomes⟩ := DeviceProgress.foldl_note
      (life.run.meet history.coordinator.fleet.context (history.momentOf step)).notifications device
    rw [if_pos rfl, if_pos own]
    refine ⟨_, rfl, ?_, ?_⟩
    · rw [total, counts.total, History.run_extend, Run.meet, record_act moves.run_sound]
    · rw [outcomes, counts.outcomes, History.outcomes_extend]
  · -- An older session of the endpoint has nothing left to tell.
    refine ⟨life, if_neg same, ?_⟩
    split
    · rename_i own
      rcases moves.silent_or_newest tracks with silent | ⟨_, also⟩
      · rw [silent]
        exact counts
      · exact absurd (Option.some.inj (newest.symm.trans (own ▸ also))) same
    · exact counts

theorem tracks_moved (tracks : history.Tracks) (lived : history.Lived context) :
    (history.extend action).Tracks := by
  have newest?_eq (endpoint : EndpointId) :
      (history.extend action).coordinator.fleet.newest? endpoint =
        history.coordinator.fleet.newest? endpoint := Fleet.newest?_congr moves.endpoints
  have uncollected_iff {endpoint : EndpointId} {other : Nat} :
      (history.extend action).IsUncollected endpoint other ↔
        history.IsUncollected endpoint other := by
    rw [IsUncollected, moves.collected, moves.endpoints, IsUncollected]
  constructor
  case stopped =>
    intro other after mem located
    rw [moves.collected] at mem
    rcases moves.run_extend located with ⟨_, old⟩ | ⟨rfl, rfl⟩
    · exact tracks.stopped other after mem old
    · exact isOpen_meet_of_closed (tracks.stopped other run mem moves.located)
  case newest =>
    intro endpoint other uncollected
    rw [newest?_eq]
    exact tracks.newest endpoint other (uncollected_iff.mp uncollected)
  case keys => exact moves.keys_extend ▸ tracks.keys
  case device =>
    intro endpoint device found
    rw [moves.device?_extend] at found
    obtain ⟨before, found_before, rfl⟩ := Option.map_eq_some_iff.mp found
    obtain ⟨other, life, newest, living, counts, mark⟩ := tracks.device endpoint before found_before
    obtain ⟨life, living, counts⟩ := moves.counts_extend tracks lived newest living counts
    refine ⟨other, life, (newest?_eq endpoint).trans newest, living, counts, ?_⟩
    rw [moves.collected, ← mark]
    split
    · rw [(DeviceProgress.foldl_note _ before).2.1]
    · rfl
  case tracked =>
    intro endpoint other uncollected
    obtain ⟨device, found⟩ := tracks.tracked endpoint other (uncollected_iff.mp uncollected)
    exact ⟨_, (moves.device?_extend endpoint).trans (by rw [found]; rfl)⟩

end

/-- Every action keeps the tracker in order. -/
theorem Tracks.extend (tracks : history.Tracks) (lived : history.Lived context)
    (sound : history.coordinator.fleet.IsSound) (booked : history.Booked)
    (action : CoordinatorAction) : (history.extend action).Tracks := by
  cases deed_eq : history.deed action with
  | aside => exact tracks_aside tracks deed_eq
  | started record => exact tracks_started (starts deed_eq) tracks lived booked
  | moved place step =>
    obtain ⟨run, moves⟩ := booked.moves sound deed_eq
    exact tracks_moved moves tracks lived
  | collected wait => exact tracks_collected tracks booked deed_eq
  | cleared => exact tracks_cleared tracks deed_eq

/-- At all times the tracker knows the newest session of every endpoint that it tracks. -/
theorem tracks_through (context : SessionContext) (pool : InstanceIdPool)
    (actions : List CoordinatorAction) : (through context pool actions).Tracks := by
  induction actions using List.reverseRecOn with
  | nil =>
    exact ⟨fun _ _ mem => (nomatch mem), fun _ _ uncollected => (nomatch uncollected.1), .nil,
      fun _ _ found => (nomatch found), fun _ _ uncollected => (nomatch uncollected.1)⟩
  | append_singleton actions action ih =>
    obtain ⟨sound, booked⟩ := booked_through context pool actions
    rw [through_concat]
    exact ih.extend (lived_through context pool actions) sound booked action

end CoordinatorHistory

end FirmwareAgent
