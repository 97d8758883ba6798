import FirmwareAgent.Proofs.Coordinator.Tracking

/-!
# The progress of all devices together

The percentage of a progress event is the share of the components that have finished in those that
apply to the tracked devices. No device counts more components than apply to it, so the share needs
no bound of its own. It falls only when devices come or go.

* `UpdateProgress.Shares` says what the percentage of an event is.
* `ProgressTracker.Grows` says how a tracker changes as long as no device comes or goes.
* `aggregate_through`: the result.
-/

namespace FirmwareAgent

/-! ## Percentages -/

section

variable {α : Type} {few many : α → Nat} {items : List α}
  (le : ∀ item ∈ items, few item ≤ many item)

include le

theorem totalOf_map_le : totalOf (items.map few) ≤ totalOf (items.map many) := by
  induction items with
  | nil => exact Nat.le_refl _
  | cons item items ih =>
    obtain ⟨first, rest⟩ := List.forall_mem_cons.mp le
    exact Nat.add_le_add first (ih rest)

/-- Two sums of numbers in order are equal only if the numbers are. -/
theorem totalOf_map_eq_iff : totalOf (items.map few) = totalOf (items.map many) ↔
    ∀ item ∈ items, few item = many item := by
  induction items with
  | nil => simp
  | cons item items ih =>
    obtain ⟨first, rest⟩ := List.forall_mem_cons.mp le
    have sums := totalOf_map_le rest
    rw [List.forall_mem_cons, ← ih rest, List.map_cons, List.map_cons, totalOf, totalOf]
    omega

end

theorem toNat_percent {done total : Nat} (le : done ≤ total) :
    (percent done total).toNat = 100 * done / total := by
  unfold percent
  split
  · rename_i zero
    rw [zero, Nat.div_zero]
    rfl
  · rename_i nonzero
    have bound : done * 100 / total ≤ 100 :=
      Nat.div_le_of_le_mul (Nat.mul_comm done 100 ▸ Nat.mul_comm total 100 ▸
        Nat.mul_le_mul_left 100 le)
    rw [Nat.min_eq_left le, UInt8.toNat_ofNat', Nat.mod_eq_of_lt (by omega), Nat.mul_comm]

/-- Only everything is a hundred percent. -/
theorem hundred_iff {done total : Nat} (le : done ≤ total) :
    100 * done / total = 100 ↔ 0 < total ∧ done = total := by
  rcases Nat.eq_zero_or_pos total with rfl | pos
  · simp
  · rw [Nat.div_eq_iff pos]
    omega

namespace ProgressTracker

/-- No device counts more components than apply to it. -/
def IsBounded (tracker : ProgressTracker) : Prop :=
  ∀ entry ∈ tracker.devices, entry.2.outcomes.size ≤ entry.2.componentsTotal

/-- A tracker has the devices of another one, with as many components finished or more. -/
def Grows (tracker later : ProgressTracker) : Prop :=
  List.Forall₂ (fun before after => after.1 = before.1 ∧
    after.2.componentsTotal = before.2.componentsTotal ∧
    before.2.outcomes.size ≤ after.2.outcomes.size) tracker.devices later.devices

variable {tracker later : ProgressTracker}

theorem IsBounded.doneOverall_le (bounded : tracker.IsBounded) :
    tracker.doneOverall ≤ tracker.totalOverall :=
  totalOf_map_le bounded

/-- As many components have finished as apply to the devices if all have. -/
theorem IsBounded.doneOverall_eq_iff (bounded : tracker.IsBounded) :
    tracker.doneOverall = tracker.totalOverall ↔
      ∀ entry ∈ tracker.devices, entry.2.outcomes.size = entry.2.componentsTotal :=
  totalOf_map_eq_iff bounded

theorem Grows.refl (tracker : ProgressTracker) : tracker.Grows tracker :=
  List.forall₂_same.mpr fun _ _ => ⟨rfl, rfl, Nat.le_refl _⟩

theorem Grows.trans {last : ProgressTracker} (first : tracker.Grows later)
    (second : later.Grows last) : tracker.Grows last := by
  obtain ⟨devices⟩ := tracker
  obtain ⟨laters⟩ := later
  obtain ⟨lasts⟩ := last
  simp only [Grows] at first second ⊢
  induction first generalizing lasts with
  | nil => exact second
  | cons head _ ih =>
    cases second with
    | cons head' tail =>
      refine .cons ⟨head'.1.trans head.1, head'.2.1.trans head.2.1, ?_⟩ (ih _ tail)
      exact Nat.le_trans head.2.2 head'.2.2

theorem Grows.totals (grows : tracker.Grows later) :
    tracker.doneOverall ≤ later.doneOverall ∧ later.totalOverall = tracker.totalOverall := by
  obtain ⟨devices⟩ := tracker
  obtain ⟨laters⟩ := later
  simp only [Grows, doneOverall, totalOverall] at grows ⊢
  induction grows with
  | nil => exact ⟨Nat.le_refl _, rfl⟩
  | cons head _ ih =>
    exact ⟨Nat.add_le_add head.2.2 ih.1, congrArg₂ (· + ·) head.2.1 ih.2⟩

theorem grows_modify {endpoint : EndpointId} {change : DeviceProgress → DeviceProgress}
    (total : ∀ device, (change device).componentsTotal = device.componentsTotal)
    (more : ∀ device, device.outcomes.size ≤ (change device).outcomes.size) :
    tracker.Grows (tracker.modify endpoint change) := by
  rw [Grows, modify, List.forall₂_map_right_iff]
  refine List.forall₂_same.mpr fun entry _ => ?_
  dsimp only
  split
  · exact ⟨rfl, total _, more _⟩
  · exact ⟨rfl, rfl, Nat.le_refl _⟩

theorem grows_record (notification : Notification) :
    tracker.Grows (tracker.record notification).1 := by
  cases notification with
  | applied endpoint index success => exact grows_modify (fun _ => rfl) fun device => by simp
  | completed endpoint success => cases success <;> exact .refl tracker

/-- The percentage of an event is that of the tracker at the moment. -/
theorem percent_record (notification : Notification) :
    (tracker.record notification).2.progressPercent =
      percent (tracker.record notification).1.doneOverall
        (tracker.record notification).1.totalOverall := by
  cases notification with
  | applied => rfl
  | completed endpoint success => cases success <;> rfl

end ProgressTracker

/-- The percentage is the share of the components that have finished in those that apply to the
tracked devices. -/
structure UpdateProgress.Shares (progress : UpdateProgress) (tracker : ProgressTracker) : Prop where
  share : progress.progressPercent.toNat =
    if tracker.totalOverall = 0 then 0 else 100 * tracker.doneOverall / tracker.totalOverall
  bound : progress.progressPercent.toNat ≤ 100
  /-- Everything is done if there is something to do and every device is done. -/
  full : progress.progressPercent.toNat = 100 ↔ 0 < tracker.totalOverall ∧
    ∀ entry ∈ tracker.devices, entry.2.outcomes.size = entry.2.componentsTotal

theorem ProgressTracker.IsBounded.shares {tracker : ProgressTracker} (bounded : tracker.IsBounded)
    {progress : UpdateProgress}
    (percent_eq : progress.progressPercent = percent tracker.doneOverall tracker.totalOverall) :
    progress.Shares tracker := by
  have le := bounded.doneOverall_le
  have share := toNat_percent le
  rw [← percent_eq] at share
  refine ⟨?_, ?_, ?_⟩
  · split
    · rename_i zero
      rw [share, zero, Nat.div_zero]
    · exact share
  · rw [share]
    exact Nat.div_le_of_le_mul (by omega)
  · rw [share, hundred_iff le, bounded.doneOverall_eq_iff]

/-- The share of a tracker that has grown is no less. -/
theorem UpdateProgress.Shares.le_of_grows {tracker later : ProgressTracker}
    {progress progress' : UpdateProgress} (shares : progress.Shares tracker)
    (shares' : progress'.Shares later) (grows : tracker.Grows later) :
    progress.progressPercent ≤ progress'.progressPercent := by
  obtain ⟨more, same⟩ := grows.totals
  rw [UInt8.le_iff_toNat_le, shares.share, shares'.share, same]
  split
  · exact Nat.le_refl _
  · exact Nat.div_le_div_right (Nat.mul_le_mul_left 100 more)

/-! ## The tracker of a coordinator -/

/-- Whether an action makes devices come or go. -/
def CoordinatorDeed.retracks : CoordinatorDeed → Bool
  | started _ | cleared => true
  | aside | moved .. | collected _ => false

namespace CoordinatorHistory

/-- No device comes or goes with the actions after a number, up to another one. -/
def IsSteady (history : CoordinatorHistory) (first last : Nat) : Prop :=
  ∀ number entry, first < number → number ≤ last → history.entries[number]? = some entry →
    (entry.coordinator.deed number entry.action).retracks = false

/-- What the progress of all devices together is, at all times. -/
structure Aggregates (history : CoordinatorHistory) : Prop where
  /-- An endpoint has one device at most. It is that of the newest session of the endpoint, and it
  counts the components of which the session has told. -/
  keys : history.coordinator.tracker.keys.Nodup
  counts : ∀ entry ∈ history.coordinator.tracker.devices, ∃ place life,
    history.coordinator.fleet.newest? entry.1 = some place ∧
      history.coordinator.fleet.runs[place]? = some life.run ∧
      history.life? place = some life ∧ entry.2.Counts life
  bounded : history.coordinator.tracker.IsBounded
  /-- The percentage of every event is the share of all devices after the action. -/
  shares : ∀ entry ∈ history.entries, ∀ progress ∈ entry.step.published,
    progress.Shares entry.step.coordinator.tracker
  /-- It does not fall as long as no device comes or goes. -/
  steady : ∀ first last entry later, first ≤ last → history.entries[first]? = some entry →
    history.entries[last]? = some later → history.IsSteady first last →
      ∀ progress ∈ entry.step.published, ∀ progress' ∈ later.step.published,
        progress.progressPercent ≤ progress'.progressPercent
  /-- Clearing takes out the devices whose newest session has been collected, and no others. -/
  cleared : ∀ endpoint,
    (history.extend .clearFinishedProgress).coordinator.tracker.device? endpoint =
      if ∃ place ∈ history.collected, history.coordinator.fleet.newest? endpoint = some place then
        none
      else history.coordinator.tracker.device? endpoint

variable {context : SessionContext} {pool : InstanceIdPool} {history : CoordinatorHistory}
  {action : CoordinatorAction}

/-- The percentage of an event is that of the tracker after the action. -/
theorem percent_of_published (booked : history.Booked)
    (sound : history.coordinator.fleet.IsSound) {progress : UpdateProgress}
    (told : progress ∈ (history.next action).published) :
    progress.progressPercent = percent (history.next action).coordinator.tracker.doneOverall
      (history.next action).coordinator.tracker.totalOverall := by
  cases deed_eq : history.deed action with
  | moved place step =>
    obtain ⟨run, moves⟩ := booked.moves sound deed_eq
    rcases moves.tells with ⟨_, _, silent⟩ | ⟨notification, _, _, _, _, tracker, published⟩
    · rw [silent] at told
      cases told
    · rw [published] at told
      obtain rfl := List.mem_singleton.mp told
      rw [tracker, ProgressTracker.percent_record]
  | started record =>
    have starts := starts deed_eq
    have tracker : (history.next action).coordinator.tracker = _ := starts.tracker
    rw [starts.published] at told
    obtain rfl := List.mem_singleton.mp told
    rw [tracker]
    rfl
  | aside | collected | cleared =>
    have quiet : (history.deed action).isQuiet = true := by rw [deed_eq]; rfl
    rw [published_quiet quiet] at told
    cases told

/-- As long as no device comes or goes, the tracker grows. -/
theorem grows_of_steady (booked : history.Booked) (sound : history.coordinator.fleet.IsSound)
    (steady : (history.deed action).retracks = false) :
    history.coordinator.tracker.Grows (history.next action).coordinator.tracker := by
  have does := history.does action
  cases deed_eq : history.deed action with
  | started | cleared =>
    rw [deed_eq] at steady
    cases steady
  | moved place step =>
    obtain ⟨run, moves⟩ := booked.moves sound deed_eq
    rcases moves.tells with ⟨_, tracker, _⟩ | ⟨notification, _, _, _, _, tracker, _⟩
    · exact tracker ▸ .refl _
    · exact tracker ▸ ProgressTracker.grows_record notification
  | aside =>
    rw [deed_eq] at does
    cases does with
    | aside _ _ tracker => exact tracker ▸ .refl _
  | collected wait =>
    rw [deed_eq] at does
    cases does with
    | collected _ _ _ step_eq =>
      rw [step_eq]
      exact ProgressTracker.grows_modify (fun _ => rfl) fun _ => Nat.le_refl _

/-- A device counts no more components than its session has. -/
theorem Tracks.isBounded (tracks : history.Tracks) : history.coordinator.tracker.IsBounded := by
  intro entry mem
  obtain ⟨place, life, _, living, counts, _⟩ :=
    tracks.device entry.1 entry.2 (ProgressTracker.device?_of_mem tracks.keys mem)
  have part := (History.told_eq (hasTold_of_life living).2).2.1.length_le
  rw [← Array.length_toList, counts.outcomes, counts.total]
  simpa [DeviceRecord.componentCount] using part

theorem Tracks.cleared (tracks : history.Tracks) (endpoint : EndpointId) :
    (history.extend .clearFinishedProgress).coordinator.tracker.device? endpoint =
      if ∃ place ∈ history.collected, history.coordinator.fleet.newest? endpoint = some place then
        none
      else history.coordinator.tracker.device? endpoint := by
  change history.coordinator.tracker.clearCollected.device? endpoint = _
  rw [ProgressTracker.device?_clearCollected tracks.keys]
  cases found : history.coordinator.tracker.device? endpoint with
  | none => simp
  | some device =>
    obtain ⟨place, _, newest, _, _, mark⟩ := tracks.device endpoint device found
    simp only [newest, Option.some.injEq, exists_eq_right']
    by_cases collected : place ∈ history.collected
    · simp [Option.filter, mark.mpr collected, collected]
    · have open_device : device.isCollected = false := Bool.eq_false_iff.mpr (mt mark.mp collected)
      simp [Option.filter, open_device, collected]

/-- What has been published is the share at that moment. -/
theorem shares_through (context : SessionContext) (pool : InstanceIdPool)
    (actions : List CoordinatorAction) :
    ∀ entry ∈ (through context pool actions).entries, ∀ progress ∈ entry.step.published,
      progress.Shares entry.step.coordinator.tracker := by
  induction actions using List.reverseRecOn with
  | nil => exact fun entry mem => absurd mem List.not_mem_nil
  | append_singleton actions action ih =>
    obtain ⟨sound, booked⟩ := booked_through context pool actions
    have bounded := (tracks_through context pool (actions ++ [action])).isBounded
    rw [through_concat] at bounded ⊢
    intro entry mem progress told
    rcases List.mem_append.mp mem with old | new
    · exact ih entry old progress told
    · obtain rfl := List.mem_singleton.mp new
      exact bounded.shares (percent_of_published booked sound told)

/-- Since an action the tracker has grown, if no device has come or gone. -/
theorem grows_through (context : SessionContext) (pool : InstanceIdPool)
    (actions : List CoordinatorAction) {first : Nat} {entry : CoordinatorEntry}
    (found : (through context pool actions).entries[first]? = some entry)
    (steady : ∀ number between, first < number →
      (through context pool actions).entries[number]? = some between →
        (between.coordinator.deed number between.action).retracks = false) :
    entry.step.coordinator.tracker.Grows (through context pool actions).coordinator.tracker := by
  induction actions using List.reverseRecOn with
  | nil => cases found
  | append_singleton actions action ih =>
    obtain ⟨sound, booked⟩ := booked_through context pool actions
    rw [through_concat] at found steady ⊢
    rcases getElem?_concat_eq_some.mp found with old | ⟨rfl, rfl⟩
    · have within := (List.getElem?_eq_some_iff.mp old).1
      have before := ih old fun number between after there =>
        steady number between after (getElem?_concat_eq_some.mpr (.inl there))
      exact before.trans (grows_of_steady booked sound
        (steady _ _ within (getElem?_concat_eq_some.mpr (.inr ⟨rfl, rfl⟩))))
    · exact .refl _

theorem steady_through (context : SessionContext) (pool : InstanceIdPool)
    (actions : List CoordinatorAction) {first last : Nat} {entry later : CoordinatorEntry}
    (le : first ≤ last) (found : (through context pool actions).entries[first]? = some entry)
    (found_later : (through context pool actions).entries[last]? = some later)
    (steady : (through context pool actions).IsSteady first last) :
    entry.step.coordinator.tracker.Grows later.step.coordinator.tracker := by
  induction actions using List.reverseRecOn with
  | nil => cases found
  | append_singleton actions action ih =>
    rw [through_concat] at found_later
    rcases getElem?_concat_eq_some.mp found_later with old | ⟨rfl, rfl⟩
    · have within := (List.getElem?_eq_some_iff.mp old).1
      rw [through_concat] at found steady
      refine ih ?_ old fun number between after before there =>
        steady number between after before (getElem?_concat_eq_some.mpr (.inl there))
      exact (getElem?_concat_eq_some.mp found).resolve_right fun new => by omega
    · have grown := grows_through context pool (actions ++ [action]) found
        fun number between after there => steady number between after ?_ there
      · rw [through_concat] at grown
        exact grown
      · rw [through_concat] at there
        have within := (List.getElem?_eq_some_iff.mp there).1
        rw [CoordinatorHistory.extend, List.length_append, List.length_singleton] at within
        omega

/-- Whatever is called and whatever the sessions do, in whatever order: the percentage of every
event is the share of the components that have finished in those that apply to the tracked devices,
which are the devices of the newest sessions, and it falls only when devices come or go. -/
theorem aggregate_through (context : SessionContext) (pool : InstanceIdPool)
    (actions : List CoordinatorAction) : (through context pool actions).Aggregates := by
  have tracks := tracks_through context pool actions
  have lived := lived_through context pool actions
  have shares := shares_through context pool actions
  exact {
    keys := tracks.keys
    counts := fun entry mem => by
      obtain ⟨place, life, newest, living, counts, _⟩ :=
        tracks.device entry.1 entry.2 (ProgressTracker.device?_of_mem tracks.keys mem)
      exact ⟨place, life, newest, lived.run place life living, living, counts⟩
    bounded := tracks.isBounded
    shares := shares
    steady := fun first last entry later le found found_later steady progress told progress'
        told' =>
      (shares entry (List.mem_of_getElem? found) progress told).le_of_grows
        (shares later (List.mem_of_getElem? found_later) progress' told')
        (steady_through context pool actions le found found_later steady)
    cleared := tracks.cleared }

end CoordinatorHistory

end FirmwareAgent
