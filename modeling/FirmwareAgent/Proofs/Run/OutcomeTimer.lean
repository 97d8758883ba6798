import FirmwareAgent.Proofs.Run.Inbound

/-!
# The timer of a component at work

While the target is at work on a component, its silence is timed. The deadline is always the timeout
after the target's last sign of life: that it took the component, or that it asked for something
about the component, whether that was granted or refused. Requests for package data do not count.

* `Reaction.timed`: what an event does to the deadline.
* `outcomeTimer_through`: the deadline at any time, and how long the target must have been silent
  when the update is given up for its silence.
-/

namespace FirmwareAgent

theorem Instant.after?_eq_some {start clockEnd later : Instant} {duration : Duration}
    (shown : start.after? clockEnd duration = some later) : later = start + duration.nanos := by
  unfold Instant.after? at shown
  split at shown
  · exact (Option.some.inj shown).symm
  · cases shown

/-! ## Signs of life -/

/-- Whether an event shows that the target is at work on the component whose outcome is awaited. -/
def Session.isSignOfLife (session : Session) : Event → Bool
  | .inbound _ request => session.showsLife request
  | _ => false

namespace HistoryEntry

/-- The target took the component at a position, and its outcome is awaited from then on. -/
def takes (position : Nat) (entry : HistoryEntry) : Bool :=
  entry.run.session.state != .awaitingComponentOutcome position
    && entry.step.run.session.state == .awaitingComponentOutcome position

/-- The session handled a sign of life while it awaited the outcome of the component at a
position. -/
def hears (position : Nat) (entry : HistoryEntry) : Bool :=
  entry.run.session.state == .awaitingComponentOutcome position
    && (entry.run.next? entry.moment.now entry.moment.action).any fun (event, _) =>
      entry.run.session.isSignOfLife event

/-- The target showed that it is at work on the component at a position. -/
def isSign (position : Nat) (entry : HistoryEntry) : Bool :=
  entry.takes position || entry.hears position

/-- The session handled a request of its target while it awaited the outcome of the component at a
position. -/
structure Handles (position : Nat) (request : Request) (entry : HistoryEntry) : Prop where
  state : entry.run.session.state = .awaitingComponentOutcome position
  next : ∃ caller inbox, entry.run.next? entry.moment.now entry.moment.action =
    some (.inbound caller request, inbox)

end HistoryEntry

namespace History

/-- When the target took the component at a position, and when it has shown since then that it is at
work on it. -/
def signsOfLife (history : History) (position : Nat) : List Instant :=
  (history.entries.filter (·.isSign position)).map (·.moment.now)

/-- The clock never goes back. -/
def InOrder (moments : List Moment) : Prop :=
  moments.Pairwise fun earlier later => earlier.now ≤ later.now

end History

/-- The target has been silent for the whole timeout at an instant, but for its requests for package
data. -/
structure FellSilent (context : SessionContext) (history : History) (position : Nat)
    (now : Instant) : Prop where
  taken : ∃ entry ∈ history.entries, entry.takes position = true ∧
    entry.moment.now + context.config.componentOutcomeTimeout.nanos ≤ now
  silent : ∀ entry ∈ history.entries, ∀ request command, entry.Handles position request →
    request.pldmType = firmwareUpdateType → Command.served? request.command = some command →
      command ≠ .getPackageData →
        entry.moment.now + context.config.componentOutcomeTimeout.nanos ≤ now

/-! ## What an event does to the deadline -/

section

variable {context : SessionContext} {now : Instant} {session : Session} {pool : InstanceIdPool}
  {event : Event} {turn : Turn} {position : Nat}

theorem isOrderly_start (live : session.state.isTerminal = false) :
    (Turn.start context now ⟨session, pool, []⟩).IsOrderly := by
  rcases start_cases context now session pool with ⟨reason, _, failed⟩ | ⟨_, reaction⟩
  · rw [failed]
    exact .inl (Turn.isCalm_fail live)
  · exact reaction.orderly rfl

/-- The deadline once a session awaits the outcome of a component: it is set by a sign of life, and
kept by everything else. -/
inductive Timed (context : SessionContext) (now : Instant) (session : Session) (position : Nat)
    (event : Event) (after : Session) : Prop
  | set {deadline : Instant}
      (sign : session.state ≠ .awaitingComponentOutcome position ∨
        session.isSignOfLife event = true)
      (shown : now.after? context.clockEnd context.config.componentOutcomeTimeout = some deadline)
      (deadline_eq : after.outcomeDeadline = some deadline)
  | kept (state : session.state = .awaitingComponentOutcome position)
      (silent : session.isSignOfLife event = false)
      (deadline_eq : after.outcomeDeadline = session.outcomeDeadline)

theorem timed_of_inbound {caller : Caller} {request : Request} {deadline : Option Instant}
    {after : Session} (state : session.state = .awaitingComponentOutcome position)
    (rearmed : session.deadlineAfter? context now request = some deadline)
    (deadline_eq : after.outcomeDeadline = deadline) :
    Timed context now session position (.inbound caller request) after := by
  have inProgress : session.state.isInProgress = true := by
    rw [state]
    rfl
  rw [Session.deadlineAfter?_eq inProgress] at rearmed
  split at rearmed
  · rename_i life
    obtain ⟨later, shown, rfl⟩ := Option.map_eq_some_iff.mp rearmed
    exact .set (.inr life) shown deadline_eq
  · rename_i no_life
    obtain rfl := Option.some.inj rearmed
    exact .kept state (Bool.eq_false_iff.mpr no_life) deadline_eq

/-- A session that awaits the outcome of a component after an event has its silence timed. -/
theorem Reaction.timed (reaction : Reaction context now session pool event turn)
    (live : session.state.isTerminal = false) (calm : turn.IsCalm)
    (state : turn.session.state = .awaitingComponentOutcome position) :
    Timed context now session position event turn.session := by
  have calms {effect : Effect} (mem : effect ∈ turn.effects) (crash : effect.isCrash = true) :
      False := by
    rw [calm effect mem] at crash
    cases crash
  cases reaction with
  | ignored idle =>
    refine .kept state ?_ rfl
    cases event with
    | inbound caller request => exact idle.elim
    | _ => rfl
  | failed cause =>
    rw [Turn.state_fail _ _ _ _ live] at state
    cases state
  | submitted due =>
    have own := Session.command?_of_nextDraft? due
    exact absurd state (SessionState.not_atWork_of_command? own position)
  | acknowledged awaited own granted next_eq =>
    obtain ⟨command, next_own, _⟩ := SessionState.command?_of_acknowledged? next_eq
    exact absurd state (SessionState.not_atWork_of_command? next_own position)
  | accepted awaited announced command granted decoded compatible shown =>
    exact .set (.inl fun awaiting => by cases announced.symm.trans awaiting) shown rfl
  | declined | finished =>
    obtain ⟨command, next_own, _⟩ :=
      SessionState.command?_afterComponent session.record.componentCount
    exact absurd state (SessionState.not_atWork_of_command? next_own position)
  | activated => cases state
  | answered rearmed | deferred rearmed => exact timed_of_inbound state rearmed rfl
  | untimed | brokeDown | overran => exact (calms (List.mem_singleton.mpr rfl) rfl).elim

end

/-! ## The deadline of a run -/

section

variable {context : SessionContext} {moment : Moment} {history : History} {position : Nat}

/-- The deadline is the timeout after the last sign of life. -/
structure History.TimesSilence (context : SessionContext) (history : History) (position : Nat) :
    Prop where
  taken : ∃ entry ∈ history.entries, entry.takes position = true
  deadline : ∃ last, (history.signsOfLife position).getLast? = some last ∧
    history.run.session.outcomeDeadline =
      some (last + context.config.componentOutcomeTimeout.nanos)

/-- What a moment adds to a history. -/
def History.newest (context : SessionContext) (history : History) (moment : Moment) :
    HistoryEntry :=
  ⟨history.run, moment, history.run.meet context moment⟩

theorem History.signsOfLife_extend (position : Nat) :
    (history.extend context moment).signsOfLife position =
      history.signsOfLife position ++
        if (history.newest context moment).isSign position then [moment.now] else [] := by
  unfold signsOfLife
  show List.map _ (List.filter _ (history.entries ++ [history.newest context moment])) = _
  rw [List.filter_append, List.map_append]
  split <;> simp_all [newest]

/-- A sign of life sets the deadline. -/
theorem History.TimesSilence.of_sign {deadline : Instant}
    (taken : ∃ entry ∈ (history.extend context moment).entries, entry.takes position = true)
    (sign : (history.newest context moment).isSign position = true)
    (shown : moment.now.after? context.clockEnd context.config.componentOutcomeTimeout =
      some deadline)
    (deadline_eq : (history.run.meet context moment).run.session.outcomeDeadline = some deadline) :
    (history.extend context moment).TimesSilence context position where
  taken := taken
  deadline := by
    refine ⟨moment.now, ?_, ?_⟩
    · rw [signsOfLife_extend, if_pos sign, List.getLast?_concat]
    · rw [run_extend, deadline_eq, Instant.after?_eq_some shown]

/-- A moment without a sign of life keeps the deadline. -/
theorem History.TimesSilence.extend (timed : history.TimesSilence context position)
    (silent : (history.newest context moment).isSign position = false)
    (deadline_eq : (history.run.meet context moment).run.session.outcomeDeadline =
      history.run.session.outcomeDeadline) :
    (history.extend context moment).TimesSilence context position where
  taken := by
    obtain ⟨entry, mem, takes⟩ := timed.taken
    exact ⟨entry, mem_entries_extend mem, takes⟩
  deadline := by
    obtain ⟨last, last_eq, timer⟩ := timed.deadline
    refine ⟨last, ?_, deadline_eq.trans timer⟩
    rw [signsOfLife_extend, silent]
    simpa using last_eq

/-- A run that starts announces no component yet. -/
theorem not_awaiting_of_start (live : history.run.session.state.isTerminal = false) :
    ({ history.run with status := .running }.settle context moment.now
      (Turn.start context moment.now ⟨history.run.session, moment.pool, []⟩)).run.session.state ≠
        .awaitingComponentOutcome position := by
  rw [(Run.state_settle context moment.now rfl (isOrderly_start live)).2]
  rcases start_cases context moment.now history.run.session moment.pool with
    ⟨reason, _, failed⟩ | ⟨_, reaction⟩
  · rw [failed, Turn.state_fail _ _ _ _ live]
    nofun
  · generalize Turn.start context moment.now ⟨history.run.session, moment.pool, []⟩ = turn
      at reaction
    cases reaction with
    | ignored idle => nofun
    | failed cause =>
      rw [Turn.state_fail _ _ _ _ rfl]
      nofun
    | submitted due => nofun

/-- Every moment keeps the deadline at the timeout after the last sign of life. -/
theorem timesSilence_extend (sound : history.run.Sound)
    (timed : history.run.status = .running →
      history.run.session.state = .awaitingComponentOutcome position →
        history.TimesSilence context position)
    (running : (history.extend context moment).run.status = .running)
    (state : (history.extend context moment).run.session.state =
      .awaitingComponentOutcome position) :
    (history.extend context moment).TimesSilence context position := by
  rw [History.run_extend] at running state
  rcases meet_cases context moment sound with
    ⟨idle, rests⟩ | ⟨_, waiting, fresh, met⟩ |
      ⟨event, inbox, turn, next, was_running, reaction, met⟩
  · -- Nothing was handled, so there was no sign of life.
    have state_eq := state
    rw [rests.session] at state_eq
    refine (timed (rests.status ▸ running) state_eq).extend ?_ (by rw [rests.session])
    simp [HistoryEntry.isSign, HistoryEntry.takes, HistoryEntry.hears, History.newest, idle,
      state_eq]
  · have live : history.run.session.state.isTerminal = false := by
      rw [fresh]
      rfl
    rw [met] at state
    exact absurd state (not_awaiting_of_start live)
  · have live := sound.live was_running
    have settling : ({ history.run with inbox := inbox } : Run).status = .running := was_running
    have taken : (history.run.meet context moment).run.isOpen = true := by
      rw [Run.isOpen, running]
      rfl
    rw [met] at taken
    obtain ⟨calm, _⟩ := Run.calm_of_isOpen_settle settling (reaction.orderly live) taken
    have session_eq : (history.run.meet context moment).run.session = turn.session := by
      rw [met]
      exact (Run.settle_calm context moment.now settling calm).1
    rw [session_eq] at state
    by_cases before : history.run.session.state = .awaitingComponentOutcome position
    · have earlier := timed was_running before
      cases reaction.timed live calm state with
      | set sign shown deadline_eq =>
        obtain ⟨entry, mem, takes⟩ := earlier.taken
        have life : history.run.session.isSignOfLife event = true :=
          sign.resolve_left fun other => other before
        refine .of_sign ⟨entry, History.mem_entries_extend mem, takes⟩ ?_ shown
          (by rw [session_eq, deadline_eq])
        simp [HistoryEntry.isSign, HistoryEntry.hears, History.newest, next, before, life]
      | kept _ silent deadline_eq =>
        refine earlier.extend ?_ (by rw [session_eq, deadline_eq])
        simp [HistoryEntry.isSign, HistoryEntry.takes, HistoryEntry.hears, History.newest, next,
          before, silent]
    · -- The target has just taken the component.
      have takes : (history.newest context moment).takes position = true := by
        simp [HistoryEntry.takes, History.newest, before, session_eq, state]
      cases reaction.timed live calm state with
      | set sign shown deadline_eq =>
        refine .of_sign ⟨_, List.mem_append_right _ (List.mem_singleton.mpr rfl), takes⟩ ?_ shown
          (by rw [session_eq, deadline_eq])
        rw [HistoryEntry.isSign, takes, Bool.true_or]
      | kept state_eq => exact absurd state_eq before

end

/-! ## The timer never waits in the inbox -/

section

variable {context : SessionContext} {now : Instant} {run : Run} {turn : Turn} {event : Event}

theorem mem_inbox_settle (running : run.status = .running) (orderly : turn.IsOrderly)
    (mem : event ∈ (run.settle context now turn).run.inbox) :
    event ∈ run.inbox ∨ event = .proceed := by
  rcases orderly with calm | ⟨asked, crash⟩
  · cases terminal : turn.session.state.isTerminal with
    | true =>
      rw [(Run.settle_ends context now run calm running terminal).2.2.1] at mem
      cases mem
    | false =>
      rw [(Run.settle_continues context now run calm terminal).1.inbox] at mem
      refine (List.mem_append.mp mem).imp_right fun queued => ?_
      obtain ⟨effect, _, queues⟩ := List.mem_filterMap.mp queued
      cases effect <;> simp_all [Effect.event?]
  · rw [(Run.settle_crash context now run crash).2.2.1] at mem
    cases mem

/-- The end of the timer is handled at once and never queued. -/
theorem outcomeTimeout_not_mem_act {pool : InstanceIdPool} {action : RunAction}
    (sound : run.Sound) (free : Event.outcomeTimeout ∉ run.inbox) :
    Event.outcomeTimeout ∉ (run.act context now pool action).run.inbox := by
  have change : Run.Change context now pool run action (run.act context now pool action) :=
    Run.change_act sound.live
  generalize run.act context now pool action = step at change
  cases change with
  | began waiting =>
    intro mem
    have live : run.session.state.isTerminal = false := by
      rw [(sound.fresh waiting).1]
      rfl
    rcases mem_inbox_settle rfl (isOrderly_start live) mem with old | proceed
    · exact free old
    · cases proceed
  | @turned _ event inbox turn running next reaction =>
    intro mem
    have settling : ({ run with inbox := inbox } : Run).status = .running := running
    rcases mem_inbox_settle settling (reaction.orderly (sound.live running)) mem with old | proceed
    · obtain ⟨_, ⟨_, queue⟩ | ⟨_, _, _, rfl⟩⟩ := Run.next?_eq_some.mp next
      · exact free (queue ▸ List.mem_cons_of_mem _ old)
      · exact free old
    · cases proceed
  | returned taken token_eq ends =>
    intro mem
    rcases List.mem_append.mp mem with old | new
    · exact free old
    · cases List.mem_singleton.mp new
  | queued taken arrival =>
    intro mem
    rcases List.mem_append.mp mem with old | new
    · exact free old
    · obtain rfl := List.mem_singleton.mp new
      rcases arrival with ⟨_, _, _, asked⟩ | ⟨_, cancelled⟩
      · cases asked
      · cases cancelled
  | idle | lost | withdrawn | read => exact free

theorem outcomeTimeout_not_mem_through (context : SessionContext) (record : DeviceRecord)
    (moments : List Moment) :
    Event.outcomeTimeout ∉ (History.through context record moments).run.inbox := by
  suffices kept : (History.through context record moments).run.Sound ∧
      Event.outcomeTimeout ∉ (History.through context record moments).run.inbox from kept.2
  refine History.induct (motive := fun history =>
    history.run.Sound ∧ Event.outcomeTimeout ∉ history.run.inbox) ?_ ?_ moments
  · exact ⟨.waiting rfl rfl rfl rfl, List.not_mem_nil⟩
  · rintro history moment ⟨sound, free⟩
    exact ⟨sound.act, outcomeTimeout_not_mem_act sound free⟩

end

/-! ## Giving up for silence -/

section

variable {context : SessionContext} {record : DeviceRecord} {moments : List Moment}
  {moment : Moment} {position : Nat}

theorem timesSilence_through (context : SessionContext) (record : DeviceRecord)
    (moments : List Moment) (position : Nat)
    (running : (History.through context record moments).run.status = .running)
    (state : (History.through context record moments).run.session.state =
      .awaitingComponentOutcome position) :
    (History.through context record moments).TimesSilence context position := by
  suffices kept : (History.through context record moments).run.Sound ∧
      ((History.through context record moments).run.status = .running →
        (History.through context record moments).run.session.state =
          .awaitingComponentOutcome position →
        (History.through context record moments).TimesSilence context position) from
    kept.2 running state
  refine History.induct (motive := fun history => history.run.Sound ∧
    (history.run.status = .running → history.run.session.state =
      .awaitingComponentOutcome position → history.TimesSilence context position)) ?_ ?_ moments
  · exact ⟨.waiting rfl rfl rfl rfl, nofun⟩
  · rintro history moment ⟨sound, timed⟩
    exact ⟨sound.act, timesSilence_extend sound timed⟩

/-- A session that gives up for its target's silence while a component is at work does so because
the timer of that component has run out. -/
theorem expired_of_timeout {run : Run} {index : ComponentIndex} (sound : run.Sound)
    (free : Event.outcomeTimeout ∉ run.inbox) (running : run.status = .running)
    (state : run.session.state = .awaitingComponentOutcome position)
    (failed : (run.meet context moment).run.session.state =
      .failed (.timeout (.targetRequests index))) :
    index = run.session.componentIndex position ∧
      run.session.outcomeDeadline.any (· ≤ moment.now) = true := by
  rcases meet_cases context moment sound with
    ⟨_, rests⟩ | ⟨_, waiting, _⟩ | ⟨event, inbox, turn, next, _, reaction, met⟩
  · rw [rests.session, state] at failed
    cases failed
  · cases running.symm.trans waiting
  have live := sound.live running
  have settling : ({ run with inbox := inbox } : Run).status = .running := running
  rw [met, (Run.state_settle context moment.now settling (reaction.orderly live)).2] at failed
  have outcome := reaction.outcome live
  rw [failed] at outcome
  rcases outcome with goes_on | completed | ⟨reason, cause, reason_eq⟩
  · cases goes_on
  · cases completed
  obtain rfl := SessionState.failed.inj reason_eq
  cases cause with
  | unwritable due | noId due =>
    rw [Session.nextDraft?, state] at due
    cases due
  | undelivered awaited =>
    -- Nothing is pending while a component is at work.
    cases (sound.driven running).2 with
    | due own | underWay _ own =>
      exact absurd state (SessionState.not_atWork_of_command? own position)
    | withTarget _ free => cases free.symm.trans awaited.slot
  | silence at_work =>
    obtain rfl : position = _ :=
      SessionState.awaitingComponentOutcome.inj (state.symm.trans at_work)
    refine ⟨rfl, ?_⟩
    obtain ⟨_, ⟨_, queue⟩ | ⟨_, due, _⟩⟩ := Run.next?_eq_some.mp next
    · exact absurd (queue ▸ List.mem_cons_self) free
    · exact due

/-- As long as the clock does not go back, no sign of life comes after the last one. -/
theorem History.le_last_of_inOrder {last sign : Instant} (inOrder : InOrder moments)
    (last_eq : ((through context record moments).signsOfLife position).getLast? = some last)
    (mem : sign ∈ (through context record moments).signsOfLife position) : sign ≤ last := by
  have entries : (through context record moments).entries.Pairwise
      fun earlier later => earlier.moment.now ≤ later.moment.now := by
    rw [InOrder, ← moments_through context record moments, List.pairwise_map] at inOrder
    exact inOrder
  have signs : ((through context record moments).signsOfLife position).Pairwise (· ≤ ·) :=
    List.pairwise_map.mpr (entries.sublist List.filter_sublist)
  obtain ⟨earlier, split⟩ := List.getLast?_eq_some_iff.mp last_eq
  rw [split] at signs mem
  rcases List.mem_append.mp mem with before | now
  · exact (List.pairwise_append.mp signs).2.2 sign before last (List.mem_singleton.mpr rfl)
  · exact Nat.le_of_eq (List.mem_singleton.mp now)

theorem History.TimesSilence.fellSilent {now : Instant} (inOrder : History.InOrder moments)
    (timed : (History.through context record moments).TimesSilence context position)
    (expired : (History.through context record moments).run.session.outcomeDeadline.any
      (· ≤ now) = true) :
    FellSilent context (History.through context record moments) position now := by
  obtain ⟨last, last_eq, timer⟩ := timed.deadline
  rw [timer, Option.any_some, decide_eq_true_iff] at expired
  have ago {entry : HistoryEntry} (mem : entry ∈ (History.through context record moments).entries)
      (sign : entry.isSign position = true) :
      entry.moment.now + context.config.componentOutcomeTimeout.nanos ≤ now := by
    have before := History.le_last_of_inOrder inOrder last_eq
      (List.mem_map_of_mem (List.mem_filter.mpr ⟨mem, sign⟩))
    exact Nat.le_trans (Nat.add_le_add_right before _) expired
  refine ⟨?taken, ?silent⟩
  case taken =>
    obtain ⟨entry, mem, takes⟩ := timed.taken
    exact ⟨entry, mem, takes, ago mem (by rw [HistoryEntry.isSign, takes, Bool.true_or])⟩
  case silent =>
    intro entry mem request command handles type known about
    obtain ⟨state, caller, inbox, next⟩ := handles
    have life : entry.run.session.showsLife request = true :=
      Session.showsLife_iff.mpr ⟨⟨position, state⟩, type, command, known, about⟩
    refine ago mem ?_
    simp [HistoryEntry.isSign, HistoryEntry.hears, state, next, Session.isSignOfLife, life]

/-- While the target is at work on a component, the deadline is the timeout after its last sign of
life. If the update is given up for its silence, the target took the component no later than the
timeout before, and since then the session has handled no request of it but for package data, be it
granted or refused. -/
theorem outcomeTimer_through (context : SessionContext) (record : DeviceRecord)
    (moments : List Moment) (position : Nat)
    (running : (History.through context record moments).run.status = .running)
    (state : (History.through context record moments).run.session.state =
      .awaitingComponentOutcome position) :
    let history := History.through context record moments
    history.TimesSilence context position ∧
      ∀ moment index, History.InOrder (moments ++ [moment]) →
        (history.run.meet context moment).run.session.state =
          .failed (.timeout (.targetRequests index)) →
        index = history.run.session.componentIndex position ∧
          FellSilent context history position moment.now := by
  intro history
  have timed := timesSilence_through context record moments position running state
  refine ⟨timed, fun moment index inOrder failed => ?_⟩
  obtain ⟨index_eq, expired⟩ := expired_of_timeout (sound_through context record moments).1
    (outcomeTimeout_not_mem_through context record moments) running state failed
  exact ⟨index_eq, timed.fellSilent (List.pairwise_append.mp inOrder).1 expired⟩

end

/-! ## Package data does not count -/

/-- A moment at a number of seconds after the start of the agent. -/
def Moment.after (seconds : Nat) (action : RunAction) : Moment :=
  { Moment.of action with now := seconds * nanosPerSecond }

/-- A pull of the first part of the package data. -/
def firstPartPull : Request :=
  ⟨Header.instanceIdOf 7, firmwareUpdateType, Command.getPackageData.code, [0, 0, 0, 0, 1]⟩

/-- A target that takes its component at once, and pulls package data a second before the
timeout. -/
def pulledPackageData : List Moment :=
  [ .begin,
    .granted 0 .requestUpdate [0, 0, 0], .handle,
    .handle, .granted 1 .passComponentTable [0, 0], .handle,
    .handle, .granted 2 .updateComponent [0, 0, 0, 0, 0, 0, 0, 0], .handle ].map (.after 0) ++
  [ .inbound (.handle 0) firstPartPull, .handle ].map (.after 59)

/-- The run of that target. -/
def busyRun : History :=
  History.through (oneComponent (.memory #[])) ⟨9, #[0], #[1, 2, 3], "set"⟩ pulledPackageData

theorem outcomeTimer_pulledPackageData :
    busyRun.run.status = .running ∧
      busyRun.run.session.state = .awaitingComponentOutcome 0 ∧
      History.InOrder (pulledPackageData ++ [.after 60 .expire]) ∧
      FellSilent (oneComponent (.memory #[])) busyRun 0 (60 * nanosPerSecond) := by
  have running : busyRun.run.status = .running := by decide +kernel
  have state : busyRun.run.session.state = .awaitingComponentOutcome 0 := by decide +kernel
  have inOrder : History.InOrder (pulledPackageData ++ [.after 60 .expire]) := by
    rw [History.InOrder, ← List.pairwise_map]
    decide +kernel
  refine ⟨running, state, inOrder, ?_⟩
  exact ((outcomeTimer_through _ _ pulledPackageData 0 running state).2 (.after 60 .expire) 0
    inOrder (by decide +kernel)).2

/-- The update is given up for its silence, a second after the session has granted its request. -/
theorem gaveUp_pulledPackageData :
    (∃ entry ∈ busyRun.entries, entry.Handles 0 firstPartPull ∧
      entry.step.answers = [(.handle 0, firstPartPull.respond CompletionCode.success
        [0, 0, 0, 0, 5, 1, 2, 3])] ∧
      ¬ entry.moment.now + (oneComponent (.memory #[])).config.componentOutcomeTimeout.nanos ≤
        60 * nanosPerSecond) ∧
      firstPartPull.pldmType = firmwareUpdateType ∧
      Command.served? firstPartPull.command = some .getPackageData ∧
      (busyRun.run.meet (oneComponent (.memory #[])) (.after 60 .expire)).run.session.state =
        .failed (.timeout (.targetRequests 0)) := by
  refine ⟨⟨_, History.mem_entries_through.mpr ⟨pulledPackageData.take 10, _, [], rfl, rfl⟩,
    ⟨by decide +kernel, _, [], rfl⟩, by decide +kernel, by decide⟩, rfl, rfl, by decide +kernel⟩

end FirmwareAgent
