import FirmwareAgent.Proofs.Coordinator.Reports
import FirmwareAgent.Proofs.Fleet.HeldIds
import FirmwareAgent.Proofs.Run.Breakdown

/-!
# Collecting the reports of sessions

A session that has ended is collected by a wait, which returns its report and frees the endpoint.
A wait takes the session's end for itself as soon as it begins. If the wait is abandoned, nobody can
have the end any more: the endpoint stays busy for good.

* `Accounted` is the invariant: a session whose end has been taken has been collected, or a wait for
  it is running, or its wait has been abandoned. `Accounted.extend` is its step.
* `collection_through`: the result, for sessions whose wait has not been abandoned and for the
  others.
* `blocked_abandonedWait`: a session that has ended and can not be collected.
-/

namespace FirmwareAgent

/-! ## Waits that are abandoned -/

/-- The place of the run whose end is lost with a wait that is abandoned. -/
def CoordinatorEntry.abandons? (entry : CoordinatorEntry) : Option Nat :=
  match entry.action with
  | .abandon endpoint ticket => (entry.coordinator.wait? endpoint ticket).map (·.run)
  | _ => none

namespace CoordinatorHistory

/-- The places of the runs whose end has been taken by a wait that was abandoned. -/
def abandoned (history : CoordinatorHistory) : List Nat :=
  history.entries.filterMap CoordinatorEntry.abandons?

/-- A wait for the end of the run at a place is running. -/
def IsAwaited (history : CoordinatorHistory) (place : Nat) : Prop :=
  ∃ wait ∈ history.coordinator.waits, wait.run = place

/-- The session of the run at a place has reached a terminal state. -/
def IsTerminal (history : CoordinatorHistory) (place : Nat) : Prop :=
  ∃ run, history.coordinator.fleet.runs[place]? = some run ∧ run.session.state.isTerminal = true

/-- The next wait of an endpoint returns the report of the run at a place, and then the endpoint is
free. -/
structure IsCollectable (history : CoordinatorHistory) (endpoint : EndpointId) (place : Nat) :
    Prop where
  taken : (history.next (.wait endpoint)).result = .done
  returned : ∃ report life,
    ((history.extend (.wait endpoint)).next (.wake endpoint history.entries.length)).result =
      .returned (.ok report) ∧ history.life? place = some life ∧ report.Tells life
  freed : ∀ record, record.endpoint = endpoint →
    (((history.extend (.wait endpoint)).extend (.wake endpoint history.entries.length)).next
      (.start record)).result = .done

/-- Whatever happens from now on, every wait of the endpoint is told that the session is closed, and
every start that an update is in progress. -/
def IsBlocked (history : CoordinatorHistory) (endpoint : EndpointId) : Prop :=
  ∀ actions : List CoordinatorAction, let later := actions.foldl extend history
    (later.next (.wait endpoint)).result = .refused .sessionClosed ∧
      ∀ record, record.endpoint = endpoint →
        (later.next (.start record)).result = .refused (.updateInProgress endpoint)

/-- What holds of the sessions that have not been collected. -/
structure Collects (history : CoordinatorHistory) : Prop where
  /-- One that has ended, and for which no wait is running, can be collected, if no wait for it has
  been abandoned. -/
  collectable : ∀ endpoint place, history.IsUncollected endpoint place →
    history.IsTerminal place → ¬ history.IsAwaited place → place ∉ history.abandoned →
      history.IsCollectable endpoint place
  /-- One whose wait has been abandoned can never be collected. -/
  blocked : ∀ endpoint place, history.IsUncollected endpoint place →
    place ∈ history.abandoned → history.IsBlocked endpoint

/-! ## The invariant -/

/-- What has become of the sessions whose end has been taken. -/
structure Accounted (history : CoordinatorHistory) : Prop where
  taken : ∀ place ∈ history.taken,
    place ∈ history.collected ∨ history.IsAwaited place ∨ place ∈ history.abandoned
  abandoned : ∀ place ∈ history.abandoned, place ∈ history.taken ∧ ¬ history.IsAwaited place

variable {history : CoordinatorHistory} {action : CoordinatorAction} {endpoint : EndpointId}
  {ticket place : Nat}

theorem abandoned_extend : (history.extend action).abandoned = history.abandoned ++
    (CoordinatorEntry.abandons? ⟨history.coordinator, action, history.next action⟩).toList := by
  simp only [abandoned, extend, List.filterMap_append, filterMap_singleton]

theorem mem_abandoned_extend (lost : place ∈ history.abandoned) :
    place ∈ (history.extend action).abandoned := by
  rw [abandoned_extend]
  exact List.mem_append_left _ lost

/-- Only waits that begin, return or are abandoned change what is waited for. -/
theorem waits_next_of_other (other : action.isBooking = false)
    (abandons : CoordinatorEntry.abandons? ⟨history.coordinator, action, history.next action⟩ =
      none) : (history.next action).coordinator.waits = history.coordinator.waits := by
  cases action with
  | start | wait | wake => cases other
  | cancel endpoint =>
    cases found : history.coordinator.active? endpoint with
    | none => simp [next, Coordinator.apply, Coordinator.cancel, found]
    | some update =>
      by_cases live : history.coordinator.fleet.runs[update.run]?.any (·.isOpen) = true <;>
        simp [next, Coordinator.apply, Coordinator.cancel, found, live]
  | inbound endpoint request =>
    cases found : history.coordinator.active? endpoint <;>
      simp [next, Coordinator.apply, Coordinator.inbound, found]
  | abandon endpoint ticket =>
    have none_found : history.coordinator.wait? endpoint ticket = none :=
      Option.map_eq_none_iff.mp abandons
    simp [next, Coordinator.apply, none_found]
  | act endpoint number step =>
    cases found : history.coordinator.fleet.place? endpoint number <;>
      simp [next, Coordinator.apply, found]
  | acquire endpoint =>
    cases acquired : history.coordinator.fleet.acquire endpoint <;>
      simp [next, Coordinator.apply, acquired]
  | clearFinishedProgress | elapse | release => rfl

/-- An action that neither begins nor ends a wait changes nothing about the sessions whose end has
been taken. -/
theorem Accounted.of_quiet (accounted : history.Accounted)
    (taken : (history.extend action).taken = history.taken)
    (collected : (history.extend action).collected = history.collected)
    (waits : (history.next action).coordinator.waits = history.coordinator.waits)
    (abandons : CoordinatorEntry.abandons? ⟨history.coordinator, action, history.next action⟩ =
      none) : (history.extend action).Accounted := by
  have awaited (place : Nat) : (history.extend action).IsAwaited place ↔
      history.IsAwaited place := by
    rw [IsAwaited, IsAwaited, extend, waits]
  have abandoned : (history.extend action).abandoned = history.abandoned := by
    rw [abandoned_extend, abandons]
    exact List.append_nil _
  refine ⟨fun place mem => ?_, fun place mem => ?_⟩
  · rw [collected, awaited, abandoned]
    exact accounted.taken place (taken ▸ mem)
  · rw [taken, awaited]
    exact accounted.abandoned place (abandoned ▸ mem)

theorem Accounted.of_other (accounted : history.Accounted)
    (sound : history.coordinator.fleet.IsSound) (other : action.isBooking = false)
    (abandons : CoordinatorEntry.abandons? ⟨history.coordinator, action, history.next action⟩ =
      none) : (history.extend action).Accounted := by
  have keeps := keeps_of_other sound other
  exact accounted.of_quiet keeps.taken keeps.collected (waits_next_of_other other abandons) abandons

/-- A wait that begins is the only one for its session. -/
theorem Accounted.of_wait (accounted : history.Accounted) (booked : history.Booked)
    {update : ActiveUpdate} (found : history.coordinator.active? endpoint = some update)
    (open_end : update.isTaken = false) : (history.extend (.wait endpoint)).Accounted := by
  have untaken : update.run ∉ history.taken := fun mem => by
    rw [(booked.active endpoint update found).2.mpr mem] at open_end
    cases open_end
  have awaited (place : Nat) : (history.extend (.wait endpoint)).IsAwaited place ↔
      history.IsAwaited place ∨ place = update.run := by
    rw [IsAwaited, extend, next_wait_of_open found open_end]
    simp [IsAwaited, Coordinator.waiting, or_and_right, exists_or, eq_comm]
  have abandoned : (history.extend (.wait endpoint)).abandoned = history.abandoned := by
    rw [abandoned_extend]
    exact List.append_nil _
  refine ⟨fun place mem => ?_, fun place mem => ?_⟩
  · rw [collected_extend_wait, awaited, abandoned]
    rw [taken_extend_wait found open_end] at mem
    rcases List.mem_append.mp mem with old | new
    · exact (accounted.taken place old).imp_right (.imp_left .inl)
    · exact .inr (.inl (.inr (List.mem_singleton.mp new)))
  · rw [taken_extend_wait found open_end, awaited, not_or]
    obtain ⟨taken, unawaited⟩ := accounted.abandoned place (abandoned ▸ mem)
    exact ⟨List.mem_append_left _ taken, unawaited, fun same => untaken (same ▸ taken)⟩

/-- A wait that ends was the only one for its session. -/
theorem Booked.isAwaited_filter (booked : history.Booked) {wait : Wait}
    (found : history.coordinator.wait? endpoint ticket = some wait)
    (waits : (history.next action).coordinator.waits =
      history.coordinator.waits.filter (·.ticket ≠ ticket)) :
    (history.extend action).IsAwaited place ↔ history.IsAwaited place ∧ place ≠ wait.run := by
  obtain ⟨first, listed, ticket_eq, _⟩ := Coordinator.wait?_eq_some found
  rw [IsAwaited, IsAwaited, extend, waits]
  constructor
  · rintro ⟨other, mem, rfl⟩
    obtain ⟨mem, different⟩ := List.mem_filter.mp mem
    refine ⟨⟨other, mem, rfl⟩, fun same => ?_⟩
    have same_ticket := booked.distinct other mem wait listed same
    simp [same_ticket, ticket_eq] at different
  · rintro ⟨⟨other, mem, rfl⟩, different⟩
    refine ⟨other, List.mem_filter.mpr ⟨mem, ?_⟩, rfl⟩
    refine decide_eq_true fun same => different ?_
    obtain ⟨twin, at_ticket, run⟩ := booked.wait?_of_listed mem
    rw [same] at at_ticket
    obtain ⟨first', _⟩ := Coordinator.wait?_eq_some at_ticket
    rw [← run, Option.some.inj (first'.symm.trans first)]

/-- A wait that returns has collected its session. -/
theorem Accounted.of_wake (accounted : history.Accounted) (booked : history.Booked)
    (endpoint : EndpointId) (ticket : Nat) :
    (history.extend (.wake endpoint ticket)).Accounted := by
  rcases next_wake_cases history endpoint ticket with
    unchanged | ⟨wait, result, found, _, returned, _, _, waits⟩
  · have keeps := keeps_of_idle_wake unchanged
    exact accounted.of_quiet keeps.taken keeps.collected (by rw [unchanged]) rfl
  · have abandoned : (history.extend (.wake endpoint ticket)).abandoned = history.abandoned := by
      rw [abandoned_extend]
      exact List.append_nil _
    refine ⟨fun place mem => ?_, fun place mem => ?_⟩
    · rw [collected_extend_wake found returned, booked.isAwaited_filter found waits, abandoned,
        List.mem_append, List.mem_singleton]
      rw [taken_extend_wake] at mem
      by_cases same : place = wait.run
      · exact .inl (.inr same)
      · exact (accounted.taken place mem).imp .inl (.imp_left (⟨·, same⟩))
    · rw [taken_extend_wake, booked.isAwaited_filter found waits]
      obtain ⟨taken, unawaited⟩ := accounted.abandoned place (abandoned ▸ mem)
      exact ⟨taken, fun awaited => unawaited awaited.1⟩

/-- The end that an abandoned wait had taken is lost. -/
theorem Accounted.of_abandon (accounted : history.Accounted) (booked : history.Booked)
    (sound : history.coordinator.fleet.IsSound) {wait : Wait}
    (found : history.coordinator.wait? endpoint ticket = some wait) :
    (history.extend (.abandon endpoint ticket)).Accounted := by
  have keeps : history.Keeps (.abandon endpoint ticket) := keeps_of_other sound rfl
  have waits : (history.next (.abandon endpoint ticket)).coordinator.waits =
      history.coordinator.waits.filter (·.ticket ≠ ticket) := by
    simp [next, Coordinator.apply, found, Coordinator.abandon]
  have abandoned : (history.extend (.abandon endpoint ticket)).abandoned =
      history.abandoned ++ [wait.run] := by
    rw [abandoned_extend, CoordinatorEntry.abandons?]
    simp [found]
  obtain ⟨_, listed, _⟩ := Coordinator.wait?_eq_some found
  refine ⟨fun place mem => ?_, fun place mem => ?_⟩
  · rw [keeps.collected, booked.isAwaited_filter found waits, abandoned, List.mem_append,
      List.mem_singleton]
    rw [keeps.taken] at mem
    by_cases same : place = wait.run
    · exact .inr (.inr (.inr same))
    · exact (accounted.taken place mem).imp_right (.imp (⟨·, same⟩) .inl)
  · rw [keeps.taken, booked.isAwaited_filter found waits]
    rw [abandoned] at mem
    rcases List.mem_append.mp mem with old | new
    · obtain ⟨taken, unawaited⟩ := accounted.abandoned place old
      exact ⟨taken, fun awaited => unawaited awaited.1⟩
    · rw [List.mem_singleton.mp new]
      exact ⟨(booked.waits wait listed).2.1, fun awaited => awaited.2 rfl⟩

/-- Every action keeps the account. -/
theorem Accounted.extend (accounted : history.Accounted) (booked : history.Booked)
    (sound : history.coordinator.fleet.IsSound) (action : CoordinatorAction) :
    (history.extend action).Accounted := by
  cases action with
  | start record =>
    refine accounted.of_quiet taken_extend_start collected_extend_start ?_ rfl
    cases busy : history.coordinator.active? record.endpoint with
    | none => exact (next_start_of_free busy).2.2.1
    | some update => rw [next_start_of_busy busy]
  | wait endpoint =>
    cases found : (history.coordinator.active? endpoint).filter (!·.isTaken) with
    | some update =>
      obtain ⟨found, open_end⟩ := Option.filter_eq_some_iff.mp found
      exact accounted.of_wait booked found (by simpa using open_end)
    | none =>
      have refused : history.next (.wait endpoint) =
          ⟨history.coordinator, [], .refused .sessionClosed⟩ := by
        rw [next, Coordinator.apply_wait, found]
      have keeps : history.Keeps (.wait endpoint) :=
        keeps_of_unchanged (by rw [refused]) (by rw [refused]; rfl) rfl
      exact accounted.of_quiet keeps.taken keeps.collected (by rw [refused]) rfl
  | wake endpoint ticket => exact accounted.of_wake booked endpoint ticket
  | abandon endpoint ticket =>
    cases found : history.coordinator.wait? endpoint ticket with
    | none => exact accounted.of_other sound rfl (Option.map_eq_none_iff.mpr found)
    | some wait => exact accounted.of_abandon booked sound found
  | _ => exact accounted.of_other sound rfl rfl

theorem accounted_through (context : SessionContext) (pool : InstanceIdPool)
    (actions : List CoordinatorAction) : (through context pool actions).Accounted := by
  induction actions using List.reverseRecOn with
  | nil => exact ⟨nofun, nofun⟩
  | append_singleton actions action ih =>
    obtain ⟨sound, booked⟩ := booked_through context pool actions
    rw [through_concat]
    exact ih.extend booked sound action

/-! ## The result -/

/-- A session whose wait has been abandoned stays uncollected. -/
theorem Accounted.isUncollected_extend (accounted : history.Accounted) (booked : history.Booked)
    (sound : history.coordinator.fleet.IsSound)
    (uncollected : history.IsUncollected endpoint place) (lost : place ∈ history.abandoned)
    (action : CoordinatorAction) : (history.extend action).IsUncollected endpoint place := by
  refine ((booked.lifecycle sound).leaves action endpoint place uncollected).resolve_right ?_
  rintro ⟨ticket, result, rfl, returned, ⟨entry, at_ticket, takes⟩, _⟩
  rcases next_wake_cases history endpoint ticket with unchanged | ⟨wait, _, found, _⟩
  · rw [unchanged] at returned
    cases returned
  · obtain ⟨_, listed, rfl, _⟩ := Coordinator.wait?_eq_some found
    obtain ⟨_, _, own, at_own, takes_own⟩ := booked.waits wait listed
    obtain rfl := Option.some.inj (at_own.symm.trans at_ticket)
    have run : wait.run = place := congrArg Prod.snd (Option.some.inj (takes_own.symm.trans takes))
    exact (accounted.abandoned place lost).2 ⟨wait, listed, run⟩

/-- The endpoint of such a session is busy, and nobody can wait for it. -/
theorem Accounted.refuses (accounted : history.Accounted) (booked : history.Booked)
    (uncollected : history.IsUncollected endpoint place) (lost : place ∈ history.abandoned) :
    (history.next (.wait endpoint)).result = .refused .sessionClosed ∧
      ∀ record, record.endpoint = endpoint →
        (history.next (.start record)).result = .refused (.updateInProgress endpoint) := by
  obtain ⟨update, busy, rfl, mark⟩ := booked.exists_update uncollected
  have taken : update.isTaken = true := mark.mpr (accounted.abandoned update.run lost).1
  refine ⟨?_, ?_⟩
  · rw [next_wait_of_closed fun other found => by
      rwa [← Option.some.inj (busy.symm.trans found)]]
  · rintro record rfl
    rw [next_start_of_busy busy]

theorem Accounted.isBlocked (accounted : history.Accounted) (booked : history.Booked)
    (sound : history.coordinator.fleet.IsSound)
    (uncollected : history.IsUncollected endpoint place) (lost : place ∈ history.abandoned) :
    history.IsBlocked endpoint := by
  intro actions
  induction actions generalizing history with
  | nil => exact accounted.refuses booked uncollected lost
  | cons action actions ih =>
    exact ih (accounted.extend booked sound action) (booked_extend sound booked action)
      (isSound_extend sound action)
      (accounted.isUncollected_extend booked sound uncollected lost action)
      (mem_abandoned_extend lost)

/-- A session that has ended has not broken down. -/
theorem Lived.ended_of_terminal {context : SessionContext} (lived : history.Lived context)
    (sound : history.coordinator.fleet.IsSound) {run : Run}
    (located : history.coordinator.fleet.runs[place]? = some run)
    (terminal : run.session.state.isTerminal = true) : run.status = .ended := by
  have closed := closed_of_terminal (sound run (List.mem_of_getElem? located)) terminal
  refine (status_of_closed closed).resolve_left fun crashed => ?_
  obtain ⟨life, living, rfl⟩ := lived.exists_life located
  obtain ⟨_, _, rfl⟩ := Option.map_eq_some_iff.mp living
  cases terminal.symm.trans (brokeDown_through _ _ _ crashed).2

theorem Accounted.isCollectable {context : SessionContext} (accounted : history.Accounted)
    (booked : history.Booked) (sound : history.coordinator.fleet.IsSound)
    (lived : history.Lived context) (reported : (history.extend (.wait endpoint)).Reported)
    (uncollected : history.IsUncollected endpoint place) (terminal : history.IsTerminal place)
    (unawaited : ¬ history.IsAwaited place) (kept : place ∉ history.abandoned) :
    history.IsCollectable endpoint place := by
  obtain ⟨run, located, terminal⟩ := terminal
  have untaken : place ∉ history.taken := fun taken => by
    rcases accounted.taken place taken with collected | awaited | lost
    · exact uncollected.2 collected
    · exact unawaited awaited
    · exact kept lost
  obtain ⟨update, found, rfl, mark⟩ := booked.exists_update uncollected
  have open_end : update.isTaken = false := Bool.eq_false_iff.mpr fun taken =>
    untaken (mark.mp taken)
  have ended := lived.ended_of_terminal sound located terminal
  obtain ⟨life, living, rfl⟩ := lived.exists_life located
  -- The wait that begins now finds the session as it is.
  have listed : (⟨history.entries.length, endpoint, update.run, update.startedAt⟩ : Wait) ∈
      (history.extend (.wait endpoint)).coordinator.waits := by
    rw [CoordinatorHistory.extend, next_wait_of_open found open_end]
    exact List.mem_append_right _ (List.mem_singleton_self _)
  have living_still : (history.extend (.wait endpoint)).life? update.run = some life :=
    (life?_quiet rfl).trans living
  obtain ⟨report, returned, tells⟩ := reported.returns _ listed life living_still ended
  refine ⟨by rw [next_wait_of_open found open_end], ⟨report, life, returned, living, tells⟩, ?_⟩
  rintro record rfl
  rcases next_wake_cases (history.extend (.wait record.endpoint)) record.endpoint
    history.entries.length with unchanged | ⟨_, _, _, _, _, _, active, _⟩
  · rw [unchanged] at returned
    cases returned
  · refine (next_start_of_free ?_).1
    rw [CoordinatorHistory.extend, Coordinator.active?, active, InstanceIdPool.lookup_filter_ne,
      if_pos rfl]

/-- Whatever is called and whatever the sessions do, in whatever order: a session that has ended is
collected by the next wait, unless a wait for it is running. If a wait for it has been abandoned, it
is never collected, and its endpoint is never free again. -/
theorem collection_through (context : SessionContext) (pool : InstanceIdPool)
    (actions : List CoordinatorAction) : (through context pool actions).Collects := by
  obtain ⟨sound, booked⟩ := booked_through context pool actions
  have accounted := accounted_through context pool actions
  have lived := lived_through context pool actions
  refine ⟨fun endpoint place uncollected terminal unawaited kept => ?_,
    fun endpoint place uncollected lost => accounted.isBlocked booked sound uncollected lost⟩
  have reported : ((through context pool actions).extend (.wait endpoint)).Reported := by
    rw [← through_concat]
    exact (booked_through context pool _).2.reported (tracks_through context pool _)
      (lived_through context pool _)
  exact accounted.isCollectable booked sound lived reported uncollected terminal unawaited kept

/-- A wait is abandoned before the session has ended, then the update is cancelled. -/
def abandonedWait : List CoordinatorAction :=
  [ .start ⟨9, #[0], #[], "set"⟩,
    .wait 9,
    .abandon 9 1,
    .act 9 0 .begin,
    .cancel 9,
    .act 9 0 .handle ]

/-- The session has ended and no wait is running, but no wait returns its report any more, and the
endpoint is never free again. -/
theorem blocked_abandonedWait :
    let history := through Fleet.singleComponent.context Fleet.singleComponent.pool abandonedWait
    history.IsUncollected 9 0 ∧ history.IsTerminal 0 ∧ history.coordinator.waits = [] ∧
      (history.next (.wait 9)).result = .refused .sessionClosed ∧
      (history.next (.start ⟨9, #[0], #[], "set"⟩)).result = .refused (.updateInProgress 9) ∧
      history.IsBlocked 9 := by
  intro history
  obtain ⟨sound, booked⟩ := booked_through Fleet.singleComponent.context Fleet.singleComponent.pool
    abandonedWait
  have uncollected : history.IsUncollected 9 0 := ⟨by decide +kernel, by decide +kernel⟩
  have blocked : history.IsBlocked 9 :=
    (accounted_through _ _ _).isBlocked booked sound uncollected (by decide +kernel)
  have terminal : history.IsTerminal 0 := by
    have ended : history.coordinator.fleet.runs[0]?.any (·.session.state.isTerminal) = true := by
      decide +kernel
    exact (Option.any_eq_true ..).mp ended
  exact ⟨uncollected, terminal, by decide +kernel, (blocked []).1, (blocked []).2 _ rfl, blocked⟩

end CoordinatorHistory

end FirmwareAgent
