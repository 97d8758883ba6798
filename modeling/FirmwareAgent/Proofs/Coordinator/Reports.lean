import FirmwareAgent.Proofs.Coordinator.Tracking

/-!
# What a report tells

The report that a wait returns tells what the session did whose end the wait has taken, and nothing
of any other session of the endpoint, whatever has been started, collected and cleared meanwhile.

* `DeviceUpdateReport.Tells` is what a report is to tell of a session, `reports_through` the result.
-/

namespace FirmwareAgent

/-- A report tells what the session did that has lived so. -/
structure DeviceUpdateReport.Tells (report : DeviceUpdateReport) (life : History) : Prop where
  endpoint : report.endpoint = life.run.endpoint
  /-- The update succeeded if the session completed it. -/
  success : report.success = true ↔ life.run.session.state = .completed
  /-- If it did not, the report gives the reason for which the session gave up. -/
  error : report.success = true ∧ report.error = none ∨ report.success = false ∧
    ∃ reason, life.run.session.state = .failed reason ∧ report.error = some reason.message
  /-- The components are those of which the session told the agent, in that order. -/
  components : life.notifications = report.components.map (fun outcome =>
    .applied life.run.endpoint outcome.index outcome.success) ++
      [.completed life.run.endpoint report.success]
  /-- They are the first ones of the record, or all of them. -/
  part : report.components.map (·.index) <+: life.run.session.record.applicableComponents.toList
  whole : report.success = true →
    report.components.map (·.index) = life.run.session.record.applicableComponents.toList

namespace CoordinatorHistory

/-- What waits return. -/
structure Reported (history : CoordinatorHistory) : Prop where
  /-- A session is what its life has made of it. -/
  lives : ∀ place life, history.life? place = some life →
    history.coordinator.fleet.runs[place]? = some life.run
  /-- A report tells of the session whose end the wait has taken, which has ended. -/
  own : ∀ endpoint ticket report,
    (history.next (.wake endpoint ticket)).result = .returned (.ok report) →
      ∃ place life, history.Took ticket endpoint place ∧ history.life? place = some life ∧
        life.run.status = .ended ∧ report.Tells life
  /-- Every wait for a session that has ended returns one. -/
  returns : ∀ wait ∈ history.coordinator.waits, ∀ life, history.life? wait.run = some life →
    life.run.status = .ended →
      ∃ report, (history.next (.wake wait.endpoint wait.ticket)).result = .returned (.ok report) ∧
        report.Tells life

variable {history : CoordinatorHistory} {endpoint : EndpointId} {place : Nat} {life : History}

/-- What a wait collects are the outcomes of its session. -/
theorem Tracks.collect_eq (tracks : history.Tracks)
    (uncollected : history.IsUncollected endpoint place)
    (living : history.life? place = some life) :
    (history.coordinator.tracker.collect endpoint).2 = life.outcomes := by
  obtain ⟨device, found⟩ := tracks.tracked endpoint place uncollected
  obtain ⟨newest, other, is_newest, living', counts, _⟩ := tracks.device endpoint device found
  obtain rfl := Option.some.inj (is_newest.symm.trans (tracks.newest endpoint place uncollected))
  obtain rfl := Option.some.inj (living'.symm.trans living)
  rw [ProgressTracker.collect, found, ← counts.outcomes]
  rfl

/-- The report of a session that has ended tells of it. -/
theorem report_tells {wait : Wait} (living : history.life? place = some life)
    (ended : life.run.status = .ended) (own : wait.endpoint = life.run.endpoint) :
    (history.coordinator.report wait life.run.session.state life.outcomes).Tells life := by
  obtain ⟨told_eq, part, whole⟩ := History.told_eq (hasTold_of_life living).2
  rcases ended_of_life living ended with completed | ⟨reason, failed⟩
  · rw [completed] at told_eq ⊢
    exact ⟨own, iff_of_true rfl completed, .inl ⟨rfl, rfl⟩, told_eq, part, fun _ => whole completed⟩
  · rw [failed] at told_eq ⊢
    exact ⟨own, iff_of_false Bool.false_ne_true (by simp [failed]),
      .inr ⟨rfl, reason, failed, rfl⟩, told_eq, part, fun success => nomatch success⟩

/-- What a wait comes to whose session has ended. -/
theorem Booked.outcome_tells (booked : history.Booked) (tracks : history.Tracks)
    {context : SessionContext} (lived : history.Lived context) {wait : Wait} {run : Run}
    (listed : wait ∈ history.coordinator.waits)
    (located : history.coordinator.fleet.runs[wait.run]? = some run) (ended : run.status = .ended) :
    ∃ report life, history.coordinator.outcome wait run = .ok report ∧
      history.life? wait.run = some life ∧ life.run = run ∧ report.Tells life := by
  have uncollected := (booked.waits wait listed).1
  obtain ⟨life, living, rfl⟩ := lived.exists_life located
  obtain ⟨other, also, own⟩ := Fleet.endpoints_eq_some.mp uncollected.1
  obtain rfl := Option.some.inj (located.symm.trans also)
  refine ⟨_, life, ?_, living, rfl, report_tells living ended own.symm⟩
  rw [Coordinator.outcome, if_neg (by simp [ended]), tracks.collect_eq uncollected living]

/-- Two waits with one ticket are for one session. -/
theorem Booked.wait?_of_listed (booked : history.Booked) {wait : Wait}
    (listed : wait ∈ history.coordinator.waits) :
    ∃ found, history.coordinator.wait? wait.endpoint wait.ticket = some found ∧
      found.run = wait.run := by
  cases first : history.coordinator.waits.find? (·.ticket == wait.ticket) with
  | none => simpa using List.find?_eq_none.mp first wait listed
  | some found =>
    have ticket : found.ticket = wait.ticket := by simpa using List.find?_some first
    obtain ⟨_, _, entry, at_ticket, takes⟩ := booked.waits wait listed
    obtain ⟨_, _, entry', at_ticket', takes'⟩ :=
      booked.waits found (List.mem_of_find?_eq_some first)
    rw [ticket, at_ticket] at at_ticket'
    obtain rfl := Option.some.inj at_ticket'
    obtain ⟨endpoint, run⟩ := Prod.mk.inj (Option.some.inj (takes'.symm.trans takes))
    refine ⟨found, ?_, run⟩
    rw [Coordinator.wait?, first, Option.filter_eq_some_iff]
    exact ⟨rfl, by simpa using endpoint⟩

theorem Booked.reported (booked : history.Booked) (tracks : history.Tracks)
    {context : SessionContext} (lived : history.Lived context) : history.Reported where
  lives := lived.run
  own endpoint ticket report returned := by
    rw [next, Coordinator.apply_wake] at returned
    cases found : history.coordinator.wait? endpoint ticket with
    | none =>
      rw [found] at returned
      cases returned
    | some wait =>
      obtain ⟨_, listed, rfl, rfl⟩ := Coordinator.wait?_eq_some found
      cases finished : history.coordinator.fleet.runs[wait.run]?.filter (!·.isOpen) with
      | none =>
        simp only [found, finished] at returned
        cases returned
      | some run =>
        obtain ⟨located, closed⟩ := Option.filter_eq_some_iff.mp finished
        simp only [found, finished, CallResult.returned.injEq] at returned
        have ended : run.status = .ended := by
          refine (status_of_closed (by simpa using closed)).resolve_left fun crashed => ?_
          rw [Coordinator.outcome, if_pos crashed] at returned
          cases returned
        obtain ⟨other, life, outcome, living, rfl, tells⟩ :=
          booked.outcome_tells tracks lived listed located ended
        obtain rfl := Except.ok.inj (outcome.symm.trans returned)
        exact ⟨wait.run, life, (booked.waits wait listed).2.2, living, ended, tells⟩
  returns wait listed life living ended := by
    obtain ⟨found, at_ticket, run⟩ := booked.wait?_of_listed listed
    obtain ⟨_, listed_found, _⟩ := Coordinator.wait?_eq_some at_ticket
    have located := lived.run wait.run life living
    have closed : life.run.isOpen = false := by simp [Run.isOpen, ended]
    rw [← run] at located
    obtain ⟨report, other, outcome, living', _, tells⟩ :=
      booked.outcome_tells tracks lived listed_found located ended
    obtain rfl := Option.some.inj (living'.symm.trans (run ▸ living))
    refine ⟨report, ?_, tells⟩
    simp [next, Coordinator.apply_wake, at_ticket, located, Option.filter, closed, outcome]

/-- Whatever is called and whatever the sessions do, in whatever order: a report tells what the
session did whose end its wait has taken, and every wait for a session that has ended returns one.
A session that broke down has no report. -/
theorem reports_through (context : SessionContext) (pool : InstanceIdPool)
    (actions : List CoordinatorAction) : (through context pool actions).Reported :=
  let ⟨_, booked⟩ := booked_through context pool actions
  booked.reported (tracks_through context pool actions) (lived_through context pool actions)

end CoordinatorHistory

end FirmwareAgent
