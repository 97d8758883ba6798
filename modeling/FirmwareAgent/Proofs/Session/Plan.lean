import FirmwareAgent.Proofs.Session.Draft
import FirmwareAgent.Session.Run

/-!
# Where a session is in its plan

The plan of an update is the list of its requests. `SessionState.place` says how many of them come
before the request of a state, `PlannedStep.SentBy` what it is for an exchange to carry one.

* `Reaction.inRange` and `Reaction.outcome`: a reaction keeps the position at work in range, and
  ends the session only by completing or failing it.
* `readsAs_of_nextDraft?`: the draft of a state is the request that the plan has at the state's
  place.
* `SessionState.place_of_acknowledged?` and `SessionState.place_afterComponent`: the states that
  follow have the next place.
-/

namespace FirmwareAgent

/-! ## Positions stay in range -/

/-- A state fits a list of components: the list is not empty, and the position at work is one of
its positions. -/
structure SessionState.InRange (count : Nat) (state : SessionState) : Prop where
  positive : 0 < count
  position : ∀ position, state.position? = some position → position < count

namespace SessionState

variable {count position : Nat} {state next : SessionState}

theorem live_of_command? {command : Command} (own : state.command? = some command) :
    state.isTerminal = false := by
  cases state with
  | completed | failed reason => cases own
  | _ => rfl

theorem not_atWork_of_command? {command : Command} (own : state.command? = some command)
    (position : Nat) : state ≠ .awaitingComponentOutcome position := by
  rintro rfl
  cases own

theorem ne_cancelUpdate_of_command? {command : Command} (own : state.command? = some command) :
    command ≠ .cancelUpdate := by
  rintro rfl
  cases state <;> cases own

/-- The state that an answer leads to has a command of its own, and never RequestUpdate again. -/
theorem command?_of_acknowledged? (next_eq : state.acknowledged? count = some next) :
    ∃ command, next.command? = some command ∧ command ≠ .requestUpdate := by
  cases state with
  | awaitingUpdateAck =>
    cases next_eq
    exact ⟨.passComponentTable, rfl, by decide⟩
  | passingComponentTable position =>
    cases next_eq
    split
    · exact ⟨.passComponentTable, rfl, by decide⟩
    · exact ⟨.updateComponent, rfl, by decide⟩
  | _ => cases next_eq

theorem command?_afterComponent (count : Nat) :
    ∃ command, (afterComponent count position).command? = some command ∧
      command ≠ .requestUpdate := by
  unfold afterComponent
  split
  · exact ⟨.updateComponent, rfl, by decide⟩
  · exact ⟨.activateFirmware, rfl, by decide⟩

theorem InRange.of_position?_eq_none (positive : 0 < count) (none : state.position? = none) :
    state.InRange count :=
  ⟨positive, fun position at_work => by simp [none] at at_work⟩

theorem inRange_awaitingUpdateAck (positive : 0 < count) : awaitingUpdateAck.InRange count :=
  .of_position?_eq_none positive rfl

theorem inRange_afterComponent (positive : 0 < count) :
    (afterComponent count position).InRange count := by
  unfold afterComponent
  split
  · rename_i more
    exact ⟨positive, fun other at_work => by simp_all [position?]⟩
  · exact .of_position?_eq_none positive rfl

theorem inRange_of_acknowledged? (positive : 0 < count)
    (next_eq : state.acknowledged? count = some next) : next.InRange count := by
  refine ⟨positive, fun other at_work => ?_⟩
  cases state with
  | awaitingUpdateAck =>
    cases next_eq
    simp_all [position?]
  | passingComponentTable position =>
    cases next_eq
    split at at_work <;> simp_all [position?]
  | _ => cases next_eq

end SessionState

theorem Reaction.inRange {context : SessionContext} {now : Instant} {session : Session}
    {pool : InstanceIdPool} {event : Event} {turn : Turn}
    (reaction : Reaction context now session pool event turn)
    (live : session.state.isTerminal = false)
    (inRange : session.state.InRange session.record.componentCount) :
    turn.session.state.InRange session.record.componentCount := by
  have positive := inRange.positive
  cases reaction with
  | failed cause =>
    rw [Turn.session_fail _ _ _ _ live]
    exact .of_position?_eq_none positive rfl
  | acknowledged awaited own granted next_eq =>
    exact SessionState.inRange_of_acknowledged? positive next_eq
  | accepted awaited state =>
    rw [state] at inRange
    exact ⟨positive, inRange.position⟩
  | declined | finished => exact SessionState.inRange_afterComponent positive
  | activated => exact .of_position?_eq_none positive rfl
  | _ => exact inRange

/-- A record that is not refused names components. -/
theorem componentCount_pos_of_checkRecord {context : SessionContext} {session : Session}
    (checked : session.checkRecord context = .ok ()) : 0 < session.record.componentCount := by
  unfold Session.checkRecord at checked
  split at checked
  · cases checked
  · rename_i some_component
    simpa [DeviceRecord.componentCount, Array.size_pos_iff] using some_component

/-- A session goes on, completes, or fails for one of the listed causes. -/
theorem Reaction.outcome {context : SessionContext} {now : Instant} {session : Session}
    {pool : InstanceIdPool} {event : Event} {turn : Turn}
    (reaction : Reaction context now session pool event turn)
    (live : session.state.isTerminal = false) :
    turn.session.state.isTerminal = false ∨ turn.session.state = .completed ∨
      ∃ reason, FailureCause context now session pool event reason ∧
        turn.session.state = .failed reason := by
  cases reaction with
  | @failed _ reason cause =>
    refine .inr (.inr ⟨reason, cause, ?_⟩)
    rw [Turn.session_fail _ _ _ _ live]
    rfl
  | acknowledged awaited own granted next_eq =>
    obtain ⟨command, next_own, _⟩ := SessionState.command?_of_acknowledged? next_eq
    exact .inl (SessionState.live_of_command? next_own)
  | declined | finished =>
    obtain ⟨command, next_own, _⟩ := SessionState.command?_afterComponent
      session.record.componentCount
    exact .inl (SessionState.live_of_command? next_own)
  | accepted => exact .inl rfl
  | activated => exact .inr (.inl rfl)
  | _ => exact .inl live

theorem Reaction.record_eq {context : SessionContext} {now : Instant} {session : Session}
    {pool : InstanceIdPool} {event : Event} {turn : Turn}
    (reaction : Reaction context now session pool event turn)
    (live : session.state.isTerminal = false) : turn.session.record = session.record := by
  cases reaction with
  | failed cause =>
    rw [Turn.session_fail _ _ _ _ live]
    rfl
  | _ => rfl

/-! ## The plan -/

/-- One request of an update. -/
inductive PlannedStep
  | requestUpdate
  /-- Passes the table entry of the position. -/
  | passComponentTable (position : Nat)
  /-- Announces the component of the position. -/
  | updateComponent (position : Nat)
  | activateFirmware
  deriving DecidableEq, Repr

/-- The requests of an update of `count` components, in their order. -/
def plan (count : Nat) : List PlannedStep :=
  .requestUpdate :: ((List.range count).map .passComponentTable ++
    ((List.range count).map .updateComponent ++ [.activateFirmware]))

/-- The number of requests that are sent before a session is in a state. -/
def SessionState.place (count : Nat) : SessionState → Nat
  | passingComponentTable position => 1 + position
  | updatingComponent position => 1 + count + position
  | awaitingComponentOutcome position => 1 + count + position + 1
  | activatingFirmware => 1 + count + count
  | completed => 1 + count + count + 1
  | _ => 0

/-- The number of requests that a session has sent: those before its state, and that of its state
if it is under way. -/
def Session.stepsTaken (session : Session) : Nat :=
  session.state.place session.record.componentCount + session.pending.toList.length

/-- A record has the component at a position, and the table knows its classification index. -/
structure DeviceRecord.Places (context : SessionContext) (record : DeviceRecord) (position : Nat)
    (component : ComponentImage) (classificationIndex : UInt8) : Prop where
  listed : ∃ index, record.applicableComponents[position]? = some index ∧
    context.components.get? index = some component
  known : context.components.classificationIndex? component = some classificationIndex

namespace PlannedStep

/-- The command of a request. -/
def command : PlannedStep → Command
  | requestUpdate => .requestUpdate
  | passComponentTable _ => .passComponentTable
  | updateComponent _ => .updateComponent
  | activateFirmware => .activateFirmware

/-- The flag of the table entry at a position: the only one, the first, the last or another. -/
def tableFlag (count position : Nat) : TransferFlag :=
  if count = 1 then .startAndEnd
  else if position = 0 then .start
  else if position + 1 = count then .finish
  else .middle

/-- What a target reads in the body of a request. -/
def ReadsAs (context : SessionContext) (record : DeviceRecord) : PlannedStep → Bytes → Prop
  | requestUpdate, payload => ∃ body, Body.decode RequestUpdateRequest payload = .ok body ∧
      body.numComponents.toNat = record.componentCount ∧
      body.packageDataLength.toNat = record.packageData.size
  | passComponentTable position, payload => ∃ component classificationIndex body,
      record.Places context position component classificationIndex ∧
      Body.decode PassComponentTableRequest payload = .ok body ∧
      body.component = ⟨component.classification, component.identifier, classificationIndex,
        component.comparisonStamp⟩ ∧
      body.version = .ofText component.version ∧
      body.transferFlag = tableFlag record.componentCount position
  | updateComponent position, payload => ∃ component classificationIndex body,
      record.Places context position component classificationIndex ∧
      Body.decode UpdateComponentRequest payload = .ok body ∧
      body.component = ⟨component.classification, component.identifier, classificationIndex,
        component.comparisonStamp⟩ ∧
      body.version = .ofText component.version ∧
      body.imageSize = component.size ∧
      body.updateOptionFlags =
        if component.options &&& componentForceUpdate ≠ 0 then requestForceUpdate else 0
  | activateFirmware, payload => Body.decode ActivateFirmwareRequest payload = .ok ⟨false⟩

/-- An exchange carries a request of the plan, under the instance id that it holds. -/
structure SentBy (context : SessionContext) (record : DeviceRecord) (step : PlannedStep)
    (exchange : Exchange) : Prop where
  command : exchange.command = step.command
  request : ∃ payload, step.ReadsAs context record payload ∧
    exchange.request = .firmwareUpdate exchange.lease.id step.command payload

end PlannedStep

section

variable {context : SessionContext} {session : Session} {draft : Draft} {position : Nat}

theorem plan_requestUpdate (count : Nat) : (plan count)[0]? = some .requestUpdate :=
  rfl

theorem plan_passComponentTable {count : Nat} (lt : position < count) :
    (plan count)[1 + position]? = some (.passComponentTable position) := by
  rw [plan, Nat.add_comm, List.getElem?_cons_succ, List.getElem?_append_left (by simpa using lt)]
  simp [lt]

theorem plan_updateComponent {count : Nat} (lt : position < count) :
    (plan count)[1 + count + position]? = some (.updateComponent position) := by
  rw [plan, Nat.add_assoc, Nat.add_comm, List.getElem?_cons_succ,
    List.getElem?_append_right (by simp), List.getElem?_append_left (by simpa using lt)]
  simp [lt]

theorem plan_activateFirmware (count : Nat) :
    (plan count)[1 + count + count]? = some .activateFirmware := by
  rw [plan, Nat.add_assoc, Nat.add_comm, List.getElem?_cons_succ,
    List.getElem?_append_right (by simp), List.getElem?_append_right (by simp)]
  simp

theorem ofPosition_eq_tableFlag {count : Nat} (lt : position < count) :
    TransferFlag.ofPosition position count = PlannedStep.tableFlag count position := by
  unfold TransferFlag.ofPosition PlannedStep.tableFlag
  by_cases first : position = 0 <;> by_cases last : position + 1 = count
  · rw [if_pos (by omega), first, decide_eq_true (by omega)]
    rfl
  · rw [if_neg (by omega), if_pos first, first, decide_eq_false (by omega)]
    rfl
  · rw [if_neg (by omega), if_neg first, if_pos last, beq_false_of_ne first,
      decide_eq_true (by omega)]
    rfl
  · rw [if_neg (by omega), if_neg first, if_neg last, beq_false_of_ne first,
      decide_eq_false (by omega)]
    rfl

theorem toNat_of_countField {field : String} {count : Nat} {value : UInt16}
    (counted : countField field count = .ok value) : value.toNat = count := by
  unfold countField at counted
  split at counted
  · rename_i fits
    cases counted
    rw [UInt16.toNat_ofNat']
    omega
  · cases counted

theorem places_of_componentIdentity {component : ComponentImage} {identity : ComponentIdentity}
    (found : session.componentIdentity context position = .ok (component, identity)) :
    ∃ classificationIndex,
      session.record.Places context position component classificationIndex ∧
      identity = component.identity classificationIndex := by
  obtain ⟨index, classificationIndex, listed, stored, known, identity_eq⟩ :=
    Session.componentIdentity_eq_ok found
  exact ⟨classificationIndex, ⟨⟨index, listed, stored⟩, known⟩, identity_eq⟩

theorem DeviceRecord.Places.lt {component : ComponentImage} {classificationIndex : UInt8}
    {record : DeviceRecord}
    (places : record.Places context position component classificationIndex) :
    position < record.componentCount := by
  obtain ⟨index, listed, _⟩ := places.listed
  exact (Array.getElem?_eq_some_iff.mp listed).1

/-- The draft of a state is the request that the plan has at the state's place. -/
theorem readsAs_of_nextDraft? (due : session.nextDraft? context = some (.ok draft)) :
    ∃ step, (plan session.record.componentCount)[session.state.place session.record.componentCount]?
        = some step ∧
      draft.command = step.command ∧ step.ReadsAs context session.record draft.payload := by
  unfold Session.nextDraft? at due
  split at due
  · rename_i state
    obtain ⟨body, counted, command, written⟩ := Session.updateDraft_eq_ok (Option.some.inj due)
    obtain ⟨numComponents, count_eq, counted⟩ := bind_eq_ok.mp counted
    obtain ⟨packageDataLength, length_eq, counted⟩ := bind_eq_ok.mp counted
    cases counted
    refine ⟨.requestUpdate, by rw [state]; exact plan_requestUpdate _, command, ?_⟩
    exact ⟨_, decode_encode written, toNat_of_countField count_eq, toNat_of_countField length_eq⟩
  · rename_i position state
    obtain ⟨component, identity, found, command, written⟩ :=
      Session.tableDraft_eq_ok (Option.some.inj due)
    obtain ⟨classificationIndex, places, rfl⟩ := places_of_componentIdentity found
    refine ⟨.passComponentTable position, by rw [state]; exact plan_passComponentTable places.lt,
      command, ?_⟩
    exact ⟨component, classificationIndex, _, places, decode_encode written, rfl, rfl,
      ofPosition_eq_tableFlag places.lt⟩
  · rename_i position state
    obtain ⟨component, identity, found, command, written⟩ :=
      Session.componentDraft_eq_ok (Option.some.inj due)
    obtain ⟨classificationIndex, places, rfl⟩ := places_of_componentIdentity found
    refine ⟨.updateComponent position, by rw [state]; exact plan_updateComponent places.lt,
      command, ?_⟩
    exact ⟨component, classificationIndex, _, places, decode_encode written, rfl, rfl, rfl, rfl⟩
  · rename_i state
    obtain ⟨command, written⟩ := Session.activationDraft_eq_ok (Option.some.inj due)
    exact ⟨.activateFirmware, by rw [state]; exact plan_activateFirmware _, command,
      decode_encode written⟩
  · cases due

end

namespace SessionState

variable {count position : Nat} {state next : SessionState}

/-- An answer leads to the state of the next request. -/
theorem place_of_acknowledged? (inRange : state.InRange count)
    (next_eq : state.acknowledged? count = some next) :
    next.place count = state.place count + 1 := by
  cases state with
  | awaitingUpdateAck =>
    cases next_eq
    rfl
  | passingComponentTable position =>
    have lt := inRange.position position rfl
    cases next_eq
    split <;> simp only [place] <;> omega
  | _ => cases next_eq

/-- The end of a component leads to the state of the next request. -/
theorem place_afterComponent (lt : position < count) :
    (afterComponent count position).place count = 1 + count + position + 1 := by
  unfold afterComponent
  split <;> simp only [place] <;> omega

end SessionState

end FirmwareAgent
