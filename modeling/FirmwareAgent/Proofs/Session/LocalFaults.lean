import FirmwareAgent.Proofs.Session.Plan
import FirmwareAgent.Proofs.Wire.Inverse

/-!
# What keeps a session from sending a request

A request is not sent if its record or its table entry does not fit, if a number or a version is too
large for its field, or if there is no instance id for it. The first fault counts, in a fixed order
that is said here without a look at how the requests are written.

* `faultOf?_checkRecord`, `faultOf?_updateDraft`, `faultOf?_tableDraft`: the faults are those of the
  drafts.
* `Reaction.hasPassed`: a session that is past a table entry was able to write it.
* `HasPassed.writable`: what comes after the table can always be written.
-/

namespace FirmwareAgent

/-! ## Faults -/

/-- Why a value is not there. -/
def faultOf? {ε α : Type} : Except ε α → Option ε
  | .error error => some error
  | .ok _ => none

/-- A value that is too large for its field. -/
def oversize? (field : String) (limit value : Nat) : Option WireError :=
  if limit < value then some (.fieldOverflow field value) else none

/-- A version that is too long. -/
def overlong? (version : String) : Option WireError :=
  oversize? "version string length" 255 (utf8Bytes version).length

/-- A command cannot be written because of a fault. -/
def Command.unwritable (command : Command) (fault : WireError) : UpdateError :=
  .encode command.name (.malformed fault)

namespace Session

variable (context : SessionContext) (session : Session)

/-- The record names no components, or one that is not in the package. -/
def recordFault? : Option UpdateError :=
  if session.record.componentCount = 0 then
    some (.configuration (.noComponents session.endpoint))
  else
    (session.record.applicableComponents.find? fun index =>
        context.components.size ≤ index.toNat).map fun index =>
      .configuration (.missingComponent index context.components.size)

/-- RequestUpdate counts too many components or too much package data, or its version is too
long. -/
def updateFault? : Option UpdateError :=
  (oversize? "number of components" 65535 session.record.componentCount <|>
    oversize? "package data length" 65535 session.record.packageData.size <|>
    overlong? session.record.imageSetVersion).map Command.requestUpdate.unwritable

/-- A command about a component lacks its classification index, or the version of the component is
too long. -/
def componentFault? (command : Command) (index : ComponentIndex) (component : ComponentImage) :
    Option UpdateError :=
  match context.components.classificationIndex? component with
  | none =>
    some (.configuration
      (.noClassificationIndex index component.classification component.identifier))
  | some _ => (overlong? component.version).map command.unwritable

/-- There is no instance id for the request. -/
def idFault? (pool : InstanceIdPool) (now : Instant) : Option UpdateError :=
  if (pool.acquire session.endpoint now).isOk then none
  else some (.resourceExhausted session.endpoint)

end Session

/-! ## The faults of drafts -/

section

variable {context : SessionContext} {session : Session} {pool : InstanceIdPool} {now : Instant}
  {position : Nat} {index : ComponentIndex} {component : ComponentImage}

theorem oversize?_of_le {field : String} {limit value : Nat} (fits : value ≤ limit) :
    oversize? field limit value = none :=
  if_neg (Nat.not_lt.mpr fits)

theorem oversize?_of_lt {field : String} {limit value : Nat} (exceeds : limit < value) :
    oversize? field limit value = some (.fieldOverflow field value) :=
  if_pos exceeds

theorem faultOf?_countField (field : String) (count : Nat) :
    faultOf? (countField field count) = oversize? field 65535 count := by
  unfold countField
  split
  · rename_i fits
    exact (oversize?_of_le (Nat.le_of_lt_succ fits)).symm
  · rename_i exceeds
    exact (oversize?_of_lt (Nat.not_lt.mp exceeds)).symm

/-- A body whose only limit is its version has the fault of its version. -/
theorem faultOf?_encode {α : Type} [Body α] {version : α → VersionString}
    (inverse : Body.Inverse α (fun body => some (version body)) id) (body : α) (text : String)
    (carries : version body = .ofText text) : faultOf? (Body.encode body) = overlong? text := by
  have length_eq : (version body).bytes.length = (utf8Bytes text).length := by
    rw [carries]
    rfl
  rcases Nat.lt_or_ge 255 (utf8Bytes text).length with long | short
  · rw [inverse.tooLong body _ rfl (length_eq ▸ long), length_eq]
    exact (oversize?_of_lt long).symm
  · have carried : ∀ carried ∈ some (version body), carried.bytes.length ≤ 255 := by
      rintro _ ⟨⟩
      exact length_eq ▸ short
    obtain ⟨bytes, written, _⟩ := inverse.written body carried
    rw [written]
    exact (oversize?_of_le short).symm

theorem faultOf?_ofBody {α : Type} [Body α] (body : Except WireError α) :
    faultOf? (Draft.ofBody body) =
      (faultOf? (body >>= Body.encode)).map (Body.command α).unwritable := by
  unfold Draft.ofBody
  cases body >>= Body.encode <;> rfl

/-- What keeps RequestUpdate from being written. -/
theorem faultOf?_updateDraft : faultOf? (session.updateDraft context) = session.updateFault? := by
  rw [Session.updateDraft, faultOf?_ofBody, Session.updateFault?, ← faultOf?_countField,
    ← faultOf?_countField, RequestUpdateRequest.ofCounts]
  cases countField "number of components" session.record.componentCount with
  | error error => rfl
  | ok count =>
    cases countField "package data length" session.record.packageData.size with
    | error error => rfl
    | ok length =>
      have written := faultOf?_encode (.versioned fun _ => rfl)
        (⟨context.config.maxTransferSize, count, context.config.maxOutstandingTransferRequests,
          length, .ofText session.record.imageSetVersion⟩ : RequestUpdateRequest) _ rfl
      exact congrArg (Option.map Command.requestUpdate.unwritable) written

/-- What keeps a record from being accepted. -/
theorem faultOf?_checkRecord :
    faultOf? (session.checkRecord context) = session.recordFault? context := by
  have absent : (fun index => (context.components.get? index).isNone) =
      fun index => decide (context.components.size ≤ index.toNat) := by
    funext index
    rw [ComponentTable.get?, ComponentTable.size, Bool.eq_iff_iff, Option.isNone_iff_eq_none,
      Array.getElem?_eq_none_iff, decide_eq_true_iff]
  unfold Session.checkRecord Session.recordFault?
  rw [absent]
  by_cases empty : session.record.componentCount = 0
  · rw [if_pos (Array.isEmpty_iff_size_eq_zero.mpr empty), if_pos empty]
    rfl
  · rw [if_neg fun none_named => empty (Array.isEmpty_iff_size_eq_zero.mp none_named), if_neg empty]
    cases session.record.applicableComponents.find? fun index =>
      decide (context.components.size ≤ index.toNat) <;> rfl

variable (context session) in
theorem componentIdentity_of_found
    (found : session.componentAt? context position = some (index, component)) :
    session.componentIdentity context position =
      match context.components.classificationIndex? component with
      | none =>
        .error (.configuration
          (.noClassificationIndex index component.classification component.identifier))
      | some classificationIndex => .ok (component, component.identity classificationIndex) := by
  cases known : context.components.classificationIndex? component <;>
    simp only [Session.componentIdentity, found, known]

/-- What keeps a command about the component at a position from being written. -/
theorem faultOf?_bind_componentIdentity {α : Type} [Body α] (version : α → VersionString)
    (found : session.componentAt? context position = some (index, component))
    (inverse : Body.Inverse α (fun body => some (version body)) id)
    (body : ComponentImage × ComponentIdentity → α)
    (carries : ∀ described, version (body described) = .ofText described.1.version) :
    faultOf? (session.componentIdentity context position >>= fun described =>
        Draft.ofBody (.ok (body described))) =
      Session.componentFault? context (Body.command α) index component := by
  rw [componentIdentity_of_found context session found, Session.componentFault?]
  cases context.components.classificationIndex? component with
  | none => rfl
  | some classificationIndex =>
    have written := faultOf?_encode inverse
      (body (component, component.identity classificationIndex)) _ (carries _)
    exact (faultOf?_ofBody _).trans (congrArg (Option.map (Body.command α).unwritable) written)

theorem faultOf?_tableDraft
    (found : session.componentAt? context position = some (index, component)) :
    faultOf? (session.tableDraft context position) =
      Session.componentFault? context .passComponentTable index component :=
  faultOf?_bind_componentIdentity PassComponentTableRequest.version found (.versioned fun _ => rfl)
    (fun described => ⟨TransferFlag.ofPosition position session.record.componentCount, described.2,
      described.1.versionString⟩) fun _ => rfl

theorem faultOf?_componentDraft
    (found : session.componentAt? context position = some (index, component)) :
    faultOf? (session.componentDraft context position) =
      Session.componentFault? context .updateComponent index component :=
  faultOf?_bind_componentIdentity UpdateComponentRequest.version found (.versioned fun _ => rfl)
    (fun described => ⟨described.2, described.1.size, described.1.updateOptionFlags,
      described.1.versionString⟩) fun _ => rfl

/-- What keeps a request from having an instance id. -/
theorem faultOf?_acquire :
    faultOf? (pool.acquire session.endpoint now) = session.idFault? pool now := by
  unfold Session.idFault? InstanceIdPool.acquire
  split
  · rfl
  · split
    · rfl
    · split <;> rfl

theorem faultOf?_eq_none {ε α : Type} {value : Except ε α} :
    faultOf? value = none ↔ ∃ found, value = .ok found := by
  cases value <;> simp [faultOf?]

end

/-! ## Past the table -/

namespace Session

/-- How many entries of the table a session has written: in the states of the table those before its
position, and that of its position once it is under way. -/
def entriesWritten (session : Session) : Nat :=
  match session.state with
  | .idle | .awaitingUpdateAck | .failed _ => 0
  | .passingComponentTable position => position + session.pending.toList.length
  | _ => session.record.componentCount

/-- A session was able to write every entry of the table that it is past. -/
structure HasPassed (context : SessionContext) (session : Session) : Prop where
  inRange : ∀ position, session.state = .updatingComponent position →
    position < session.record.componentCount
  written : ∀ position < session.entriesWritten,
    ∃ draft, session.tableDraft context position = .ok draft

end Session

section

variable {context : SessionContext} {now : Instant} {session : Session} {pool : InstanceIdPool}
  {event : Event} {turn : Turn} {position : Nat}

/-- A component that could be passed can be announced. -/
theorem exists_componentDraft
    (passed : ∃ draft, session.tableDraft context position = .ok draft) :
    ∃ draft, session.componentDraft context position = .ok draft := by
  obtain ⟨draft, drafted⟩ := passed
  obtain ⟨component, identity, identified, _⟩ := Session.tableDraft_eq_ok drafted
  obtain ⟨index, _, listed, stored, _⟩ := Session.componentIdentity_eq_ok identified
  have found := Session.componentAt?_eq_some.mpr ⟨listed, stored⟩
  have faultless := faultOf?_tableDraft found
  rw [faultOf?_eq_none.mpr ⟨draft, drafted⟩] at faultless
  rw [← faultOf?_eq_none, faultOf?_componentDraft found]
  unfold Session.componentFault? at faultless ⊢
  split at faultless
  · cases faultless
  · exact Option.map_eq_none_iff.mpr (Option.map_eq_none_iff.mp faultless.symm)

/-- What comes after the table can always be written. -/
theorem Session.HasPassed.writable (passed : session.HasPassed context)
    (state : (∃ position, session.state = .updatingComponent position) ∨
      session.state = .activatingFirmware) :
    ∃ draft, session.nextDraft? context = some (.ok draft) := by
  rcases state with ⟨position, state⟩ | state
  · have before : position < session.entriesWritten := by
      rw [entriesWritten, state]
      exact passed.inRange position state
    obtain ⟨draft, drafted⟩ := exists_componentDraft (passed.written position before)
    exact ⟨draft, by rw [nextDraft?, state, ← drafted]⟩
  · exact ⟨_, by rw [nextDraft?, state]; rfl⟩

/-- A session that has written no more entries, for the same record, has passed what it wrote. -/
theorem Session.HasPassed.of_le {after : Session} (passed : session.HasPassed context)
    (record : after.record = session.record)
    (inRange : ∀ position, after.state = .updatingComponent position →
      position < after.record.componentCount)
    (le : after.entriesWritten ≤ session.entriesWritten) : after.HasPassed context where
  inRange := inRange
  written := by
    intro position before
    obtain ⟨draft, drafted⟩ := passed.written position (Nat.lt_of_lt_of_le before le)
    refine ⟨draft, ?_⟩
    simpa only [tableDraft, componentIdentity, componentAt?, record] using drafted

theorem SessionState.inRange_updatingComponent {state : SessionState} {count : Nat}
    (inRange : state.InRange count) (position : Nat)
    (updating : state = .updatingComponent position) : position < count :=
  inRange.position position (by rw [updating]; rfl)

theorem Session.entriesWritten_afterComponent {count : Nat}
    (state : session.state = .afterComponent count position) :
    session.entriesWritten = session.record.componentCount := by
  unfold SessionState.afterComponent at state
  split at state <;> rw [entriesWritten, state]

/-- A session writes an entry of the table with each PassComponentTable, and with nothing else. -/
theorem Reaction.entriesWritten (reaction : Reaction context now session pool event turn)
    (live : session.state.isTerminal = false) :
    turn.session.entriesWritten ≤ session.entriesWritten ∨
      ∃ position draft, session.state = .passingComponentTable position ∧
        session.nextDraft? context = some (.ok draft) ∧
        turn.session.entriesWritten = position + 1 := by
  cases reaction with
  | failed cause =>
    rw [Session.entriesWritten, Turn.state_fail _ _ _ _ live]
    exact .inl (Nat.zero_le _)
  | @submitted draft lease lent due acquired =>
    cases state : session.state with
    | passingComponentTable position =>
      exact .inr ⟨position, draft, rfl, due, by simp [Session.entriesWritten]⟩
    | _ => exact .inl (by simp [Session.entriesWritten, *])
  | @acknowledged token pending response next awaited own granted next_eq =>
    refine .inl ?_
    cases state : session.state with
    | awaitingUpdateAck =>
      rw [state] at next_eq
      cases next_eq
      exact Nat.zero_le _
    | passingComponentTable position =>
      -- The entry of the position is under way, so it counts already.
      have before : session.entriesWritten = position + 1 := by
        simp [Session.entriesWritten, state, awaited.slot]
      rw [state] at next_eq
      cases next_eq
      rw [before]
      by_cases more : position + 1 < session.record.componentCount
      · simp [Session.entriesWritten, more, Session.settled]
      · have last : session.record.componentCount ≤ position + 1 := Nat.not_lt.mp more
        simpa [Session.entriesWritten, more, Session.settled, Session.informed] using last
    | _ =>
      rw [state] at next_eq
      cases next_eq
  | accepted awaited state | activated awaited state | untimed awaited state =>
    exact .inl (by simp [Session.entriesWritten, state, Session.settled, Session.informed])
  | declined awaited state =>
    rw [Session.entriesWritten_afterComponent rfl, Session.entriesWritten, state]
    exact .inl (Nat.le_refl _)
  | finished state =>
    rw [Session.entriesWritten_afterComponent rfl, Session.entriesWritten, state]
    exact .inl (Nat.le_refl _)
  | ignored | answered | deferred | brokeDown | overran => exact .inl (Nat.le_refl _)

/-- Every reaction keeps to the entries that could be written. -/
theorem Reaction.hasPassed (reaction : Reaction context now session pool event turn)
    (live : session.state.isTerminal = false)
    (inRange : session.state.InRange session.record.componentCount)
    (passed : session.HasPassed context) : turn.session.HasPassed context := by
  have record := reaction.record_eq live
  have inRange_after : ∀ position, turn.session.state = .updatingComponent position →
      position < turn.session.record.componentCount := by
    rw [record]
    exact SessionState.inRange_updatingComponent (reaction.inRange live inRange)
  rcases reaction.entriesWritten live with le | ⟨position, draft, state, due, written⟩
  · exact passed.of_le record inRange_after le
  · refine ⟨inRange_after, fun other before => ?_⟩
    have same : turn.session.tableDraft context other = session.tableDraft context other := by
      simp only [Session.tableDraft, Session.componentIdentity, Session.componentAt?, record]
    rw [same]
    rw [written] at before
    rcases Nat.lt_succ_iff_lt_or_eq.mp before with earlier | rfl
    · have counted : position ≤ session.entriesWritten := by
        rw [Session.entriesWritten, state]
        exact Nat.le_add_right _ _
      exact passed.written other (Nat.lt_of_lt_of_le earlier counted)
    · rw [Session.nextDraft?, state] at due
      exact ⟨draft, Option.some.inj due⟩

end

end FirmwareAgent
