import FirmwareAgent.Proofs.Session.Reaction
import FirmwareAgent.Proofs.Wire.RoundTrip

/-!
# Drafts

What a draft that could be written looks like: `Draft.ofBody_eq_ok` for any body,
`tableDraft_eq_ok` and its companions for the commands of the agent. A session drafts the command
of its own state and no other (`command?_of_nextDraft?`).
-/

namespace FirmwareAgent

variable {context : SessionContext} {session : Session} {draft : Draft} {position : Nat}

theorem Draft.ofBody_eq_ok {α : Type} [Body α] {body : Except WireError α} :
    Draft.ofBody body = .ok draft ↔
      ∃ value payload, body = .ok value ∧ Body.encode value = .ok payload ∧
        draft = ⟨Body.command α, payload⟩ := by
  cases body with
  | error error => simp [Draft.ofBody, bind, Except.bind]
  | ok value =>
    cases written : Body.encode value with
    | error error => simp [Draft.ofBody, bind, Except.bind, written]
    | ok payload => simp [Draft.ofBody, bind, Except.bind, written, eq_comm]

namespace Session

theorem componentAt?_eq_some {index : ComponentIndex} {component : ComponentImage} :
    session.componentAt? context position = some (index, component) ↔
      session.record.applicableComponents[position]? = some index ∧
        context.components.get? index = some component := by
  simp [componentAt?, Option.bind_eq_some_iff]

/-- The component at a position can be announced if it is in the table and its classification index
is known. -/
theorem componentIdentity_eq_ok {component : ComponentImage} {identity : ComponentIdentity}
    (found : session.componentIdentity context position = .ok (component, identity)) :
    ∃ index classificationIndex, session.record.applicableComponents[position]? = some index ∧
      context.components.get? index = some component ∧
      context.components.classificationIndex? component = some classificationIndex ∧
      identity = component.identity classificationIndex := by
  unfold componentIdentity at found
  split at found
  · cases found
  · rename_i index other place
    split at found
    · cases found
    · rename_i classificationIndex known
      cases found
      obtain ⟨listed, stored⟩ := componentAt?_eq_some.mp place
      exact ⟨index, classificationIndex, listed, stored, known, rfl⟩

theorem tableDraft_eq_ok (drafted : session.tableDraft context position = .ok draft) :
    ∃ component identity,
      session.componentIdentity context position = .ok (component, identity) ∧
      draft.command = .passComponentTable ∧
      Body.encode (⟨TransferFlag.ofPosition position session.record.componentCount, identity,
        component.versionString⟩ : PassComponentTableRequest) = .ok draft.payload := by
  obtain ⟨⟨component, identity⟩, found, drafted⟩ := bind_eq_ok.mp drafted
  obtain ⟨value, payload, ⟨⟩, written, rfl⟩ := Draft.ofBody_eq_ok.mp drafted
  exact ⟨component, identity, found, rfl, written⟩

theorem componentDraft_eq_ok (drafted : session.componentDraft context position = .ok draft) :
    ∃ component identity,
      session.componentIdentity context position = .ok (component, identity) ∧
      draft.command = .updateComponent ∧
      Body.encode (⟨identity, component.size, component.updateOptionFlags,
        component.versionString⟩ : UpdateComponentRequest) = .ok draft.payload := by
  obtain ⟨⟨component, identity⟩, found, drafted⟩ := bind_eq_ok.mp drafted
  obtain ⟨value, payload, ⟨⟩, written, rfl⟩ := Draft.ofBody_eq_ok.mp drafted
  exact ⟨component, identity, found, rfl, written⟩

theorem updateDraft_eq_ok (drafted : session.updateDraft context = .ok draft) :
    ∃ body : RequestUpdateRequest,
      RequestUpdateRequest.ofCounts context.config.maxTransferSize session.record.componentCount
        context.config.maxOutstandingTransferRequests session.record.packageData.size
        session.record.imageSetVersion = .ok body ∧
      draft.command = .requestUpdate ∧ Body.encode body = .ok draft.payload := by
  obtain ⟨body, payload, counted, written, rfl⟩ := Draft.ofBody_eq_ok.mp drafted
  exact ⟨body, counted, rfl, written⟩

theorem activationDraft_eq_ok (drafted : activationDraft = .ok draft) :
    draft.command = .activateFirmware ∧
      Body.encode (⟨false⟩ : ActivateFirmwareRequest) = .ok draft.payload := by
  obtain ⟨value, payload, ⟨⟩, written, rfl⟩ := Draft.ofBody_eq_ok.mp drafted
  exact ⟨rfl, written⟩

/-- The command that is drafted in a state belongs to it. -/
theorem command?_of_nextDraft? (due : session.nextDraft? context = some (.ok draft)) :
    session.state.command? = some draft.command := by
  unfold nextDraft? at due
  split at due
  · rename_i state
    obtain ⟨_, _, command, _⟩ := updateDraft_eq_ok (Option.some.inj due)
    simp [SessionState.command?, state, command]
  · rename_i position state
    obtain ⟨_, _, _, command, _⟩ := tableDraft_eq_ok (Option.some.inj due)
    simp [SessionState.command?, state, command]
  · rename_i position state
    obtain ⟨_, _, _, command, _⟩ := componentDraft_eq_ok (Option.some.inj due)
    simp [SessionState.command?, state, command]
  · rename_i state
    simp [SessionState.command?, state, (activationDraft_eq_ok (Option.some.inj due)).1]
  · cases due

end Session

end FirmwareAgent
