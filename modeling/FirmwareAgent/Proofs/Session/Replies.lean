import FirmwareAgent.Proofs.Session.Reaction

/-!
# Replies

What is known of every reply to a target's request, whatever the request: it echoes the command of
the request, and a report that a component was applied is acknowledged only if it is taken.

* `command_of_replyTo`: the command is echoed.
* `not_acknowledgesApply_of_replyTo`: no reply but the one to a taken report acknowledges one.
-/

namespace FirmwareAgent

/-- A response acknowledges the report that a component was applied. -/
structure Response.AcknowledgesApply (response : Response) : Prop where
  command : response.command = Command.applyComplete.code
  succeeds : response.isSuccess = true

/-- The response of a reply, given at once or later. -/
def Reply.response? : Reply → Option Response
  | ready response | reading response => some response
  | crash => none

namespace Session

variable {context : SessionContext} {session : Session} {request : Request} {response : Response}
  {position : Nat}

/-! ## Which requests get where -/

variable (session) in
/-- ApplyComplete is taken as a report, or it is refused. -/
theorem dispose_of_applyComplete (command : request.command = Command.applyComplete.code) :
    (∃ position, session.dispose request = .applyComplete position) ∨
      ∃ code, code ≠ CompletionCode.success ∧ session.dispose request = .refuse code := by
  simp only [dispose, command, Command.ofCode?_code]
  split
  · exact .inr ⟨_, by decide, rfl⟩
  split
  · exact .inl ⟨_, rfl⟩
  · exact .inr ⟨_, by decide, rfl⟩

/-- Only ApplyComplete counts as a report that a component was applied. -/
theorem command_of_dispose_eq_applyComplete
    (disposed : session.dispose request = .applyComplete position) :
    request.pldmType = firmwareUpdateType ∧ request.command = Command.applyComplete.code := by
  unfold dispose disposeComponent at disposed
  split at disposed
  · cases disposed
  · rename_i type
    refine ⟨by simpa using type, ?_⟩
    repeat' split at disposed
    all_goals first
      | exact (Command.code_eq_of_ofCode?
          ‹Command.ofCode? request.command = some .applyComplete›).symm
      | cases disposed

theorem command_of_dispose_eq_firmwareData
    (disposed : session.dispose request = .firmwareData position) :
    request.command = Command.requestFirmwareData.code := by
  unfold dispose disposeComponent at disposed
  repeat' split at disposed
  all_goals first
    | exact (Command.code_eq_of_ofCode?
        ‹Command.ofCode? request.command = some .requestFirmwareData›).symm
    | cases disposed

theorem reported?_eq_some {success : Bool}
    (reported : session.reported? request = some (position, success)) :
    session.dispose request = .applyComplete position ∧
      ∃ report, Body.decode ApplyCompleteRequest request.payload = .ok report ∧
        report.succeeded = success := by
  unfold reported? at reported
  split at reported
  · rename_i other disposed
    split at reported
    · rename_i report decoded
      cases reported
      exact ⟨disposed, report, decoded, rfl⟩
    · cases reported
  · cases reported

/-! ## What a reply echoes -/

theorem command_answerReading (reading : Reading UpdateError) :
    (answerReading request reading).command = request.command := by
  cases reading <;> rfl

theorem command_serveFirmwareData
    (replied : (session.serveFirmwareData context position request).response? = some response) :
    response.command = request.command := by
  unfold serveFirmwareData at replied
  dsimp only at replied
  repeat' split at replied
  all_goals cases replied
  all_goals first
    | exact command_answerReading _
    | rfl

theorem command_servePackageData :
    (session.servePackageData context request).command = request.command := by
  unfold servePackageData
  dsimp only
  repeat' split
  all_goals rfl

theorem command_acknowledge (α : Type) [Body α] :
    (acknowledge α request).command = request.command := by
  unfold acknowledge
  split <;> rfl

/-- A reply echoes the command of the request. -/
theorem command_of_replyTo
    (replied : (session.replyTo context request).response? = some response) :
    response.command = request.command := by
  unfold replyTo at replied
  split at replied
  · cases replied
    rfl
  · cases replied
    exact command_servePackageData
  · exact command_serveFirmwareData replied
  all_goals
    cases replied
    exact command_acknowledge _

/-- A reply that waits for the package answers a pull of image data. -/
theorem command_of_replyTo_eq_reading
    (reading : session.replyTo context request = .reading response) :
    response.command = Command.requestFirmwareData.code := by
  have replied : (session.replyTo context request).response? = some response := by
    rw [reading]
    rfl
  rw [command_of_replyTo replied]
  unfold replyTo at reading
  split at reading
  all_goals first
    | cases reading
    | exact command_of_dispose_eq_firmwareData ‹_›

/-- A report that is not taken is not acknowledged. -/
theorem not_acknowledgesApply_of_replyTo (unreported : session.reported? request = none)
    (replied : session.replyTo context request = .ready response) :
    ¬ response.AcknowledgesApply := by
  intro acknowledges
  have command : request.command = Command.applyComplete.code := by
    rw [← acknowledges.command]
    exact (command_of_replyTo (by rw [replied]; rfl)).symm
  have succeeds := acknowledges.succeeds
  rcases dispose_of_applyComplete session command with
    ⟨position, disposed⟩ | ⟨code, failure, refused⟩
  · simp only [replyTo, disposed, Reply.ready.injEq, acknowledge] at replied
    split at replied
    · rename_i report decoded
      simp [reported?, disposed, decoded] at unreported
    · rename_i error decoded
      rw [← replied] at succeeds
      cases error <;> cases succeeds
  · simp only [replyTo, refused, Reply.ready.injEq] at replied
    simp only [← replied, Request.refuse, Request.respond, Response.isSuccess,
      beq_iff_eq] at succeeds
    exact failure succeeds

end Session

end FirmwareAgent
