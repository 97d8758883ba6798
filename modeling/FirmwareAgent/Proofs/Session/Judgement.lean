import FirmwareAgent.Proofs.Session.ImageData
import FirmwareAgent.Proofs.Wire.Refusals

/-!
# How a target's request is judged

A request can have several faults, and only the first one in a fixed order is answered: its type,
its command, that the session does not expect it, its body. `Session.objection?` is that order, said
without a look at how the session decides. `Session.Judges` adds what a request without a fault is
answered with.

* `Disposes`: what becomes of a request, with the circumstances.
* `isDue_replyTo`: every answer is the one that the request is due.
* `deadlineAfter?_eq`: which requests count as a sign of life.
-/

namespace FirmwareAgent

namespace Command

/-- The commands that a session serves to its target. -/
def served : List Command :=
  [getPackageData, requestFirmwareData, transferComplete, verifyComplete, applyComplete]

def served? (code : UInt8) : Option Command :=
  served.find? (·.code == code)

/-- Whether the body of a served request can be read. -/
def readsRequest : Command → Bytes → Bool
  | getPackageData, payload => (Body.decode GetPackageDataRequest payload).isOk
  | requestFirmwareData, payload => (Body.decode RequestFirmwareDataRequest payload).isOk
  | transferComplete, payload => (Body.decode TransferCompleteRequest payload).isOk
  | verifyComplete, payload => (Body.decode VerifyCompleteRequest payload).isOk
  | applyComplete, payload => (Body.decode ApplyCompleteRequest payload).isOk
  | _, _ => false

/-- The completion code that says what is wrong with the body of a served request. An operation that
does not exist counts before a wrong length does. -/
def bodyObjection? (command : Command) (payload : Bytes) : Option UInt8 :=
  if command.readsRequest payload then none
  else if command == getPackageData && GetPackageDataRequest.hasUnknownOperation payload then
    some CompletionCode.invalidTransferOperationFlag
  else some CompletionCode.errorInvalidLength

end Command

namespace Session

/-- Whether a session expects a command of its target: one for package data at any time, the others
while the target is at work on a component. As soon as UpdateComponent is under way the target may
start, but it cannot be done. -/
def expects (session : Session) (command : Command) : Bool :=
  command == .getPackageData ||
    match session.state with
    | .awaitingComponentOutcome _ => true
    | .updatingComponent _ => session.awaits .updateComponent && command != .applyComplete
    | _ => false

/-- The completion code that says what is wrong with a request, if anything is. -/
def objection? (session : Session) (request : Request) : Option UInt8 :=
  if request.pldmType ≠ firmwareUpdateType then some CompletionCode.errorInvalidType
  else
    match Command.served? request.command with
    | none => some CompletionCode.errorUnsupportedCommand
    | some command =>
      if !session.expects command then some CompletionCode.commandNotExpected
      else command.bodyObjection? request.payload

/-- The completion code and the body that a request without a fault is answered with. -/
inductive Serves (context : SessionContext) (session : Session) (request : Request) :
    Command → UInt8 → Bytes → Prop
  /-- Reports are acknowledged. -/
  | acknowledged {command : Command}
      (report : command ∈ [.transferComplete, .verifyComplete, .applyComplete]) :
      Serves context session request command CompletionCode.success []
  | partRefused {pull : GetPackageDataRequest} {code : UInt8} {offset length : UInt32}
      (decoded : Body.decode GetPackageDataRequest request.payload = .ok pull)
      (refused : PackageDataPart.plan session.record.packageData.size pull
        context.config.maxTransferSize = .error (.protocolRange code offset length)) :
      Serves context session request .getPackageData code []
  | part {pull : GetPackageDataRequest} {part : PackageDataPart} {body : Bytes}
      (decoded : Body.decode GetPackageDataRequest request.payload = .ok pull)
      (planned : PackageDataPart.plan session.record.packageData.size pull
        context.config.maxTransferSize = .ok part)
      (encoded : Body.encode (⟨part.nextHandle, part.transferFlag,
        (session.record.packageData.extract part.start part.stop).toList⟩ :
          GetPackageDataResponse) = .ok body) :
      Serves context session request .getPackageData CompletionCode.success body
  | windowRefused {pull : RequestFirmwareDataRequest} {position : Nat} {index : ComponentIndex}
      {component : ComponentImage} {code : UInt8} {offset length : UInt32}
      (decoded : Body.decode RequestFirmwareDataRequest request.payload = .ok pull)
      (served : session.servedPosition? = some position)
      (found : session.componentAt? context position = some (index, component))
      (refused : FirmwareDataWindow.plan component.size pull context.config.baselineTransferSize
        context.config.maxTransferSize = .error (.protocolRange code offset length)) :
      Serves context session request .requestFirmwareData code []
  | window {pull : RequestFirmwareDataRequest} {position : Nat} {index : ComponentIndex}
      {component : ComponentImage} {window : FirmwareDataWindow} {bytes : Bytes}
      (decoded : Body.decode RequestFirmwareDataRequest request.payload = .ok pull)
      (served : session.servedPosition? = some position)
      (found : session.componentAt? context position = some (index, component))
      (planned : FirmwareDataWindow.plan component.size pull context.config.baselineTransferSize
        context.config.maxTransferSize = .ok window)
      (read : window.read context.package component = .done bytes) :
      Serves context session request .requestFirmwareData CompletionCode.success bytes
  | windowUnread {pull : RequestFirmwareDataRequest} {position : Nat} {index : ComponentIndex}
      {component : ComponentImage} {window : FirmwareDataWindow}
      (decoded : Body.decode RequestFirmwareDataRequest request.payload = .ok pull)
      (served : session.servedPosition? = some position)
      (found : session.componentAt? context position = some (index, component))
      (planned : FirmwareDataWindow.plan component.size pull context.config.baselineTransferSize
        context.config.maxTransferSize = .ok window)
      (unread : (∃ error, window.read context.package component = .failed error) ∨
        window.read context.package component = .crashed ∧
          context.package.isInMemory = false ∧ window.readLength ≠ 0) :
      Serves context session request .requestFirmwareData CompletionCode.error []

/-- The completion code and the body of the answer that a request is due. -/
inductive Judges (context : SessionContext) (session : Session) (request : Request) :
    UInt8 → Bytes → Prop
  | refused {code : UInt8} (objection : session.objection? request = some code) :
      Judges context session request code []
  | served {command : Command} {code : UInt8} {body : Bytes}
      (faultless : session.objection? request = none)
      (known : Command.served? request.command = some command)
      (serves : session.Serves context request command code body) :
      Judges context session request code body

/-- A source that is read at once breaks down at a pull of image data. -/
structure BreaksAt (context : SessionContext) (session : Session) (request : Request) : Prop where
  faultless : session.objection? request = none
  known : Command.served? request.command = some .requestFirmwareData
  crashes : ∃ pull position index component window,
    Body.decode RequestFirmwareDataRequest request.payload = .ok pull ∧
    session.servedPosition? = some position ∧
    session.componentAt? context position = some (index, component) ∧
    FirmwareDataWindow.plan component.size pull context.config.baselineTransferSize
      context.config.maxTransferSize = .ok window ∧
    (context.package.isInMemory = true ∨ window.readLength = 0) ∧
    window.read context.package component = .crashed

/-- Whether a request shows that the target is at work on the component whose outcome is awaited:
any request about a component does, even one whose body cannot be read. -/
def showsLife (session : Session) (request : Request) : Bool :=
  match session.state with
  | .awaitingComponentOutcome _ =>
    request.pldmType == firmwareUpdateType
      && (Command.served? request.command).any (· != .getPackageData)
  | _ => false

variable {context : SessionContext} {session : Session} {request : Request} {now : Instant}

/-! ## What becomes of a request -/

/-- What becomes of a request of the target while the update is in progress. -/
inductive Disposes (session : Session) (request : Request) : Disposition → Prop
  | otherType (other : request.pldmType ≠ firmwareUpdateType) :
      Disposes session request (.refuse CompletionCode.errorInvalidType)
  | unsupported (type : request.pldmType = firmwareUpdateType)
      (unknown : Command.served? request.command = none) :
      Disposes session request (.refuse CompletionCode.errorUnsupportedCommand)
  | unexpected {command : Command} (type : request.pldmType = firmwareUpdateType)
      (known : Command.served? request.command = some command)
      (early : session.expects command = false) :
      Disposes session request (.refuse CompletionCode.commandNotExpected)
  | packageData (type : request.pldmType = firmwareUpdateType)
      (known : Command.served? request.command = some .getPackageData) :
      Disposes session request .packageData
  | firmwareData {position : Nat} (type : request.pldmType = firmwareUpdateType)
      (known : Command.served? request.command = some .requestFirmwareData)
      (served : session.servedPosition? = some position) :
      Disposes session request (.firmwareData position)
  | transferComplete {position : Nat} (type : request.pldmType = firmwareUpdateType)
      (known : Command.served? request.command = some .transferComplete)
      (served : session.servedPosition? = some position) :
      Disposes session request (.transferComplete position)
  | verifyComplete {position : Nat} (type : request.pldmType = firmwareUpdateType)
      (known : Command.served? request.command = some .verifyComplete)
      (served : session.servedPosition? = some position) :
      Disposes session request (.verifyComplete position)
  | applyComplete {position : Nat} (type : request.pldmType = firmwareUpdateType)
      (known : Command.served? request.command = some .applyComplete)
      (state : session.state = .awaitingComponentOutcome position) :
      Disposes session request (.applyComplete position)

/-- The requests about a component, but for the one that ends it, are expected as long as there is
a component to serve. -/
theorem expects_eq_isSome {command : Command} (about : command ≠ .getPackageData)
    (going_on : command ≠ .applyComplete) :
    session.expects command = session.servedPosition?.isSome := by
  unfold expects servedPosition?
  cases session.state with
  | updatingComponent position =>
    cases session.awaits .updateComponent <;> simp [about, going_on]
  | _ => simp [about]

theorem expects_of_served (command : Command) {position : Nat} (about : command ≠ .getPackageData)
    (going_on : command ≠ .applyComplete) (served : session.servedPosition? = some position) :
    session.expects command = true := by
  rw [expects_eq_isSome about going_on, served]
  rfl

theorem expects_applyComplete :
    session.expects .applyComplete = true ↔
      ∃ position, session.state = .awaitingComponentOutcome position := by
  unfold expects
  cases session.state <;> simp

/-- A request about a component is served if there is one to serve. -/
theorem disposes_component {command : Command} {serve : Nat → Disposition}
    (type : request.pldmType = firmwareUpdateType)
    (known : Command.served? request.command = some command)
    (about : command ≠ .getPackageData) (going_on : command ≠ .applyComplete)
    (serves : ∀ position, session.servedPosition? = some position →
      session.Disposes request (serve position)) :
    session.Disposes request (session.disposeComponent serve) := by
  unfold disposeComponent
  split
  · rename_i position served
    exact serves position served
  · rename_i none_served
    refine .unexpected type known ?_
    rw [expects_eq_isSome about going_on, none_served]
    rfl

theorem disposes (inProgress : session.state.isInProgress = true) :
    session.Disposes request (session.dispose request) := by
  unfold dispose
  by_cases type : request.pldmType = firmwareUpdateType
  · rw [if_neg fun other => other type]
    cases known : Command.ofCode? request.command with
    | none =>
      refine .unsupported type (List.find?_eq_none.mpr fun command _ => ?_)
      exact List.find?_eq_none.mp known command (Command.mem_all command)
    | some command =>
      have code := (Command.code_eq_of_ofCode? known).symm
      cases command with
      | getPackageData =>
        dsimp only
        rw [if_pos inProgress]
        exact .packageData type (code ▸ rfl)
      | requestFirmwareData =>
        have known : Command.served? request.command = some .requestFirmwareData := code ▸ rfl
        exact disposes_component type known (by decide) (by decide) fun _ =>
          .firmwareData type known
      | transferComplete =>
        have known : Command.served? request.command = some .transferComplete := code ▸ rfl
        exact disposes_component type known (by decide) (by decide) fun _ =>
          .transferComplete type known
      | verifyComplete =>
        have known : Command.served? request.command = some .verifyComplete := code ▸ rfl
        exact disposes_component type known (by decide) (by decide) fun _ =>
          .verifyComplete type known
      | applyComplete =>
        have known : Command.served? request.command = some .applyComplete := code ▸ rfl
        dsimp only
        split
        · rename_i position state
          exact .applyComplete type known state
        · rename_i other
          refine .unexpected type known (Bool.eq_false_iff.mpr fun expected => ?_)
          obtain ⟨position, state⟩ := expects_applyComplete.mp expected
          exact other position state
      | _ => exact .unsupported type (code ▸ rfl)
  · rw [if_pos type]
    exact .otherType type

/-! ## Every answer is the one that is due -/

theorem objection?_of_expects {command : Command} (type : request.pldmType = firmwareUpdateType)
    (known : Command.served? request.command = some command)
    (expected : session.expects command = true) :
    session.objection? request = command.bodyObjection? request.payload := by
  rw [objection?, if_neg fun other => other type, known]
  simp [expected]

/-- What becomes of a request that is refused says the objection to it. -/
theorem Disposes.objection {code : UInt8} (disposes : session.Disposes request (.refuse code)) :
    session.objection? request = some code := by
  cases disposes with
  | otherType other => rw [objection?, if_pos other]
  | unsupported type unknown => rw [objection?, if_neg fun other => other type, unknown]
  | unexpected type known early =>
    rw [objection?, if_neg fun other => other type, known]
    simp [early]

/-- The answer is the one that the request is due. -/
def AnswersDue (context : SessionContext) (session : Session) (request : Request)
    (response : Response) : Prop :=
  ∃ code body, session.Judges context request code body ∧ response = request.respond code body

theorem AnswersDue.refused {code : UInt8} (objection : session.objection? request = some code) :
    session.AnswersDue context request (request.refuse code) :=
  ⟨code, [], .refused objection, rfl⟩

/-- The only fault of a body of fixed width is answered. -/
theorem AnswersDue.unreadable {α : Type} [Body α] {width : Nat} {command : Command}
    {error : WireError} (fixed : (Body.codec : Codec α).HasWidth width)
    (due : session.objection? request = command.bodyObjection? request.payload)
    (about : command ≠ .getPackageData)
    (reads : command.readsRequest request.payload = (Body.decode α request.payload).isOk)
    (failed : Body.decode α request.payload = .error error) :
    session.AnswersDue context request (request.refuse error.completionCode) := by
  refine .refused ?_
  rw [Body.completionCode_of_hasWidth fixed failed, due, Command.bodyObjection?, reads, failed]
  simp [Except.isOk, Except.toBool, about]

/-- A body that can be read leaves nothing to object to. -/
theorem objection?_eq_none {α : Type} [Body α] {command : Command} {body : α}
    (due : session.objection? request = command.bodyObjection? request.payload)
    (reads : command.readsRequest request.payload = (Body.decode α request.payload).isOk)
    (decoded : Body.decode α request.payload = .ok body) : session.objection? request = none := by
  rw [due, Command.bodyObjection?, reads, decoded]
  rfl

theorem answersDue_acknowledge {α : Type} [Body α] {width : Nat} {command : Command}
    (fixed : (Body.codec : Codec α).HasWidth width)
    (known : Command.served? request.command = some command)
    (due : session.objection? request = command.bodyObjection? request.payload)
    (report : command ∈ [Command.transferComplete, .verifyComplete, .applyComplete])
    (reads : command.readsRequest request.payload = (Body.decode α request.payload).isOk) :
    session.AnswersDue context request (acknowledge α request) := by
  unfold acknowledge
  split
  · rename_i body decoded
    exact ⟨CompletionCode.success, [], .served (objection?_eq_none due reads decoded) known
      (.acknowledged report), rfl⟩
  · rename_i error failed
    have about : command ≠ .getPackageData := by
      rintro rfl
      simp at report
    exact .unreadable fixed due about reads failed

end Session

namespace PackageDataPart

variable {length : Nat} {pull : GetPackageDataRequest} {error : UpdateError}

theorem exists_of_startOf_eq_error (refused : startOf length pull = .error error) :
    ∃ code, error = refusal pull code := by
  unfold startOf at refused
  split at refused
  · cases refused
  · dsimp only at refused
    split at refused
    · cases refused
      exact ⟨_, rfl⟩
    · cases refused

/-- A part is refused with a completion code. -/
theorem exists_of_plan_eq_error {maximum : UInt32}
    (refused : plan length pull maximum = .error error) : ∃ code, error = refusal pull code := by
  simp only [plan, throw, throwThe, MonadExceptOf.throw, bind, Except.bind, pure,
    Except.pure] at refused
  split at refused
  · cases refused
    exact ⟨_, rfl⟩
  cases start : startOf length pull with
  | error fault =>
    rw [start] at refused
    cases refused
    exact exists_of_startOf_eq_error start
  | ok first =>
    rw [start] at refused
    dsimp only at refused
    split at refused
    · cases refused
    split at refused
    · cases refused
    · cases refused
      exact ⟨_, rfl⟩

end PackageDataPart

namespace Session

variable {context : SessionContext} {session : Session} {request : Request} {now : Instant}

theorem answersDue_servePackageData
    (known : Command.served? request.command = some .getPackageData)
    (due : session.objection? request =
      Command.getPackageData.bodyObjection? request.payload) :
    session.AnswersDue context request (session.servePackageData context request) := by
  unfold servePackageData
  cases decoded : Body.decode GetPackageDataRequest request.payload with
  | error error =>
    dsimp only
    have unread : Command.getPackageData.readsRequest request.payload = false := by
      rw [Command.readsRequest, decoded]
      rfl
    rcases GetPackageDataRequest.fault_of_decode decoded with
      ⟨unknown, value, rfl⟩ | ⟨operation, ⟨field, needed, available, rfl⟩ | ⟨message, count, rfl⟩⟩
    · refine .refused ?_
      rw [due, Command.bodyObjection?, unread, unknown]
      rfl
    · refine .refused ?_
      rw [due, Command.bodyObjection?, unread, operation]
      rfl
    · refine .refused ?_
      rw [due, Command.bodyObjection?, unread, operation]
      rfl
  | ok pull =>
    have faultless : session.objection? request = none := objection?_eq_none due rfl decoded
    dsimp only
    split
    · rename_i error refused
      obtain ⟨code, rfl⟩ := PackageDataPart.exists_of_plan_eq_error refused
      exact ⟨code, [], .served faultless known (.partRefused decoded refused), rfl⟩
    · rename_i part planned
      obtain ⟨body, encoded⟩ : ∃ body, Body.encode (⟨part.nextHandle, part.transferFlag,
          (session.record.packageData.extract part.start part.stop).toList⟩ :
            GetPackageDataResponse) = .ok body := ⟨_, rfl⟩
      rw [encoded]
      exact ⟨CompletionCode.success, body, .served faultless known (.part decoded planned encoded),
        rfl⟩

/-- The reply is the one that the request is due, or the source breaks down at it. -/
def IsDue (context : SessionContext) (session : Session) (request : Request) : Reply → Prop
  | .ready response | .reading response => session.AnswersDue context request response
  | .crash => session.BreaksAt context request

theorem isDue_serveFirmwareData {position : Nat} {index : ComponentIndex}
    {component : ComponentImage}
    (known : Command.served? request.command = some .requestFirmwareData)
    (due : session.objection? request =
      Command.requestFirmwareData.bodyObjection? request.payload)
    (served : session.servedPosition? = some position)
    (found : session.componentAt? context position = some (index, component)) :
    session.IsDue context request (session.serveFirmwareData context position request) := by
  unfold serveFirmwareData
  cases decoded : Body.decode RequestFirmwareDataRequest request.payload with
  | error error =>
    exact AnswersDue.unreadable Body.requestFirmwareDataRequest_hasWidth due (by decide) rfl decoded
  | ok pull =>
    have faultless : session.objection? request = none := objection?_eq_none due rfl decoded
    dsimp only
    rw [found]
    dsimp only
    rcases FirmwareDataWindow.plan_cases component.size context.config.baselineTransferSize
        context.config.maxTransferSize pull with
      ⟨_, refused⟩ | ⟨_, ⟨_, refused⟩ | ⟨_, window, planned, _⟩⟩
    · rw [refused]
      exact ⟨_, [], .served faultless known (.windowRefused decoded served found refused), rfl⟩
    · rw [refused]
      exact ⟨_, [], .served faultless known (.windowRefused decoded served found refused), rfl⟩
    · rw [planned]
      dsimp only
      have serves {code : UInt8} {body : Bytes}
          (serves : session.Serves context request .requestFirmwareData code body) :
          session.AnswersDue context request (request.respond code body) :=
        ⟨code, body, .served faultless known serves, rfl⟩
      cases read : window.read context.package component with
      | done bytes =>
        have answer := serves (.window decoded served found planned read)
        split <;> exact answer
      | failed error =>
        have answer := serves (.windowUnread decoded served found planned (.inl ⟨error, read⟩))
        split <;> exact answer
      | crashed =>
        split
        · rename_i inline
          rw [Bool.or_eq_true, beq_iff_eq] at inline
          exact ⟨faultless, known, pull, position, index, component, window, decoded, served, found,
            planned, inline, read⟩
        · rename_i offloaded
          rw [Bool.or_eq_true, not_or, Bool.not_eq_true, beq_iff_eq] at offloaded
          exact serves (.windowUnread decoded served found planned (.inr ⟨read, offloaded⟩))

variable (context request) in
/-- Every reply is the one that its request is due. -/
theorem isDue_replyTo (inProgress : session.state.isInProgress = true)
    (placed : ∀ position, session.servedPosition? = some position →
      ∃ index component, session.componentAt? context position = some (index, component)) :
    session.IsDue context request (session.replyTo context request) := by
  have disposes : session.Disposes request (session.dispose request) := session.disposes inProgress
  unfold replyTo
  cases disposed : session.dispose request with
  | refuse code =>
    rw [disposed] at disposes
    exact AnswersDue.refused disposes.objection
  | packageData =>
    rw [disposed] at disposes
    cases disposes with
    | packageData type known =>
      exact answersDue_servePackageData known (objection?_of_expects type known rfl)
  | firmwareData position =>
    rw [disposed] at disposes
    cases disposes with
    | firmwareData type known served =>
      obtain ⟨index, component, found⟩ := placed position served
      have expected := expects_of_served .requestFirmwareData nofun nofun served
      exact isDue_serveFirmwareData known (objection?_of_expects type known expected) served found
  | transferComplete position =>
    rw [disposed] at disposes
    cases disposes with
    | transferComplete type known served =>
      have expected := expects_of_served .transferComplete nofun nofun served
      exact answersDue_acknowledge Body.transferCompleteRequest_hasWidth known
        (objection?_of_expects type known expected) (by decide) rfl
  | verifyComplete position =>
    rw [disposed] at disposes
    cases disposes with
    | verifyComplete type known served =>
      have expected := expects_of_served .verifyComplete nofun nofun served
      exact answersDue_acknowledge Body.verifyCompleteRequest_hasWidth known
        (objection?_of_expects type known expected) (by decide) rfl
  | applyComplete position =>
    rw [disposed] at disposes
    cases disposes with
    | applyComplete type known state =>
      have expected := expects_applyComplete.mpr ⟨position, state⟩
      exact answersDue_acknowledge Body.applyCompleteRequest_hasWidth known
        (objection?_of_expects type known expected) (by decide) rfl

/-- A pull without a fault is served. -/
theorem dispose_of_faultless (inProgress : session.state.isInProgress = true)
    (faultless : session.objection? request = none)
    (command : request.command = Command.requestFirmwareData.code) :
    ∃ position, session.servedPosition? = some position ∧
      session.dispose request = .firmwareData position := by
  have disposes : session.Disposes request (session.dispose request) := session.disposes inProgress
  have pulls : Command.served? request.command = some .requestFirmwareData := by
    rw [command]
    rfl
  cases disposed : session.dispose request with
  | refuse code =>
    rw [disposed] at disposes
    cases faultless.symm.trans disposes.objection
  | firmwareData position =>
    rw [disposed] at disposes
    cases disposes with
    | firmwareData type known served => exact ⟨position, served, rfl⟩
  | packageData | transferComplete | verifyComplete | applyComplete =>
    rw [disposed] at disposes
    cases disposes
    simp_all

/-! ## Signs of life -/

theorem showsLife_iff : session.showsLife request = true ↔
    (∃ position, session.state = .awaitingComponentOutcome position) ∧
      request.pldmType = firmwareUpdateType ∧
        ∃ command, Command.served? request.command = some command ∧ command ≠ .getPackageData := by
  unfold showsLife
  cases session.state <;> simp [Option.any_eq_true]

/-- A request about a component sets the timer anew if the timer runs. -/
theorem rearmedDeadline?_eq {command : Command} (type : request.pldmType = firmwareUpdateType)
    (known : Command.served? request.command = some command) (about : command ≠ .getPackageData) :
    session.rearmedDeadline? context now =
      if session.showsLife request then
        (now.after? context.clockEnd context.config.componentOutcomeTimeout).map some
      else some session.outcomeDeadline := by
  unfold rearmedDeadline? showsLife
  cases session.state <;> simp [type, known, about]

/-- The requests that show that the target is at work, and only they, set the timer anew. -/
theorem deadlineAfter?_eq (inProgress : session.state.isInProgress = true) :
    session.deadlineAfter? context now request =
      if session.showsLife request then
        (now.after? context.clockEnd context.config.componentOutcomeTimeout).map some
      else some session.outcomeDeadline := by
  have disposes : session.Disposes request (session.dispose request) := session.disposes inProgress
  unfold deadlineAfter?
  generalize session.dispose request = disposition at disposes
  cases disposes with
  | otherType other =>
    refine (if_neg fun life => ?_).symm
    exact other (showsLife_iff.mp life).2.1
  | unsupported type unknown =>
    refine (if_neg fun life => ?_).symm
    obtain ⟨_, _, command, known, _⟩ := showsLife_iff.mp life
    cases unknown.symm.trans known
  | unexpected type known early =>
    refine (if_neg fun life => ?_).symm
    obtain ⟨⟨position, state⟩, _⟩ := showsLife_iff.mp life
    simp [expects, state] at early
  | packageData type known =>
    refine (if_neg fun life => ?_).symm
    obtain ⟨_, _, command, known', about⟩ := showsLife_iff.mp life
    exact about (Option.some.inj (known'.symm.trans known))
  | firmwareData type known | transferComplete type known | verifyComplete type known
  | applyComplete type known => exact rearmedDeadline?_eq type known nofun

/-- The deadline after a request that is answered. -/
def Times (context : SessionContext) (session : Session) (now : Instant) (request : Request)
    (deadline : Option Instant) : Prop :=
  if session.showsLife request then
    deadline = now.after? context.clockEnd context.config.componentOutcomeTimeout ∧
      deadline.isSome = true
  else deadline = session.outcomeDeadline

theorem times_of_deadlineAfter? {deadline : Option Instant}
    (inProgress : session.state.isInProgress = true)
    (rearmed : session.deadlineAfter? context now request = some deadline) :
    session.Times context now request deadline := by
  rw [deadlineAfter?_eq inProgress] at rearmed
  unfold Times
  split at rearmed
  · rename_i life
    obtain ⟨moment, shown, rfl⟩ := Option.map_eq_some_iff.mp rearmed
    rw [if_pos life]
    exact ⟨shown.symm, rfl⟩
  · rename_i no_life
    rw [if_neg no_life]
    exact (Option.some.inj rearmed).symm

/-- Only a deadline that the clock cannot show keeps a request from being handled. -/
theorem overruns_of_deadlineAfter? (inProgress : session.state.isInProgress = true)
    (beyond : session.deadlineAfter? context now request = none) :
    session.showsLife request = true ∧
      now.after? context.clockEnd context.config.componentOutcomeTimeout = none := by
  rw [deadlineAfter?_eq inProgress] at beyond
  split at beyond
  · rename_i life
    exact ⟨life, Option.map_eq_none_iff.mp beyond⟩
  · cases beyond

/-! ## Reports that end a component -/

/-- Whether a request is a report that ends the component at work. -/
def endsComponent (session : Session) (request : Request) : Bool :=
  session.objection? request == none && Command.served? request.command == some .applyComplete

variable (request) in
theorem isSome_reported? (inProgress : session.state.isInProgress = true) :
    (session.reported? request).isSome = session.endsComponent request := by
  have disposes : session.Disposes request (session.dispose request) := session.disposes inProgress
  unfold reported? endsComponent
  cases disposed : session.dispose request with
  | refuse code =>
    rw [disposed] at disposes
    rw [disposes.objection]
    rfl
  | packageData | firmwareData | transferComplete | verifyComplete =>
    rw [disposed] at disposes
    cases disposes
    simp [*]
  | applyComplete position =>
    rw [disposed] at disposes
    cases disposes with
    | applyComplete type known state =>
      have due := objection?_of_expects type known (expects_applyComplete.mpr ⟨position, state⟩)
      rw [due, known, Command.bodyObjection?]
      cases decoded : Body.decode ApplyCompleteRequest request.payload <;>
        simp [Command.readsRequest, decoded, Except.isOk, Except.toBool]

end Session

end FirmwareAgent
