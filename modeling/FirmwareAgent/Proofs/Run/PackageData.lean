import FirmwareAgent.Proofs.Run.Inbound
import FirmwareAgent.Proofs.Session.PackageData
import FirmwareAgent.Proofs.Wire.Inverse

/-!
# Pulling package data

A pull of package data that a running session serves is answered at once, and what is answered is
the part that the pull asks for. RequestUpdate tells the length of the data in 16 bits, so a session
whose update is in progress has no data behind the reach of a handle.

* `size_packageData_through`: how long the data of a session is whose update is in progress.
* `packageData_through`: a whole transfer, the pulls that are refused, and the answer to any pull
  that a running session serves, in any history.
-/

namespace FirmwareAgent

/-! ## The length of the data -/

/-- What RequestUpdate tells of the data fits into its field. -/
theorem Session.CanStart.size_packageData {context : SessionContext} {session : Session}
    (can : session.CanStart context) : session.record.packageData.size < UInt16.size := by
  obtain ⟨draft, drafted⟩ := can.drafted
  obtain ⟨body, counted, _⟩ := Session.updateDraft_eq_ok drafted
  obtain ⟨components, _, counted⟩ := bind_eq_ok.mp counted
  obtain ⟨length, length_eq, _⟩ := bind_eq_ok.mp counted
  rw [← toNat_of_countField length_eq]
  exact length.toNat_lt

theorem size_packageData_through (context : SessionContext) (record : DeviceRecord)
    (moments : List Moment)
    (inProgress :
      (History.through context record moments).run.session.state.isInProgress = true) :
    record.packageData.size < UInt16.size := by
  have can := canStart_through context record moments inProgress
  rw [← (sound_through context record moments).2]
  exact can.size_packageData

/-! ## Answers -/

/-- A response answers a pull of package data with the part that is pulled. -/
structure AnswersPart (config : UpdateConfig) (data : Array UInt8) (pull : GetPackageDataRequest)
    (request : Request) (response : Response) : Prop where
  echoes : response = request.respond response.completionCode response.body
  noData : response.completionCode = CompletionCode.noPackageData ↔ data.size = 0
  invalidHandle : response.completionCode = CompletionCode.invalidTransferHandle ↔
    0 < data.size ∧ PackageDataPart.Lost data.size pull
  succeeds : response.completionCode = CompletionCode.success ↔
    0 < data.size ∧ ¬ PackageDataPart.Lost data.size pull
  refused : response.completionCode ≠ CompletionCode.success → response.body = []
  served : response.completionCode = CompletionCode.success →
    ∃ part, PackageDataPart.plan data.size pull config.maxTransferSize = .ok part ∧
      Body.decode GetPackageDataResponse response.body =
        .ok ⟨part.nextHandle, part.transferFlag, (data.extract part.start part.stop).toList⟩

namespace AnswersPart

variable {config : UpdateConfig} {data : Array UInt8} {pull : GetPackageDataRequest}
  {request : Request}

theorem of_noData (empty : data.size = 0) :
    AnswersPart config data pull request (request.refuse CompletionCode.noPackageData) where
  echoes := rfl
  noData := iff_of_true rfl empty
  invalidHandle := iff_of_false nofun fun found => Nat.ne_of_gt found.1 empty
  succeeds := iff_of_false nofun fun found => Nat.ne_of_gt found.1 empty
  refused _ := rfl
  served := nofun

theorem of_invalidHandle (nonempty : 0 < data.size) (lost : PackageDataPart.Lost data.size pull) :
    AnswersPart config data pull request (request.refuse CompletionCode.invalidTransferHandle) where
  echoes := rfl
  noData := iff_of_false nofun (Nat.ne_of_gt nonempty)
  invalidHandle := iff_of_true rfl ⟨nonempty, lost⟩
  succeeds := iff_of_false nofun fun found => found.2 lost
  refused _ := rfl
  served := nofun

theorem of_part {part : PackageDataPart} {body : Bytes}
    (planned : PackageDataPart.plan data.size pull config.maxTransferSize = .ok part)
    (read : Body.decode GetPackageDataResponse body =
      .ok ⟨part.nextHandle, part.transferFlag, (data.extract part.start part.stop).toList⟩) :
    AnswersPart config data pull request (request.respond CompletionCode.success body) := by
  have nonempty : 0 < data.size := by
    refine Nat.pos_of_ne_zero fun empty => ?_
    rw [empty, PackageDataPart.plan_empty] at planned
    cases planned
  have found : ¬ PackageDataPart.Lost data.size pull := fun lost => by
    rw [PackageDataPart.plan_lost nonempty lost] at planned
    cases planned
  exact {
    echoes := rfl
    noData := iff_of_false nofun (Nat.ne_of_gt nonempty)
    invalidHandle := iff_of_false nofun fun lost => found lost.2
    succeeds := iff_of_true rfl ⟨nonempty, found⟩
    refused := fun failure => absurd rfl failure
    served := fun _ => ⟨part, planned, read⟩ }

end AnswersPart

section

variable {context : SessionContext} {session : Session} {request : Request}
  {pull : GetPackageDataRequest}

/-- An answer that carries package data is always written, and the target reads what was meant. -/
theorem encode_packageDataResponse (response : GetPackageDataResponse) :
    ∃ body, Body.encode response = .ok body ∧
      Body.decode GetPackageDataResponse body = .ok response :=
  getPackageDataResponse_closes.written _ rfl

variable (context) in
/-- Data that a handle can reach into is refused for the two reasons that there are, and otherwise
the part that is planned is what the target reads. -/
theorem answersPart_servePackageData
    (reach : session.record.packageData.size ≤ UInt32.size)
    (decoded : Body.decode GetPackageDataRequest request.payload = .ok pull) :
    AnswersPart context.config session.record.packageData pull request
      (session.servePackageData context request) := by
  unfold Session.servePackageData
  rw [decoded]
  dsimp only
  cases planned : PackageDataPart.plan session.record.packageData.size pull
      context.config.maxTransferSize with
  | error error =>
    obtain ⟨empty, rfl⟩ | ⟨nonempty, lost, rfl⟩ :=
      PackageDataPart.refused_of_plan_eq_error reach planned
    · exact .of_noData empty
    · exact .of_invalidHandle nonempty lost
  | ok part =>
    obtain ⟨body, encoded, read⟩ := encode_packageDataResponse ⟨part.nextHandle, part.transferFlag,
      (session.record.packageData.extract part.start part.stop).toList⟩
    dsimp only
    rw [encoded]
    exact .of_part planned read

theorem dispose_packageData (inProgress : session.state.isInProgress = true)
    (type : request.pldmType = firmwareUpdateType)
    (command : request.command = Command.getPackageData.code) :
    session.dispose request = .packageData := by
  have known : Command.ofCode? request.command = some .getPackageData := by
    rw [command]
    rfl
  rw [Session.dispose, if_neg fun other => other type, known]
  exact if_pos inProgress

end

/-! ## Transfers and answers -/

/-- A running session that handles a pull of package data answers it at once. -/
theorem Run.answers_packageData {context : SessionContext} {moment : Moment} {run : Run}
    {inbox : List Event} {caller : Caller} {request : Request} (driven : run.Driven)
    (handled : run.next? moment.now moment.action = some (.inbound caller request, inbox))
    (disposed : run.session.dispose request = .packageData) :
    (run.meet context moment).answers =
      [(caller, run.session.servePackageData context request)] := by
  obtain ⟨turn, reaction, met⟩ := meet_inbound context driven.live handled
  have unreported : run.session.reported? request = none := by
    rw [Session.reported?, disposed]
  have shown : run.session.deadlineAfter? context moment.now request ≠ none := by
    rw [Session.deadlineAfter?, disposed]
    exact Option.some_ne_none _
  have replied : run.session.replyTo context request =
      .ready (run.session.servePackageData context request) := by
    rw [Session.replyTo, disposed]
  rw [met, answers_settle, effects_of_reaction reaction unreported shown, replied]
  rfl

/-- A transfer of package data, however it starts, comes to its end, and its parts make up the data.
A session whose update is in progress has data short enough for that, and it answers every pull with
the part that is planned for it. -/
theorem packageData_through :
    (∀ (data : Array UInt8) (maximum handle : UInt32), 0 < data.size → data.size ≤ UInt32.size →
      0 < maximum →
        ∃ parts, (∀ pulled, PackageDataPart.Transfer data.size maximum ⟨handle, .getFirstPart⟩
            pulled ↔ pulled = parts) ∧
          PackageDataPart.Reassembles data maximum.toNat parts) ∧
    (∀ (request : GetPackageDataRequest) (maximum : UInt32),
      PackageDataPart.plan 0 request maximum =
        .error (PackageDataPart.refusal request CompletionCode.noPackageData)) ∧
    (∀ (length : Nat) (request : GetPackageDataRequest) (maximum : UInt32), 0 < length →
      PackageDataPart.Lost length request →
        PackageDataPart.plan length request maximum =
          .error (PackageDataPart.refusal request CompletionCode.invalidTransferHandle)) ∧
    ∀ (context : SessionContext) (record : DeviceRecord) (moments : List Moment),
      let run := (History.through context record moments).run
      (run.session.state.isInProgress = true → record.packageData.size ≤ 65535) ∧
        ∀ (moment : Moment) (caller : Caller) (request : Request) (inbox : List Event)
            (pull : GetPackageDataRequest),
          run.next? moment.now moment.action = some (.inbound caller request, inbox) →
          request.pldmType = firmwareUpdateType →
          request.command = Command.getPackageData.code →
          Body.decode GetPackageDataRequest request.payload = .ok pull →
            ∃ response, (run.meet context moment).answers = [(caller, response)] ∧
              AnswersPart context.config record.packageData pull request response := by
  refine ⟨fun data maximum handle nonempty reach positive => ?transfer,
    fun request maximum => PackageDataPart.plan_empty,
    fun length request maximum nonempty lost => PackageDataPart.plan_lost nonempty lost,
    fun context record moments => ⟨fun inProgress => ?size, ?answers⟩⟩
  case transfer =>
    exact ⟨PackageDataPart.partsOf data.size maximum.toNat,
      PackageDataPart.transfer_iff reach nonempty positive handle,
      PackageDataPart.reassembles_partsOf reach positive⟩
  case size =>
    exact Nat.le_of_lt_succ (size_packageData_through context record moments inProgress)
  case answers =>
    intro moment caller request inbox pull handled type command decoded
    obtain ⟨sound, record_eq⟩ := sound_through context record moments
    have driven := (sound.driven (Run.next?_eq_some.mp handled).1).2
    have size := size_packageData_through context record moments driven.inProgress
    have reach : record.packageData.size ≤ UInt32.size := Nat.le_of_lt (Nat.lt_trans size (by decide))
    have disposed := dispose_packageData driven.inProgress type command
    refine ⟨_, Run.answers_packageData driven handled disposed, ?_⟩
    rw [← congrArg DeviceRecord.packageData record_eq] at reach
    have answers := answersPart_servePackageData context reach decoded
    rwa [record_eq] at answers

/-- Ten bytes of package data, for an agent that serves four of them at a time. -/
def tenBytes : Array UInt8 := #[0, 1, 2, 3, 4, 5, 6, 7, 8, 9]

def fourAtATime : SessionContext :=
  { oneComponent (.memory #[]) with config := { maxTransferSize := 4 } }

/-- A pull of the last part, as the second one announces it. -/
def lastPartPull : Request :=
  ⟨Header.instanceIdOf 7, firmwareUpdateType, Command.getPackageData.code, [8, 0, 0, 0, 0]⟩

/-- The update that has just started when the last part is pulled. -/
def pulledEarly : List Moment :=
  [.begin, .inbound (.handle 0) lastPartPull].map .of

theorem packageData_inThreeParts :
    (∀ pulled, PackageDataPart.Transfer 10 4 ⟨77, .getFirstPart⟩ pulled ↔
        pulled = [⟨0, 4, .start, 4⟩, ⟨4, 8, .middle, 8⟩, ⟨8, 10, .finish, 0⟩]) ∧
      PackageDataPart.plan 10 ⟨10, .getNextPart⟩ 4 =
        .error (.protocolRange CompletionCode.invalidTransferHandle 10 0) ∧
      ∃ response,
        ((History.through fourAtATime ⟨9, #[0], tenBytes, "set"⟩ pulledEarly).run.meet fourAtATime
          (.of .handle)).answers = [(.handle 0, response)] ∧
        response.completionCode = CompletionCode.success ∧
        Body.decode GetPackageDataResponse response.body = .ok ⟨0, .finish, [8, 9]⟩ := by
  obtain ⟨transfers, _, lost, serves⟩ := packageData_through
  obtain ⟨parts, transfer, _⟩ := transfers tenBytes 4 77 (by decide) (by decide) (by decide)
  have pulled : PackageDataPart.Transfer 10 4 ⟨77, .getFirstPart⟩
      [⟨0, 4, .start, 4⟩, ⟨4, 8, .middle, 8⟩, ⟨8, 10, .finish, 0⟩] :=
    .more rfl (by decide) (.more rfl (by decide) (.last rfl rfl))
  obtain ⟨_, answered⟩ := serves fourAtATime ⟨9, #[0], tenBytes, "set"⟩ pulledEarly
  obtain ⟨response, answers, part⟩ :=
    answered (.of .handle) (.handle 0) lastPartPull [] ⟨8, .getNextPart⟩ rfl rfl rfl rfl
  have success : response.completionCode = CompletionCode.success :=
    part.succeeds.mpr ⟨by decide, by decide⟩
  obtain ⟨last, planned, read⟩ := part.served success
  obtain rfl : ⟨8, 10, .finish, 0⟩ = last := Except.ok.inj planned
  refine ⟨?_, lost 10 ⟨10, .getNextPart⟩ 4 (by decide) ⟨rfl, .inr (by decide)⟩, response, answers,
    success, read⟩
  rw [(transfer _).mp pulled]
  exact transfer

end FirmwareAgent
