import FirmwareAgent.Proofs.Run.Inbound

/-!
# Pulling an image

A pull of image data that a running session serves is answered with the bytes of the image, from
whatever source the package is read.

* `delivers_of_reaction`: the answer to a pull is given, now or once the package has been read.
* `imageData_through`: the answer to any pull that a running session serves, in any history.
-/

namespace FirmwareAgent

variable {context : SessionContext} {moment : Moment} {run : Run} {inbox : List Event}
  {caller : Caller} {request : Request} {turn : Turn} {position : Nat}

namespace Run

/-- A reply is given at once, or once the package has been read. -/
def Delivers (run : Run) (caller : Caller) (response : Response) (step : RunStep) : Prop :=
  step.answers = [(caller, response)] ∧ step.run.reads = run.reads ∨
    step.answers = [] ∧ step.run.reads = run.reads ++ [(caller, response)]

theorem delivers_of_reaction {response : Response}
    (reaction : Reaction context moment.now run.session moment.pool (.inbound caller request) turn)
    (disposed : run.session.dispose request = .firmwareData position)
    (shown : run.session.deadlineAfter? context moment.now request ≠ none)
    (replied : (run.session.replyTo context request).response? = some response) :
    run.Delivers caller response ({ run with inbox := inbox }.settle context moment.now turn) := by
  have unreported : run.session.reported? request = none := by
    rw [Session.reported?, disposed]
  have effects := effects_of_reaction reaction unreported shown
  unfold Delivers
  rw [answers_settle, reads_settle, effects]
  cases reply : run.session.replyTo context request with
  | ready given =>
    cases reply ▸ replied
    exact .inl ⟨rfl, List.append_nil _⟩
  | reading given =>
    cases reply ▸ replied
    exact .inr ⟨rfl, rfl⟩
  | crash => cases reply ▸ replied

end Run

/-- A pull that a running session serves: the component that is pulled is there, and if its image
lies within the package, the pull has one answer, the same from every source that supplies the
image. A source may be in memory or in a file, or be any other of which nothing is known outside the
image. -/
theorem imageData_through (context : SessionContext) (record : DeviceRecord)
    (moments : List Moment) (moment : Moment) (caller : Caller) (request : Request)
    (inbox : List Event) (pull : RequestFirmwareDataRequest)
    (handled : (History.through context record moments).run.next? moment.now moment.action =
      some (.inbound caller request, inbox))
    (faultless : (History.through context record moments).run.session.objection? request = none)
    (command : request.command = Command.requestFirmwareData.code)
    (decoded : Body.decode RequestFirmwareDataRequest request.payload = .ok pull) :
    let run := (History.through context record moments).run
    ∃ position index component, run.session.servedPosition? = some position ∧
      run.session.componentAt? context position = some (index, component) ∧
      ∀ bytes : Array UInt8, component.LiesIn bytes →
        ∃ response, AnswersPull context.config component bytes pull request response ∧
          (∀ source : PackageSource, source.Holds bytes component →
            (run.session.replyTo { context with package := source } request).response? =
              some response) ∧
          (context.package.Holds bytes component →
            (run.session.showsLife request = true →
              (moment.now.after? context.clockEnd
                context.config.componentOutcomeTimeout).isSome = true) →
            run.Delivers caller response (run.meet context moment)) := by
  intro run
  have sound : run.Sound := (sound_through context record moments).1
  have checked := checked_through context record moments
  change run.next? _ _ = _ at handled
  change run.session.objection? _ = _ at faultless
  change run.status = _ → run.session.checkRecord _ = _ at checked
  clear_value run
  have running := (Run.next?_eq_some.mp handled).1
  obtain ⟨inRange, driven⟩ := sound.driven running
  obtain ⟨position, served, disposed⟩ :=
    Session.dispose_of_faultless driven.inProgress faultless command
  obtain ⟨index, component, found⟩ :=
    Run.placed_of_checkRecord inRange (checked running) position served
  refine ⟨position, index, component, served, found, fun bytes within => ?_⟩
  obtain ⟨response, answers, same⟩ :=
    Session.response?_serveFirmwareData decoded found within
  have replied (source : PackageSource) (holds : source.Holds bytes component) :
      (run.session.replyTo { context with package := source } request).response? =
        some response := by
    rw [Session.replyTo, disposed]
    exact same source holds
  refine ⟨response, answers, replied, fun holds shown => ?_⟩
  obtain ⟨turn, reaction, met⟩ := Run.meet_inbound context driven.live handled
  rw [met]
  refine Run.delivers_of_reaction reaction disposed (fun beyond => ?_)
    (replied context.package holds)
  obtain ⟨life, unshown⟩ := Session.overruns_of_deadlineAfter? driven.inProgress beyond
  have still_shown := shown life
  rw [unshown] at still_shown
  cases still_shown

/-- A pull that reaches past the end of the image, before UpdateComponent is answered. -/
def pulledAhead : Request :=
  ⟨Header.instanceIdOf 7, firmwareUpdateType, Command.requestFirmwareData.code,
    [32, 0, 0, 0, 32, 0, 0, 0]⟩

/-- A package of 41 bytes, each of which tells its position. -/
def numbered : Array UInt8 :=
  ((List.range 41).map UInt8.ofNat).toArray

theorem imageData_pulledAhead :
    (overtakenRun (.file numbered) pulledAhead).next? 0 .handle =
        some (.inbound (.handle 0) pulledAhead, []) ∧
      (overtakenRun (.file numbered) pulledAhead).session.objection? pulledAhead = none ∧
      Body.decode RequestFirmwareDataRequest pulledAhead.payload = .ok ⟨32, 32⟩ ∧
      ∃ response, (overtakenRun (.file numbered) pulledAhead).Delivers (.handle 0) response
          ((overtakenRun (.file numbered) pulledAhead).meet (oneComponent (.file numbered))
            (.of .handle)) ∧
        response.completionCode = CompletionCode.success ∧
        response.body = [33, 34, 35, 36, 37, 38, 39, 40] ++ List.replicate 24 0 := by
  have handled : (overtakenRun (.file numbered) pulledAhead).next? 0 .handle =
      some (.inbound (.handle 0) pulledAhead, []) := rfl
  have faultless : (overtakenRun (.file numbered) pulledAhead).session.objection? pulledAhead =
      none := by decide +kernel
  have decoded :
      Body.decode RequestFirmwareDataRequest pulledAhead.payload = .ok ⟨32, 32⟩ := rfl
  have served : (overtakenRun (.file numbered) pulledAhead).session.servedPosition? = some 0 := by
    decide +kernel
  have found : (overtakenRun (.file numbered) pulledAhead).session.componentAt?
      (oneComponent (.file numbered)) 0 = some (0, ⟨10, 1, 2, 0, 0, 40, 1, "1.0"⟩) := by
    decide +kernel
  obtain ⟨position, index, component, served', found', answered⟩ :=
    imageData_through (oneComponent (.file numbered)) ⟨9, #[0], #[], "set"⟩ (overtaken pulledAhead)
      (.of .handle) (.handle 0) pulledAhead [] ⟨32, 32⟩ handled faultless rfl decoded
  obtain rfl : 0 = position := Option.some.inj (served.symm.trans served')
  obtain ⟨rfl, rfl⟩ := Prod.mk.inj (Option.some.inj (found.symm.trans found'))
  obtain ⟨response, answers, _, delivers⟩ := answered numbered ⟨by decide +kernel, by decide +kernel⟩
  have success : response.completionCode = CompletionCode.success :=
    answers.succeeds.mpr (by decide)
  refine ⟨handled, faultless, decoded, response, delivers .file fun _ => by decide, success, ?_⟩
  rw [(answers.served success).1]
  decide +kernel

end FirmwareAgent
