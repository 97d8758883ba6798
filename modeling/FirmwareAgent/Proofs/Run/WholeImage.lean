import FirmwareAgent.Proofs.Run.ImageData
import FirmwareAgent.Proofs.Session.WholeImage
import Mathlib.Data.List.Forall2

/-!
# A target can pull the whole image

The pulls of a target come in between everything else that happens to a run. Those that make up a
series all succeed, wherever in the history the run handles them, and what they are answered with is
the image.

* `answered_of_within`: a pull that a run handles is answered, and the session goes on serving the
  component.
* `wholeImage_through`: the answers to any series of pulls, in any history.
-/

namespace FirmwareAgent

/-- A pull of image data that a run handled. -/
structure HandledPull where
  entry : HistoryEntry
  caller : Caller
  request : Request
  pull : RequestFirmwareDataRequest

namespace HandledPull

/-- It was handled at a moment of a history at which the session served the component at a
position. -/
structure Within (history : History) (position : Nat) (handled : HandledPull) : Prop where
  mem : handled.entry ∈ history.entries
  next : ∃ inbox, handled.entry.run.next? handled.entry.moment.now handled.entry.moment.action =
    some (.inbound handled.caller handled.request, inbox)
  type : handled.request.pldmType = firmwareUpdateType
  command : handled.request.command = Command.requestFirmwareData.code
  decoded : Body.decode RequestFirmwareDataRequest handled.request.payload = .ok handled.pull
  served : handled.entry.run.session.servedPosition? = some position

/-- It is answered with a response. Unless the clock cannot show the deadline that it asks for, the
answer is given and the session goes on serving the component. -/
structure Answered (context : SessionContext) (position : Nat) (handled : HandledPull)
    (response : Response) : Prop where
  replied : (handled.entry.run.session.replyTo context handled.request).response? = some response
  delivered : (handled.entry.run.session.showsLife handled.request = true →
      (handled.entry.moment.now.after? context.clockEnd
        context.config.componentOutcomeTimeout).isSome = true) →
    handled.entry.run.Delivers handled.caller response handled.entry.step ∧
      handled.entry.step.run.status = .running ∧
      handled.entry.step.run.session.servedPosition? = some position

/-- It succeeds with a body. -/
def SucceedsWith (context : SessionContext) (position : Nat) (handled : HandledPull)
    (body : Bytes) : Prop :=
  handled.Answered context position (handled.request.respond CompletionCode.success body)

end HandledPull

section

variable {context : SessionContext} {moment : Moment} {run : Run} {inbox : List Event}
  {caller : Caller} {request : Request} {turn : Turn} {position : Nat}

variable (inbox) in
/-- A run that answers a pull goes on serving the component. -/
theorem Run.serves_on_of_reaction {response : Response} (running : run.status = .running)
    (live : run.session.state.isTerminal = false)
    (reaction : Reaction context moment.now run.session moment.pool (.inbound caller request) turn)
    (disposed : run.session.dispose request = .firmwareData position)
    (shown : run.session.deadlineAfter? context moment.now request ≠ none)
    (replied : (run.session.replyTo context request).response? = some response) :
    let after := ({ run with inbox := inbox }.settle context moment.now turn).run
    after.status = .running ∧ after.session.servedPosition? = run.session.servedPosition? := by
  intro after
  have goes_on (calm : turn.IsCalm)
      (kept : ∃ deadline, turn.session = { run.session with outcomeDeadline := deadline }) :
      after.status = .running ∧ after.session.servedPosition? = run.session.servedPosition? := by
    obtain ⟨deadline, session_eq⟩ := kept
    obtain ⟨continues, _⟩ := Run.settle_continues context moment.now { run with inbox := inbox }
      calm (session_eq ▸ live)
    refine ⟨continues.status.trans running, ?_⟩
    rw [continues.session, session_eq]
    rfl
  cases reaction with
  | ignored idle => exact idle.elim
  | failed cause => cases cause
  | answered rearmed unreported ready =>
    exact goes_on (by simp [Turn.IsCalm, Effect.isCrash]) ⟨_, rfl⟩
  | deferred rearmed reading =>
    exact goes_on (by simp [Turn.IsCalm, Effect.isCrash]) ⟨_, rfl⟩
  | brokeDown rearmed crash => cases crash ▸ replied
  | overran beyond => exact absurd beyond shown
  | finished state reported =>
    rw [Session.reported?, disposed] at reported
    cases reported

end

namespace HandledPull

variable {context : SessionContext} {record : DeviceRecord} {moments : List Moment}
  {position : Nat} {index : ComponentIndex} {component : ComponentImage} {bytes : Array UInt8}
  {handled : HandledPull}

/-- A pull that a run handles is answered, from any source that supplies the image. -/
theorem answered_of_within
    (asked : handled.Within (History.through context record moments) position)
    (listed : record.applicableComponents[position]? = some index)
    (stored : context.components.get? index = some component)
    (inPackage : component.LiesIn bytes)
    (holds : context.package.Holds bytes component) :
    ∃ response, AnswersPull context.config component bytes handled.pull handled.request response ∧
      handled.Answered context position response := by
  obtain ⟨mem, ⟨inbox, next⟩, type, command, decoded, served⟩ := asked
  obtain ⟨earlier, moment, later, _, entry_eq⟩ := History.mem_entries_through.mp mem
  obtain ⟨entry, caller, request, pull⟩ := handled
  dsimp only at entry_eq next type command decoded served ⊢
  obtain rfl := entry_eq
  obtain ⟨sound, record_eq⟩ := sound_through context record earlier
  generalize (History.through context record earlier).run = run at *
  have running := (Run.next?_eq_some.mp next).1
  have driven := (sound.driven running).2
  -- The request is one that the session has nothing to object to.
  have known : Command.served? request.command = some .requestFirmwareData := by
    rw [command]
    rfl
  have expected := Session.expects_of_served .requestFirmwareData nofun nofun served
  have faultless := Session.objection?_eq_none (Session.objection?_of_expects type known expected)
    rfl decoded
  obtain ⟨place, served_at, disposed⟩ :=
    Session.dispose_of_faultless driven.inProgress faultless command
  obtain rfl : place = position := Option.some.inj (served_at.symm.trans served)
  have found : run.session.componentAt? context place = some (index, component) :=
    Session.componentAt?_eq_some.mpr ⟨record_eq ▸ listed, stored⟩
  obtain ⟨response, answers, same⟩ :=
    Session.response?_serveFirmwareData decoded found inPackage
  have replied : (run.session.replyTo context request).response? = some response := by
    rw [Session.replyTo, disposed]
    exact same context.package holds
  refine ⟨response, answers, replied, fun shown => ?_⟩
  obtain ⟨turn, reaction, met⟩ := Run.meet_inbound context driven.live next
  have deadline_shown : run.session.deadlineAfter? context moment.now request ≠ none := by
    intro beyond
    obtain ⟨life, unshown⟩ := Session.overruns_of_deadlineAfter? driven.inProgress beyond
    have still_shown := shown life
    rw [unshown] at still_shown
    cases still_shown
  obtain ⟨status, serves⟩ := Run.serves_on_of_reaction inbox running driven.live reaction disposed
    deadline_shown replied
  rw [met]
  exact ⟨Run.delivers_of_reaction reaction disposed deadline_shown replied, status,
    serves.trans served⟩

end HandledPull

/-- A target can pull the whole image of a component, in pulls of whatever lengths and at whatever
moments of the update. Every pull of a series succeeds, the bodies of the answers make up the image,
and a series that has not come to its end can go on. So does a pull of the baseline at any offset up
to the end of the image. -/
theorem wholeImage_through (context : SessionContext) (record : DeviceRecord)
    (moments : List Moment) (position : Nat) (index : ComponentIndex) (component : ComponentImage)
    (bytes : Array UInt8) (listed : record.applicableComponents[position]? = some index)
    (stored : context.components.get? index = some component)
    (inPackage : component.LiesIn bytes)
    (holds : context.package.Holds bytes component)
    (least : 0 < context.config.baselineTransferSize)
    (ordered : context.config.baselineTransferSize ≤ context.config.maxTransferSize) :
    let history := History.through context record moments
    let baseline := context.config.baselineTransferSize
    let maximum := context.config.maxTransferSize
    (∀ (series : List HandledPull) (reached : Nat),
      (∀ handled ∈ series, handled.Within history position) →
        ImageTransfer.Pulls component.size baseline maximum 0 (series.map (·.pull)) reached →
          ∃ bodies,
            List.Forall₂ (fun handled body => handled.SucceedsWith context position body)
              series bodies ∧
            ImageTransfer.MakesUp component bytes baseline maximum (series.map (·.pull)) reached
              bodies) ∧
    ∀ handled : HandledPull, handled.Within history position →
      handled.pull.offset ≤ component.size → handled.pull.length = baseline →
        handled.SucceedsWith context position
          (component.chunk bytes handled.pull.offset.toNat handled.pull.length.toNat) := by
  intro history baseline maximum
  have succeeds {handled : HandledPull} (asked : handled.Within history position)
      (long : baseline ≤ handled.pull.length) (short : handled.pull.length ≤ maximum)
      (ends : handled.pull.offset.toNat + handled.pull.length.toNat ≤
        component.size.toNat + baseline.toNat) :
      handled.SucceedsWith context position
        (component.chunk bytes handled.pull.offset.toNat handled.pull.length.toNat) := by
    obtain ⟨response, answers, given⟩ :=
      handled.answered_of_within asked listed stored inPackage holds
    obtain rfl := answers.eq_respond long short ends
    exact given
  refine ⟨fun series reached asked pulls => ?series, fun handled asked inside length_eq => ?single⟩
  case series =>
    refine ⟨_, ?_, ImageTransfer.makesUp_of_pulls inPackage.stop least ordered pulls⟩
    rw [List.map_map, List.forall₂_map_right_iff, List.forall₂_same]
    intro handled mem
    obtain ⟨place, found⟩ := List.getElem?_of_mem mem
    have pulled : (series.map (·.pull))[place]? = some handled.pull := by
      rw [List.getElem?_map, found]
      rfl
    obtain ⟨_, _, conforms⟩ := pulls.conforms_of_getElem? pulled
    have ends := conforms.ends_within
    rw [← conforms.starts] at ends
    exact succeeds (asked handled mem) conforms.long conforms.short ends
  case single =>
    have inside : handled.pull.offset.toNat ≤ component.size.toNat := inside
    refine succeeds asked (length_eq ▸ UInt32.le_refl _) (length_eq ▸ ordered) ?_
    rw [length_eq]
    exact Nat.add_le_add_right inside _

/-- An image of 40 bytes that is pulled 32 bytes at a time, with the last pull ahead of the answer
to UpdateComponent. -/
def pulledInTwo : List Moment :=
  overtaken pulledFirst ++ [.handle, .inbound (.handle 1) pulledAhead, .handle].map .of

/-- The pull that is handled after the first moments of that update. -/
def handledAfter (earlier : Nat) (caller : Nat) (request : Request)
    (pull : RequestFirmwareDataRequest) : HandledPull :=
  let run := (History.through (oneComponent (.file numbered)) ⟨9, #[0], #[], "set"⟩
    (pulledInTwo.take earlier)).run
  ⟨⟨run, .of .handle, run.meet (oneComponent (.file numbered)) (.of .handle)⟩, .handle caller,
    request, pull⟩

theorem wholeImage_inTwo :
    let first := handledAfter 8 0 pulledFirst ⟨0, 32⟩
    let last := handledAfter 10 1 pulledAhead ⟨32, 32⟩
    ∃ body rest, first.SucceedsWith (oneComponent (.file numbered)) 0 body ∧
      last.SucceedsWith (oneComponent (.file numbered)) 0 rest ∧
      body.take 32 ++ rest.take 8 = (numbered.extract 1 41).toList := by
  intro first last
  have within : ∀ handled ∈ [first, last], handled.Within (History.through
      (oneComponent (.file numbered)) ⟨9, #[0], #[], "set"⟩ pulledInTwo) 0 := by
    rw [List.forall_mem_cons, List.forall_mem_singleton]
    refine ⟨⟨?_, ⟨[], rfl⟩, rfl, rfl, rfl, by decide +kernel⟩,
      ⟨?_, ⟨[], rfl⟩, rfl, rfl, rfl, by decide +kernel⟩⟩
    · exact History.mem_entries_through.mpr ⟨pulledInTwo.take 8, _, pulledInTwo.drop 9, rfl, rfl⟩
    · exact History.mem_entries_through.mpr ⟨pulledInTwo.take 10, _, [], rfl, rfl⟩
  have pulls : ImageTransfer.Pulls 40 32 4096 0 [⟨0, 32⟩, ⟨32, 32⟩] 64 :=
    .cons ⟨by decide, rfl, by decide, by decide, by decide⟩
      (.cons ⟨by decide, rfl, by decide, by decide, by decide⟩ .nil)
  obtain ⟨bodies, succeed, made⟩ := (wholeImage_through (oneComponent (.file numbered))
    ⟨9, #[0], #[], "set"⟩ pulledInTwo 0 0 ⟨10, 1, 2, 0, 0, 40, 1, "1.0"⟩ numbered rfl rfl
    ⟨by decide +kernel, by decide +kernel⟩ .file (by decide) (by decide)).1 [first, last] 64 within pulls
  obtain ⟨⟩ | ⟨succeeds, ⟨⟩ | ⟨succeeds', ⟨⟩⟩⟩ := succeed
  have whole := made.whole (by decide)
  rw [List.map_cons, List.map_singleton, List.zipWith_cons_cons, List.zipWith_cons_cons,
    List.zipWith_nil_left, List.flatten_cons, List.flatten_singleton] at whole
  exact ⟨_, _, succeeds, succeeds', whole⟩

end FirmwareAgent
