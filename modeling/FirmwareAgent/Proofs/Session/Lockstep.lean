import FirmwareAgent.Proofs.Session.Reaction

/-!
# Two sessions in lockstep

Two sessions that differ only in the lease of their pending command handle an event in the same
way, step by step, even if their pools differ and one of them sends CancelUpdate where the other
does not. `Lockstep` says what a relation between turns has to respect for that: the few operations
that a turn is made of. What it relates is left open.

* `Lockstep.handle` and `Lockstep.start`: a relation that respects the operations is kept by every
  turn in which both sessions reply the same to a target.
* `Lockstep.handle_of_package_eq`: they do so if they read the same package.
-/

namespace FirmwareAgent

/-! ## What sessions have in common -/

/-- What a session knows of its pending command, its lease apart. -/
def PendingCommand.facts (pending : PendingCommand) : Nat × Command :=
  (pending.token, pending.command)

/-- Two sessions are the same but for the lease of the pending command. -/
structure Session.Alike (session other : Session) : Prop where
  rest : other = { session with pending := other.pending }
  slot : other.pending.map PendingCommand.facts = session.pending.map PendingCommand.facts

/-- The agent decides the same in both contexts, but for what it does when an update fails and for
what it reads from the package. -/
structure SessionContext.Alike (context other : SessionContext) : Prop where
  config : other.config =
    { context.config with cancelOnFailure := other.config.cancelOnFailure }
  components : other.components = context.components
  clockEnd : other.clockEnd = context.clockEnd

theorem SessionContext.Alike.outcomeDeadline {context other : SessionContext}
    (same : context.Alike other) (now : Instant) :
    now.after? other.clockEnd other.config.componentOutcomeTimeout =
      now.after? context.clockEnd context.config.componentOutcomeTimeout := by
  rw [same.config, same.clockEnd]

namespace Session.Alike

theorem refl (session : Session) : session.Alike session :=
  ⟨rfl, rfl⟩

variable {session other : Session} (alike : session.Alike other)

include alike

theorem record : other.record = session.record := by rw [alike.rest]

theorem state : other.state = session.state := by rw [alike.rest]

theorem endpoint : other.endpoint = session.endpoint := by
  simp only [Session.endpoint, alike.record]

theorem componentIndex (position : Nat) :
    other.componentIndex position = session.componentIndex position := by
  simp only [Session.componentIndex, alike.record]

theorem awaits (command : Command) : other.awaits command = session.awaits command := by
  have facts (slot : Option PendingCommand) : slot.any (·.command == command) =
      (slot.map PendingCommand.facts).any (·.2 == command) := by
    cases slot <;> rfl
  rw [Session.awaits, Session.awaits, facts, facts, alike.slot]

theorem dispose (request : Request) : other.dispose request = session.dispose request := by
  have served : other.servedPosition? = session.servedPosition? := by
    simp only [Session.servedPosition?, alike.state, alike.awaits]
  simp only [Session.dispose, Session.disposeComponent, alike.state, served]

variable {context context' : SessionContext} (same : context.Alike context')

include same

theorem checkRecord : other.checkRecord context' = session.checkRecord context := by
  simp only [Session.checkRecord, alike.record, alike.endpoint, same.components]

theorem componentAt? (position : Nat) :
    other.componentAt? context' position = session.componentAt? context position := by
  simp only [Session.componentAt?, alike.record, same.components]

/-- The same command is due. -/
theorem nextDraft? : other.nextDraft? context' = session.nextDraft? context := by
  have identity (position : Nat) : other.componentIdentity context' position =
      session.componentIdentity context position := by
    simp only [Session.componentIdentity, alike.componentAt? same, same.components]
  simp only [Session.nextDraft?, Session.updateDraft, Session.tableDraft, Session.componentDraft,
    alike.state, alike.record, identity]
  rw [same.config]

/-- A target's request has the same reply if the package is the same. -/
theorem replyTo (package : context'.package = context.package) (request : Request) :
    other.replyTo context' request = session.replyTo context request := by
  simp only [Session.replyTo, alike.dispose, Session.serveFirmwareData, Session.servePackageData,
    alike.componentAt? same, alike.record, package]
  rw [same.config]

end Session.Alike

/-! ## What a relation has to respect -/

/-- A change of a session that neither reads nor moves its pending command, and leaves it with its
device. -/
structure Session.IsInternal (change : Session → Session) : Prop where
  pending : ∀ session pending, change { session with pending := pending } =
    { change session with pending := pending }
  record : ∀ session, (change session).record = session.record

/-- Whether an effect puts nothing under way. -/
def Effect.IsLocal : Effect → Prop
  | .submit .. | .submitCancel .. => False
  | _ => True

/-- The operations of a turn respect a relation between turns: `before` is kept until an instance id
is acquired or the update is given up, and `after` holds from then on. -/
structure Lockstep (context context' : SessionContext) (now : Instant)
    (before after : Turn → Turn → Prop) : Prop where
  alike : ∀ {turn turn'}, before turn turn' → turn.session.Alike turn'.session
  weaken : ∀ {turn turn'}, before turn turn' → after turn turn'
  change : ∀ {turn turn'} (change : Session → Session), Session.IsInternal change →
    before turn turn' → before { turn with session := change turn.session }
      { turn' with session := change turn'.session }
  emit : ∀ {turn turn'} (effect : Effect), effect.IsLocal → before turn turn' →
    before (turn.emit effect) (turn'.emit effect)
  dropPending : ∀ {turn turn'}, before turn turn' → before turn.dropPending turn'.dropPending
  fail : ∀ {turn turn'} reason, before turn turn' →
    after (turn.fail context now reason) (turn'.fail context' now reason)
  submit : ∀ {turn turn'} draft, before turn turn' →
    after (turn.submit context now draft) (turn'.submit context' now draft)

namespace Lockstep

variable {context context' : SessionContext} {now : Instant} {before after : Turn → Turn → Prop}
  (lockstep : Lockstep context context' now before after) (same : context.Alike context')
  {turn turn' : Turn} (related : before turn turn')

include lockstep related

/-! ## Steps of an update -/

theorem enter (state : SessionState) : before (turn.enter state) (turn'.enter state) :=
  lockstep.change (fun session => { session with state := state, outcomeDeadline := none })
    ⟨fun _ _ => rfl, fun _ => rfl⟩ related

theorem enterThenProceed (state : SessionState) :
    before (turn.enterThenProceed state) (turn'.enterThenProceed state) :=
  lockstep.emit .scheduleProceed trivial (lockstep.enter related state)

theorem finishComponent (position : Nat) (success : Bool) :
    before (turn.finishComponent position success) (turn'.finishComponent position success) := by
  have alike := lockstep.alike related
  simp only [Turn.finishComponent, Turn.advanceComponent, Turn.emit, alike.componentIndex,
    alike.endpoint, alike.record]
  refine lockstep.enterThenProceed (lockstep.emit (.notify _) trivial related) _

theorem withBody {α : Type} [Body α] (bytes : Bytes) {next next' : α → Turn}
    (follow : ∀ body, after (next body) (next' body)) :
    after (turn.withBody context now bytes next) (turn'.withBody context' now bytes next') := by
  unfold Turn.withBody
  split
  · exact follow _
  · exact lockstep.fail _ related

include same

theorem issueStep : after (turn.issueStep context now) (turn'.issueStep context' now) := by
  unfold Turn.issueStep
  rw [(lockstep.alike related).nextDraft? same]
  split
  · exact lockstep.weaken related
  · exact lockstep.fail _ related
  · exact lockstep.submit _ related

theorem awaitOutcome (position : Nat) :
    before (turn.awaitOutcome context now position) (turn'.awaitOutcome context' now position) := by
  unfold Turn.awaitOutcome
  rw [same.outcomeDeadline]
  split
  · exact lockstep.emit (.crash none) trivial related
  · rename_i deadline _
    exact lockstep.change (fun session => { session with
      state := .awaitingComponentOutcome position, outcomeDeadline := some deadline })
      ⟨fun _ _ => rfl, fun _ => rfl⟩ related

theorem acceptBody (command : Command) (bytes : Bytes) :
    after (turn.acceptBody context now command bytes)
      (turn'.acceptBody context' now command bytes) := by
  have alike := lockstep.alike related
  unfold Turn.acceptBody
  rw [alike.state]
  split
  · refine lockstep.withBody related bytes fun _ => ?_
    exact lockstep.weaken (lockstep.enterThenProceed related _)
  · refine lockstep.withBody related bytes fun _ => ?_
    rw [alike.record]
    exact lockstep.weaken (lockstep.enterThenProceed related _)
  · refine lockstep.withBody related bytes fun _ => ?_
    split
    · exact lockstep.weaken (lockstep.awaitOutcome same related _)
    · exact lockstep.weaken (lockstep.finishComponent related _ _)
  · refine lockstep.withBody related bytes fun _ => ?_
    rw [alike.endpoint]
    exact lockstep.weaken (lockstep.emit (.notify _) trivial (lockstep.enter related _))
  · exact lockstep.fail _ related

theorem acceptResponse (command : Command) (response : Response) :
    after (turn.acceptResponse context now command response)
      (turn'.acceptResponse context' now command response) := by
  unfold Turn.acceptResponse
  split
  · exact lockstep.fail _ related
  split
  · exact lockstep.fail _ related
  split
  · have informed := lockstep.change (fun session => { session with inUpdateMode := true })
      ⟨fun _ _ => rfl, fun _ => rfl⟩ related
    exact lockstep.acceptBody same informed command _
  · exact lockstep.acceptBody same related command _

theorem onResponse (token : Nat) (outcome : Except UpdateError Response) :
    after (turn.onResponse context now token outcome)
      (turn'.onResponse context' now token outcome) := by
  have slot := (lockstep.alike related).slot
  unfold Turn.onResponse
  cases pending : turn.session.pending with
  | none =>
    have free : turn'.session.pending = none := by simpa [pending] using slot
    rw [free]
    exact lockstep.weaken related
  | some own =>
    obtain ⟨other, pending', facts⟩ :
        ∃ other, turn'.session.pending = some other ∧ other.facts = own.facts := by
      simpa [pending] using slot
    obtain ⟨token_eq, command_eq⟩ := Prod.mk.inj facts
    rw [pending']
    dsimp only
    rw [token_eq, command_eq]
    split
    · have dropped := lockstep.dropPending related
      split
      · exact lockstep.fail _ dropped
      · exact lockstep.acceptResponse same dropped _ _
    · exact lockstep.weaken related

omit same

/-! ## Requests of the target -/

theorem reply (caller : Caller) (request : Request) (reply : Reply) :
    before (turn.reply caller request reply) (turn'.reply caller request reply) := by
  cases reply with
  | ready response => exact lockstep.emit (.answer caller response) trivial related
  | reading response => exact lockstep.emit (.answerLater caller response) trivial related
  | crash => exact lockstep.emit (.crash _) trivial related

theorem onApplyComplete (caller : Caller) (request : Request) (position : Nat) :
    before (turn.onApplyComplete caller request position)
      (turn'.onApplyComplete caller request position) := by
  unfold Turn.onApplyComplete
  refine lockstep.reply ?_ caller request _
  split
  · exact lockstep.finishComponent related _ _
  · exact related

include same

theorem serveComponent (caller : Caller) (request : Request) {serve serve' : Turn → Turn}
    (served : ∀ {turn turn'}, before turn turn' → before (serve turn) (serve' turn')) :
    before (turn.serveComponent context now caller request serve)
      (turn'.serveComponent context' now caller request serve') := by
  unfold Turn.serveComponent Turn.rearm?
  rw [(lockstep.alike related).state, same.outcomeDeadline]
  split
  · rename_i served_turn rearmed
    split at rearmed
    · obtain ⟨deadline, shown, rfl⟩ := Option.map_eq_some_iff.mp rearmed
      rw [shown]
      exact served (lockstep.change (fun session => { session with
        outcomeDeadline := some deadline }) ⟨fun _ _ => rfl, fun _ => rfl⟩ related)
    · obtain rfl := Option.some.inj rearmed
      exact served related
  · rename_i beyond
    split at beyond
    · rw [Option.map_eq_none_iff.mp beyond]
      exact lockstep.reply related caller request .crash
    · cases beyond

theorem onInbound (caller : Caller) (request : Request)
    (replied : turn'.session.replyTo context' request = turn.session.replyTo context request) :
    before (turn.onInbound context now caller request)
      (turn'.onInbound context' now caller request) := by
  unfold Session.replyTo at replied
  unfold Turn.onInbound
  rw [(lockstep.alike related).dispose request] at replied ⊢
  split
  · exact lockstep.reply related caller request _
  · rename_i disposed
    simp only [disposed] at replied
    rw [replied]
    exact lockstep.reply related caller request _
  · rename_i position disposed
    simp only [disposed] at replied
    rw [replied]
    exact lockstep.serveComponent same related caller request fun served =>
      lockstep.reply served caller request _
  · exact lockstep.serveComponent same related caller request fun served =>
      lockstep.reply served caller request _
  · exact lockstep.serveComponent same related caller request fun served =>
      lockstep.reply served caller request _
  · exact lockstep.serveComponent same related caller request fun served =>
      lockstep.onApplyComplete served caller request _

/-! ## Whole turns -/

theorem handle (event : Event)
    (replied : ∀ caller request, event = .inbound caller request →
      turn'.session.replyTo context' request = turn.session.replyTo context request) :
    after (turn.handle context now event) (turn'.handle context' now event) := by
  have alike := lockstep.alike related
  cases event with
  | proceed => exact lockstep.issueStep same related
  | response token outcome => exact lockstep.onResponse same related token outcome
  | inbound caller request =>
    exact lockstep.weaken
      (lockstep.onInbound same related caller request (replied caller request rfl))
  | outcomeTimeout =>
    simp only [Turn.handle, alike.state, alike.componentIndex]
    split
    · exact lockstep.fail _ related
    · exact lockstep.weaken related
  | cancel => exact lockstep.fail _ related

theorem handle_of_package_eq (package : context'.package = context.package) (event : Event) :
    after (turn.handle context now event) (turn'.handle context' now event) :=
  lockstep.handle same related event fun _ request _ =>
    (lockstep.alike related).replyTo same package request

theorem start : after (turn.start context now) (turn'.start context' now) := by
  unfold Turn.start
  rw [(lockstep.alike related).checkRecord same]
  split
  · exact lockstep.fail _ related
  · exact lockstep.issueStep same (lockstep.enter related _)

end Lockstep

end FirmwareAgent
