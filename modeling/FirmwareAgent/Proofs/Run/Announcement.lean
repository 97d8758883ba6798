import FirmwareAgent.Proofs.Run.CommandOrder
import FirmwareAgent.Proofs.Run.ImageData
import FirmwareAgent.Proofs.Run.Notifications
import Mathlib.Data.List.Induction

/-!
# Image data and the announced component

A target that is sent the image of another component than the one it was told of would install it.
So a pull is served only from the component that UpdateComponent announced last, and only as long as
the target has neither turned it down nor been heard to be done with it. What a pull is answered
with is settled when it is handled, however late the package is read.

* `Heeds` is the invariant on the last request and on the outcomes that the session has handled,
  `Reaction.heeds` its step.
* `served_of_replyTo`: what a successful answer to a pull was taken from.
* `announcement_through`: the result.
-/

namespace FirmwareAgent

/-! ## Service as it is seen from outside -/

/-- The session has handled an outcome for the exchange with the token. -/
def History.Handles (history : History) (token : Nat) (outcome : Except UpdateError Response) :
    Prop :=
  ∃ entry ∈ history.entries, ∃ inbox,
    entry.run.next? entry.moment.now entry.moment.action = some (.response token outcome, inbox)

/-- The outcome of UpdateComponent is an answer by which the target takes the component. -/
def TakesComponent (outcome : Except UpdateError Response) : Prop :=
  ∃ response body, outcome = .ok response ∧ response.Grants .updateComponent ∧
    Body.decode UpdateComponentResponse response.body = .ok body ∧ body.isCompatible = true

/-- Bytes are the part of a component's image that a pull asks for: what the package holds at that
place, and zeros behind the end of the image. -/
structure ComponentImage.Sends (component : ComponentImage) (package : PackageSource)
    (pull : RequestFirmwareDataRequest) (bytes : Bytes) : Prop where
  /-- The part starts in the image, or right at its end. -/
  start : pull.offset.toNat ≤ component.size.toNat
  supplied : ∃ found, package.readAt (component.packageOffset.toNat + pull.offset.toNat)
      (min pull.length.toNat (component.size.toNat - pull.offset.toNat)) = .done found ∧
    bytes = found ++
      List.replicate (pull.length.toNat - (component.size.toNat - pull.offset.toNat)) 0

/-- An answer sends image data. -/
def SendsImage (answer : Caller × Response) : Prop :=
  answer.2.command = Command.requestFirmwareData.code ∧ answer.2.isSuccess = true

/-- The answer to a pull that a run handles at a moment of its history, while the component is
announced whose bytes it sends. They are its bytes unless its place in the package and the offset
of the pull add up to more than a 64-bit number. -/
inductive ServesAnnounced (context : SessionContext) (record : DeviceRecord) (history : History)
    (moment : Moment) : Caller × Response → Prop
  | intro {caller : Caller} {request : Request} {inbox : List Event}
      {pull : RequestFirmwareDataRequest} {position token : Nat} {index : ComponentIndex}
      {component : ComponentImage} {window : FirmwareDataWindow} {bytes : Bytes}
      {announcement : Exchange} {outcomes : List (ComponentIndex × Bool)}
      (handled : history.run.next? moment.now moment.action =
        some (.inbound caller request, inbox))
      (decoded : Body.decode RequestFirmwareDataRequest request.payload = .ok pull)
      (listed : record.applicableComponents[position]? = some index)
      (stored : context.components.get? index = some component)
      (planned : FirmwareDataWindow.plan component.size pull context.config.baselineTransferSize
        context.config.maxTransferSize = .ok window)
      (read : window.read context.package component = .done bytes)
      (own : component.packageOffset.toNat + pull.offset.toNat < UInt64.size →
        component.Sends context.package pull bytes)
      (state : history.run.session.state = .awaitingComponentOutcome position ∨
        history.run.session.state = .updatingComponent position ∧
          ∃ lease, history.run.session.pending = some ⟨token, .updateComponent, lease⟩)
      (last : (history.sent.filter (·.command == .updateComponent)).getLast? = some announcement)
      (announces : (PlannedStep.updateComponent position).SentBy context record announcement)
      (carries : announcement.token = some token)
      (taken : ∀ outcome, history.Handles token outcome → TakesComponent outcome)
      (told : history.notifications =
        outcomes.map fun outcome => .applied record.endpoint outcome.1 outcome.2)
      (earlier : outcomes.map Prod.fst = record.applicableComponents.toList.take position) :
      ServesAnnounced context record history moment
        (caller, request.respond CompletionCode.success bytes)

/-- An answer goes back to a pull that was handled at one of the moments while its component was
announced. -/
def TracesBack (context : SessionContext) (record : DeviceRecord) (moments : List Moment)
    (answer : Caller × Response) : Prop :=
  ∃ earlier moment later, moments = earlier ++ moment :: later ∧
    ServesAnnounced context record (History.through context record earlier) moment answer

/-! ## The last request and its outcome -/

/-- The request that was sent last has the token. -/
def LastToken (sent : List Exchange) (token : Nat) : Prop :=
  ∃ exchange, sent.getLast? = some exchange ∧ exchange.token = some token

/-- What a session knows of the outcomes that it has handled, and of the last request. -/
structure Heeds (handled : Nat → Except UpdateError Response → Prop) (sent : List Exchange)
    (session : Session) : Prop where
  /-- Tokens are not used twice. -/
  spent : ∀ token outcome, handled token outcome → token < session.nextToken
  /-- The pending command was sent last, and nothing has come of it yet. -/
  slot : ∀ pending, session.pending = some pending → pending.token < session.nextToken ∧
    LastToken sent pending.token ∧ ∀ outcome, ¬ handled pending.token outcome
  /-- The target is at work on a component only if it has taken it. -/
  atWork : ∀ position, session.state = .awaitingComponentOutcome position →
    ∃ token, LastToken sent token ∧ ∀ outcome, handled token outcome → TakesComponent outcome

/-- The outcomes that have been handled once an event has been, too. -/
def HandledAfter (handled : Nat → Except UpdateError Response → Prop) (event : Event) (token : Nat)
    (outcome : Except UpdateError Response) : Prop :=
  handled token outcome ∨ event = .response token outcome

section

variable {context : SessionContext} {now : Instant} {session after : Session}
  {pool : InstanceIdPool} {event : Event} {turn : Turn} {sent more : List Exchange}
  {handled : Nat → Except UpdateError Response → Prop}

theorem Heeds.of_eq (heeds : Heeds handled sent session) (pending : after.pending = session.pending)
    (nextToken : after.nextToken = session.nextToken) (state : after.state = session.state) :
    Heeds handled sent after where
  spent := by rw [nextToken]; exact heeds.spent
  slot := by rw [pending, nextToken]; exact heeds.slot
  atWork := by rw [state]; exact heeds.atWork

/-- An event that is no outcome leaves the handled ones as they are. -/
theorem Heeds.handledAfter (heeds : Heeds handled sent session)
    (other : ∀ token outcome, event ≠ .response token outcome) :
    Heeds (HandledAfter handled event) sent session := by
  have same : HandledAfter handled event = handled := by
    funext token outcome
    simp [HandledAfter, other token outcome]
  rwa [same]

/-- A session without a pending command that does not leave a component to the target has only its
tokens to heed. -/
theorem Heeds.free (spent : ∀ token outcome, handled token outcome → token < after.nextToken)
    (free : after.pending = none)
    (elsewhere : ∀ position, after.state ≠ .awaitingComponentOutcome position) :
    Heeds handled sent after where
  spent := spent
  slot := by
    rw [free]
    nofun
  atWork := fun position state => absurd state (elsewhere position)

/-- The outcome of the pending command uses its token up. -/
theorem Heeds.spent_after (heeds : Heeds handled sent session)
    (awaited : ∀ token outcome, event = .response token outcome →
      ∃ pending, session.Awaits token pending)
    (token : Nat) (outcome : Except UpdateError Response)
    (after : HandledAfter handled event token outcome) : token < session.nextToken := by
  rcases after with before | arrived
  · exact heeds.spent token outcome before
  · obtain ⟨pending, slot, rfl⟩ := awaited token outcome arrived
    exact (heeds.slot pending slot).1

/-- Handling an event keeps what a session knows of its last request and its outcome. -/
theorem Reaction.heeds (reaction : Reaction context now session pool event turn)
    (heeds : Heeds handled sent session) (live : session.state.isTerminal = false)
    (awaited : ∀ token outcome, event = .response token outcome →
      ∃ pending, session.Awaits token pending) :
    Heeds (HandledAfter handled event)
      (sent ++ turn.effects.filterMap (Effect.exchange? context now)) turn.session := by
  have spent := heeds.spent_after awaited
  cases reaction with
  | ignored idle =>
    rw [List.filterMap_nil, List.append_nil]
    refine heeds.handledAfter fun token outcome arrived => ?_
    obtain ⟨pending, own⟩ := awaited token outcome arrived
    subst arrived
    exact idle pending own
  | failed cause =>
    rw [Turn.session_fail _ _ _ _ live]
    exact .free spent rfl nofun
  | @submitted draft lease lent due acquired =>
    have elsewhere := SessionState.not_atWork_of_command? (Session.command?_of_nextDraft? due)
    refine ⟨fun token outcome after => Nat.lt_succ_of_lt (spent token outcome after), ?_,
      fun position state => absurd state (elsewhere position)⟩
    rintro pending ⟨⟩
    refine ⟨Nat.lt_succ_self _, ⟨_, List.getLast?_concat, rfl⟩, fun outcome after => ?_⟩
    exact Nat.lt_irrefl _ (spent _ outcome after)
  | acknowledged own_slot own granted next_eq =>
    obtain ⟨command, next_own, _⟩ := SessionState.command?_of_acknowledged? next_eq
    exact .free spent rfl (SessionState.not_atWork_of_command? next_own)
  | @accepted _ pending response position body deadline own state command granted decoded
      compatible =>
    rw [List.filterMap_nil, List.append_nil]
    refine ⟨spent, nofun, fun _ _ => ?_⟩
    obtain ⟨_, last, unhandled⟩ := heeds.slot pending own.slot
    refine ⟨pending.token, last, fun outcome after => ?_⟩
    rcases after with before | arrived
    · exact absurd before (unhandled outcome)
    · obtain ⟨_, rfl⟩ := Event.response.inj arrived
      exact ⟨response, body, rfl, command ▸ granted, decoded, compatible⟩
  | untimed own state =>
    refine .free spent rfl fun position other => ?_
    cases state.symm.trans other
  | declined =>
    obtain ⟨command, next_own, _⟩ := SessionState.command?_afterComponent
      session.record.componentCount
    exact .free spent rfl (SessionState.not_atWork_of_command? next_own)
  | activated => exact .free spent rfl nofun
  | answered | deferred | brokeDown | overran =>
    rw [show List.filterMap (Effect.exchange? context now) _ = [] from rfl, List.append_nil]
    exact (heeds.handledAfter (by rintro _ _ ⟨⟩)).of_eq rfl rfl rfl
  | @finished caller request =>
    obtain ⟨command, next_own, _⟩ := SessionState.command?_afterComponent
      session.record.componentCount
    rw [show List.filterMap (Effect.exchange? context now) _ = [] from rfl, List.append_nil]
    have kept : Heeds (HandledAfter handled (.inbound caller request)) sent session :=
      heeds.handledAfter (by rintro _ _ ⟨⟩)
    exact ⟨kept.spent, kept.slot, fun position state =>
      absurd state (SessionState.not_atWork_of_command? next_own position)⟩

/-- A session that breaks down forgets its pending command. -/
theorem Heeds.settle {run : Run} (running : run.status = .running) (orderly : turn.IsOrderly)
    (heeds : Heeds handled sent turn.session) :
    Heeds handled sent (run.settle context now turn).run.session := by
  rcases orderly with calm | ⟨asked, crash⟩
  · rwa [(Run.settle_calm context now running calm).1]
  · rw [(Run.settle_crash context now run crash).1]
    exact ⟨heeds.spent, nofun, heeds.atWork⟩

end

/-! ## What an answer is taken from -/

section

variable {context : SessionContext} {session : Session} {request : Request} {response : Response}
  {position : Nat}

theorem WireError.completionCode_ne_success (error : WireError) :
    error.completionCode ≠ CompletionCode.success := by
  intro success
  cases error <;> cases success

/-- What is read for a pull is its part of the image, unless the position wraps around. -/
theorem FirmwareDataWindow.sends_of_read {component : ComponentImage} {package : PackageSource}
    {baseline maximum : UInt32} {pull : RequestFirmwareDataRequest} {window : FirmwareDataWindow}
    {bytes : Bytes} (planned : plan component.size pull baseline maximum = .ok window)
    (read : window.read package component = .done bytes)
    (small : component.packageOffset.toNat + pull.offset.toNat < UInt64.size) :
    component.Sends package pull bytes := by
  have fits := fits_of_plan planned
  obtain ⟨found, supplied, rfl⟩ := exists_of_read_eq_done read
  have start := fits.start
  have total := fits.total
  have pad := fits.pad
  rw [toNat_position (fits.offset ▸ small), fits.offset] at supplied
  have read_length : window.readLength.toNat =
      min pull.length.toNat (component.size.toNat - pull.offset.toNat) := by omega
  have pad_length : window.padLength.toNat =
      pull.length.toNat - (component.size.toNat - pull.offset.toNat) := by omega
  exact ⟨start, found, read_length ▸ supplied, by rw [pad_length]⟩

/-- A pull of image data that is answered with success is answered with what was read for it. -/
theorem Session.served_of_serveFirmwareData
    (replied : (session.serveFirmwareData context position request).response? = some response)
    (succeeds : response.isSuccess = true) :
    ∃ pull index component window bytes,
      Body.decode RequestFirmwareDataRequest request.payload = .ok pull ∧
      session.componentAt? context position = some (index, component) ∧
      FirmwareDataWindow.plan component.size pull context.config.baselineTransferSize
        context.config.maxTransferSize = .ok window ∧
      window.read context.package component = .done bytes ∧
      response = request.respond CompletionCode.success bytes := by
  have refused (code : UInt8) (failure : code ≠ CompletionCode.success)
      (refused : some (request.refuse code) = some response) : False := by
    rw [← Option.some.inj refused] at succeeds
    exact failure (by simpa [Response.isSuccess, Request.refuse, Request.respond] using succeeds)
  unfold serveFirmwareData at replied
  cases decoded : Body.decode RequestFirmwareDataRequest request.payload with
  | error error =>
    rw [decoded] at replied
    exact (refused _ error.completionCode_ne_success replied).elim
  | ok pull =>
    rw [decoded] at replied
    dsimp only at replied
    cases found : session.componentAt? context position with
    | none =>
      rw [found] at replied
      exact (refused CompletionCode.error (by decide) replied).elim
    | some placed =>
      obtain ⟨index, component⟩ := placed
      rw [found] at replied
      dsimp only at replied
      rcases FirmwareDataWindow.plan_cases component.size context.config.baselineTransferSize
          context.config.maxTransferSize pull with
        ⟨_, rejected⟩ | ⟨_, ⟨_, rejected⟩ | ⟨_, window, planned, _⟩⟩
      · rw [rejected] at replied
        exact (refused CompletionCode.invalidTransferLength (by decide) replied).elim
      · rw [rejected] at replied
        exact (refused CompletionCode.dataOutOfRange (by decide) replied).elim
      · rw [planned] at replied
        dsimp only at replied
        cases reading : window.read context.package component with
        | done bytes =>
          refine ⟨pull, index, component, window, bytes, rfl, rfl, planned, reading, ?_⟩
          rw [reading] at replied
          split at replied <;> exact (Option.some.inj replied).symm
        | failed error =>
          rw [reading] at replied
          split at replied <;> exact (refused CompletionCode.error (by decide) replied).elim
        | crashed =>
          rw [reading] at replied
          split at replied
          · cases replied
          · exact (refused CompletionCode.error (by decide) replied).elim

/-- The same holds of every request that is answered as a pull. -/
theorem Session.served_of_replyTo (inProgress : session.state.isInProgress = true)
    (replied : (session.replyTo context request).response? = some response)
    (command : response.command = Command.requestFirmwareData.code)
    (succeeds : response.isSuccess = true) :
    ∃ position pull index component window bytes,
      session.servedPosition? = some position ∧
      Body.decode RequestFirmwareDataRequest request.payload = .ok pull ∧
      session.componentAt? context position = some (index, component) ∧
      FirmwareDataWindow.plan component.size pull context.config.baselineTransferSize
        context.config.maxTransferSize = .ok window ∧
      window.read context.package component = .done bytes ∧
      response = request.respond CompletionCode.success bytes := by
  have asked : Command.served? request.command = some .requestFirmwareData := by
    rw [← command_of_replyTo replied, command]
    rfl
  have disposes : session.Disposes request (session.dispose request) := session.disposes inProgress
  unfold replyTo at replied
  cases disposed : session.dispose request with
  | refuse code =>
    rw [disposed] at disposes replied
    rw [← Option.some.inj replied] at succeeds
    cases disposes <;> cases succeeds
  | firmwareData position =>
    rw [disposed] at disposes replied
    cases disposes with
    | firmwareData type known served =>
      exact ⟨position, (served_of_serveFirmwareData replied succeeds).imp fun pull facts =>
        facts.imp fun index facts => facts.imp fun component facts => facts.imp
          fun window facts => facts.imp fun bytes facts => ⟨served, facts⟩⟩
  | packageData | transferComplete | verifyComplete | applyComplete =>
    rw [disposed] at disposes
    cases disposes
    simp_all

end

/-! ## Where an answer comes from -/

section

variable {context : SessionContext} {now : Instant} {pool : InstanceIdPool} {run : Run}
  {moment : Moment} {answer : Caller × Response}

/-- An effect answers, or is going to answer once the package has been read. -/
def Turn.Gives (turn : Turn) (answer : Caller × Response) : Prop :=
  answer ∈ turn.effects.filterMap Effect.answer? ∨ answer ∈ turn.effects.filterMap Effect.read?

theorem not_gives_fail {session : Session} {reason : UpdateError}
    (live : session.state.isTerminal = false) :
    ¬ (Turn.fail context now reason ⟨session, pool, []⟩).Gives answer := by
  obtain ⟨unanswered, unread⟩ := silent_fail context now pool session reason live
  rw [Turn.Gives, unanswered, unread]
  exact not_or.mpr ⟨List.not_mem_nil, List.not_mem_nil⟩

/-- A session answers the request that it handles, and nothing else. -/
theorem Reaction.gives {session : Session} {event : Event} {turn : Turn}
    (reaction : Reaction context now session pool event turn)
    (live : session.state.isTerminal = false) (gives : turn.Gives answer) :
    ∃ caller request response, event = .inbound caller request ∧ answer = (caller, response) ∧
      (session.replyTo context request).response? = some response := by
  cases reaction with
  | failed cause =>
    have informed_live : (session.informed event).state.isTerminal = false := live
    exact (not_gives_fail informed_live gives).elim
  | @answered caller request response deadline rearmed unreported ready =>
    obtain rfl : answer = (caller, response) := by
      simpa [Turn.Gives, Effect.answer?, Effect.read?] using gives
    exact ⟨caller, request, response, rfl, rfl, by rw [ready]; rfl⟩
  | @deferred caller request response deadline rearmed reading =>
    obtain rfl : answer = (caller, response) := by
      simpa [Turn.Gives, Effect.answer?, Effect.read?] using gives
    exact ⟨caller, request, response, rfl, rfl, by rw [reading]; rfl⟩
  | @finished caller request position success state reported =>
    obtain rfl : answer = (caller, request.refuse CompletionCode.success) := by
      simpa [Turn.Gives, Effect.answer?, Effect.read?, eq_comm] using gives
    obtain ⟨disposed, report, decoded, _⟩ := Session.reported?_eq_some reported
    refine ⟨caller, request, _, rfl, rfl, ?_⟩
    simp [Session.replyTo, disposed, Session.acknowledge, decoded, Reply.response?]
  | _ => simp [Turn.Gives, Effect.answer?, Effect.read?] at gives

/-- What a run answers, or is going to answer, it was going to answer before, or it is the answer
to the request that its session handles. -/
theorem given_meet (sound : run.Sound)
    (given : answer ∈ (run.meet context moment).answers ∨
      answer ∈ (run.meet context moment).run.reads) :
    answer ∈ run.reads ∨ ∃ caller request inbox response,
      run.next? moment.now moment.action = some (.inbound caller request, inbox) ∧
      answer = (caller, response) ∧
      (run.session.replyTo context request).response? = some response := by
  obtain ⟨now, pool, action⟩ := moment
  generalize applied : run.meet context ⟨now, pool, action⟩ = step at given
  have change : Run.Change context now pool run action step := applied ▸ Run.change_act sound.live
  have of_turn {before : Run} {turn : Turn}
      (given : answer ∈ (before.settle context now turn).answers ∨
        answer ∈ (before.settle context now turn).run.reads) (reads : before.reads = run.reads) :
      answer ∈ run.reads ∨ turn.Gives answer := by
    rw [Run.answers_settle, Run.reads_settle, reads, List.mem_append] at given
    rcases given with answered | old | reading
    · exact .inr (.inl answered)
    · exact .inl old
    · exact .inr (.inr reading)
  cases change with
  | began waiting =>
    refine (of_turn given rfl).imp_right fun gives => ?_
    have live : run.session.state.isTerminal = false := by
      rw [(sound.fresh waiting).1]
      rfl
    rcases start_cases context now run.session pool with ⟨reason, _, failed⟩ | ⟨_, reaction⟩
    · rw [failed] at gives
      exact (not_gives_fail live gives).elim
    · obtain ⟨_, _, _, asked, _⟩ := reaction.gives rfl gives
      cases asked
  | turned running next reaction =>
    refine (of_turn given rfl).imp_right fun gives => ?_
    obtain ⟨caller, request, response, rfl, answer_eq, replied⟩ :=
      reaction.gives (sound.live running) gives
    exact ⟨caller, request, _, response, next, answer_eq, replied⟩
  | read waits =>
    refine .inl ?_
    rcases given with answered | left
    · obtain rfl : answer = _ := by simpa [RunStep.answers, Occurrence.answer?] using answered
      exact List.mem_of_getElem? waits
    · exact List.mem_of_mem_eraseIdx left
  | _ => exact .inl (given.resolve_left (by simp [RunStep.answers, Occurrence.answer?]))

end

/-! ## The result -/

namespace History

variable {context : SessionContext} {history : History} {moment : Moment}

theorem handles_extend {token : Nat} {outcome : Except UpdateError Response} :
    (history.extend context moment).Handles token outcome ↔ history.Handles token outcome ∨
      ∃ inbox, history.run.next? moment.now moment.action =
        some (.response token outcome, inbox) := by
  simp [Handles, extend, or_and_right, exists_or]

/-- An event that is handled is the last one of the history. -/
theorem handles_of_next? {event : Event} {inbox : List Event}
    (next : history.run.next? moment.now moment.action = some (event, inbox)) :
    (history.extend context moment).Handles = HandledAfter history.Handles event := by
  funext token outcome
  rw [handles_extend, next, HandledAfter]
  simp

theorem handles_of_idle (idle : history.run.next? moment.now moment.action = none) :
    (history.extend context moment).Handles = history.Handles := by
  funext token outcome
  rw [handles_extend, idle]
  simp

variable (context moment) in
/-- Every moment keeps what the session knows of its last request. -/
theorem heeds_extend (sound : history.run.Sound)
    (heeds : Heeds history.Handles history.sent history.run.session) :
    Heeds (history.extend context moment).Handles (history.extend context moment).sent
      (history.extend context moment).run.session := by
  rw [sent_extend, run_extend]
  rcases meet_cases context moment sound with
    ⟨idle, rests⟩ | ⟨idle, waiting, fresh, met⟩ | ⟨event, inbox, turn, next, running, reaction, met⟩
  · rw [handles_of_idle idle, rests.sent, List.append_nil, rests.session]
    exact heeds
  · rw [handles_of_idle idle, met, Run.sent_settle]
    rcases start_cases context moment.now history.run.session moment.pool with
      ⟨reason, _, failed⟩ | ⟨_, reaction⟩
    · have live : history.run.session.state.isTerminal = false := by rw [fresh]; rfl
      rw [failed]
      refine Heeds.settle rfl (.inl (Turn.isCalm_fail live)) ?_
      rw [Turn.session_fail _ _ _ _ live]
      exact .free heeds.spent rfl nofun
    · have started : Heeds history.Handles history.sent
          { history.run.session with state := .awaitingUpdateAck, outcomeDeadline := none } :=
        .free heeds.spent (by rw [fresh]) nofun
      have kept := reaction.heeds started rfl nofun
      have same : HandledAfter history.Handles .proceed = history.Handles := by
        funext token outcome
        simp [HandledAfter]
      rw [same] at kept
      exact kept.settle rfl (reaction.orderly rfl)
  · have still : { history.run with inbox := inbox }.status = .running := running
    have live := sound.live running
    rw [handles_of_next? next, met, Run.sent_settle]
    refine Heeds.settle still (reaction.orderly live) (reaction.heeds heeds live ?_)
    rintro token outcome rfl
    obtain ⟨pending, awaited, _⟩ := (sound.driven_of_next? next).2.response
    exact ⟨pending, awaited⟩

end History

/-- At all times a session knows its last request and the outcomes that it has handled. -/
theorem heeds_through (context : SessionContext) (record : DeviceRecord) (moments : List Moment) :
    let history := History.through context record moments
    Heeds history.Handles history.sent history.run.session := by
  suffices kept : (History.through context record moments).run.Sound ∧
      Heeds (History.through context record moments).Handles
        (History.through context record moments).sent
        (History.through context record moments).run.session from kept.2
  refine History.induct (motive := fun history => history.run.Sound ∧
    Heeds history.Handles history.sent history.run.session) ?_ ?_ moments
  · refine ⟨.waiting rfl rfl rfl rfl, .free ?_ rfl nofun⟩
    rintro token outcome ⟨entry, mem, _⟩
    cases mem
  · rintro history moment ⟨sound, heeds⟩
    exact ⟨sound.act, History.heeds_extend context moment sound heeds⟩

section

variable {context : SessionContext} {record : DeviceRecord} {answer : Caller × Response}

theorem exists_last_of_forall₂ {α β : Type} {related : α → β → Prop} {front : List α} {last : α}
    {values : List β} (carried : List.Forall₂ related (front ++ [last]) values) :
    ∃ others value, values = others ++ [value] ∧ related last value := by
  have reversed := List.rel_reverse carried
  rw [List.reverse_append, List.reverse_singleton, List.singleton_append] at reversed
  obtain ⟨value, others, related_last, _, values_eq⟩ := List.forall₂_cons_left_iff.mp reversed
  refine ⟨others.reverse, value, ?_, related_last⟩
  rw [← List.reverse_reverse values, values_eq, List.reverse_cons]

/-- A run that has announced the component of a position, and nothing since, sent the announcement
last. -/
theorem announced_of_onPlan {run : Run} {sent : List Exchange} {position : Nat}
    (onPlan : run.OnPlan context sent) (taken : run.isOpen = true)
    (steps : run.session.stepsTaken = 1 + run.session.record.componentCount + position + 1)
    (within : position < run.session.record.componentCount) :
    ∃ earlier announcement, sent = earlier ++ [announcement] ∧
      (PlannedStep.updateComponent position).SentBy context run.session.record announcement := by
  have carried := onPlan.upTo taken
  rw [steps, List.take_add_one, plan_updateComponent within] at carried
  exact exists_last_of_forall₂ carried

/-- The component whose pulls are served is the one that was announced last, and the target has not
turned it down. -/
theorem announced_of_served {run : Run} {sent : List Exchange}
    {handled : Nat → Except UpdateError Response → Prop} {position : Nat} (sound : run.Sound)
    (running : run.status = .running) (onPlan : run.OnPlan context sent)
    (heeds : Heeds handled sent run.session)
    (served : run.session.servedPosition? = some position) :
    ∃ announcement token, (sent.filter (·.command == .updateComponent)).getLast? =
        some announcement ∧
      (PlannedStep.updateComponent position).SentBy context run.session.record announcement ∧
      announcement.token = some token ∧
      (∀ outcome, handled token outcome → TakesComponent outcome) ∧
      (run.session.state = .awaitingComponentOutcome position ∨
        run.session.state = .updatingComponent position ∧
          ∃ lease, run.session.pending = some ⟨token, .updateComponent, lease⟩) ∧
      run.session.state.finished run.session.record.componentCount = position := by
  obtain ⟨inRange, driven⟩ := sound.driven running
  have taken : run.isOpen = true := by simp [Run.isOpen, running]
  have last_of_sent {earlier : List Exchange} {announcement : Exchange} {token : Nat}
      (sent_eq : sent = earlier ++ [announcement])
      (announces : (PlannedStep.updateComponent position).SentBy context run.session.record
        announcement) (last : LastToken sent token) :
      (sent.filter (·.command == .updateComponent)).getLast? = some announcement ∧
        announcement.token = some token := by
    obtain ⟨exchange, last_eq, token_eq⟩ := last
    obtain rfl : announcement = exchange := by
      rw [sent_eq, List.getLast?_concat] at last_eq
      exact Option.some.inj last_eq
    refine ⟨?_, token_eq⟩
    rw [sent_eq, List.filter_append]
    simp [announces.command, PlannedStep.command]
  unfold Session.servedPosition? at served
  split at served
  · rename_i other state
    obtain rfl := Option.some.inj served
    have within := inRange.position other (by rw [state]; rfl)
    have free : run.session.pending = none := by
      cases driven with
      | due own | underWay slot own =>
        exact absurd state (SessionState.not_atWork_of_command? own other)
      | withTarget _ free => exact free
    have steps : run.session.stepsTaken = 1 + run.session.record.componentCount + other + 1 := by
      simp [Session.stepsTaken, state, free, SessionState.place]
    obtain ⟨earlier, announcement, sent_eq, announces⟩ :=
      announced_of_onPlan onPlan taken steps within
    obtain ⟨token, last, outcomes⟩ := heeds.atWork other state
    obtain ⟨last_eq, token_eq⟩ := last_of_sent sent_eq announces last
    exact ⟨announcement, token, last_eq, announces, token_eq, outcomes, .inl state,
      by rw [state]; rfl⟩
  · rename_i other state
    split at served
    · rename_i awaits
      obtain rfl := Option.some.inj served
      have within := inRange.position other (by rw [state]; rfl)
      obtain ⟨⟨token, command, lease⟩, slot, asks⟩ := (Option.any_eq_true _ _).mp awaits
      obtain rfl : command = .updateComponent := eq_of_beq asks
      have steps : run.session.stepsTaken = 1 + run.session.record.componentCount + other + 1 := by
        simp [Session.stepsTaken, state, slot, SessionState.place]
      obtain ⟨earlier, announcement, sent_eq, announces⟩ :=
        announced_of_onPlan onPlan taken steps within
      obtain ⟨_, last, unhandled⟩ := heeds.slot _ slot
      obtain ⟨last_eq, token_eq⟩ := last_of_sent sent_eq announces last
      exact ⟨announcement, token, last_eq, announces, token_eq,
        fun outcome handled => absurd handled (unhandled outcome), .inr ⟨state, lease, slot⟩,
        by rw [state]; rfl⟩
    · cases served
  · cases served

variable (context record) in
/-- A pull that is answered with success is served while its component is announced. -/
theorem servesAnnounced_of_replyTo (moments : List Moment) {moment : Moment} {caller : Caller}
    {request : Request} {response : Response} {inbox : List Event}
    (handled : (History.through context record moments).run.next? moment.now moment.action =
      some (.inbound caller request, inbox))
    (replied : ((History.through context record moments).run.session.replyTo context
      request).response? = some response)
    (sends : SendsImage (caller, response)) :
    ServesAnnounced context record (History.through context record moments) moment
      (caller, response) := by
  obtain ⟨sound, onPlan, _⟩ := onPlan_through context record moments
  obtain ⟨_, hasTold, _⟩ := hasTold_through context record moments
  have heeds := heeds_through context record moments
  have record_eq := (sound_through context record moments).2
  generalize History.through context record moments = history at *
  have running := (Run.next?_eq_some.mp handled).1
  have driven := (sound.driven running).2
  have taken : history.run.isOpen = true := by simp [Run.isOpen, running]
  obtain ⟨position, pull, index, component, window, bytes, served, decoded, found, planned, read,
    rfl⟩ := Session.served_of_replyTo driven.inProgress replied sends.1 sends.2
  obtain ⟨announcement, token, last, announces, carries, outcomes, state, finished⟩ :=
    announced_of_served sound running onPlan heeds served
  obtain ⟨told, told_eq, _, _, upTo⟩ := hasTold
  obtain ⟨listed, stored⟩ := Session.componentAt?_eq_some.mp found
  rw [SessionState.closing_of_live driven.live, List.append_nil] at told_eq
  rw [Run.endpoint, Session.endpoint, record_eq] at told_eq
  rw [record_eq] at announces listed finished
  have names := upTo taken
  rw [record_eq, finished] at names
  exact .intro handled decoded listed stored planned read
    (FirmwareDataWindow.sends_of_read planned read) state last announces carries outcomes told_eq
    names

theorem TracesBack.extend {moments : List Moment} (moment : Moment)
    (traces : TracesBack context record moments answer) :
    TracesBack context record (moments ++ [moment]) answer := by
  obtain ⟨earlier, handling, later, rfl, serves⟩ := traces
  exact ⟨earlier, handling, later ++ [moment], by simp, serves⟩

/-- Whatever happens to a run, in whatever order: every answer that sends image data, given or still
waiting for the package, goes back to a pull that was handled while its component was announced. A
read that is finished later gives just the answer that it was started for, whatever has become of
the session. -/
theorem announcement_through (context : SessionContext) (record : DeviceRecord)
    (moments : List Moment) :
    let history := History.through context record moments
    (∀ answer ∈ history.answers ++ history.run.reads, SendsImage answer →
      TracesBack context record moments answer) ∧
    ∀ place read, history.run.reads[place]? = some read → ∀ now pool,
      (history.run.meet context ⟨now, pool, .finishRead place⟩).answers = [read] := by
  refine ⟨?_, fun place read waits now pool => ?_⟩
  · induction moments using List.reverseRecOn with
    | nil => exact fun answer given => nomatch given
    | append_singleton moments moment ih =>
      intro answer given sends
      rw [History.through_concat, History.answers_extend, History.run_extend, List.append_assoc,
        List.mem_append] at given
      rcases given with answered | new
      · exact (ih answer (List.mem_append_left _ answered) sends).extend moment
      rcases given_meet (sound_through context record moments).1 (List.mem_append.mp new) with
        waits | ⟨caller, request, inbox, response, handled, rfl, replied⟩
      · exact (ih answer (List.mem_append_right _ waits) sends).extend moment
      · exact ⟨moments, moment, [], rfl,
          servesAnnounced_of_replyTo context record moments handled replied sends⟩
  · simp [Run.meet, Run.act, waits, RunStep.occur, RunStep.answers, Occurrence.answer?]

end

/-! ## A component out of reach -/

/-- An image that starts at the last position of the 64-bit numbers. -/
def farImage : ComponentImage :=
  ⟨10, 1, 2, 0, 0, 64, 18446744073709551615, "1.0"⟩

/-- A device with that component, and a package that is much too short for it. -/
def farComponent : SessionContext :=
  { oneComponent (.memory numbered) with
    components := { components := #[farImage], classificationIndices := [((10, 1), 0)] } }

/-- A pull from the second byte of the image on. -/
def pulledAround : Request :=
  ⟨Header.instanceIdOf 7, firmwareUpdateType, Command.requestFirmwareData.code,
    [1, 0, 0, 0, 32, 0, 0, 0]⟩

/-- The position of the pull wraps around, and the first bytes of the package are sent, which are
not bytes of the image. -/
theorem misplaced_pulledAround :
    (History.through farComponent ⟨9, #[0], #[], "set"⟩
        (overtaken pulledAround ++ [.of .handle])).answers =
      [(.handle 0, pulledAround.respond CompletionCode.success (numbered.extract 0 32).toList)] ∧
    Body.decode RequestFirmwareDataRequest pulledAround.payload = .ok ⟨1, 32⟩ ∧
    ¬ farImage.Sends (.memory numbered) ⟨1, 32⟩ (numbered.extract 0 32).toList := by
  refine ⟨by decide +kernel, rfl, fun sends => ?_⟩
  obtain ⟨found, supplied, _⟩ := sends.supplied
  have refused : (PackageSource.memory numbered).readAt (farImage.packageOffset.toNat + 1)
      (min 32 (farImage.size.toNat - 1)) = .failed (.pastEnd 32 18446744073709551616 41) := by
    decide +kernel
  cases refused.symm.trans supplied

end FirmwareAgent
