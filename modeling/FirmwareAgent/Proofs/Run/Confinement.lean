import FirmwareAgent.Proofs.Run.ImageData
import FirmwareAgent.Proofs.Session.Lockstep
import Mathlib.Data.List.Induction

/-!
# What a run learns of its package

A run reads nothing of its package but the images of the components that apply to its device. Two
packages that have these images in common, whatever else is in them, are the same to it.

* `PackageSource.IsLocal`: a read depends on nothing but the range it asks for.
* `Session.Addresses`: what is read for a pull is found in the package without wrapping around.
* `read_confined`: the window of a pull is read within the image.
* `confined_through`: the histories of two runs over such packages are the same.
-/

namespace FirmwareAgent

/-! ## Sources and packages -/

/-- A way to open packages whose reads depend on the bytes of the range that is asked for and on the
length of the package, and on nothing else. -/
structure PackageSource.IsLocal (opened : Array UInt8 → PackageSource) : Prop where
  isInMemory : ∀ bytes bytes', bytes'.size = bytes.size →
    (opened bytes').isInMemory = (opened bytes).isInMemory
  readAt : ∀ bytes bytes' offset count, bytes'.size = bytes.size →
    (∀ place, offset ≤ place → place < offset + count → bytes'[place]? = bytes[place]?) →
      (opened bytes').readAt offset count = (opened bytes).readAt offset count

/-- Two packages of one length have the images of a device's components in common. An image need not
lie within the package. -/
structure DeviceRecord.SameImages (record : DeviceRecord) (components : ComponentTable)
    (bytes bytes' : Array UInt8) : Prop where
  size : bytes'.size = bytes.size
  image : ∀ index ∈ record.applicableComponents, ∀ component,
    components.get? index = some component → ∀ place, component.packageOffset.toNat ≤ place →
      place < component.packageEnd → bytes'[place]? = bytes[place]?

/-- What a session reads for a pull is found in the package without wrapping around: within the
image that the target pulls, every position is a 64-bit number. -/
def Session.Addresses (context : SessionContext) (session : Session) (request : Request) : Prop :=
  ∀ position pull index component, session.dispose request = .firmwareData position →
    Body.decode RequestFirmwareDataRequest request.payload = .ok pull →
      session.componentAt? context position = some (index, component) →
        pull.offset.toNat ≤ component.size.toNat →
          component.packageOffset.toNat + pull.offset.toNat < UInt64.size

/-- It is so for every request that the run handles. -/
def History.Addresses (context : SessionContext) (history : History) : Prop :=
  ∀ entry ∈ history.entries, ∀ caller request inbox,
    entry.run.next? entry.moment.now entry.moment.action = some (.inbound caller request, inbox) →
      entry.run.session.Addresses context request

/-- The context of a session that reads a package from a source. -/
def SessionContext.over (context : SessionContext) (source : PackageSource) : SessionContext :=
  { context with package := source }

namespace PackageSource

theorem getElem?_range (bytes : Array UInt8) (offset count place : Nat) :
    (bytes.extract offset (offset + count))[place]? =
      if place < count then bytes[offset + place]? else none := by
  rw [Array.getElem?_extract]
  by_cases inside : place < count
  · rw [if_pos inside]
    by_cases present : offset + place < bytes.size
    · rw [if_pos (by omega)]
    · rw [if_neg (by omega), Array.getElem?_eq_none (Nat.not_lt.mp present)]
  · rw [if_neg inside, if_neg (by omega)]

/-- The bytes of a range are the same if those at each of its places are. -/
theorem extract_congr {bytes bytes' : Array UInt8} {offset count : Nat}
    (same : ∀ place, offset ≤ place → place < offset + count → bytes'[place]? = bytes[place]?) :
    bytes'.extract offset (offset + count) = bytes.extract offset (offset + count) := by
  refine Array.ext_getElem? fun place => ?_
  rw [getElem?_range, getElem?_range]
  by_cases inside : place < count
  · rw [if_pos inside, if_pos inside]
    exact same (offset + place) (by omega) (by omega)
  · rw [if_neg inside, if_neg inside]

theorem memory_isLocal : IsLocal memory where
  isInMemory _ _ _ := rfl
  readAt := by
    intro bytes bytes' offset count size same
    simp only [memory, size, extract_congr same]

theorem file_isLocal : IsLocal file where
  isInMemory _ _ _ := rfl
  readAt := by
    intro bytes bytes' offset count size same
    simp only [file, size, extract_congr same]

end PackageSource

/-! ## Replies -/

section

variable {opened : Array UInt8 → PackageSource} (isLocal : PackageSource.IsLocal opened)
  {context : SessionContext} {session : Session} {bytes bytes' : Array UInt8}

include isLocal

/-- The window of a pull lies in the image, so that nothing else is asked of the package. -/
theorem FirmwareDataWindow.read_confined {component : ComponentImage} {baseline : UInt32}
    {pull : RequestFirmwareDataRequest} {window : FirmwareDataWindow}
    (fits : window.Fits component.size baseline pull)
    (small : component.packageOffset.toNat + pull.offset.toNat < UInt64.size)
    (size : bytes'.size = bytes.size)
    (image : ∀ place, component.packageOffset.toNat ≤ place → place < component.packageEnd →
      bytes'[place]? = bytes[place]?) :
    window.read (opened bytes') component = window.read (opened bytes) component := by
  have inside := fits.inside
  have position_eq := toNat_position (fits.offset ▸ small)
  have supplied : (opened bytes').readAt (window.position component).toNat
      window.readLength.toNat = (opened bytes).readAt
        (window.position component).toNat window.readLength.toNat := by
    refine isLocal.readAt bytes bytes' _ _ size fun place start stop => image place (by omega) ?_
    rw [position_eq, fits.offset] at stop
    rw [ComponentImage.packageEnd]
    omega
  rw [read, read, supplied]

theorem Session.serveFirmwareData_confined
    (same : session.record.SameImages context.components bytes bytes') {position : Nat}
    {request : Request} (addressed : session.Addresses context request)
    (disposed : session.dispose request = .firmwareData position) :
    session.serveFirmwareData (context.over (opened bytes')) position request =
      session.serveFirmwareData (context.over (opened bytes)) position request := by
  -- Which package is open plays no part in where the component is found.
  have found_any (source : PackageSource) :
      session.componentAt? (context.over source) position =
        session.componentAt? context position := rfl
  have inMemory : (opened bytes').isInMemory = (opened bytes).isInMemory :=
    isLocal.isInMemory bytes bytes' same.size
  unfold serveFirmwareData
  rw [found_any, found_any]
  cases decoded : Body.decode RequestFirmwareDataRequest request.payload with
  | error => rfl
  | ok pull =>
    dsimp only
    cases found : session.componentAt? context position with
    | none => rfl
    | some placed =>
      obtain ⟨index, component⟩ := placed
      obtain ⟨applicable, present⟩ := componentAt?_eq_some.mp found
      have image := same.image index (Array.mem_of_getElem? applicable) component present
      dsimp only
      rcases FirmwareDataWindow.plan_cases component.size context.config.baselineTransferSize
          context.config.maxTransferSize pull with
        ⟨_, refused⟩ | ⟨_, ⟨_, refused⟩ | ⟨_, window, planned, fits⟩⟩
      · simp only [SessionContext.over, refused]
      · simp only [SessionContext.over, refused]
      · have small := addressed position pull index component disposed decoded found fits.start
        have read := FirmwareDataWindow.read_confined isLocal fits small same.size image
        simp only [SessionContext.over, planned, read, inMemory]
        rfl

theorem Session.replyTo_confined
    (same : session.record.SameImages context.components bytes bytes') {request : Request}
    (addressed : session.Addresses context request) :
    session.replyTo (context.over (opened bytes')) request =
      session.replyTo (context.over (opened bytes)) request := by
  unfold replyTo
  cases disposed : session.dispose request with
  | firmwareData position => exact serveFirmwareData_confined isLocal same addressed disposed
  | _ => rfl

end

/-! ## Turns -/

namespace Turn

/-- Whatever the package, two equal turns of which both sessions reply the same go on being equal. -/
theorem lockstep_over (context : SessionContext) (source source' : PackageSource) (now : Instant) :
    Lockstep (context.over source) (context.over source') now (fun turn other => other = turn)
      fun turn other => other = turn where
  alike := by
    rintro turn other rfl
    exact .refl _
  weaken same := same
  change := by
    rintro turn other change - rfl
    rfl
  emit := by
    rintro turn other effect - rfl
    rfl
  dropPending := by
    rintro turn other rfl
    rfl
  fail := by
    rintro turn other reason rfl
    rfl
  submit := by
    rintro turn other draft rfl
    rfl

end Turn

/-! ## Runs -/

namespace Run

variable {context : SessionContext} {source source' : PackageSource} {now : Instant}
  {pool : InstanceIdPool} {run : Run}

variable (run) in
/-- A run takes its turn in the same way if its session does. -/
theorem take_over {change change' : Turn → Turn}
    (turned : change' ⟨run.session, pool, []⟩ = change ⟨run.session, pool, []⟩) :
    run.take (context.over source') now pool change' =
      run.take (context.over source) now pool change := by
  unfold take
  rw [turned]
  rfl

theorem act_over {opened : Array UInt8 → PackageSource} {bytes bytes' : Array UInt8}
    (isLocal : PackageSource.IsLocal opened)
    (same : run.session.record.SameImages context.components bytes bytes') (action : RunAction)
    (addressed : ∀ caller request inbox,
      run.next? now action = some (.inbound caller request, inbox) →
        run.session.Addresses context request) :
    run.act (context.over (opened bytes')) now pool action =
      run.act (context.over (opened bytes)) now pool action := by
  have lockstep := Turn.lockstep_over context (opened bytes) (opened bytes') now
  have alike : (context.over (opened bytes)).Alike (context.over (opened bytes')) :=
    ⟨rfl, rfl, rfl⟩
  cases action with
  | begin =>
    have started : Turn.start (context.over (opened bytes')) now ⟨run.session, pool, []⟩ =
        Turn.start (context.over (opened bytes)) now ⟨run.session, pool, []⟩ :=
      lockstep.start alike rfl
    exact if_congr Iff.rfl (take_over { run with status := .running } started) rfl
  | handle =>
    obtain ⟨session, status, inbox, exchanges, reads⟩ := run
    cases status with
    | running =>
      cases inbox with
      | nil => rfl
      | cons event inbox =>
        refine take_over _ (lockstep.handle alike rfl event fun caller request asked => ?_)
        exact Session.replyTo_confined isLocal same (addressed caller request inbox (asked ▸ rfl))
    | waiting | ended | crashed => rfl
  | expire =>
    exact if_congr Iff.rfl (take_over run (lockstep.handle alike rfl .outcomeTimeout nofun)) rfl
  | _ => rfl

end Run

/-- Two runs over packages of one length that have the images of the device's components in common
go the same way, whatever else the packages hold: what is sent, what is answered, what the agent is
told and what state the run is in are the same at each of the same moments. -/
theorem confined_through (context : SessionContext) (record : DeviceRecord) (moments : List Moment)
    (opened : Array UInt8 → PackageSource) (isLocal : PackageSource.IsLocal opened)
    (bytes bytes' : Array UInt8) (same : record.SameImages context.components bytes bytes')
    (addressed : (History.through (context.over (opened bytes)) record moments).Addresses context) :
    History.through (context.over (opened bytes')) record moments =
      History.through (context.over (opened bytes)) record moments := by
  induction moments using List.reverseRecOn with
  | nil => rfl
  | append_singleton moments moment ih =>
    have record_eq := (sound_through (context.over (opened bytes)) record moments).2
    rw [History.through_concat] at addressed ⊢
    have before := ih fun entry old => addressed entry (History.mem_entries_extend old)
    rw [History.through_concat, before, History.extend, History.extend, Run.meet, Run.meet,
      Run.act_over isLocal (record_eq.symm ▸ same) moment.action
        (addressed _ (List.mem_append_right _ (List.mem_singleton_self _)))]

/-- No position wraps around if every image ends where 64-bit numbers reach. -/
theorem History.addresses_through (context : SessionContext) (source : PackageSource)
    (record : DeviceRecord) (moments : List Moment)
    (ends : ∀ index ∈ record.applicableComponents, ∀ component,
      context.components.get? index = some component → component.packageEnd < UInt64.size) :
    (History.through (context.over source) record moments).Addresses context := by
  intro entry mem caller request inbox _ position pull index component _ _ found inside
  obtain ⟨earlier, moment, later, _, rfl⟩ := History.mem_entries_through.mp mem
  have record_eq := (sound_through (context.over source) record earlier).2
  obtain ⟨applicable, present⟩ := Session.componentAt?_eq_some.mp found
  have small := ends index (record_eq ▸ Array.mem_of_getElem? applicable) component present
  exact Nat.lt_of_le_of_lt (Nat.add_le_add_left inside _) small

/-- The same package, but for the one byte that is not in the image. -/
def otherwiseNumbered : Array UInt8 :=
  numbered.setIfInBounds 0 255

/-- The pull that overtakes an answer is handled, and the package is read. -/
def pulledInTime : List Moment :=
  overtaken pulledAhead ++ [.of .handle, .of (.finishRead 0)]

theorem confined_pulledInTime :
    otherwiseNumbered ≠ numbered ∧
      DeviceRecord.SameImages ⟨9, #[0], #[], "set"⟩ (oneComponent (.memory #[])).components numbered
        otherwiseNumbered ∧
      ∀ opened ∈ [PackageSource.memory, PackageSource.file],
        (History.through ((oneComponent (.memory #[])).over (opened numbered)) ⟨9, #[0], #[], "set"⟩
          pulledInTime).Addresses (oneComponent (.memory #[])) ∧
        (History.through ((oneComponent (.memory #[])).over (opened numbered)) ⟨9, #[0], #[], "set"⟩
          pulledInTime).answers.length = 1 ∧
        History.through ((oneComponent (.memory #[])).over (opened otherwiseNumbered))
            ⟨9, #[0], #[], "set"⟩ pulledInTime =
          History.through ((oneComponent (.memory #[])).over (opened numbered))
            ⟨9, #[0], #[], "set"⟩ pulledInTime := by
  have same : DeviceRecord.SameImages ⟨9, #[0], #[], "set"⟩
      (oneComponent (.memory #[])).components numbered otherwiseNumbered := by
    refine ⟨Array.size_setIfInBounds, fun index listed component present place start _ => ?_⟩
    obtain rfl : index = 0 := by simpa using listed
    cases present
    exact Array.getElem?_setIfInBounds_ne (Nat.ne_of_lt start)
  have addressed (source : PackageSource) :=
    History.addresses_through (oneComponent (.memory #[])) source ⟨9, #[0], #[], "set"⟩
      pulledInTime fun index listed component present => by
        obtain rfl : index = 0 := by simpa using listed
        cases present
        decide
  refine ⟨by decide +kernel, same, ?_⟩
  rw [List.forall_mem_cons, List.forall_mem_singleton]
  exact ⟨⟨addressed _, by decide +kernel,
      confined_through _ _ pulledInTime _ PackageSource.memory_isLocal _ _ same (addressed _)⟩,
    ⟨addressed _, by decide +kernel,
      confined_through _ _ pulledInTime _ PackageSource.file_isLocal _ _ same (addressed _)⟩⟩

end FirmwareAgent
