import FirmwareAgent.Proofs.Session.Replies

/-!
# Image data

What a pull of image data is answered with. A window that is planned starts in the image and passes
its end by the baseline at most, so all the arithmetic of the plan is exact and nothing outside the
image is read.

* `plan_cases`: which pulls are refused, and what is known of the window of one that is not.
* `read_of_fits`: the bytes of a window are the bytes of the image there, and zeros behind its end.
* `response?_serveFirmwareData`: the answer to a pull, from any source that supplies the image.
-/

namespace FirmwareAgent

/-! ## Windows -/

namespace FirmwareDataWindow

variable {size baseline maximum : UInt32} {pull : RequestFirmwareDataRequest}
  {window : FirmwareDataWindow}

/-- A window answers a pull exactly. None of the sums and differences leaves its range. -/
structure Fits (window : FirmwareDataWindow) (size baseline : UInt32)
    (pull : RequestFirmwareDataRequest) : Prop where
  offset : window.offset = pull.offset
  /-- The window starts in the image, or right at its end. -/
  start : pull.offset.toNat ≤ size.toNat
  /-- What is read is in the image. -/
  inside : pull.offset.toNat + window.readLength.toNat ≤ size.toNat
  /-- The zeros are what passes the end of the image. -/
  pad : window.padLength.toNat = pull.offset.toNat + pull.length.toNat - size.toNat
  slack : window.padLength ≤ baseline
  clamped : window.padLength ≤ pull.length
  total : window.readLength.toNat + window.padLength.toNat = pull.length.toNat

/-- The window of a pull whose length is in bounds and that ends within the slack. -/
theorem fits_of_bounds (long : baseline ≤ pull.length)
    (within : pull.offset.toNat + pull.length.toNat ≤ size.toNat + baseline.toNat) :
    let padLength := UInt32.ofNat
      (min (pull.offset.toNat + pull.length.toNat - size.toNat) pull.length.toNat)
    Fits ⟨pull.offset, pull.length - padLength, padLength⟩ size baseline pull := by
  intro padLength
  have long : baseline.toNat ≤ pull.length.toNat := long
  have length_small := pull.length.toNat_lt
  -- The part past the end is no longer than the baseline, so neither bound takes effect.
  have pad : padLength.toNat = pull.offset.toNat + pull.length.toNat - size.toNat := by
    show (UInt32.ofNat _).toNat = _
    rw [UInt32.toNat_ofNat']
    omega
  have clamped : padLength ≤ pull.length := UInt32.le_iff_toNat_le.mpr (by omega)
  have read : (pull.length - padLength).toNat = pull.length.toNat - padLength.toNat :=
    UInt32.toNat_sub_of_le _ _ clamped
  refine ⟨rfl, ?start, ?inside, pad, ?slack, clamped, ?total⟩
  case start => omega
  case inside =>
    show pull.offset.toNat + (pull.length - padLength).toNat ≤ size.toNat
    omega
  case slack =>
    show padLength ≤ baseline
    exact UInt32.le_iff_toNat_le.mpr (by omega)
  case total =>
    show (pull.length - padLength).toNat + padLength.toNat = pull.length.toNat
    omega

variable (size pull baseline maximum) in
/-- A pull is refused for its length, or else for where it ends, or it has a window. -/
theorem plan_cases :
    (pull.length < baseline ∨ maximum < pull.length) ∧
      plan size pull baseline maximum =
        .error (.protocolRange CompletionCode.invalidTransferLength pull.offset pull.length) ∨
    ¬ (pull.length < baseline ∨ maximum < pull.length) ∧
      (size.toNat + baseline.toNat < pull.offset.toNat + pull.length.toNat ∧
        plan size pull baseline maximum =
          .error (.protocolRange CompletionCode.dataOutOfRange pull.offset pull.length) ∨
      ¬ size.toNat + baseline.toNat < pull.offset.toNat + pull.length.toNat ∧
        ∃ window, plan size pull baseline maximum = .ok window ∧
          window.Fits size baseline pull) := by
  unfold plan
  dsimp only
  by_cases unbounded : pull.length < baseline ∨ maximum < pull.length
  · rw [if_pos unbounded]
    exact .inl ⟨unbounded, rfl⟩
  · rw [if_neg unbounded]
    by_cases beyond : size.toNat + baseline.toNat < pull.offset.toNat + pull.length.toNat
    · rw [if_pos beyond]
      exact .inr ⟨unbounded, .inl ⟨beyond, rfl⟩⟩
    · rw [if_neg beyond]
      have long : baseline ≤ pull.length :=
        UInt32.not_lt.mp fun short => unbounded (.inl short)
      exact .inr ⟨unbounded, .inr ⟨beyond, _, rfl, fits_of_bounds long (Nat.not_lt.mp beyond)⟩⟩

theorem fits_of_plan (planned : plan size pull baseline maximum = .ok window) :
    window.Fits size baseline pull := by
  rcases plan_cases size baseline maximum pull with
    ⟨_, refused⟩ | ⟨_, ⟨_, refused⟩ | ⟨_, other, planned', fits⟩⟩
  · cases refused.symm.trans planned
  · cases refused.symm.trans planned
  · cases planned'.symm.trans planned
    exact fits

end FirmwareDataWindow

/-! ## Images -/

namespace ComponentImage

variable (component : ComponentImage) (bytes : Array UInt8)

/-- One past the last byte of the image in the package. -/
def packageEnd : Nat :=
  component.packageOffset.toNat + component.size.toNat

/-- The image lies within a package, whose length is a 64-bit number. -/
structure LiesIn (component : ComponentImage) (bytes : Array UInt8) : Prop where
  stop : component.packageEnd ≤ bytes.size
  size : bytes.size < UInt64.size

/-- The image of a component, cut out of the bytes of its package. -/
def image : Bytes :=
  (bytes.extract component.packageOffset.toNat component.packageEnd).toList

/-- The bytes of an image from an offset on, as many as a length says. Behind the end of the image
they are zeros. -/
def chunk (offset length : Nat) : Bytes :=
  let found := (component.image bytes).extract offset (min (offset + length) component.size.toNat)
  found ++ List.replicate (length - found.length) 0

variable {component bytes}

theorem length_chunk (offset length : Nat) :
    (component.chunk bytes offset length).length = length := by
  have found : ((component.image bytes).extract offset
      (min (offset + length) component.size.toNat)).length ≤ length := by
    rw [List.extract_eq_take_drop, List.length_take]
    omega
  rw [chunk, List.length_append, List.length_replicate]
  exact Nat.add_sub_of_le found

end ComponentImage

/-- A source supplies the image of a component. Nothing is said of the bytes outside it: a read that
leaves the image may yield anything, fail, or break the source down. -/
structure PackageSource.Supplies (source : PackageSource) (bytes : Array UInt8)
    (component : ComponentImage) : Prop where
  readAt : ∀ offset count, component.packageOffset.toNat ≤ offset →
    offset + count ≤ component.packageEnd →
      source.readAt offset count = .done (bytes.extract offset (offset + count)).toList

namespace PackageSource

variable {bytes : Array UInt8} {component : ComponentImage}

theorem memory_supplies (within : component.packageEnd ≤ bytes.size) :
    (memory bytes).Supplies bytes component where
  readAt := by
    intro offset count _ inside
    exact if_pos (Nat.le_trans inside within)

theorem file_supplies (within : component.packageEnd ≤ bytes.size) :
    (file bytes).Supplies bytes component where
  readAt := by
    intro offset count _ inside
    show (if count = 0 then _ else _) = _
    split
    · rename_i none_read
      simp [none_read]
    · exact if_pos (Nat.le_trans inside within)

variable (bytes component) in
/-- A source holds a package: in memory, in a file, or so that it supplies at least the image. -/
inductive Holds : PackageSource → Prop
  | memory : Holds (.memory bytes)
  | file : Holds (.file bytes)
  | custom {source : PackageSource} (supplies : source.Supplies bytes component) : Holds source

theorem Holds.supplies {source : PackageSource} (holds : Holds bytes component source)
    (within : component.packageEnd ≤ bytes.size) : source.Supplies bytes component := by
  cases holds with
  | memory => exact memory_supplies within
  | file => exact file_supplies within
  | custom supplies => exact supplies

end PackageSource

/-- The part of an image between two offsets is the part of the package between two positions. -/
theorem ComponentImage.extract_image {component : ComponentImage} (bytes : Array UInt8)
    (offset : Nat) {stop : Nat} (inside : stop ≤ component.size.toNat) :
    (component.image bytes).extract offset stop =
      (bytes.extract (component.packageOffset.toNat + offset)
        (component.packageOffset.toNat + stop)).toList := by
  simp only [image, packageEnd, Array.toList_extract, List.extract_eq_take_drop, List.drop_take,
    List.take_take, List.drop_drop]
  congr 1
  omega

namespace FirmwareDataWindow

variable {source : PackageSource} {bytes : Array UInt8} {component : ComponentImage}
  {baseline : UInt32} {pull : RequestFirmwareDataRequest} {window : FirmwareDataWindow}

/-- The position of a window is the exact sum if that is a 64-bit number. -/
theorem toNat_position
    (small : component.packageOffset.toNat + window.offset.toNat < UInt64.size) :
    (window.position component).toNat =
      component.packageOffset.toNat + window.offset.toNat := by
  rw [position, UInt64.toNat_add, UInt32.toNat_toUInt64]
  exact Nat.mod_eq_of_lt small

/-- Nothing wraps around within a package. -/
theorem toNat_position_of_liesIn (within : component.LiesIn bytes)
    (fits : window.Fits component.size baseline pull) :
    (window.position component).toNat =
      component.packageOffset.toNat + pull.offset.toNat := by
  have start := fits.start
  have stop := within.stop
  rw [ComponentImage.packageEnd] at stop
  have small : component.packageOffset.toNat + pull.offset.toNat < UInt64.size :=
    Nat.lt_of_le_of_lt (by omega) within.size
  rw [← fits.offset] at small ⊢
  exact toNat_position small

/-- A window that has been read consists of what the source supplied, and zeros. -/
theorem exists_of_read_eq_done {found : Bytes} (read : window.read source component = .done found) :
    ∃ supplied, source.readAt (window.position component).toNat window.readLength.toNat =
        .done supplied ∧
      found = supplied ++ List.replicate window.padLength.toNat 0 := by
  unfold FirmwareDataWindow.read at read
  dsimp only at read
  cases supply : source.readAt (window.position component).toNat window.readLength.toNat with
  | done supplied =>
    rw [supply] at read
    cases read
    exact ⟨supplied, rfl, rfl⟩
  | failed error => cases supply ▸ read
  | crashed => cases supply ▸ read

/-- A window is read as the part of the image that the pull asks for. -/
theorem read_of_fits (within : component.LiesIn bytes)
    (supplies : source.Supplies bytes component)
    (fits : window.Fits component.size baseline pull) :
    window.read source component =
      .done (component.chunk bytes pull.offset.toNat pull.length.toNat) := by
  have position_eq := toNat_position_of_liesIn within fits
  have stop := within.stop
  have inside := fits.inside
  have pad := fits.pad
  have total := fits.total
  have stop_eq : min (pull.offset.toNat + pull.length.toNat) component.size.toNat =
      pull.offset.toNat + window.readLength.toNat := by omega
  have found_eq := component.extract_image bytes pull.offset.toNat inside
  have found_length : (bytes.extract (component.packageOffset.toNat + pull.offset.toNat)
      (component.packageOffset.toNat + (pull.offset.toNat + window.readLength.toNat))).toList.length
      = window.readLength.toNat := by
    rw [ComponentImage.packageEnd] at stop
    rw [Array.length_toList, Array.size_extract]
    omega
  have supplied := supplies.readAt (component.packageOffset.toNat + pull.offset.toNat)
    window.readLength.toNat (Nat.le_add_right _ _)
    (by rw [ComponentImage.packageEnd]; omega)
  rw [Nat.add_assoc] at supplied
  unfold read ComponentImage.chunk
  dsimp only
  rw [position_eq, supplied, stop_eq, found_eq, found_length]
  show Reading.done _ = Reading.done _
  rw [← total, Nat.add_sub_cancel_left]

end FirmwareDataWindow

/-! ## Answers -/

/-- A response answers a pull of a component's image as the bounds of the configuration ask. -/
structure AnswersPull (config : UpdateConfig) (component : ComponentImage) (bytes : Array UInt8)
    (pull : RequestFirmwareDataRequest) (request : Request) (response : Response) : Prop where
  echoes : response = request.respond response.completionCode response.body
  invalidLength : response.completionCode = CompletionCode.invalidTransferLength ↔
    (pull.length < config.baselineTransferSize ∨ config.maxTransferSize < pull.length)
  outOfRange : response.completionCode = CompletionCode.dataOutOfRange ↔
    ¬ (pull.length < config.baselineTransferSize ∨ config.maxTransferSize < pull.length) ∧
      component.size.toNat + config.baselineTransferSize.toNat <
        pull.offset.toNat + pull.length.toNat
  succeeds : response.completionCode = CompletionCode.success ↔
    ¬ (pull.length < config.baselineTransferSize ∨ config.maxTransferSize < pull.length) ∧
      ¬ component.size.toNat + config.baselineTransferSize.toNat <
        pull.offset.toNat + pull.length.toNat
  refused : response.completionCode ≠ CompletionCode.success → response.body = []
  served : response.completionCode = CompletionCode.success →
    response.body = component.chunk bytes pull.offset.toNat pull.length.toNat ∧
      response.body.length = pull.length.toNat
  /-- Behind a success is a window in which all arithmetic is exact. -/
  planned : response.completionCode = CompletionCode.success →
    ∃ window, FirmwareDataWindow.plan component.size pull config.baselineTransferSize
        config.maxTransferSize = .ok window ∧
      window.Fits component.size config.baselineTransferSize pull
  /-- So is the position in the package. -/
  placed : response.completionCode = CompletionCode.success →
    (component.packageOffset + pull.offset.toUInt64).toNat =
      component.packageOffset.toNat + pull.offset.toNat

namespace AnswersPull

variable {config : UpdateConfig} {component : ComponentImage} {bytes : Array UInt8}
  {pull : RequestFirmwareDataRequest} {request : Request}

theorem of_invalidLength
    (unbounded : pull.length < config.baselineTransferSize ∨
      config.maxTransferSize < pull.length) :
    AnswersPull config component bytes pull request
      (request.refuse CompletionCode.invalidTransferLength) where
  echoes := rfl
  invalidLength := iff_of_true rfl unbounded
  outOfRange := iff_of_false nofun fun bounded => bounded.1 unbounded
  succeeds := iff_of_false nofun fun bounded => bounded.1 unbounded
  refused _ := rfl
  served := nofun
  planned := nofun
  placed := nofun

theorem of_outOfRange
    (bounded : ¬ (pull.length < config.baselineTransferSize ∨
      config.maxTransferSize < pull.length))
    (beyond : component.size.toNat + config.baselineTransferSize.toNat <
      pull.offset.toNat + pull.length.toNat) :
    AnswersPull config component bytes pull request
      (request.refuse CompletionCode.dataOutOfRange) where
  echoes := rfl
  invalidLength := iff_of_false nofun bounded
  outOfRange := iff_of_true rfl ⟨bounded, beyond⟩
  succeeds := iff_of_false nofun fun within => within.2 beyond
  refused _ := rfl
  served := nofun
  planned := nofun
  placed := nofun

theorem of_window {window : FirmwareDataWindow} (inPackage : component.LiesIn bytes)
    (bounded : ¬ (pull.length < config.baselineTransferSize ∨
      config.maxTransferSize < pull.length))
    (within : ¬ component.size.toNat + config.baselineTransferSize.toNat <
      pull.offset.toNat + pull.length.toNat)
    (planned : FirmwareDataWindow.plan component.size pull config.baselineTransferSize
      config.maxTransferSize = .ok window)
    (fits : window.Fits component.size config.baselineTransferSize pull) :
    AnswersPull config component bytes pull request
      (request.respond CompletionCode.success
        (component.chunk bytes pull.offset.toNat pull.length.toNat)) where
  echoes := rfl
  invalidLength := iff_of_false nofun bounded
  outOfRange := iff_of_false nofun fun beyond => within beyond.2
  succeeds := iff_of_true rfl ⟨bounded, within⟩
  refused failure := absurd rfl failure
  served _ := ⟨rfl, component.length_chunk _ _⟩
  planned _ := ⟨window, planned, fits⟩
  placed _ := by
    have position_eq := FirmwareDataWindow.toNat_position_of_liesIn inPackage fits
    rwa [FirmwareDataWindow.position, fits.offset] at position_eq

end AnswersPull

/-- A pull has one answer, whatever source supplies the image. -/
theorem Session.response?_serveFirmwareData {context : SessionContext} {session : Session}
    {position : Nat} {request : Request} {pull : RequestFirmwareDataRequest}
    {index : ComponentIndex} {component : ComponentImage} {bytes : Array UInt8}
    (decoded : Body.decode RequestFirmwareDataRequest request.payload = .ok pull)
    (found : session.componentAt? context position = some (index, component))
    (within : component.LiesIn bytes) :
    ∃ response, AnswersPull context.config component bytes pull request response ∧
      ∀ source : PackageSource, source.Holds bytes component →
        (session.serveFirmwareData { context with package := source } position request).response? =
          some response := by
  -- Which source is asked plays no part in where the component is found.
  have found_any (source : PackageSource) :
      session.componentAt? { context with package := source } position = some (index, component) :=
    found
  rcases FirmwareDataWindow.plan_cases component.size context.config.baselineTransferSize
      context.config.maxTransferSize pull with
    ⟨unbounded, refused⟩ | ⟨bounded, ⟨beyond, refused⟩ | ⟨inside, window, planned, fits⟩⟩
  · refine ⟨_, .of_invalidLength unbounded, fun source _ => ?_⟩
    simp [serveFirmwareData, decoded, found_any, refused, UpdateError.completionCode?,
      Reply.response?]
  · refine ⟨_, .of_outOfRange bounded beyond, fun source _ => ?_⟩
    simp [serveFirmwareData, decoded, found_any, refused, UpdateError.completionCode?,
      Reply.response?]
  · refine ⟨_, .of_window within bounded inside planned fits, fun source holds => ?_⟩
    have read := FirmwareDataWindow.read_of_fits within (holds.supplies within.stop) fits
    simp only [serveFirmwareData, decoded, found_any, planned, read]
    split <;> rfl

end FirmwareAgent
