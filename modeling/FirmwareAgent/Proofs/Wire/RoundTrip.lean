import FirmwareAgent.Wire.Body

/-!
# Reading back what was written

A codec is faithful if it takes the written form of every value that has one off the front of any
byte string that starts with it. Numbers and versions are written so, and `followedBy`, `as` and
`refine` hand the property on, so a body reads back because its fields do.

* `decode_encode`: a body that could be written is read from what was written.
-/

namespace FirmwareAgent

theorem bind_eq_ok {ε α β : Type} {first : Except ε α} {next : α → Except ε β} {result : β} :
    (first >>= next) = .ok result ↔ ∃ value, first = .ok value ∧ next value = .ok result := by
  cases first <;> simp [bind, Except.bind]

theorem Piece.join_append (first second : List Piece) :
    Piece.join (first ++ second) = Piece.join first ++ Piece.join second := by
  simp [Piece.join]

theorem takeField_append (field : String) (taken rest : Bytes) :
    takeField field taken.length (taken ++ rest) = .ok (taken, rest) := by
  simp [takeField]

namespace Codec

variable {α β : Type}

/-- Reading takes the written form of a value off the front, whatever follows it. -/
def ReadsBack (codec : Codec α) (value : α) : Prop :=
  ∀ rest, codec.read (Piece.join (codec.pieces value) ++ rest) = .ok (value, rest)

/-- Every value that has a written form is read back. -/
def Faithful (codec : Codec α) : Prop :=
  ∀ value, codec.check value = .ok () → codec.ReadsBack value

theorem unsigned_readsBack {width value : Nat} (field : String) (fits : value < Nat.pow 256 width) :
    (unsigned width field).ReadsBack value := by
  intro rest
  have taken := takeField_append field (littleEndian width value) rest
  rw [length_littleEndian] at taken
  simp [unsigned, Piece.join, taken, bind, Except.bind, pure, Except.pure,
    ofLittleEndian_littleEndian fits]

theorem ReadsBack.as {codec : Codec α} {build : α → β} {parts : β → α} {value : β}
    (inner : codec.ReadsBack (parts value)) (rebuilt : build (parts value) = value) :
    (codec.as build parts).ReadsBack value := by
  intro rest
  simp [Codec.as, inner _, rebuilt, bind, Except.bind, pure, Except.pure]

theorem byte_faithful (field : String) : (byte field).Faithful := fun value _ =>
  .as (unsigned_readsBack field (by have := value.toNat_lt; omega)) (by simp)

theorem read_byte (field : String) (byte : UInt8) (rest : Bytes) :
    (Codec.byte field).read (byte :: rest) = .ok (byte, rest) := by
  have read := byte_faithful field byte rfl rest
  simpa [Codec.byte, unsigned, Codec.as, Piece.join, littleEndian] using read

theorem word16_faithful (field : String) : (word16 field).Faithful := fun value _ =>
  .as (unsigned_readsBack field (by have := value.toNat_lt; omega)) (by simp)

theorem word32_faithful (field : String) : (word32 field).Faithful := fun value _ =>
  .as (unsigned_readsBack field (by have := value.toNat_lt; omega)) (by simp)

theorem word64_faithful (field : String) : (word64 field).Faithful := fun value _ =>
  .as (unsigned_readsBack field (by have := value.toNat_lt; omega)) (by simp)

theorem Faithful.followedBy {first : Codec α} {second : Codec β} (one : first.Faithful)
    (two : second.Faithful) : (first.followedBy second).Faithful := by
  rintro ⟨a, b⟩ accepted rest
  obtain ⟨_, accepted_a, accepted_b⟩ := bind_eq_ok.mp accepted
  simp [Codec.followedBy, Piece.join_append, one a accepted_a _, two b accepted_b _, bind,
    Except.bind, pure, Except.pure]

theorem Faithful.as {codec : Codec α} {build : α → β} {parts : β → α} (inner : codec.Faithful)
    (rebuilt : ∀ value, build (parts value) = value) : (codec.as build parts).Faithful :=
  fun value accepted => .as (inner (parts value) accepted) (rebuilt value)

theorem Faithful.refine {codec : Codec α} {build : α → Except WireError β} {parts : β → α}
    (inner : codec.Faithful) (rebuilt : ∀ value, build (parts value) = .ok value) :
    (codec.refine build parts).Faithful := by
  intro value accepted rest
  simp [Codec.refine, inner (parts value) accepted _, rebuilt, bind, Except.bind, pure,
    Except.pure]

theorem flag_faithful (field : String) : (flag field).Faithful :=
  .as (byte_faithful field) fun value => by cases value <;> rfl

theorem strictFlag_faithful (field : String) : (strictFlag field).Faithful :=
  .refine (byte_faithful field) fun value => by cases value <;> rfl

/-- A value that could be written is read from exactly what was written. -/
theorem Faithful.readAll {codec : Codec α} {value : α} {message : String} {bytes : Bytes}
    (faithful : codec.Faithful) (written : codec.write value = .ok bytes) :
    codec.readAll message bytes = .ok value := by
  obtain ⟨_, accepted, joined⟩ := bind_eq_ok.mp written
  obtain rfl : Piece.join (codec.pieces value) = bytes := Except.ok.inj joined
  have read := faithful value accepted []
  rw [List.append_nil] at read
  simp [Codec.readAll, read, bind, Except.bind, pure, Except.pure]

end Codec

theorem VersionString.codec_faithful : VersionString.codec.Faithful := by
  intro version accepted rest
  have fits : version.bytes.length < 256 := by
    simp only [VersionString.codec] at accepted
    split at accepted
    · assumption
    · cases accepted
  have lead : VersionString.lead.ReadsBack (version.type, UInt8.ofNat version.bytes.length) :=
    (Codec.Faithful.refine (Codec.byte_faithful _) StringType.ofCode_code).followedBy
      (Codec.byte_faithful _) _ rfl
  have length_eq : (UInt8.ofNat version.bytes.length).toNat = version.bytes.length := by
    rw [UInt8.toNat_ofNat']
    omega
  have taken := takeField_append "version string" version.bytes rest
  simp only [VersionString.codec, Piece.join_append, List.append_assoc, lead _]
  simp [Piece.join, bind, Except.bind, pure, Except.pure, length_eq, taken]

theorem ComponentIdentity.codec_faithful : ComponentIdentity.codec.Faithful :=
  .as (.followedBy (Codec.word16_faithful _) <| .followedBy (Codec.word16_faithful _) <|
    .followedBy (Codec.byte_faithful _) (Codec.word32_faithful _)) fun _ => rfl

/-! ## Bodies -/

/-- A body whose written form is read back. -/
class FaithfulBody (α : Type) [Body α] : Prop where
  faithful : (Body.codec : Codec α).Faithful

/-- A body that could be written is read from exactly what was written. -/
theorem decode_encode {α : Type} [Body α] [FaithfulBody α] {body : α} {bytes : Bytes}
    (written : Body.encode body = .ok bytes) : Body.decode α bytes = .ok body :=
  FaithfulBody.faithful.readAll written

instance : FaithfulBody RequestUpdateRequest where
  faithful := .as (.followedBy (Codec.word32_faithful _) <|
    .followedBy (Codec.word16_faithful _) <| .followedBy (Codec.byte_faithful _) <|
    .followedBy (Codec.word16_faithful _) VersionString.codec_faithful) fun _ => rfl

instance : FaithfulBody RequestUpdateResponse where
  faithful := .as (.followedBy (Codec.word16_faithful _) (Codec.flag_faithful _)) fun _ => rfl

instance : FaithfulBody PassComponentTableRequest where
  faithful := .as (.followedBy (.refine (Codec.byte_faithful _) TransferFlag.ofCode_code) <|
    .followedBy ComponentIdentity.codec_faithful VersionString.codec_faithful) fun _ => rfl

instance : FaithfulBody PassComponentTableResponse where
  faithful := .as (.followedBy (Codec.byte_faithful _) (Codec.byte_faithful _)) fun _ => rfl

instance : FaithfulBody UpdateComponentRequest where
  faithful := .as (.followedBy ComponentIdentity.codec_faithful <|
    .followedBy (Codec.word32_faithful _) <| .followedBy (Codec.word32_faithful _)
      VersionString.codec_faithful) fun _ => rfl

instance : FaithfulBody UpdateComponentResponse where
  faithful := .as (.followedBy (Codec.byte_faithful _) <| .followedBy (Codec.byte_faithful _) <|
    .followedBy (Codec.word32_faithful _) (Codec.word16_faithful _)) fun _ => rfl

instance : FaithfulBody RequestFirmwareDataRequest where
  faithful := .as (.followedBy (Codec.word32_faithful _) (Codec.word32_faithful _)) fun _ => rfl

instance : FaithfulBody TransferCompleteRequest where
  faithful := .as (Codec.byte_faithful _) fun _ => rfl

instance : FaithfulBody VerifyCompleteRequest where
  faithful := .as (Codec.byte_faithful _) fun _ => rfl

instance : FaithfulBody ApplyCompleteRequest where
  faithful := .as (.followedBy (Codec.byte_faithful _) (Codec.word16_faithful _)) fun _ => rfl

instance : FaithfulBody ActivateFirmwareRequest where
  faithful := .as (Codec.strictFlag_faithful _) fun _ => rfl

instance : FaithfulBody ActivateFirmwareResponse where
  faithful := .as (Codec.word16_faithful _) fun _ => rfl

instance : FaithfulBody GetPackageDataRequest where
  faithful := .as (.followedBy (Codec.word32_faithful _)
    (.refine (Codec.byte_faithful _) TransferOperation.ofCode_code)) fun _ => rfl

instance : FaithfulBody CancelUpdateResponse where
  faithful := .as (.followedBy (Codec.flag_faithful _) (Codec.word64_faithful _)) fun _ => rfl

end FirmwareAgent
