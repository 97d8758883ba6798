import FirmwareAgent.Proofs.Wire.Inverse

/-!
# Layouts

What the bytes of a body look like, said without a reader: a list of fields with their widths and
the values they may have. A version ends a body with as many bytes as its length byte says, so a
layout is a list of fields for each value of that byte. A body without a version has the same fields
for all of them.

* `Fits`: a byte string is one value after another for a list of fields.
* `firstMissing`: the field at which a byte string that is too short breaks off.
* `body_delimited`: the byte strings that are accepted are those that fit the layout. Cutting one
  short or adding to one is always noticed, and the error says where, or by how much. Only the
  portion of package data has no end of its own.
-/

namespace FirmwareAgent

/-- One field of a layout. -/
structure Field where
  name : String
  /-- The number of bytes. -/
  width : Nat
  /-- The bytes the field may hold. -/
  admits : Bytes → Bool

/-- A field that may hold anything. -/
def Field.any (name : String) (width : Nat) : Field where
  name := name
  width := width
  admits _ := true

/-- A byte with a value in a set. -/
def Field.oneOf (name : String) (values : List UInt8) : Field where
  name := name
  width := 1
  admits bytes := bytes.all (values.contains ·)

/-- A byte string is a value of each field, one after another. -/
inductive Fits : List Field → Bytes → Prop
  | nil : Fits [] []
  | cons {field : Field} {fields : List Field} {front back : Bytes} :
      front.length = field.width → field.admits front = true → Fits fields back →
      Fits (field :: fields) (front ++ back)

/-- The first field that is not wholly there when there are so many bytes, and how many of them are
left for it. -/
def firstMissing : List Field → (available : Nat) → Option (Field × Nat)
  | [], _ => none
  | field :: fields, available =>
    if field.width ≤ available then firstMissing fields (available - field.width)
    else some (field, available)

/-- The fields of a body for each value of the length byte of its version. -/
abbrev Layout := (length : UInt8) → List Field

/-- The error that a field is not wholly there. -/
def Field.truncated (field : Field) (available : Nat) : WireError :=
  .truncated field.name field.width available

/-! ## Fitting -/

theorem fits_nil {bytes : Bytes} : Fits [] bytes ↔ bytes = [] := by
  constructor
  · rintro ⟨⟩
    rfl
  · rintro rfl
    exact .nil

theorem fits_cons {field : Field} {fields : List Field} {bytes : Bytes} :
    Fits (field :: fields) bytes ↔ ∃ front back, bytes = front ++ back ∧
      front.length = field.width ∧ field.admits front = true ∧ Fits fields back := by
  constructor
  · rintro (_ | ⟨width, admitted, fits⟩)
    exact ⟨_, _, rfl, width, admitted, fits⟩
  · rintro ⟨front, back, rfl, width, admitted, fits⟩
    exact .cons width admitted fits

theorem fits_append {first second : List Field} {bytes : Bytes} :
    Fits (first ++ second) bytes ↔
      ∃ front back, bytes = front ++ back ∧ Fits first front ∧ Fits second back := by
  induction first generalizing bytes with
  | nil =>
    simp only [List.nil_append, fits_nil]
    constructor
    · exact fun fits => ⟨[], bytes, rfl, rfl, fits⟩
    · rintro ⟨_, back, rfl, rfl, fits⟩
      exact fits
  | cons field fields ih =>
    simp only [List.cons_append, fits_cons, ih]
    constructor
    · rintro ⟨value, _, rfl, width, admitted, front, back, rfl, fits, rest⟩
      exact ⟨value ++ front, back, by simp, ⟨value, front, rfl, width, admitted, fits⟩, rest⟩
    · rintro ⟨_, back, rfl, ⟨value, front, rfl, width, admitted, fits⟩, rest⟩
      exact ⟨value, front ++ back, by simp, width, admitted, front, back, rfl, fits, rest⟩

theorem fits_any {name : String} {width : Nat} {bytes : Bytes} :
    Fits [.any name width] bytes ↔ bytes.length = width := by
  simp [fits_cons, fits_nil, Field.any]

theorem fits_oneOf_cons {name : String} {values : List UInt8} {fields : List Field}
    {bytes : Bytes} :
    Fits (.oneOf name values :: fields) bytes ↔
      ∃ value ∈ values, ∃ back, bytes = value :: back ∧ Fits fields back := by
  simp only [fits_cons, Field.oneOf, List.length_eq_one_iff]
  constructor
  · rintro ⟨_, back, rfl, ⟨value, rfl⟩, admitted, fits⟩
    exact ⟨value, by simpa using admitted, back, rfl, fits⟩
  · rintro ⟨value, member, back, rfl, fits⟩
    exact ⟨[value], back, rfl, ⟨value, rfl⟩, by simpa using member, fits⟩

theorem fits_oneOf {name : String} {values : List UInt8} {bytes : Bytes} :
    Fits [.oneOf name values] bytes ↔ ∃ value ∈ values, bytes = [value] := by
  simp [fits_oneOf_cons, fits_nil]

/-! ## Where a byte string breaks off -/

theorem firstMissing_append_of_some {first : List Field} {available : Nat} {missing : Field × Nat}
    (found : firstMissing first available = some missing) (second : List Field) :
    firstMissing (first ++ second) available = some missing := by
  induction first generalizing available with
  | nil => cases found
  | cons field fields ih =>
    simp only [List.cons_append, firstMissing] at found ⊢
    split
    · rename_i enough
      rw [if_pos enough] at found
      exact ih found
    · rename_i short
      rwa [if_neg short] at found

/-- Fields that are wholly there are passed over. -/
theorem firstMissing_append_of_fits {first : List Field} {front : Bytes} (fits : Fits first front)
    (second : List Field) (left : Nat) :
    firstMissing (first ++ second) (front.length + left) = firstMissing second left := by
  induction fits with
  | nil => simp
  | @cons field fields value back width _ _ ih =>
    simp only [List.cons_append, firstMissing, List.length_append, ← width, Nat.add_assoc]
    rw [if_pos (Nat.le_add_right ..), Nat.add_sub_cancel_left, ih]

namespace Codec

variable {α β : Type}

/-- A codec reads the byte strings of a layout and no others, whatever follows them. A string that
breaks off is reported with the first field that is not wholly there. -/
structure HasLayout (codec : Codec α) (layout : Layout) : Prop where
  whole : ∀ length bytes, Fits (layout length) bytes → ∀ rest,
    ∃ value, codec.read (bytes ++ rest) = .ok (value, rest)
  only : ∀ bytes value rest, codec.read bytes = .ok (value, rest) →
    ∃ length front, bytes = front ++ rest ∧ Fits (layout length) front
  cut : ∀ length part lost, Fits (layout length) (part ++ lost) → lost ≠ [] →
    ∃ field left, firstMissing (layout length) part.length = some (field, left) ∧
      codec.read part = .error (field.truncated left)

/-- A field whose reader looks at its bytes and nothing else. -/
theorem takeField_cut {part lost : Bytes} {width : Nat} (name : String)
    (short : (part ++ lost).length = width) (cut : lost ≠ []) :
    firstMissing [.any name width] part.length = some (.any name width, part.length) ∧
      takeField name width part = .error ((Field.any name width).truncated part.length) := by
  have lost_pos : 0 < lost.length := List.length_pos_iff.mpr cut
  have shorter : ¬ width ≤ part.length := by
    rw [List.length_append] at short
    omega
  exact ⟨if_neg shorter, if_neg shorter⟩

theorem unsigned_hasLayout (width : Nat) (name : String) :
    (unsigned width name).HasLayout fun _ => [.any name width] where
  whole := by
    intro _ bytes fits rest
    obtain rfl := fits_any.mp fits
    refine ⟨ofLittleEndian bytes, ?_⟩
    simp [unsigned, takeField_append, bind, Except.bind, pure, Except.pure]
  only := by
    intro bytes value rest read
    obtain ⟨_, bytes_eq⟩ := read_unsigned read
    exact ⟨0, _, bytes_eq, fits_any.mpr (length_littleEndian width value)⟩
  cut := by
    intro _ part lost fits cut
    obtain ⟨missing, failed⟩ := takeField_cut name (fits_any.mp fits) cut
    exact ⟨_, _, missing, by simp [unsigned, failed, bind, Except.bind]⟩

theorem HasLayout.as {codec : Codec α} {layout : Layout} (inner : codec.HasLayout layout)
    (build : α → β) (parts : β → α) : (codec.as build parts).HasLayout layout where
  whole := by
    intro length bytes fits rest
    obtain ⟨value, read⟩ := inner.whole length bytes fits rest
    exact ⟨build value, by simp [Codec.as, read, bind, Except.bind, pure, Except.pure]⟩
  only := by
    intro bytes value rest read
    obtain ⟨value', read', _⟩ := read_as read
    exact inner.only bytes value' rest read'
  cut := by
    intro length part lost fits cut
    obtain ⟨field, left, missing, failed⟩ := inner.cut length part lost fits cut
    exact ⟨field, left, missing, by simp [Codec.as, failed, bind, Except.bind]⟩

/-- A string that breaks off in the second of two values is reported with its missing field. -/
theorem HasLayout.cut_of_second {first : Codec α} {second : Codec β} {fields : List Field}
    {layout : Layout} {length : UInt8} {front part lost : Bytes}
    (one : first.HasLayout fun _ => fields) (two : second.HasLayout layout)
    (fits_front : Fits fields front) (fits_back : Fits (layout length) (part ++ lost))
    (cut : lost ≠ []) :
    ∃ field left,
      firstMissing (fields ++ layout length) (front ++ part).length = some (field, left) ∧
        (first.followedBy second).read (front ++ part) = .error (field.truncated left) := by
  obtain ⟨a, read_a⟩ := one.whole length front fits_front part
  obtain ⟨field, left, missing, failed⟩ := two.cut length part lost fits_back cut
  refine ⟨field, left, ?_, ?_⟩
  · rw [List.length_append, firstMissing_append_of_fits fits_front]
    exact missing
  · simp [Codec.followedBy, read_a, failed, bind, Except.bind]

/-- Two values side by side, the first of them with fields of its own. -/
theorem HasLayout.followedBy {first : Codec α} {second : Codec β} {fields : List Field}
    {layout : Layout} (one : first.HasLayout fun _ => fields) (two : second.HasLayout layout) :
    (first.followedBy second).HasLayout fun length => fields ++ layout length where
  whole := by
    intro length _ fits rest
    obtain ⟨front, back, rfl, fits_front, fits_back⟩ := fits_append.mp fits
    obtain ⟨a, read_a⟩ := one.whole length front fits_front (back ++ rest)
    obtain ⟨b, read_b⟩ := two.whole length back fits_back rest
    exact ⟨(a, b), by
      simp [Codec.followedBy, read_a, read_b, bind, Except.bind, pure, Except.pure]⟩
  only := by
    intro bytes value rest read
    obtain ⟨middle, read_a, read_b⟩ := read_followedBy read
    obtain ⟨_, front, rfl, fits_front⟩ := one.only _ _ _ read_a
    obtain ⟨length, back, rfl, fits_back⟩ := two.only _ _ _ read_b
    have fits := fits_append.mpr ⟨front, back, rfl, fits_front, fits_back⟩
    exact ⟨length, front ++ back, by simp, fits⟩
  cut := by
    intro length part lost fits cut
    obtain ⟨front, back, whole_eq, fits_front, fits_back⟩ := fits_append.mp fits
    rcases List.append_eq_append_iff.mp whole_eq with ⟨lost', rfl, lost_eq⟩ | ⟨part', rfl, rfl⟩
    · cases lost' with
      | nil =>
        -- The string breaks off between the two values.
        rw [List.append_nil] at fits_front
        have fits_lost : Fits (layout length) ([] ++ lost) := lost_eq ▸ fits_back
        have between := one.cut_of_second two fits_front fits_lost cut
        rwa [List.append_nil] at between
      | cons byte lost' =>
        obtain ⟨field, left, missing, failed⟩ :=
          one.cut length part (byte :: lost') fits_front (List.cons_ne_nil byte lost')
        refine ⟨field, left, firstMissing_append_of_some missing _, ?_⟩
        simp [Codec.followedBy, failed, bind, Except.bind]
    · exact one.cut_of_second two fits_front fits_back cut

theorem byte_hasLayout (name : String) : (byte name).HasLayout fun _ => [.any name 1] :=
  (unsigned_hasLayout 1 name).as _ _

theorem word16_hasLayout (name : String) : (word16 name).HasLayout fun _ => [.any name 2] :=
  (unsigned_hasLayout 2 name).as _ _

theorem word32_hasLayout (name : String) : (word32 name).HasLayout fun _ => [.any name 4] :=
  (unsigned_hasLayout 4 name).as _ _

theorem word64_hasLayout (name : String) : (word64 name).HasLayout fun _ => [.any name 8] :=
  (unsigned_hasLayout 8 name).as _ _

theorem flag_hasLayout (name : String) : (flag name).HasLayout fun _ => [.any name 1] :=
  (byte_hasLayout name).as _ _

theorem read_byte_nil (name : String) :
    (byte name).read [] = .error (.truncated name 1 0) := rfl

/-- A byte of which only the values in a set are accepted. -/
theorem refine_byte_hasLayout {build : UInt8 → Except WireError β} {values : List UInt8}
    (name : String) (accepts_iff : ∀ value, (∃ b, build value = .ok b) ↔ value ∈ values)
    (parts : β → UInt8) :
    ((byte name).refine build parts).HasLayout fun _ => [.oneOf name values] where
  whole := by
    intro _ bytes fits rest
    obtain ⟨value, member, rfl⟩ := fits_oneOf.mp fits
    obtain ⟨b, built⟩ := (accepts_iff value).mpr member
    exact ⟨b, by simp [Codec.refine, read_byte, built, bind, Except.bind, pure, Except.pure]⟩
  only := by
    intro bytes b rest read
    obtain ⟨value, read_value, built⟩ := read_refine read
    obtain ⟨_, front, rfl, fits⟩ := (byte_hasLayout name).only _ _ _ read_value
    obtain ⟨first, rfl⟩ := List.length_eq_one_iff.mp (fits_any.mp fits)
    have same : Except.ok (first, rest) = .ok (value, rest) :=
      (read_byte name first rest).symm.trans read_value
    cases same
    exact ⟨0, [value], rfl, fits_oneOf.mpr ⟨value, (accepts_iff value).mp ⟨b, built⟩, rfl⟩⟩
  cut := by
    intro _ part lost fits cut
    obtain ⟨value, _, whole_eq⟩ := fits_oneOf.mp fits
    obtain ⟨rfl, -⟩ | ⟨-, rfl⟩ := List.append_eq_singleton_iff.mp whole_eq
    · exact ⟨_, _, rfl, by simp [Codec.refine, read_byte_nil, bind, Except.bind, Field.truncated,
        Field.oneOf]⟩
    · exact absurd rfl cut

theorem strictFlag_hasLayout (name : String) :
    (strictFlag name).HasLayout fun _ => [.oneOf name [0, 1]] := by
  refine refine_byte_hasLayout name (fun value => ?_) _
  split <;> simp_all

end Codec

theorem TransferFlag.ofCode_accepts_iff (code : UInt8) :
    (∃ flag, TransferFlag.ofCode code = .ok flag) ↔ code ∈ [1, 2, 4, 5] := by
  unfold TransferFlag.ofCode
  split <;> simp_all

theorem TransferOperation.ofCode_accepts_iff (code : UInt8) :
    (∃ operation, TransferOperation.ofCode code = .ok operation) ↔ code ∈ [0, 1] := by
  unfold TransferOperation.ofCode
  split <;> simp_all

theorem StringType.ofCode_accepts_iff (code : UInt8) :
    (∃ type, StringType.ofCode code = .ok type) ↔ code ∈ [0, 1, 2, 3, 4, 5] := by
  unfold StringType.ofCode
  split <;> simp_all

/-! ## Versions and components -/

/-- A type byte, a length byte and as many bytes as it says. -/
def VersionString.fields : Layout := fun length =>
  [.oneOf "version string type" [0, 1, 2, 3, 4, 5], .oneOf "version string length" [length],
    .any "version string" length.toNat]

def ComponentIdentity.fields : List Field :=
  [.any "component classification" 2, .any "component identifier" 2,
    .any "component classification index" 1, .any "component comparison stamp" 4]

theorem VersionString.fits_fields {length : UInt8} {bytes : Bytes} :
    Fits (fields length) bytes ↔ ∃ type ∈ ([0, 1, 2, 3, 4, 5] : List UInt8), ∃ text,
      bytes = type :: length :: text ∧ text.length = length.toNat := by
  simp only [fields, fits_oneOf_cons, fits_any]
  constructor
  · rintro ⟨type, member, _, rfl, _, single, text, rfl, width⟩
    obtain rfl := List.mem_singleton.mp single
    exact ⟨type, member, text, rfl, width⟩
  · rintro ⟨type, member, text, rfl, width⟩
    exact ⟨type, member, _, rfl, length, List.mem_singleton_self length, text, rfl, width⟩

theorem VersionString.read_cons (type length : UInt8) (rest : Bytes) :
    codec.read (type :: length :: rest) = (do
      let type ← StringType.ofCode type
      let (text, rest) ← takeField "version string" length.toNat rest
      return (⟨type, text⟩, rest)) := by
  cases known : StringType.ofCode type <;>
    simp [codec, lead, Codec.followedBy, Codec.refine, Codec.read_byte, known, bind, Except.bind,
      pure, Except.pure]

theorem VersionString.codec_hasLayout : codec.HasLayout fields where
  whole := by
    intro length _ fits rest
    obtain ⟨type, member, text, rfl, width⟩ := fits_fields.mp fits
    obtain ⟨encoding, known⟩ := (StringType.ofCode_accepts_iff type).mpr member
    refine ⟨⟨encoding, text⟩, ?_⟩
    simp [read_cons, known, ← width, takeField_append, bind, Except.bind, pure, Except.pure]
  only := by
    intro bytes version rest read
    obtain ⟨accepted, bytes_eq⟩ := codec_exact bytes version rest read
    have fits : version.bytes.length < 256 := by
      simpa [codec] using accepted
    have width : version.bytes.length = (UInt8.ofNat version.bytes.length).toNat :=
      (UInt8.toNat_ofNat_of_lt' fits).symm
    have member : version.type.code ∈ ([0, 1, 2, 3, 4, 5] : List UInt8) :=
      (StringType.ofCode_accepts_iff _).mp ⟨_, StringType.ofCode_code version.type⟩
    have pieces_eq : Piece.join (codec.pieces version) =
        version.type.code :: UInt8.ofNat version.bytes.length :: version.bytes := by
      simp [codec, lead, Codec.followedBy, Codec.refine, Codec.byte, Codec.as, Codec.unsigned,
        Piece.join, littleEndian]
    exact ⟨_, _, bytes_eq, fits_fields.mpr ⟨_, member, _, pieces_eq, width⟩⟩
  cut := by
    intro length part lost fits cut
    obtain ⟨type, member, text, whole_eq, width⟩ := fits_fields.mp fits
    rcases part with _ | ⟨byte, _ | ⟨count, part⟩⟩
    · exact ⟨_, _, rfl, rfl⟩
    · obtain ⟨rfl, -⟩ := List.cons.inj whole_eq
      obtain ⟨encoding, known⟩ := (StringType.ofCode_accepts_iff byte).mpr member
      refine ⟨_, _, rfl, ?_⟩
      simp [codec, lead, Codec.followedBy, Codec.refine, Codec.read_byte, known,
        Codec.read_byte_nil, bind, Except.bind, pure, Except.pure, Field.truncated, Field.oneOf]
    · obtain ⟨rfl, count_eq⟩ := List.cons.inj whole_eq
      obtain ⟨rfl, text_eq⟩ := List.cons.inj count_eq
      obtain ⟨encoding, known⟩ := (StringType.ofCode_accepts_iff byte).mpr member
      obtain ⟨missing, failed⟩ :=
        Codec.takeField_cut "version string" ((congrArg List.length text_eq).trans width) cut
      refine ⟨_, _, missing, ?_⟩
      simp [read_cons, known, failed, bind, Except.bind]

theorem ComponentIdentity.codec_hasLayout : codec.HasLayout fun _ => fields :=
  (Codec.word16_hasLayout _).followedBy ((Codec.word16_hasLayout _).followedBy <|
    (Codec.byte_hasLayout _).followedBy (Codec.word32_hasLayout _)) |>.as _ _

/-! ## Layouts of the bodies -/

def RequestUpdateRequest.layout : Layout := fun length =>
  [.any "maximum transfer size" 4, .any "number of components" 2,
    .any "maximum outstanding requests" 1, .any "package data length" 2] ++
  VersionString.fields length

def RequestUpdateResponse.layout : Layout := fun _ =>
  [.any "device metadata length" 2, .any "will send package data" 1]

def PassComponentTableRequest.layout : Layout := fun length =>
  [.oneOf "transfer flag" [1, 2, 4, 5]] ++ ComponentIdentity.fields ++ VersionString.fields length

def PassComponentTableResponse.layout : Layout := fun _ =>
  [.any "component response" 1, .any "component response code" 1]

def UpdateComponentRequest.layout : Layout := fun length =>
  ComponentIdentity.fields ++ [.any "component image size" 4, .any "update option flags" 4] ++
  VersionString.fields length

def UpdateComponentResponse.layout : Layout := fun _ =>
  [.any "compatibility response" 1, .any "compatibility response code" 1,
    .any "update option flags enabled" 4, .any "time before request fw data" 2]

def RequestFirmwareDataRequest.layout : Layout := fun _ => [.any "offset" 4, .any "length" 4]

def TransferCompleteRequest.layout : Layout := fun _ => [.any "transfer result" 1]

def VerifyCompleteRequest.layout : Layout := fun _ => [.any "verify result" 1]

def ApplyCompleteRequest.layout : Layout := fun _ =>
  [.any "apply result" 1, .any "activation methods modification" 2]

def ActivateFirmwareRequest.layout : Layout := fun _ =>
  [.oneOf "self-contained activation request" [0, 1]]

def ActivateFirmwareResponse.layout : Layout := fun _ => [.any "estimated activation time" 2]

def GetPackageDataRequest.layout : Layout := fun _ =>
  [.any "data transfer handle" 4, .oneOf TransferOperation.field [0, 1]]

/-- What stands before the portion. -/
def GetPackageDataResponse.head : List Field :=
  [.any "next data transfer handle" 4, .oneOf "transfer flag" [1, 2, 4, 5]]

def CancelUpdateResponse.layout : Layout := fun _ =>
  [.any "non-functioning component indication" 1, .any "non-functioning component bitmap" 8]

namespace Body

/-- The bytes of a body say where it ends. A byte string is accepted if it fits the layout, and so
does whatever is written. Of a string that fits, every proper prefix is reported with the field at
which it breaks off, and everything behind it is reported with its length. -/
structure Delimited (α : Type) [Body α] (layout : Layout) : Prop where
  accepts_iff : ∀ bytes, (∃ body, decode α bytes = .ok body) ↔ ∃ length, Fits (layout length) bytes
  written : ∀ (body : α) bytes, encode body = .ok bytes → ∃ length, Fits (layout length) bytes
  truncated : ∀ length part lost, Fits (layout length) (part ++ lost) → lost ≠ [] →
    ∃ field left, firstMissing (layout length) part.length = some (field, left) ∧
      decode α part = .error (field.truncated left)
  surplus : ∀ length bytes surplus, Fits (layout length) bytes → surplus ≠ [] →
    decode α (bytes ++ surplus) = .error (.trailingBytes (message α) surplus.length)
  prefixFree : ∀ bytes surplus (body longer : α), decode α bytes = .ok body →
    decode α (bytes ++ surplus) = .ok longer → surplus = []

/-- The bytes of a body begin with fields that take up `width` bytes. All that follows them belongs
to the body. -/
structure OpenEnded (α : Type) [Body α] (fields : List Field) (width : Nat) (rest : α → Bytes) :
    Prop where
  truncated : ∀ bytes, bytes.length < width →
    ∃ field left, firstMissing fields bytes.length = some (field, left) ∧
      decode α bytes = .error (field.truncated left)
  accepted : ∀ front tail, Fits fields front →
    ∃ body : α, decode α (front ++ tail) = .ok body ∧ rest body = tail
  only : ∀ bytes (body : α), decode α bytes = .ok body →
    ∃ front, bytes = front ++ rest body ∧ Fits fields front

variable {α : Type} [Body α] {layout : Layout}

theorem decode_of_read {bytes rest : Bytes} {body : α}
    (read : (codec : Codec α).read bytes = .ok (body, rest)) :
    decode α bytes =
      if rest.isEmpty then .ok body else .error (.trailingBytes (message α) rest.length) := by
  simp only [decode, Codec.readAll, read, bind, Except.bind]
  rfl

theorem Delimited.of_hasLayout [FaithfulBody α]
    (laid : (codec : Codec α).HasLayout layout) : Delimited α layout := by
  have fits_of_decode : ∀ bytes (body : α), decode α bytes = .ok body →
      ∃ length, Fits (layout length) bytes := by
    intro bytes body decoded
    obtain ⟨length, front, bytes_eq, fits⟩ := laid.only _ _ _ (Codec.read_of_readAll decoded)
    rw [List.append_nil] at bytes_eq
    exact ⟨length, bytes_eq ▸ fits⟩
  have surplus : ∀ length bytes surplus, Fits (layout length) bytes → surplus ≠ [] →
      decode α (bytes ++ surplus) = .error (.trailingBytes (message α) surplus.length) := by
    intro length bytes surplus fits more
    obtain ⟨body, read⟩ := laid.whole length bytes fits surplus
    rw [decode_of_read read, if_neg (mt List.isEmpty_iff.mp more)]
  refine ⟨fun bytes => ⟨?_, ?_⟩, ?_, ?_, surplus, ?_⟩
  · rintro ⟨body, decoded⟩
    exact fits_of_decode bytes body decoded
  · rintro ⟨length, fits⟩
    obtain ⟨body, read⟩ := laid.whole length bytes fits []
    rw [List.append_nil] at read
    exact ⟨body, decode_of_read read⟩
  · exact fun body bytes written => fits_of_decode bytes body (decode_encode written)
  · intro length part lost fits cut
    obtain ⟨field, left, missing, failed⟩ := laid.cut length part lost fits cut
    exact ⟨field, left, missing, by simp [decode, Codec.readAll, failed, bind, Except.bind]⟩
  · intro bytes rest body longer decoded decoded'
    obtain ⟨length, fits⟩ := fits_of_decode bytes body decoded
    refine Decidable.byContradiction fun more => ?_
    rw [surplus length bytes rest fits more] at decoded'
    cases decoded'

end Body

namespace GetPackageDataResponse

/-- The fields before the portion. -/
def headCodec : Codec (UInt32 × TransferFlag) :=
  (Codec.word32 "next data transfer handle").followedBy
    ((Codec.byte "transfer flag").refine TransferFlag.ofCode TransferFlag.code)

theorem headCodec_hasLayout : headCodec.HasLayout fun _ => head :=
  (Codec.word32_hasLayout _).followedBy
    (Codec.refine_byte_hasLayout _ TransferFlag.ofCode_accepts_iff _)

theorem decode_eq (bytes : Bytes) :
    Body.decode GetPackageDataResponse bytes = (do
      let ((handle, transferFlag), portion) ← headCodec.read bytes
      return ⟨handle, transferFlag, portion⟩) := by
  change ((((Codec.word32 _).followedBy
    (((Codec.byte _).refine _ _).followedBy (Codec.remainder _))).as _ _).read bytes >>= _) = _
  cases handle_read : (Codec.word32 "next data transfer handle").read bytes with
  | error _ =>
    simp [headCodec, Codec.as, Codec.followedBy, handle_read, bind, Except.bind]
  | ok handle =>
    cases flag_read : ((Codec.byte "transfer flag").refine TransferFlag.ofCode
        TransferFlag.code).read handle.2 <;>
      simp [headCodec, Codec.as, Codec.followedBy, Codec.remainder, handle_read, flag_read, bind,
        Except.bind, pure, Except.pure]

theorem openEnded : Body.OpenEnded GetPackageDataResponse head 5 portion where
  truncated := by
    intro bytes short
    have fits : Fits head (bytes ++ (List.replicate (4 - bytes.length) 0 ++ [1])) := by
      rw [← List.append_assoc]
      change Fits ([_] ++ [_]) _
      refine fits_append.mpr ⟨_, [1], rfl, fits_any.mpr ?_, fits_oneOf.mpr ?_⟩
      · rw [List.length_append, List.length_replicate]
        omega
      · exact ⟨1, by decide, rfl⟩
    obtain ⟨field, left, missing, failed⟩ := headCodec_hasLayout.cut 0 bytes _ fits (by simp)
    exact ⟨field, left, missing, by simp [decode_eq, failed, bind, Except.bind]⟩
  accepted := by
    intro front tail fits
    obtain ⟨⟨handle, transferFlag⟩, read⟩ := headCodec_hasLayout.whole 0 front fits tail
    refine ⟨⟨handle, transferFlag, tail⟩, ?_, rfl⟩
    simp [decode_eq, read, bind, Except.bind, pure, Except.pure]
  only := by
    intro bytes body decoded
    rw [decode_eq] at decoded
    obtain ⟨⟨parts, rest⟩, read, built⟩ := bind_eq_ok.mp decoded
    cases built
    obtain ⟨_, front, bytes_eq, fits⟩ := headCodec_hasLayout.only _ _ _ read
    exact ⟨front, bytes_eq, fits⟩

end GetPackageDataResponse

/-- The bytes of every body but one say where it ends: what is accepted is described by the layout,
no accepted string begins with another, and a cut or an addition is always noticed and located. A
part of package data has fields of five bytes, and whatever follows them is its portion. -/
theorem body_delimited :
    Body.Delimited RequestUpdateRequest RequestUpdateRequest.layout ∧
    Body.Delimited RequestUpdateResponse RequestUpdateResponse.layout ∧
    Body.Delimited PassComponentTableRequest PassComponentTableRequest.layout ∧
    Body.Delimited PassComponentTableResponse PassComponentTableResponse.layout ∧
    Body.Delimited UpdateComponentRequest UpdateComponentRequest.layout ∧
    Body.Delimited UpdateComponentResponse UpdateComponentResponse.layout ∧
    Body.Delimited RequestFirmwareDataRequest RequestFirmwareDataRequest.layout ∧
    Body.Delimited TransferCompleteRequest TransferCompleteRequest.layout ∧
    Body.Delimited VerifyCompleteRequest VerifyCompleteRequest.layout ∧
    Body.Delimited ApplyCompleteRequest ApplyCompleteRequest.layout ∧
    Body.Delimited ActivateFirmwareRequest ActivateFirmwareRequest.layout ∧
    Body.Delimited ActivateFirmwareResponse ActivateFirmwareResponse.layout ∧
    Body.Delimited GetPackageDataRequest GetPackageDataRequest.layout ∧
    Body.OpenEnded GetPackageDataResponse GetPackageDataResponse.head 5
      GetPackageDataResponse.portion ∧
    Body.Delimited CancelUpdateResponse CancelUpdateResponse.layout := by
  open Codec in
  refine ⟨.of_hasLayout <| ((word32_hasLayout _).followedBy <| (word16_hasLayout _).followedBy <|
      (byte_hasLayout _).followedBy <|
      (word16_hasLayout _).followedBy VersionString.codec_hasLayout).as _ _,
    .of_hasLayout <| ((word16_hasLayout _).followedBy (flag_hasLayout _)).as _ _,
    .of_hasLayout <| ((refine_byte_hasLayout _ TransferFlag.ofCode_accepts_iff _).followedBy <|
      ComponentIdentity.codec_hasLayout.followedBy VersionString.codec_hasLayout).as _ _,
    .of_hasLayout <| ((byte_hasLayout _).followedBy (byte_hasLayout _)).as _ _,
    .of_hasLayout <| (ComponentIdentity.codec_hasLayout.followedBy <|
      (word32_hasLayout _).followedBy <| (word32_hasLayout _).followedBy
      VersionString.codec_hasLayout).as _ _,
    .of_hasLayout <| ((byte_hasLayout _).followedBy <| (byte_hasLayout _).followedBy <|
      (word32_hasLayout _).followedBy (word16_hasLayout _)).as _ _,
    .of_hasLayout <| ((word32_hasLayout _).followedBy (word32_hasLayout _)).as _ _,
    .of_hasLayout <| (byte_hasLayout _).as _ _,
    .of_hasLayout <| (byte_hasLayout _).as _ _,
    .of_hasLayout <| ((byte_hasLayout _).followedBy (word16_hasLayout _)).as _ _,
    .of_hasLayout <| (strictFlag_hasLayout _).as _ _,
    .of_hasLayout <| (word16_hasLayout _).as _ _,
    .of_hasLayout <| ((word32_hasLayout _).followedBy
      (refine_byte_hasLayout _ TransferOperation.ofCode_accepts_iff _)).as _ _,
    GetPackageDataResponse.openEnded,
    .of_hasLayout <| ((flag_hasLayout _).followedBy (word64_hasLayout _)).as _ _⟩

end FirmwareAgent
