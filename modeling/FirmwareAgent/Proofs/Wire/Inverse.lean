import FirmwareAgent.Proofs.Wire.RoundTrip

/-!
# Bodies and byte strings

Writing a body and reading one are inverse to each other. Reading back what was written is
`Codec.Faithful`; the other direction is `Codec.Exact`: a byte string that is read is the written
form of what was read. It is handed on by the same combinators, so again a body has it because its
fields do. A codec with an open end takes all that follows, and is read back only at the end of a
body (`Codec.Closes`).

* `body_inverse`: both directions for every body. A version of more than 255 bytes is the only thing
  that cannot be written, a lenient truth value the only thing that is written otherwise than read.
-/

namespace FirmwareAgent

theorem takeField_eq_ok {field : String} {count : Nat} {bytes taken rest : Bytes}
    (read : takeField field count bytes = .ok (taken, rest)) :
    taken.length = count ∧ bytes = taken ++ rest := by
  unfold takeField at read
  split at read
  · rename_i enough
    cases read
    constructor
    · exact List.length_take_of_le enough
    · exact (List.take_append_drop count bytes).symm
  · cases read

namespace Codec

variable {α β : Type}

/-- What is read has a written form, and that is what was read. -/
def Exact (codec : Codec α) : Prop :=
  ∀ bytes value rest, codec.read bytes = .ok (value, rest) →
    codec.check value = .ok () ∧ bytes = Piece.join (codec.pieces value) ++ rest

/-- A value is read back if nothing follows its written form. -/
def Closes (codec : Codec α) : Prop :=
  ∀ value, codec.check value = .ok () →
    codec.read (Piece.join (codec.pieces value)) = .ok (value, [])

/-! ## What a codec reads -/

theorem read_followedBy {first : Codec α} {second : Codec β} {bytes rest : Bytes} {value : α × β}
    (read : (first.followedBy second).read bytes = .ok (value, rest)) :
    ∃ middle, first.read bytes = .ok (value.1, middle) ∧
      second.read middle = .ok (value.2, rest) := by
  obtain ⟨⟨a, middle⟩, one, others⟩ := bind_eq_ok.mp read
  obtain ⟨⟨b, last⟩, two, done⟩ := bind_eq_ok.mp others
  cases done
  exact ⟨middle, one, two⟩

theorem read_as {codec : Codec α} {build : α → β} {parts : β → α} {bytes rest : Bytes} {value : β}
    (read : (codec.as build parts).read bytes = .ok (value, rest)) :
    ∃ a, codec.read bytes = .ok (a, rest) ∧ build a = value := by
  obtain ⟨⟨a, last⟩, inner, done⟩ := bind_eq_ok.mp read
  cases done
  exact ⟨a, inner, rfl⟩

theorem read_refine {codec : Codec α} {build : α → Except WireError β} {parts : β → α}
    {bytes rest : Bytes} {value : β}
    (read : (codec.refine build parts).read bytes = .ok (value, rest)) :
    ∃ a, codec.read bytes = .ok (a, rest) ∧ build a = .ok value := by
  obtain ⟨⟨a, last⟩, inner, others⟩ := bind_eq_ok.mp read
  obtain ⟨b, built, done⟩ := bind_eq_ok.mp others
  cases done
  exact ⟨a, inner, built⟩

theorem read_unsigned {width value : Nat} {field : String} {bytes rest : Bytes}
    (read : (unsigned width field).read bytes = .ok (value, rest)) :
    value < Nat.pow 256 width ∧ bytes = littleEndian width value ++ rest := by
  obtain ⟨⟨taken, last⟩, inner, done⟩ := bind_eq_ok.mp read
  cases done
  obtain ⟨rfl, rfl⟩ := takeField_eq_ok inner
  rw [littleEndian_ofLittleEndian]
  exact ⟨ofLittleEndian_lt taken, rfl⟩

theorem read_of_readAll {codec : Codec α} {message : String} {bytes : Bytes} {value : α}
    (read : codec.readAll message bytes = .ok value) : codec.read bytes = .ok (value, []) := by
  obtain ⟨⟨a, rest⟩, inner, ends⟩ := bind_eq_ok.mp read
  cases rest with
  | nil =>
    cases ends
    exact inner
  | cons byte rest => cases ends

/-! ## Codecs that are exact -/

theorem unsigned_exact (width : Nat) (field : String) : (unsigned width field).Exact := by
  intro bytes value rest read
  obtain ⟨_, bytes_eq⟩ := read_unsigned read
  exact ⟨rfl, by simpa [unsigned, Piece.join] using bytes_eq⟩

theorem Exact.as {codec : Codec α} {build : α → β} {parts : β → α} (inner : codec.Exact)
    (rebuilt : ∀ bytes a rest, codec.read bytes = .ok (a, rest) → parts (build a) = a) :
    (codec.as build parts).Exact := by
  intro bytes value rest read
  obtain ⟨a, inner_read, rfl⟩ := read_as read
  show codec.check (parts (build a)) = _ ∧ bytes = Piece.join (codec.pieces (parts (build a))) ++ _
  rw [rebuilt bytes a rest inner_read]
  exact inner bytes a rest inner_read

theorem Exact.refine {codec : Codec α} {build : α → Except WireError β} {parts : β → α}
    (inner : codec.Exact) (rebuilt : ∀ a b, build a = .ok b → parts b = a) :
    (codec.refine build parts).Exact := by
  intro bytes value rest read
  obtain ⟨a, inner_read, built⟩ := read_refine read
  show codec.check (parts value) = _ ∧ bytes = Piece.join (codec.pieces (parts value)) ++ _
  rw [rebuilt a value built]
  exact inner bytes a rest inner_read

theorem Exact.followedBy {first : Codec α} {second : Codec β} (one : first.Exact)
    (two : second.Exact) : (first.followedBy second).Exact := by
  rintro bytes ⟨a, b⟩ rest read
  obtain ⟨middle, read_a, read_b⟩ := read_followedBy read
  obtain ⟨accepted_a, bytes_eq⟩ := one bytes a middle read_a
  obtain ⟨accepted_b, middle_eq⟩ := two middle b rest read_b
  constructor
  · simp [Codec.followedBy, accepted_a, accepted_b, bind, Except.bind]
  · rw [bytes_eq, middle_eq]
    simp [Codec.followedBy, Piece.join_append]

theorem byte_exact (field : String) : (byte field).Exact :=
  .as (unsigned_exact 1 field) fun _ _ _ read => UInt8.toNat_ofNat_of_lt' (read_unsigned read).1

theorem word16_exact (field : String) : (word16 field).Exact :=
  .as (unsigned_exact 2 field) fun _ _ _ read => UInt16.toNat_ofNat_of_lt' (read_unsigned read).1

theorem word32_exact (field : String) : (word32 field).Exact :=
  .as (unsigned_exact 4 field) fun _ _ _ read => UInt32.toNat_ofNat_of_lt' (read_unsigned read).1

theorem word64_exact (field : String) : (word64 field).Exact :=
  .as (unsigned_exact 8 field) fun _ _ _ read => UInt64.toNat_ofNat_of_lt' (read_unsigned read).1

theorem strictFlag_exact (field : String) : (strictFlag field).Exact := by
  refine .refine (byte_exact field) fun value flag read => ?_
  split at read <;> cases read <;> rfl

theorem remainder_exact (field : String) : (remainder field).Exact := by
  intro bytes value rest read
  cases read
  exact ⟨rfl, by simp [remainder, Piece.join]⟩

/-- A lenient truth value takes one byte, whatever it is. -/
theorem read_flag {field : String} {bytes rest : Bytes} {value : Bool}
    (read : (flag field).read bytes = .ok (value, rest)) :
    ∃ byte, bytes = byte :: rest ∧ value = (byte != 0) := by
  obtain ⟨byte, inner, rfl⟩ := read_as read
  obtain ⟨_, bytes_eq⟩ := byte_exact field bytes byte rest inner
  refine ⟨byte, ?_, rfl⟩
  simpa [Codec.byte, Codec.as, unsigned, Piece.join, littleEndian] using bytes_eq

/-! ## Codecs that are read back at the end of a body -/

theorem Faithful.closes {codec : Codec α} (faithful : codec.Faithful) : codec.Closes := by
  intro value accepted
  have read := faithful value accepted []
  rwa [List.append_nil] at read

theorem remainder_closes (field : String) : (remainder field).Closes := by
  intro value _
  simp [remainder, Piece.join]

theorem Closes.after {first : Codec α} {second : Codec β} (one : first.Faithful)
    (two : second.Closes) : (first.followedBy second).Closes := by
  rintro ⟨a, b⟩ accepted
  obtain ⟨_, accepted_a, accepted_b⟩ := bind_eq_ok.mp accepted
  simp [Codec.followedBy, Piece.join_append, one a accepted_a _, two b accepted_b, bind,
    Except.bind, pure, Except.pure]

theorem Closes.as {codec : Codec α} {build : α → β} {parts : β → α} (inner : codec.Closes)
    (rebuilt : ∀ value, build (parts value) = value) : (codec.as build parts).Closes := by
  intro value accepted
  simp [Codec.as, inner (parts value) accepted, rebuilt, bind, Except.bind, pure, Except.pure]

/-- Whatever passes the check is written, and read from exactly what was written. -/
theorem Closes.written {codec : Codec α} {value : α} (closes : codec.Closes) (message : String)
    (accepted : codec.check value = .ok ()) :
    ∃ bytes, codec.write value = .ok bytes ∧ codec.readAll message bytes = .ok value := by
  refine ⟨Piece.join (codec.pieces value), ?_, ?_⟩
  · simp [write, accepted, bind, Except.bind, pure, Except.pure]
  · simp [readAll, closes value accepted, bind, Except.bind, pure, Except.pure]

/-- What was read in one piece is written again as it was. -/
theorem Exact.rewritten {codec : Codec α} {message : String} {bytes : Bytes} {value : α}
    (exact : codec.Exact) (read : codec.readAll message bytes = .ok value) :
    codec.write value = .ok bytes := by
  obtain ⟨accepted, bytes_eq⟩ := exact bytes value [] (read_of_readAll read)
  rw [List.append_nil] at bytes_eq
  simp [write, accepted, bytes_eq, bind, Except.bind, pure, Except.pure]

end Codec

theorem VersionString.codec_exact : VersionString.codec.Exact := by
  intro bytes version rest read
  obtain ⟨⟨⟨type, length⟩, middle⟩, lead_read, others⟩ := bind_eq_ok.mp read
  obtain ⟨⟨text, last⟩, text_read, done⟩ := bind_eq_ok.mp others
  cases done
  obtain ⟨length_eq, middle_eq⟩ := takeField_eq_ok text_read
  have lead_exact : lead.Exact :=
    .followedBy (.refine (Codec.byte_exact _) fun _ _ => StringType.code_of_ofCode)
      (Codec.byte_exact _)
  obtain ⟨_, bytes_eq⟩ := lead_exact bytes (type, length) middle lead_read
  have fits : text.length < 256 := length_eq ▸ length.toNat_lt
  have length_byte : UInt8.ofNat text.length = length := by simp [length_eq]
  constructor
  · simp [codec, fits]
  · rw [bytes_eq, middle_eq]
    simp [codec, length_byte, Piece.join]

theorem ComponentIdentity.codec_exact : ComponentIdentity.codec.Exact :=
  .as (.followedBy (Codec.word16_exact _) <| .followedBy (Codec.word16_exact _) <|
    .followedBy (Codec.byte_exact _) (Codec.word32_exact _)) fun _ _ _ _ => rfl

/-! ## Bodies -/

/-- A body that is the only one with its written form. -/
class ExactBody (α : Type) [Body α] : Prop where
  exact : (Body.codec : Codec α).Exact

theorem encode_decode {α : Type} [Body α] [ExactBody α] {body : α} {bytes : Bytes}
    (read : Body.decode α bytes = .ok body) : Body.encode body = .ok bytes :=
  ExactBody.exact.rewritten read

instance : ExactBody RequestUpdateRequest where
  exact := .as (.followedBy (Codec.word32_exact _) <| .followedBy (Codec.word16_exact _) <|
    .followedBy (Codec.byte_exact _) <|
    .followedBy (Codec.word16_exact _) VersionString.codec_exact) fun _ _ _ _ => rfl

instance : ExactBody PassComponentTableRequest where
  exact := .as (.followedBy
    (.refine (Codec.byte_exact _) fun _ _ => TransferFlag.code_of_ofCode) <|
    .followedBy ComponentIdentity.codec_exact VersionString.codec_exact) fun _ _ _ _ => rfl

instance : ExactBody PassComponentTableResponse where
  exact := .as (.followedBy (Codec.byte_exact _) (Codec.byte_exact _)) fun _ _ _ _ => rfl

instance : ExactBody UpdateComponentRequest where
  exact := .as (.followedBy ComponentIdentity.codec_exact <|
    .followedBy (Codec.word32_exact _) <|
    .followedBy (Codec.word32_exact _) VersionString.codec_exact) fun _ _ _ _ => rfl

instance : ExactBody UpdateComponentResponse where
  exact := .as (.followedBy (Codec.byte_exact _) <| .followedBy (Codec.byte_exact _) <|
    .followedBy (Codec.word32_exact _) (Codec.word16_exact _)) fun _ _ _ _ => rfl

instance : ExactBody RequestFirmwareDataRequest where
  exact := .as (.followedBy (Codec.word32_exact _) (Codec.word32_exact _)) fun _ _ _ _ => rfl

instance : ExactBody TransferCompleteRequest where
  exact := .as (Codec.byte_exact _) fun _ _ _ _ => rfl

instance : ExactBody VerifyCompleteRequest where
  exact := .as (Codec.byte_exact _) fun _ _ _ _ => rfl

instance : ExactBody ApplyCompleteRequest where
  exact := .as (.followedBy (Codec.byte_exact _) (Codec.word16_exact _)) fun _ _ _ _ => rfl

instance : ExactBody ActivateFirmwareRequest where
  exact := .as (Codec.strictFlag_exact _) fun _ _ _ _ => rfl

instance : ExactBody ActivateFirmwareResponse where
  exact := .as (Codec.word16_exact _) fun _ _ _ _ => rfl

instance : ExactBody GetPackageDataRequest where
  exact := .as (.followedBy (Codec.word32_exact _)
    (.refine (Codec.byte_exact _) fun _ _ => TransferOperation.code_of_ofCode)) fun _ _ _ _ => rfl

instance : ExactBody GetPackageDataResponse where
  exact := .as (.followedBy (Codec.word32_exact _) <|
    .followedBy (.refine (Codec.byte_exact _) fun _ _ => TransferFlag.code_of_ofCode)
      (Codec.remainder_exact _)) fun _ _ _ _ => rfl

theorem getPackageDataResponse_closes : (Body.codec : Codec GetPackageDataResponse).Closes :=
  .as (.after (Codec.word32_faithful _) <|
    .after (.refine (Codec.byte_faithful _) TransferFlag.ofCode_code)
      (Codec.remainder_closes _)) fun _ => rfl

/-! ## Truth values that are written otherwise than read -/

/-- Writes the truth value at a place as 0 or 1. -/
def normaliseFlag (place : Nat) (bytes : Bytes) : Bytes :=
  bytes.modify place fun byte => if byte = 0 then 0 else 1

theorem pieces_flag (field : String) (byte : UInt8) :
    Piece.join ((Codec.flag field).pieces (byte != 0)) = [if byte = 0 then 0 else 1] := by
  by_cases zero : byte = 0
  · subst zero
    rfl
  · have set : (byte != 0) = true := by simpa using zero
    rw [set, if_neg zero]
    rfl

theorem requestUpdateResponse_rewritten (bytes : Bytes) (body : RequestUpdateResponse)
    (read : Body.decode RequestUpdateResponse bytes = .ok body) :
    Body.encode body = .ok (normaliseFlag 2 bytes) := by
  obtain ⟨⟨length, willSend⟩, fields, rfl⟩ := Codec.read_as (Codec.read_of_readAll read)
  obtain ⟨middle, length_read, flag_read⟩ := Codec.read_followedBy fields
  obtain ⟨_, rfl⟩ := Codec.word16_exact _ _ _ _ length_read
  obtain ⟨byte, rfl, set⟩ := Codec.read_flag flag_read
  obtain rfl : willSend = (byte != 0) := set
  have written : Body.encode (⟨length, byte != 0⟩ : RequestUpdateResponse) =
      .ok (Piece.join ((Codec.word16 "device metadata length").pieces length ++
        (Codec.flag "will send package data").pieces (byte != 0))) := rfl
  refine written.trans ?_
  rw [Piece.join_append, pieces_flag]
  rfl

theorem cancelUpdateResponse_rewritten (bytes : Bytes) (body : CancelUpdateResponse)
    (read : Body.decode CancelUpdateResponse bytes = .ok body) :
    Body.encode body = .ok (normaliseFlag 0 bytes) := by
  obtain ⟨⟨indication, bitmap⟩, fields, rfl⟩ := Codec.read_as (Codec.read_of_readAll read)
  obtain ⟨middle, flag_read, bitmap_read⟩ := Codec.read_followedBy fields
  obtain ⟨byte, rfl, set⟩ := Codec.read_flag flag_read
  obtain ⟨_, rfl⟩ := Codec.word64_exact _ _ _ _ bitmap_read
  obtain rfl : indication = (byte != 0) := set
  have written : Body.encode (⟨byte != 0, bitmap⟩ : CancelUpdateResponse) =
      .ok (Piece.join ((Codec.flag "non-functioning component indication").pieces (byte != 0) ++
        (Codec.word64 "non-functioning component bitmap").pieces bitmap)) := rfl
  refine written.trans ?_
  rw [Piece.join_append, pieces_flag, List.append_nil]
  rfl

/-! ## Both directions -/

namespace Body

variable {α : Type} [Body α]

/-- Writing and reading bodies of a type are inverse to each other. A body may carry a version, and
the bytes of a body may be normalised when it is read and written again. -/
structure Inverse (α : Type) [Body α] (version? : α → Option VersionString)
    (normalise : Bytes → Bytes) : Prop where
  written : ∀ body : α, (∀ version ∈ version? body, version.bytes.length ≤ 255) →
    ∃ bytes, encode body = .ok bytes ∧ decode α bytes = .ok body
  tooLong : ∀ body : α, ∀ version ∈ version? body, 255 < version.bytes.length →
    encode body = .error (.fieldOverflow "version string length" version.bytes.length)
  rewritten : ∀ bytes (body : α), decode α bytes = .ok body → encode body = .ok (normalise bytes)

/-- A body without a version is always written. -/
theorem Inverse.unversioned {normalise : Bytes → Bytes} (closes : (codec : Codec α).Closes)
    (accepted : ∀ body : α, codec.check body = .ok ())
    (rewritten : ∀ bytes (body : α), decode α bytes = .ok body →
      encode body = .ok (normalise bytes)) : Inverse α (fun _ => none) normalise where
  written body _ := closes.written (message α) (accepted body)
  tooLong _ _ carried := nomatch carried
  rewritten := rewritten

theorem Inverse.plain [FaithfulBody α] [ExactBody α]
    (accepted : ∀ body : α, codec.check body = .ok ()) : Inverse α (fun _ => none) id :=
  .unversioned FaithfulBody.faithful.closes accepted fun _ _ => encode_decode

/-- A body with a version is written if the version can be. -/
theorem Inverse.versioned [FaithfulBody α] [ExactBody α] {version : α → VersionString}
    (checked : ∀ body : α, codec.check body = VersionString.codec.check (version body)) :
    Inverse α (fun body => some (version body)) id where
  written := by
    intro body short
    refine FaithfulBody.faithful.closes.written (message α) ?_
    rw [checked, VersionString.codec]
    exact if_pos (Nat.lt_succ_of_le (short _ rfl))
  tooLong := by
    intro body carried carries long
    cases carries
    have refused : (codec : Codec α).check body =
        .error (.fieldOverflow "version string length" (version body).bytes.length) := by
      rw [checked, VersionString.codec]
      exact if_neg (Nat.not_lt.mpr long)
    simp [encode, Codec.write, refused, bind, Except.bind]
  rewritten _ _ := encode_decode

end Body

/-- Every body whose version, if it carries one, has at most 255 bytes is written and read back. A
longer version is refused with its length. Every byte string that is read is written again as it
was, but for the truth values of two responses: of those any byte other than 0 becomes 1. -/
theorem body_inverse :
    Body.Inverse RequestUpdateRequest (some ·.imageSetVersion) id ∧
    Body.Inverse RequestUpdateResponse (fun _ => none) (normaliseFlag 2) ∧
    Body.Inverse PassComponentTableRequest (some ·.version) id ∧
    Body.Inverse PassComponentTableResponse (fun _ => none) id ∧
    Body.Inverse UpdateComponentRequest (some ·.version) id ∧
    Body.Inverse UpdateComponentResponse (fun _ => none) id ∧
    Body.Inverse RequestFirmwareDataRequest (fun _ => none) id ∧
    Body.Inverse TransferCompleteRequest (fun _ => none) id ∧
    Body.Inverse VerifyCompleteRequest (fun _ => none) id ∧
    Body.Inverse ApplyCompleteRequest (fun _ => none) id ∧
    Body.Inverse ActivateFirmwareRequest (fun _ => none) id ∧
    Body.Inverse ActivateFirmwareResponse (fun _ => none) id ∧
    Body.Inverse GetPackageDataRequest (fun _ => none) id ∧
    Body.Inverse GetPackageDataResponse (fun _ => none) id ∧
    Body.Inverse CancelUpdateResponse (fun _ => none) (normaliseFlag 0) := by
  refine ⟨.versioned fun _ => rfl, ?_, .versioned fun _ => rfl, .plain fun _ => rfl,
    .versioned fun _ => rfl, .plain fun _ => rfl, .plain fun _ => rfl, .plain fun _ => rfl,
    .plain fun _ => rfl, .plain fun _ => rfl, .plain fun _ => rfl, .plain fun _ => rfl,
    .plain fun _ => rfl, ?_, ?_⟩
  · exact .unversioned FaithfulBody.faithful.closes (fun _ => rfl) requestUpdateResponse_rewritten
  · exact .unversioned getPackageDataResponse_closes (fun _ => rfl) fun _ _ => encode_decode
  · exact .unversioned FaithfulBody.faithful.closes (fun _ => rfl) cancelUpdateResponse_rewritten

end FirmwareAgent
