import FirmwareAgent.Proofs.Wire.Inverse
import FirmwareAgent.Wire.Message
import Mathlib.Data.Nat.Bitwise

/-!
# Framing messages

A framed message is parsed as what was framed, and a byte string that is parsed is the frame of what
was parsed, up to what a frame does not carry: the high bits of the type one way, and the two bits of
the first byte that no reader looks at the other way. All of that is settled by the header, so
requests and responses have one description, `Framing`.

* `Header.read_toBytes` and `Header.read_eq_ok`: both directions for headers.
* `framing_inverse`: both directions for messages, which byte strings are messages, and that the
  response to a request is parsed as the one that was given.
-/

namespace FirmwareAgent

/-! ## What a frame carries -/

/-- The bytes with bits 6 and 5 of the first one cleared. They are not used. -/
def clearUnused (bytes : Bytes) : Bytes :=
  bytes.modify 0 (· &&& 0x9F)

/-- A byte string is long enough for a message, is of the only header version there is, and is
marked as a request or not. -/
structure IsFrame (isRequest : Bool) (shortest : Nat) (bytes : Bytes) : Prop where
  long : shortest ≤ bytes.length
  version : ∀ typeByte, bytes[1]? = some typeByte →
    typeByte.toNat.testBit 7 = false ∧ typeByte.toNat.testBit 6 = false
  direction : ∀ flags, bytes[0]? = some flags → flags.toNat.testBit 7 = isRequest

/-- Framing and parsing are inverse to each other, for messages of one kind and up to what a frame
does not carry. Of the type it carries six bits, and `reduced` leaves only those. -/
structure Framing {α : Type} (pldmType : α → UInt8) (reduced : α → α) (toBytes : α → Bytes)
    (ofBytes : Bytes → Except WireError α) (isRequest : Bool) (shortest : Nat) : Prop where
  parsed : ∀ message, pldmType message < 64 → ofBytes (toBytes message) = .ok message
  reduces : ∀ message, ofBytes (toBytes message) = .ok (reduced message)
  framed : ∀ bytes message, ofBytes bytes = .ok message → toBytes message = clearUnused bytes
  accepts_iff : ∀ bytes, (∃ message, ofBytes bytes = .ok message) ↔
    IsFrame isRequest shortest bytes

/-- The request with its type modulo 64. -/
def Request.reduced (request : Request) : Request :=
  { request with pldmType := request.pldmType % 64 }

/-- The response with its type modulo 64. -/
def Response.reduced (response : Response) : Response :=
  { response with pldmType := response.pldmType % 64 }

/-! ## The bits of a header -/

theorem mod_of_small (pldmType : UInt8) (small : pldmType < 64) : pldmType % 64 = pldmType :=
  UInt8.toNat_inj.mp (Nat.mod_eq_of_lt small)

/-! The numbers that the masks and the shift leave. -/

theorem toNat_and_63 (byte : UInt8) : (byte &&& 0x3F).toNat = byte.toNat % 64 :=
  Nat.and_two_pow_sub_one_eq_mod _ 6

theorem toNat_and_128 (byte : UInt8) :
    (byte &&& 0x80).toNat = (byte.toNat.testBit 7).toNat * 128 :=
  Nat.and_two_pow byte.toNat 7

theorem toNat_shiftRight_6 (byte : UInt8) : (byte >>> 6).toNat = byte.toNat / 64 :=
  Nat.shiftRight_eq_div_pow _ 6

namespace Header

/-- The first byte of a header. -/
def flagsOf (isRequest : Bool) (id : InstanceId) : UInt8 :=
  (if isRequest then 0x80 else 0) ||| id.toByte

theorem instanceIdOf_flagsOf : ∀ isRequest id, instanceIdOf (flagsOf isRequest id) = id := by
  decide

theorem direction_flagsOf : ∀ isRequest id, (flagsOf isRequest id &&& 0x80 != 0) = isRequest := by
  decide

theorem direction_eq_testBit (flags : UInt8) : (flags &&& 0x80 != 0) = flags.toNat.testBit 7 := by
  rw [Bool.eq_iff_iff, bne_iff_ne, ne_eq, ← UInt8.toNat_inj, toNat_and_128]
  cases flags.toNat.testBit 7 <;> simp

theorem toByte_instanceIdOf (flags : UInt8) : (instanceIdOf flags).toByte = flags &&& 0x1F := by
  refine UInt8.toNat_inj.mp ?_
  change flags.toNat % 32 % 256 = flags.toNat &&& 2 ^ 5 - 1
  rw [Nat.and_two_pow_sub_one_eq_mod]
  omega

/-- The first byte is written as it was read, but for the two bits between the direction and the
id. -/
theorem flagsOf_flags (flags : UInt8) :
    flagsOf (flags &&& 0x80 != 0) (instanceIdOf flags) = flags &&& 0x9F := by
  have marked : (if flags &&& 0x80 != 0 then (0x80 : UInt8) else 0) = flags &&& 0x80 := by
    refine UInt8.toNat_inj.mp ?_
    rw [direction_eq_testBit, toNat_and_128]
    cases flags.toNat.testBit 7 <;> rfl
  rw [flagsOf, marked, toByte_instanceIdOf]
  exact UInt8.toNat_inj.mp (Nat.and_or_distrib_left flags.toNat 0x80 0x1F).symm

/-- The type byte that is written has the right version. -/
theorem version_written (pldmType : UInt8) : (pldmType &&& 0x3F) >>> 6 = 0 := by
  refine UInt8.toNat_inj.mp ?_
  rw [toNat_shiftRight_6, toNat_and_63]
  exact Nat.div_eq_of_lt (Nat.mod_lt _ (by decide))

theorem type_written (pldmType : UInt8) : pldmType &&& 0x3F &&& 0x3F = pldmType % 64 := by
  refine UInt8.toNat_inj.mp ?_
  rw [toNat_and_63, toNat_and_63, Nat.mod_mod]
  rfl

/-- A type byte of the right version is written as it was read. -/
theorem type_read {typeByte : UInt8} (version : typeByte >>> 6 = 0) :
    typeByte &&& 0x3F &&& 0x3F = typeByte := by
  have high : typeByte.toNat / 64 = 0 :=
    (toNat_shiftRight_6 typeByte).symm.trans (congrArg UInt8.toNat version)
  have small : typeByte.toNat < 64 := by omega
  rw [type_written, mod_of_small typeByte small]

theorem type_lt (typeByte : UInt8) : typeByte &&& 0x3F < 64 := by
  change (typeByte &&& 0x3F).toNat < 64
  rw [toNat_and_63]
  exact Nat.mod_lt _ (by decide)

theorem version_eq_zero_iff (typeByte : UInt8) : typeByte >>> 6 = 0 ↔
    typeByte.toNat.testBit 7 = false ∧ typeByte.toNat.testBit 6 = false := by
  have bounded := typeByte.toNat_lt
  rw [← UInt8.toNat_inj, toNat_shiftRight_6, Nat.testBit_eq_decide_div_mod_eq,
    Nat.testBit_eq_decide_div_mod_eq, decide_eq_false_iff_not, decide_eq_false_iff_not]
  change _ / 64 = 0 ↔ _
  omega

/-! ## Headers -/

variable {bytes rest : Bytes} {header : Header}

/-- What the three bytes of a header say. -/
def ofParts (flags typeByte command : UInt8) : Header :=
  ⟨flags &&& 0x80 != 0, instanceIdOf flags, typeByte &&& 0x3F, command⟩

theorem bytesCodec_exact : bytesCodec.Exact :=
  .followedBy (Codec.byte_exact _) (.followedBy (Codec.byte_exact _) (Codec.byte_exact _))

theorem join_bytesCodec (flags typeByte command : UInt8) :
    Piece.join (bytesCodec.pieces (flags, typeByte, command)) = [flags, typeByte, command] := by
  simp [bytesCodec, Codec.followedBy, Codec.byte, Codec.as, Codec.unsigned, Piece.join,
    littleEndian]

theorem read_cons {flags typeByte command : UInt8} (version : typeByte >>> 6 = 0) :
    read (flags :: typeByte :: command :: rest) = .ok (ofParts flags typeByte command, rest) := by
  simp [read, bytesCodec, Codec.followedBy, Codec.read_byte, version, ofParts, bind, Except.bind,
    pure, Except.pure]

/-- A header is read off a byte string if there are three bytes and the second one has the right
version. -/
theorem read_eq_ok : read bytes = .ok (header, rest) ↔
    ∃ flags typeByte command, bytes = flags :: typeByte :: command :: rest ∧ typeByte >>> 6 = 0 ∧
      header = ofParts flags typeByte command := by
  constructor
  · intro parsed
    obtain ⟨⟨⟨flags, typeByte, command⟩, others⟩, parts, judged⟩ := bind_eq_ok.mp parsed
    obtain ⟨_, bytes_eq⟩ := bytesCodec_exact _ _ _ parts
    rw [join_bytesCodec] at bytes_eq
    dsimp only at judged
    split at judged
    · cases judged
    · rename_i version
      cases judged
      exact ⟨flags, typeByte, command, bytes_eq, Decidable.not_not.mp version, rfl⟩
  · rintro ⟨flags, typeByte, command, rfl, version, rfl⟩
    exact read_cons version

theorem pldmType_lt (parsed : read bytes = .ok (header, rest)) : header.pldmType < 64 := by
  obtain ⟨_, typeByte, _, _, _, rfl⟩ := read_eq_ok.mp parsed
  exact type_lt typeByte

/-- A header is read as it was written, but for the high bits of its type. -/
theorem read_toBytes (header : Header) (rest : Bytes) :
    read (header.toBytes ++ rest) =
      .ok ({ header with pldmType := header.pldmType % 64 }, rest) := by
  refine (read_cons (version_written header.pldmType)).trans ?_
  change Except.ok (ofParts (flagsOf header.isRequest header.instanceId) _ _, rest) = _
  rw [ofParts, instanceIdOf_flagsOf, direction_flagsOf, type_written]

/-- A header that was read is written as it was, but for the bits that are not used. -/
theorem toBytes_of_read (parsed : read bytes = .ok (header, rest)) :
    header.toBytes ++ rest = clearUnused bytes := by
  obtain ⟨flags, typeByte, command, rfl, version, rfl⟩ := read_eq_ok.mp parsed
  change flagsOf (flags &&& 0x80 != 0) (instanceIdOf flags) :: (typeByte &&& 0x3F &&& 0x3F) ::
    command :: rest = (flags &&& 0x9F) :: typeByte :: command :: rest
  rw [flagsOf_flags, type_read version]

/-- There is a header of a direction at the front of a byte string. -/
theorem exists_read_iff {isRequest : Bool} :
    (∃ header rest, read bytes = .ok (header, rest) ∧ header.isRequest = isRequest) ↔
      IsFrame isRequest 3 bytes := by
  constructor
  · rintro ⟨header, rest, parsed, direction⟩
    obtain ⟨flags, typeByte, command, rfl, version, rfl⟩ := read_eq_ok.mp parsed
    refine ⟨by simp, ?_, ?_⟩
    · rintro _ ⟨⟩
      exact (version_eq_zero_iff typeByte).mp version
    · rintro _ ⟨⟩
      exact (direction_eq_testBit flags).symm.trans direction
  · rintro ⟨long, version, direction⟩
    match bytes with
    | flags :: typeByte :: command :: rest =>
      have version := (version_eq_zero_iff typeByte).mpr (version typeByte rfl)
      exact ⟨_, rest, read_cons version,
        (direction_eq_testBit flags).trans (direction flags rfl)⟩

end Header

/-! ## Messages -/

/-- A byte string is a request if it starts with the header of one. -/
theorem Request.ofBytes_eq_ok {bytes : Bytes} {request : Request} :
    Request.ofBytes bytes = .ok request ↔
      Header.read bytes = .ok (request.header, request.payload) := by
  constructor
  · intro parsed
    obtain ⟨⟨⟨direction, id, type, command⟩, payload⟩, read, judged⟩ := bind_eq_ok.mp parsed
    cases direction with
    | true =>
      cases judged
      exact read
    | false => cases judged
  · intro read
    rw [Request.ofBytes, read]
    rfl

/-- A byte string is a response if it starts with the header of one and goes on with a completion
code. -/
theorem Response.ofBytes_eq_ok {bytes : Bytes} {response : Response} :
    Response.ofBytes bytes = .ok response ↔
      Header.read bytes = .ok (response.header, response.completionCode :: response.body) := by
  constructor
  · intro parsed
    obtain ⟨⟨⟨direction, id, type, command⟩, rest⟩, read, judged⟩ := bind_eq_ok.mp parsed
    cases direction with
    | true => cases judged
    | false =>
      obtain ⟨⟨code, body⟩, code_read, done⟩ := bind_eq_ok.mp judged
      cases done
      obtain ⟨_, rest_eq⟩ := Codec.byte_exact _ _ _ _ code_read
      rw [read, rest_eq]
      simp [Codec.byte, Codec.as, Codec.unsigned, Piece.join, littleEndian, Response.header]
  · intro read
    rw [Response.ofBytes, read]
    simp [Codec.read_byte, Response.header, bind, Except.bind, pure, Except.pure]

theorem Request.framing :
    Framing Request.pldmType Request.reduced Request.toBytes Request.ofBytes true 3 := by
  have reduces (request : Request) : Request.ofBytes request.toBytes = .ok request.reduced :=
    Request.ofBytes_eq_ok.mpr (Header.read_toBytes request.header request.payload)
  refine ⟨fun request small => ?_, reduces, fun bytes request parsed => ?_, fun bytes => ?_⟩
  · rw [reduces, Request.reduced, mod_of_small _ small]
  · exact Header.toBytes_of_read (Request.ofBytes_eq_ok.mp parsed)
  · rw [← Header.exists_read_iff]
    constructor
    · rintro ⟨request, parsed⟩
      exact ⟨request.header, request.payload, Request.ofBytes_eq_ok.mp parsed, rfl⟩
    · rintro ⟨⟨_, id, type, command⟩, payload, read, rfl⟩
      exact ⟨⟨id, type, command, payload⟩, Request.ofBytes_eq_ok.mpr read⟩

theorem Response.framing :
    Framing Response.pldmType Response.reduced Response.toBytes Response.ofBytes false 4 := by
  have reduces (response : Response) : Response.ofBytes response.toBytes = .ok response.reduced :=
    Response.ofBytes_eq_ok.mpr
      (Header.read_toBytes response.header (response.completionCode :: response.body))
  refine ⟨fun response small => ?_, reduces, fun bytes response parsed => ?_, fun bytes => ?_⟩
  · rw [reduces, Response.reduced, mod_of_small _ small]
  · exact Header.toBytes_of_read (Response.ofBytes_eq_ok.mp parsed)
  · constructor
    · rintro ⟨response, parsed⟩
      have read := Response.ofBytes_eq_ok.mp parsed
      obtain ⟨_, version, direction⟩ := Header.exists_read_iff.mp ⟨_, _, read, rfl⟩
      refine ⟨?_, version, direction⟩
      obtain ⟨flags, typeByte, command, rfl, _⟩ := Header.read_eq_ok.mp read
      simp
    · rintro ⟨long, version, direction⟩
      obtain ⟨⟨_, id, type, command⟩, rest, read, rfl⟩ :=
        Header.exists_read_iff.mpr ⟨Nat.le_of_succ_le long, version, direction⟩
      -- The fourth byte is the completion code.
      obtain ⟨_, _, _, rfl, _⟩ := Header.read_eq_ok.mp read
      match rest with
      | code :: body => exact ⟨⟨id, type, command, code, body⟩, Response.ofBytes_eq_ok.mpr read⟩

/-- Framing and parsing are inverse to each other for requests and for responses. A byte string is
never both. The response that is given to a parsed request is parsed with the id, the type and the
command of the request. -/
theorem framing_inverse :
    Framing Request.pldmType Request.reduced Request.toBytes Request.ofBytes true 3 ∧
    Framing Response.pldmType Response.reduced Response.toBytes Response.ofBytes false 4 ∧
    (∀ bytes, ¬ ((∃ request, Request.ofBytes bytes = .ok request) ∧
      ∃ response, Response.ofBytes bytes = .ok response)) ∧
    ∀ bytes request, Request.ofBytes bytes = .ok request → ∀ code body,
      Response.ofBytes (request.respond code body).toBytes =
        .ok ⟨request.instanceId, request.pldmType, request.command, code, body⟩ := by
  refine ⟨Request.framing, Response.framing, ?_, ?_⟩
  · rintro bytes ⟨⟨request, as_request⟩, response, as_response⟩
    have same := (Request.ofBytes_eq_ok.mp as_request).symm.trans
      (Response.ofBytes_eq_ok.mp as_response)
    cases congrArg Header.isRequest (Prod.mk.inj (Except.ok.inj same)).1
  · intro bytes request parsed code body
    have small := Header.pldmType_lt (Request.ofBytes_eq_ok.mp parsed)
    exact Response.framing.parsed (request.respond code body) small

/-- A request with the two bits set that are not used. -/
def looseFrame : Bytes := [0xE7, 0x05, 0x15, 9]

theorem framing_looseFrame :
    ∃ request, Request.ofBytes looseFrame = .ok request ∧
      request.toBytes = [0x87, 0x05, 0x15, 9] ∧
      Response.ofBytes (request.respond CompletionCode.success [1]).toBytes =
        .ok ⟨7, 5, 0x15, CompletionCode.success, [1]⟩ := by
  obtain ⟨requests, _, _, responds⟩ := framing_inverse
  have parsed : Request.ofBytes looseFrame = .ok ⟨7, 5, 0x15, [9]⟩ := rfl
  exact ⟨_, parsed, requests.framed _ _ parsed, responds _ _ parsed _ [1]⟩

end FirmwareAgent
