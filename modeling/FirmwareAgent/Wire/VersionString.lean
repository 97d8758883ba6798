import FirmwareAgent.Text
import FirmwareAgent.Wire.Codec

/-!
# Version strings

A version travels as a type byte, a length byte and the bytes of the text. The length byte limits
the text to 255 bytes: a longer version can be held but not written.
-/

namespace FirmwareAgent

/-- The encoding of a version string. -/
inductive StringType
  | unknown
  | ascii
  | utf8
  | utf16
  | utf16LittleEndian
  | utf16BigEndian
  deriving DecidableEq, Repr

namespace StringType

/-- The type byte. -/
def code : StringType → UInt8
  | unknown => 0
  | ascii => 1
  | utf8 => 2
  | utf16 => 3
  | utf16LittleEndian => 4
  | utf16BigEndian => 5

/-- Reads a type byte. -/
def ofCode (code : UInt8) : Except WireError StringType :=
  match code with
  | 0 => .ok unknown
  | 1 => .ok ascii
  | 2 => .ok utf8
  | 3 => .ok utf16
  | 4 => .ok utf16LittleEndian
  | 5 => .ok utf16BigEndian
  | other => .error (.invalidValue "version string type" other.toNat)

theorem ofCode_code (type : StringType) : ofCode type.code = .ok type := by
  cases type <;> rfl

theorem code_of_ofCode {code : UInt8} {type : StringType} (read : ofCode code = .ok type) :
    type.code = code := by
  unfold ofCode at read
  split at read <;> cases read <;> rfl

end StringType

/-- A version string: its encoding and its bytes. -/
structure VersionString where
  type : StringType
  bytes : Bytes
  deriving DecidableEq, Repr

namespace VersionString

/-- A text as a version: ASCII if every byte is below `0x80`, UTF-8 otherwise. -/
def ofText (text : String) : VersionString :=
  let bytes := utf8Bytes text
  ⟨if bytes.all (· < 0x80) then .ascii else .utf8, bytes⟩

/-- The text that a reader is shown. Every encoding is shown as if it were UTF-8. -/
def text (version : VersionString) : String :=
  decodeUtf8 version.bytes

/-- Type byte and length byte. -/
def lead : Codec (StringType × UInt8) :=
  ((Codec.byte "version string type").refine StringType.ofCode StringType.code).followedBy
    (Codec.byte "version string length")

/-- Type byte, length byte, text. -/
def codec : Codec VersionString where
  check version :=
    if version.bytes.length < 256 then .ok ()
    else .error (.fieldOverflow "version string length" version.bytes.length)
  pieces version :=
    lead.pieces (version.type, UInt8.ofNat version.bytes.length)
      ++ [⟨"version string", version.bytes⟩]
  read bytes := do
    let ((type, length), rest) ← lead.read bytes
    let (text, rest) ← takeField "version string" length.toNat rest
    return (⟨type, text⟩, rest)

end VersionString

end FirmwareAgent
