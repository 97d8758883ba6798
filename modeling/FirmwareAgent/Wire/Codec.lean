import FirmwareAgent.Bytes
import FirmwareAgent.Wire.Error

/-!
# Codecs

A `Codec` is the wire form of a value, described once for both directions: the named pieces it is
written as, and how it is read off the front of a byte string. Bodies are composed of the codecs of
their fields by `followedBy`, and turned into structures by `as`, so the order and the widths of
the fields cannot differ between writing and reading.

A value is read piece by piece. The first piece that is not wholly there is named by the error, and
a piece with a value outside its set is refused before the next piece is looked at.
-/

namespace FirmwareAgent

/-- One named field of a message and the bytes it occupies. -/
structure Piece where
  field : String
  bytes : Bytes
  deriving DecidableEq, Repr

def Piece.join (pieces : List Piece) : Bytes :=
  pieces.flatMap Piece.bytes

/-- The wire form of a type of values. -/
structure Codec (α : Type) where
  /-- Refuses a value that has no wire form. -/
  check : α → Except WireError Unit
  /-- The pieces a value is written as, front to back. -/
  pieces : α → List Piece
  /-- Reads a value off the front and gives back the bytes that follow it. -/
  read : Bytes → Except WireError (α × Bytes)

/-- Splits `count` bytes off the front for the field of that name. -/
def takeField (field : String) (count : Nat) (bytes : Bytes) : Except WireError (Bytes × Bytes) :=
  if count ≤ bytes.length then .ok (bytes.take count, bytes.drop count)
  else .error (.truncated field count bytes.length)

namespace Codec

variable {α β : Type}

/-- A little-endian number of `width` bytes. -/
def unsigned (width : Nat) (field : String) : Codec Nat where
  check _ := .ok ()
  pieces value := [⟨field, littleEndian width value⟩]
  read bytes := do
    let (taken, rest) ← takeField field width bytes
    return (ofLittleEndian taken, rest)

/-- One value after another. -/
def followedBy (first : Codec α) (second : Codec β) : Codec (α × β) where
  check := fun (a, b) => do
    first.check a
    second.check b
  pieces := fun (a, b) => first.pieces a ++ second.pieces b
  read bytes := do
    let (a, rest) ← first.read bytes
    let (b, rest) ← second.read rest
    return ((a, b), rest)

/-- The same bytes seen as values of another type. -/
def as (codec : Codec α) (build : α → β) (parts : β → α) : Codec β where
  check value := codec.check (parts value)
  pieces value := codec.pieces (parts value)
  read bytes := do
    let (a, rest) ← codec.read bytes
    return (build a, rest)

/-- The same bytes restricted to the values that `build` accepts. -/
def refine (codec : Codec α) (build : α → Except WireError β) (parts : β → α) : Codec β where
  check value := codec.check (parts value)
  pieces value := codec.pieces (parts value)
  read bytes := do
    let (a, rest) ← codec.read bytes
    let value ← build a
    return (value, rest)

/-- An 8-bit number. -/
def byte (field : String) : Codec UInt8 :=
  (unsigned 1 field).as UInt8.ofNat UInt8.toNat

/-- A 16-bit number. -/
def word16 (field : String) : Codec UInt16 :=
  (unsigned 2 field).as UInt16.ofNat UInt16.toNat

/-- A 32-bit number. -/
def word32 (field : String) : Codec UInt32 :=
  (unsigned 4 field).as UInt32.ofNat UInt32.toNat

/-- A 64-bit number. -/
def word64 (field : String) : Codec UInt64 :=
  (unsigned 8 field).as UInt64.ofNat UInt64.toNat

/-- A truth value for which every non-zero byte stands for true. -/
def flag (field : String) : Codec Bool :=
  (byte field).as (· != 0) Bool.toUInt8

/-- A truth value written as 0 or 1, with no other byte accepted. -/
def strictFlag (field : String) : Codec Bool :=
  (byte field).refine
    (fun value =>
      match value with
      | 0 => .ok false
      | 1 => .ok true
      | other => .error (.invalidValue field other.toNat))
    Bool.toUInt8

/-- All the bytes that are left. -/
def remainder (field : String) : Codec Bytes where
  check _ := .ok ()
  pieces bytes := [⟨field, bytes⟩]
  read bytes := .ok (bytes, [])

def write (codec : Codec α) (value : α) : Except WireError Bytes := do
  codec.check value
  return Piece.join (codec.pieces value)

/-- Reads a value that takes up all the bytes. Surplus bytes are an error that names the message. -/
def readAll (codec : Codec α) (message : String) (bytes : Bytes) : Except WireError α := do
  let (value, rest) ← codec.read bytes
  if rest.isEmpty then return value
  else throw (.trailingBytes message rest.length)

end Codec

end FirmwareAgent
