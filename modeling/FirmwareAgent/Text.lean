import FirmwareAgent.Bytes

/-!
# Text

`utf8Bytes` is the UTF-8 form of a text. `decodeUtf8` reads any byte string as text: each maximal
part that begins a character but does not complete it, and each byte that begins none, becomes one
replacement character U+FFFD.

A lead byte fixes how many continuation bytes follow and the range of the first of them. The ranges
leave out overlong forms, surrogates and numbers past U+10FFFF, so a complete character is always
valid.

Messages show codes as `0x` followed by lowercase hexadecimal digits, filled up with zeros to a
least number of digits. A value that needs more digits shows all of them.
-/

namespace FirmwareAgent

/-! ## UTF-8 -/

def utf8Bytes (text : String) : Bytes :=
  text.toUTF8.data.toList

/-- What a lead byte promises: the payload bits it carries itself, the number of continuation bytes
and the range of the first of them. -/
structure LeadByte where
  payload : Nat
  continuations : Nat
  low : UInt8
  high : UInt8

/-- The promise of a byte that starts a character of two, three or four bytes. -/
def LeadByte.ofByte? (byte : UInt8) : Option LeadByte :=
  let code := byte.toNat
  if code < 0xC2 then none
  else if code < 0xE0 then some ⟨code - 0xC0, 1, 0x80, 0xBF⟩
  else if code = 0xE0 then some ⟨0, 2, 0xA0, 0xBF⟩
  else if code = 0xED then some ⟨0xD, 2, 0x80, 0x9F⟩
  else if code < 0xF0 then some ⟨code - 0xE0, 2, 0x80, 0xBF⟩
  else if code = 0xF0 then some ⟨0, 3, 0x90, 0xBF⟩
  else if code < 0xF4 then some ⟨code - 0xF0, 3, 0x80, 0xBF⟩
  else if code = 0xF4 then some ⟨4, 3, 0x80, 0x8F⟩
  else none

/-- The longest run of at most `count` continuation bytes whose first lies in `low` to `high`. -/
def continuationBytes : (count : Nat) → (low high : UInt8) → Bytes → Bytes
  | 0, _, _, _ => []
  | _ + 1, _, _, [] => []
  | count + 1, low, high, byte :: bytes =>
    if low ≤ byte ∧ byte ≤ high then byte :: continuationBytes count 0x80 0xBF bytes else []

/-- U+FFFD, which stands for bytes that are no character. -/
def replacementCharacter : Char := '\ufffd'

/-- The character that starts at `byte`, and how many of the following bytes belong to it. -/
def decodeCharacter (byte : UInt8) (following : Bytes) : Char × Nat :=
  if byte < 0x80 then (Char.ofNat byte.toNat, 0)
  else
    match LeadByte.ofByte? byte with
    | none => (replacementCharacter, 0)
    | some lead =>
      let tail := continuationBytes lead.continuations lead.low lead.high following
      if tail.length = lead.continuations then
        -- Every continuation byte carries six bits.
        let code := tail.foldl (fun bits next => bits * 64 + (next.toNat - 0x80)) lead.payload
        (Char.ofNat code, tail.length)
      else (replacementCharacter, tail.length)

def decodeCharacters : Bytes → List Char
  | [] => []
  | byte :: following =>
    let (character, used) := decodeCharacter byte following
    character :: decodeCharacters (following.drop used)
termination_by bytes => bytes.length
decreasing_by simp only [List.length_cons, List.length_drop]; omega

/-- The text of a byte string, with U+FFFD for what is not UTF-8. -/
def decodeUtf8 (bytes : Bytes) : String :=
  String.ofList (decodeCharacters bytes)

/-! ## Hexadecimal numbers -/

/-- `0x` and the lowercase hexadecimal digits of `value`, at least `digits` of them. -/
def hexadecimal (digits value : Nat) : String :=
  let written := Nat.toDigits 16 value
  String.ofList ('0' :: 'x' :: (List.replicate (digits - written.length) '0' ++ written))

/-- A code as messages show it: at least two digits. -/
def hexadecimalByte (value : Nat) : String :=
  hexadecimal 2 value

/-- A component number as messages show it: at least four digits. -/
def hexadecimalWord (value : Nat) : String :=
  hexadecimal 4 value

end FirmwareAgent
