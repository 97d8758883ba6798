import FirmwareAgent.Text

/-!
# Reading UTF-8 back

The bytes of a text are the encodings of its characters, one after another. A character below
`0x80` is its own byte. Any other is a lead byte with the high bits of its number, and six bits in
each continuation byte. The lead byte promises as many continuation bytes as follow it, the first of
them lies in the promised range, and the bits make up the number again (`Encodes`). So the reader
takes exactly the encoding off the front, whatever follows it.

* `decodeUtf8_utf8Bytes`: a text is read back from its bytes, with nothing replaced.
-/

namespace FirmwareAgent

/-! ## Continuation bytes -/

/-- Continuation bytes of which the first lies in a range. -/
def ContinuesIn : (low high : UInt8) → Bytes → Prop
  | _, _, [] => True
  | low, high, byte :: bytes => (low ≤ byte ∧ byte ≤ high) ∧ ContinuesIn 0x80 0xBF bytes

/-- The low six bits of a number as a continuation byte. -/
def continuationByte (bits : Nat) : UInt8 :=
  UInt8.ofNat (bits % 64 + 0x80)

theorem toNat_continuationByte (bits : Nat) : (continuationByte bits).toNat = bits % 64 + 0x80 :=
  UInt8.toNat_ofNat_of_lt' (by simp only [UInt8.size]; omega)

theorem continuesIn_cons {bits : Nat} {low high : UInt8} {bytes : Bytes}
    (above : low.toNat ≤ bits % 64 + 0x80) (below : bits % 64 + 0x80 ≤ high.toNat)
    (further : ContinuesIn 0x80 0xBF bytes) :
    ContinuesIn low high (continuationByte bits :: bytes) := by
  refine ⟨⟨?_, ?_⟩, further⟩
  · rwa [UInt8.le_iff_toNat_le, toNat_continuationByte]
  · rwa [UInt8.le_iff_toNat_le, toNat_continuationByte]

/-- After the first, a continuation byte may hold any six bits. -/
theorem continuesIn_further (bits : Nat) {bytes : Bytes} (further : ContinuesIn 0x80 0xBF bytes) :
    ContinuesIn 0x80 0xBF (continuationByte bits :: bytes) := by
  have above : (0x80 : UInt8).toNat = 0x80 := rfl
  have below : (0xBF : UInt8).toNat = 0xBF := rfl
  exact continuesIn_cons (by omega) (by omega) further

theorem continuationBytes_append {low high : UInt8} {bytes : Bytes}
    (continues : ContinuesIn low high bytes) (rest : Bytes) :
    continuationBytes bytes.length low high (bytes ++ rest) = bytes := by
  induction bytes generalizing low high with
  | nil => rfl
  | cons byte bytes ih =>
    obtain ⟨inRange, further⟩ := continues
    simp only [List.length_cons, List.cons_append, continuationBytes, if_pos inRange, ih further]

/-! ## Lead bytes -/

/-- The number that the payload of a lead byte and the continuation bytes make up. -/
def assemble (payload : Nat) (tail : Bytes) : Nat :=
  tail.foldl (fun bits next => bits * 64 + (next.toNat - 0x80)) payload

@[simp] theorem assemble_nil (payload : Nat) : assemble payload [] = payload := rfl

@[simp] theorem assemble_cons (payload bits : Nat) (tail : Bytes) :
    assemble payload (continuationByte bits :: tail) =
      assemble (payload * 64 + bits % 64) tail := by
  rw [assemble, List.foldl_cons, toNat_continuationByte, Nat.add_sub_cancel, assemble]

/-- A lead byte and continuation bytes that keep its promise and make up a number. -/
inductive Encodes (byte : UInt8) (tail : Bytes) (number : Nat) : Prop
  | intro {payload : Nat} {low high : UInt8} :
      LeadByte.ofByte? byte = some ⟨payload, tail.length, low, high⟩ → ContinuesIn low high tail →
      assemble payload tail = number → Encodes byte tail number

theorem decodeCharacter_of_encodes {byte : UInt8} {tail : Bytes} {character : Char}
    (encodes : Encodes byte tail character.toNat) (rest : Bytes) :
    decodeCharacter byte (tail ++ rest) = (character, tail.length) := by
  obtain ⟨promise, continues, number⟩ := encodes
  have notAscii : ¬ byte < 0x80 := by
    intro ascii
    have none : LeadByte.ofByte? byte = none :=
      if_pos (Nat.lt_trans (UInt8.lt_iff_toNat_lt.mp ascii) (by decide))
    cases promise.symm.trans none
  simp only [decodeCharacter, if_neg notAscii, promise, continuationBytes_append continues, if_true]
  rw [← assemble, number, Char.ofNat_toNat]

/-- A lead byte by its code. -/
theorem ofByte?_ofNat {code : Nat} (small : code < 256) :
    LeadByte.ofByte? (UInt8.ofNat code) =
      if code < 0xC2 then none
      else if code < 0xE0 then some ⟨code - 0xC0, 1, 0x80, 0xBF⟩
      else if code = 0xE0 then some ⟨0, 2, 0xA0, 0xBF⟩
      else if code = 0xED then some ⟨0xD, 2, 0x80, 0x9F⟩
      else if code < 0xF0 then some ⟨code - 0xE0, 2, 0x80, 0xBF⟩
      else if code = 0xF0 then some ⟨0, 3, 0x90, 0xBF⟩
      else if code < 0xF4 then some ⟨code - 0xF0, 3, 0x80, 0xBF⟩
      else if code = 0xF4 then some ⟨4, 3, 0x80, 0x8F⟩
      else none := by
  rw [LeadByte.ofByte?, UInt8.toNat_ofNat_of_lt' small]

theorem encodes_two {number : Nat} (above : 0x80 ≤ number) (below : number < 0x800) :
    Encodes (UInt8.ofNat (number / 64 + 0xC0)) [continuationByte number] number := by
  have promise : LeadByte.ofByte? (UInt8.ofNat (number / 64 + 0xC0)) =
      some ⟨number / 64, 1, 0x80, 0xBF⟩ := by
    rw [ofByte?_ofNat (by omega), if_neg (by omega), if_pos (by omega), Nat.add_sub_cancel]
  exact .intro promise (continuesIn_further _ trivial) (by simp; omega)

/-- Overlong forms are left out by the range after `0xE0`, surrogates by the range after `0xED`. -/
theorem encodes_three {number : Nat} (above : 0x800 ≤ number) (below : number < 0x10000)
    (noSurrogate : number < 0xD800 ∨ 0xDFFF < number) :
    Encodes (UInt8.ofNat (number / 4096 + 0xE0))
      [continuationByte (number / 64), continuationByte number] number := by
  have lead := ofByte?_ofNat (show number / 4096 + 0xE0 < 256 by omega)
  rw [if_neg (by omega), if_neg (by omega)] at lead
  have last : ContinuesIn 0x80 0xBF [continuationByte number] := continuesIn_further _ trivial
  by_cases low : number / 4096 = 0
  · rw [if_pos (by omega)] at lead
    have least : (0xA0 : UInt8).toNat = 0xA0 := rfl
    have greatest : (0xBF : UInt8).toNat = 0xBF := rfl
    exact .intro lead (continuesIn_cons (by omega) (by omega) last) (by simp; omega)
  by_cases beforeSurrogates : number / 4096 = 0xD
  · rw [if_neg (by omega), if_pos (by omega)] at lead
    have least : (0x80 : UInt8).toNat = 0x80 := rfl
    have greatest : (0x9F : UInt8).toNat = 0x9F := rfl
    exact .intro lead (continuesIn_cons (by omega) (by omega) last) (by simp; omega)
  · rw [if_neg (by omega), if_neg (by omega), if_pos (by omega)] at lead
    exact .intro lead (continuesIn_further _ last) (by simp; omega)

/-- Overlong forms are left out by the range after `0xF0`, numbers past the last character by the
range after `0xF4`. -/
theorem encodes_four {number : Nat} (above : 0x10000 ≤ number) (below : number < 0x110000) :
    Encodes (UInt8.ofNat (number / 262144 + 0xF0))
      [continuationByte (number / 4096), continuationByte (number / 64), continuationByte number]
      number := by
  have lead := ofByte?_ofNat (show number / 262144 + 0xF0 < 256 by omega)
  rw [if_neg (by omega), if_neg (by omega), if_neg (by omega), if_neg (by omega),
    if_neg (by omega)] at lead
  have last : ContinuesIn 0x80 0xBF [continuationByte (number / 64), continuationByte number] :=
    continuesIn_further _ (continuesIn_further _ trivial)
  by_cases low : number / 262144 = 0
  · rw [if_pos (by omega)] at lead
    have least : (0x90 : UInt8).toNat = 0x90 := rfl
    have greatest : (0xBF : UInt8).toNat = 0xBF := rfl
    exact .intro lead (continuesIn_cons (by omega) (by omega) last) (by simp; omega)
  by_cases high : number / 262144 = 4
  · rw [if_neg (by omega), if_neg (by omega), if_pos (by omega)] at lead
    have least : (0x80 : UInt8).toNat = 0x80 := rfl
    have greatest : (0x8F : UInt8).toNat = 0x8F := rfl
    exact .intro lead (continuesIn_cons (by omega) (by omega) last) (by simp; omega)
  · rw [if_neg (by omega), if_pos (by omega)] at lead
    exact .intro lead (continuesIn_further _ last) (by simp; omega)

/-! ## Texts -/

/-- The encoding of a character is taken off the front as that character. -/
theorem decodeCharacter_utf8EncodeChar (character : Char) (rest : Bytes) :
    ∃ byte tail, String.utf8EncodeChar character = byte :: tail ∧
      decodeCharacter byte (tail ++ rest) = (character, tail.length) := by
  have number_eq : character.val.toNat = character.toNat := rfl
  have valid : character.toNat < 0xD800 ∨ 0xDFFF < character.toNat ∧ character.toNat < 0x110000 :=
    character.valid
  simp only [String.utf8EncodeChar, number_eq]
  -- The encoder masks the bits of the lead byte, which are too few to be changed by that.
  split
  case isTrue one =>
    have code : (UInt8.ofNat character.toNat).toNat = character.toNat :=
      UInt8.toNat_ofNat_of_lt' (by simp only [UInt8.size]; omega)
    have small : UInt8.ofNat character.toNat < 0x80 := by
      rw [UInt8.lt_iff_toNat_lt, code]
      exact Nat.lt_succ_of_le one
    refine ⟨_, [], rfl, ?_⟩
    rw [decodeCharacter, if_pos small, code, Char.ofNat_toNat, List.length_nil]
  split
  case isTrue two =>
    rw [Nat.mod_eq_of_lt (show character.toNat / 64 < 0x20 by omega)]
    exact ⟨_, _, rfl, decodeCharacter_of_encodes (encodes_two (by omega) (by omega)) rest⟩
  split
  case isTrue three =>
    rw [Nat.mod_eq_of_lt (show character.toNat / 4096 < 0x10 by omega)]
    exact ⟨_, _, rfl,
      decodeCharacter_of_encodes (encodes_three (by omega) (by omega) (by omega)) rest⟩
  case isFalse four =>
    rw [Nat.mod_eq_of_lt (show character.toNat / 262144 < 0x08 by omega)]
    exact ⟨_, _, rfl, decodeCharacter_of_encodes (encodes_four (by omega) (by omega)) rest⟩

theorem utf8Bytes_eq (text : String) :
    utf8Bytes text = text.toList.flatMap String.utf8EncodeChar := by
  rw [utf8Bytes, String.toUTF8, ← String.ofList_toList (s := text), String.toByteArray_ofList,
    List.utf8Encode, List.toList_data_toByteArray, String.toList_ofList]

theorem decodeCharacters_flatMap (characters : List Char) :
    decodeCharacters (characters.flatMap String.utf8EncodeChar) = characters := by
  induction characters with
  | nil => rw [List.flatMap_nil, decodeCharacters]
  | cons character characters ih =>
    obtain ⟨byte, tail, encoded, decoded⟩ :=
      decodeCharacter_utf8EncodeChar character (characters.flatMap String.utf8EncodeChar)
    rw [List.flatMap_cons, encoded, List.cons_append, decodeCharacters, decoded]
    show character :: decodeCharacters (List.drop tail.length (tail ++ _)) = character :: characters
    rw [List.drop_left, ih]

/-- A text is read back from its bytes. -/
theorem decodeUtf8_utf8Bytes (text : String) : decodeUtf8 (utf8Bytes text) = text := by
  rw [decodeUtf8, utf8Bytes_eq, decodeCharacters_flatMap, String.ofList_toList]

end FirmwareAgent
