/-!
# Bytes

Byte strings are lists of bytes. A fixed-width number is stored least significant byte first:
`littleEndian` writes it and `ofLittleEndian` reads it back.

* `ofLittleEndian_littleEndian`: a number that fits its width survives.
* `littleEndian_ofLittleEndian`: every byte string is the written form of the number it stands for.
-/

namespace FirmwareAgent

/-- A byte string. -/
abbrev Bytes := List UInt8

/-- The `width` low bytes of `value`, least significant first. -/
def littleEndian : (width value : Nat) → Bytes
  | 0, _ => []
  | width + 1, value => UInt8.ofNat value :: littleEndian width (value / 256)

/-- The number a byte string stands for when its first byte is the least significant. -/
def ofLittleEndian : Bytes → Nat
  | [] => 0
  | byte :: bytes => byte.toNat + 256 * ofLittleEndian bytes

@[simp] theorem length_littleEndian (width value : Nat) :
    (littleEndian width value).length = width := by
  induction width generalizing value with
  | zero => rfl
  | succ width ih => simp [littleEndian, ih]

theorem ofLittleEndian_littleEndian {width value : Nat} (fits : value < Nat.pow 256 width) :
    ofLittleEndian (littleEndian width value) = value := by
  induction width generalizing value with
  | zero =>
    have : value = 0 := Nat.lt_one_iff.mp fits
    simp [littleEndian, ofLittleEndian, this]
  | succ width ih =>
    have power : Nat.pow 256 (width + 1) = Nat.pow 256 width * 256 := rfl
    have quotient : value / 256 < Nat.pow 256 width := by omega
    simp only [littleEndian, ofLittleEndian, ih quotient, UInt8.toNat_ofNat']
    omega

theorem ofLittleEndian_lt (bytes : Bytes) : ofLittleEndian bytes < Nat.pow 256 bytes.length := by
  induction bytes with
  | nil => exact Nat.one_pos
  | cons byte bytes ih =>
    have small := byte.toNat_lt
    have power : Nat.pow 256 (bytes.length + 1) = Nat.pow 256 bytes.length * 256 := rfl
    simp only [ofLittleEndian, List.length_cons]
    omega

theorem littleEndian_ofLittleEndian (bytes : Bytes) :
    littleEndian bytes.length (ofLittleEndian bytes) = bytes := by
  induction bytes with
  | nil => rfl
  | cons byte bytes ih =>
    have small := byte.toNat_lt
    have quotient : (byte.toNat + 256 * ofLittleEndian bytes) / 256 = ofLittleEndian bytes := by
      omega
    have low : UInt8.ofNat (byte.toNat + 256 * ofLittleEndian bytes) = byte := by
      apply UInt8.toNat_inj.mp
      rw [UInt8.toNat_ofNat']
      omega
    simp [littleEndian, ofLittleEndian, quotient, low, ih]

end FirmwareAgent
