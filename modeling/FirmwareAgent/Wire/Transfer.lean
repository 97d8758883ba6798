import FirmwareAgent.Wire.Error

/-!
# Enumerations of a transfer

The flag that marks one part of an ordered multipart transfer, the operation a target asks for when
it pulls such a transfer, and the option bits of a component.
-/

namespace FirmwareAgent

/-- The place of one part within an ordered multipart transfer. -/
inductive TransferFlag
  /-- The first part of several. -/
  | start
  /-- Neither the first nor the last part. -/
  | middle
  /-- The last part of several. -/
  | finish
  /-- The only part. -/
  | startAndEnd
  deriving DecidableEq, Repr

namespace TransferFlag

/-- The flag byte. -/
def code : TransferFlag → UInt8
  | start => 0x01
  | middle => 0x02
  | finish => 0x04
  | startAndEnd => 0x05

/-- The flag of a part that is (or is not) the first and (or not) the last. -/
def ofBounds : (isFirst isLast : Bool) → TransferFlag
  | true, true => startAndEnd
  | true, false => start
  | false, true => finish
  | false, false => middle

/-- The flag of entry `position` in a table of `count` entries. -/
def ofPosition (position count : Nat) : TransferFlag :=
  ofBounds (position == 0) (count ≤ position + 1)

/-- Reads a flag byte. -/
def ofCode (code : UInt8) : Except WireError TransferFlag :=
  match code with
  | 0x01 => .ok start
  | 0x02 => .ok middle
  | 0x04 => .ok finish
  | 0x05 => .ok startAndEnd
  | other => .error (.invalidValue "transfer flag" other.toNat)

theorem ofCode_code (flag : TransferFlag) : ofCode flag.code = .ok flag := by
  cases flag <;> rfl

theorem code_of_ofCode {code : UInt8} {flag : TransferFlag} (read : ofCode code = .ok flag) :
    flag.code = code := by
  unfold ofCode at read
  split at read <;> cases read <;> rfl

end TransferFlag

/-- The part of a multipart transfer that a target asks for. -/
inductive TransferOperation
  /-- The part at the handle. -/
  | getNextPart
  /-- The first part, whatever the handle. -/
  | getFirstPart
  deriving DecidableEq, Repr

namespace TransferOperation

/-- The name of the operation's field. A request whose only fault lies there has a completion code
of its own. -/
def field : String := "transfer operation flag"

/-- The operation byte. -/
def code : TransferOperation → UInt8
  | getNextPart => 0x00
  | getFirstPart => 0x01

/-- Reads an operation byte. -/
def ofCode (code : UInt8) : Except WireError TransferOperation :=
  match code with
  | 0x00 => .ok getNextPart
  | 0x01 => .ok getFirstPart
  | other => .error (.invalidValue field other.toNat)

theorem ofCode_code (operation : TransferOperation) : ofCode operation.code = .ok operation := by
  cases operation <;> rfl

theorem code_of_ofCode {code : UInt8} {operation : TransferOperation}
    (read : ofCode code = .ok operation) : operation.code = code := by
  unfold ofCode at read
  split at read <;> cases read <;> rfl

end TransferOperation

/-- The package option bit that asks to update a component even if its version is already there. -/
def componentForceUpdate : UInt16 := 1

/-- The UpdateComponent flag that asks for a forced update. -/
def requestForceUpdate : UInt32 := 1

/-- The UpdateComponent flags of a component with the given package options. Only the wish for a
forced update is passed on. -/
def updateOptionFlags (options : UInt16) : UInt32 :=
  if options &&& componentForceUpdate ≠ 0 then requestForceUpdate else 0

end FirmwareAgent
