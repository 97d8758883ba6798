import FirmwareAgent.Text

/-!
# Completion codes and wire errors

Every response carries one byte that says how the request went. The base codes are below `0x80`,
the codes of the firmware-update command set start there.

A wire error says why a value could not be written to the wire or read from it. It has a text, and
a completion code that a responder answers with.
-/

namespace FirmwareAgent

namespace CompletionCode

/-- The request was carried out. -/
def success : UInt8 := 0x00

/-- A failure of no particular kind. -/
def error : UInt8 := 0x01

/-- A field holds a value it cannot have. -/
def errorInvalidData : UInt8 := 0x02

/-- The message is too short or too long. -/
def errorInvalidLength : UInt8 := 0x03

/-- The responder cannot serve the request yet. -/
def errorNotReady : UInt8 := 0x04

/-- The responder does not know the command. -/
def errorUnsupportedCommand : UInt8 := 0x05

/-- The responder does not know the type of message. -/
def errorInvalidType : UInt8 := 0x20

/-- The request needs an update under way. -/
def notInUpdateMode : UInt8 := 0x80

/-- An update is under way already. -/
def alreadyInUpdateMode : UInt8 := 0x81

/-- A pull reaches too far past the end of the image. -/
def dataOutOfRange : UInt8 := 0x82

/-- A pull asks for too few or too many bytes. -/
def invalidTransferLength : UInt8 := 0x83

/-- The command does not fit the responder's state. -/
def invalidStateForCommand : UInt8 := 0x84

/-- Not every component has been transferred. -/
def incompleteUpdate : UInt8 := 0x85

/-- The responder is at work in the background. -/
def busyInBackground : UInt8 := 0x86

/-- The update is being cancelled. -/
def cancelPending : UInt8 := 0x87

/-- The command does not fit the current step of the update. -/
def commandNotExpected : UInt8 := 0x88

/-- The pull is to be repeated later. -/
def retryRequestFirmwareData : UInt8 := 0x89

/-- The target cannot enter update mode. -/
def unableToInitiateUpdate : UInt8 := 0x8A

/-- Nothing is to be activated. -/
def activationNotRequired : UInt8 := 0x8B

/-- Components cannot be activated by themselves. -/
def selfContainedActivationNotPermitted : UInt8 := 0x8C

/-- The target has no metadata to keep. -/
def noDeviceMetadata : UInt8 := 0x8D

/-- RequestUpdate is to be repeated later. -/
def retryRequestUpdate : UInt8 := 0x8E

/-- There is no package data to pull. -/
def noPackageData : UInt8 := 0x8F

/-- The handle of a part is not one that was handed out. -/
def invalidTransferHandle : UInt8 := 0x90

/-- The operation on a multipart transfer is unknown. -/
def invalidTransferOperationFlag : UInt8 := 0x91

def activatePendingImageNotPermitted : UInt8 := 0x92

/-- The package data could not be used. -/
def packageDataError : UInt8 := 0x93

/-- The defined codes and their names, in ascending order. -/
def names : List (UInt8 × String) :=
  [ (success, "SUCCESS"),
    (error, "ERROR"),
    (errorInvalidData, "ERROR_INVALID_DATA"),
    (errorInvalidLength, "ERROR_INVALID_LENGTH"),
    (errorNotReady, "ERROR_NOT_READY"),
    (errorUnsupportedCommand, "ERROR_UNSUPPORTED_PLDM_CMD"),
    (errorInvalidType, "ERROR_INVALID_PLDM_TYPE"),
    (notInUpdateMode, "NOT_IN_UPDATE_MODE"),
    (alreadyInUpdateMode, "ALREADY_IN_UPDATE_MODE"),
    (dataOutOfRange, "DATA_OUT_OF_RANGE"),
    (invalidTransferLength, "INVALID_TRANSFER_LENGTH"),
    (invalidStateForCommand, "INVALID_STATE_FOR_COMMAND"),
    (incompleteUpdate, "INCOMPLETE_UPDATE"),
    (busyInBackground, "BUSY_IN_BACKGROUND"),
    (cancelPending, "CANCEL_PENDING"),
    (commandNotExpected, "COMMAND_NOT_EXPECTED"),
    (retryRequestFirmwareData, "RETRY_REQUEST_FW_DATA"),
    (unableToInitiateUpdate, "UNABLE_TO_INITIATE_UPDATE"),
    (activationNotRequired, "ACTIVATION_NOT_REQUIRED"),
    (selfContainedActivationNotPermitted, "SELF_CONTAINED_ACTIVATION_NOT_PERMITTED"),
    (noDeviceMetadata, "NO_DEVICE_METADATA"),
    (retryRequestUpdate, "RETRY_REQUEST_UPDATE"),
    (noPackageData, "NO_PACKAGE_DATA"),
    (invalidTransferHandle, "INVALID_TRANSFER_HANDLE"),
    (invalidTransferOperationFlag, "INVALID_TRANSFER_OPERATION_FLAG"),
    (activatePendingImageNotPermitted, "ACTIVATE_PENDING_IMAGE_NOT_PERMITTED"),
    (packageDataError, "PACKAGE_DATA_ERROR") ]

/-- The name of a code, `UNKNOWN` for one that is not defined. -/
def name (code : UInt8) : String :=
  (names.lookup code).getD "UNKNOWN"

end CompletionCode

/-- Why a message could not be written or read. -/
inductive WireError
  /-- The input ends before a field is complete. -/
  | truncated (field : String) (needed available : Nat)
  /-- A message of fixed form is followed by surplus bytes. -/
  | trailingBytes (message : String) (count : Nat)
  /-- A value is too large for its field. -/
  | fieldOverflow (field : String) (value : Nat)
  /-- A field holds a value outside its defined set. -/
  | invalidValue (field : String) (value : Nat)
  /-- A request was read as a response, or the other way round. -/
  | wrongDirection (expected : String)
  deriving DecidableEq, Repr

namespace WireError

/-- The text of the error. -/
def message : WireError → String
  | truncated field needed available =>
    "Message truncated reading " ++ field ++ ": need " ++ toString needed ++ " bytes, "
      ++ toString available ++ " available"
  | trailingBytes message count =>
    toString count ++ " unexpected trailing bytes after " ++ message
  | fieldOverflow field value =>
    "Field " ++ field ++ " value " ++ toString value ++ " does not fit the wire format"
  | invalidValue field value =>
    "Invalid value " ++ hexadecimalByte value ++ " for " ++ field
  | wrongDirection expected => "Expected a " ++ expected ++ " message"

/-- The completion code that answers a request with this fault: a wrong length has its own. -/
def completionCode : WireError → UInt8
  | truncated .. | trailingBytes .. => CompletionCode.errorInvalidLength
  | fieldOverflow .. | invalidValue .. | wrongDirection .. => CompletionCode.errorInvalidData

end WireError

end FirmwareAgent
