/-!
# Commands of the firmware-update command set

`Command.code` is the byte on the wire and `Command.ofCode?` reads it back. The update agent starts
most commands; the target device starts the six of `Command.isDeviceInitiated`.
-/

namespace FirmwareAgent

/-- The PLDM type number of firmware update. -/
def firmwareUpdateType : UInt8 := 0x05

/-- The smallest chunk a target may ask for, and the slack allowed past the end of an image. -/
def baselineTransferSize : UInt32 := 32

/-- The least number of outstanding transfer requests an agent may announce. -/
def minOutstandingTransferRequests : UInt8 := 1

/-- A command of the firmware-update command set. -/
inductive Command
  | queryDeviceIdentifiers
  | getFirmwareParameters
  | requestUpdate
  | getPackageData
  | getDeviceMetaData
  | passComponentTable
  | updateComponent
  | requestFirmwareData
  | transferComplete
  | verifyComplete
  | applyComplete
  | getMetaData
  | activateFirmware
  | getStatus
  | cancelUpdateComponent
  | cancelUpdate
  deriving DecidableEq, Repr

namespace Command

/-- The command byte. -/
def code : Command → UInt8
  | queryDeviceIdentifiers => 0x01
  | getFirmwareParameters => 0x02
  | requestUpdate => 0x10
  | getPackageData => 0x11
  | getDeviceMetaData => 0x12
  | passComponentTable => 0x13
  | updateComponent => 0x14
  | requestFirmwareData => 0x15
  | transferComplete => 0x16
  | verifyComplete => 0x17
  | applyComplete => 0x18
  | getMetaData => 0x19
  | activateFirmware => 0x1A
  | getStatus => 0x1B
  | cancelUpdateComponent => 0x1C
  | cancelUpdate => 0x1D

/-- The name that errors show. -/
def name : Command → String
  | queryDeviceIdentifiers => "QueryDeviceIdentifiers"
  | getFirmwareParameters => "GetFirmwareParameters"
  | requestUpdate => "RequestUpdate"
  | getPackageData => "GetPackageData"
  | getDeviceMetaData => "GetDeviceMetaData"
  | passComponentTable => "PassComponentTable"
  | updateComponent => "UpdateComponent"
  | requestFirmwareData => "RequestFirmwareData"
  | transferComplete => "TransferComplete"
  | verifyComplete => "VerifyComplete"
  | applyComplete => "ApplyComplete"
  | getMetaData => "GetMetaData"
  | activateFirmware => "ActivateFirmware"
  | getStatus => "GetStatus"
  | cancelUpdateComponent => "CancelUpdateComponent"
  | cancelUpdate => "CancelUpdate"

/-- Every command, in ascending order of code. -/
def all : List Command :=
  [queryDeviceIdentifiers, getFirmwareParameters, requestUpdate, getPackageData, getDeviceMetaData,
    passComponentTable, updateComponent, requestFirmwareData, transferComplete, verifyComplete,
    applyComplete, getMetaData, activateFirmware, getStatus, cancelUpdateComponent, cancelUpdate]

def ofCode? (code : UInt8) : Option Command :=
  all.find? fun command => command.code == code

/-- Whether the target, not the agent, sends this command. -/
def isDeviceInitiated : Command → Bool
  | getPackageData | requestFirmwareData | transferComplete | verifyComplete | applyComplete
  | getMetaData => true
  | _ => false

theorem mem_all (command : Command) : command ∈ all := by
  cases command <;> decide

theorem ofCode?_code (command : Command) : ofCode? command.code = some command := by
  cases command <;> decide

theorem code_eq_of_ofCode? {code : UInt8} {command : Command}
    (found : ofCode? code = some command) : command.code = code := by
  simpa using List.find?_some found

end Command

end FirmwareAgent
