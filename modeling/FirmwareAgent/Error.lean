import FirmwareAgent.Wire.Command
import FirmwareAgent.Wire.Error

/-!
# Update errors

Why an update failed or a call was refused. Each error names its cause; `UpdateError.message` puts
it into words. The constructors called `stated` hold a cause that somebody else has already put
into words, such as the dispatcher that delivers requests.
-/

namespace FirmwareAgent

/-- The transport address of a firmware device. -/
abbrev EndpointId := UInt8

/-- The place of a component in the package's component table. -/
abbrev ComponentIndex := UInt64

/-- What is wrong with a message. -/
inductive MessageFault
  /-- It does not have its wire form. -/
  | malformed (error : WireError)
  /-- The response answers another command. -/
  | otherCommand (code : UInt8)
  /-- The session was in a state that expects no response to the command. -/
  | outOfTurn (state : String)
  | stated (text : String)
  deriving DecidableEq, Repr

/-- What is wrong with a device record or the component table. -/
inductive RecordFault
  | noComponents (endpoint : EndpointId)
  | missingComponent (index : ComponentIndex) (count : Nat)
  | noSuchPosition (position : Nat)
  | noClassificationIndex (index : ComponentIndex) (classification identifier : UInt16)
  | stated (text : String)
  deriving DecidableEq, Repr

/-- What is wrong with a configuration. -/
inductive ConfigFault
  | baselineTooSmall
  | maximumBelowBaseline
  | noOutstandingRequests
  | noInstanceIdExpiry
  | noCommandTimeout
  | noOutcomeTimeout
  | stated (text : String)
  deriving DecidableEq, Repr

/-- What was waited for in vain. -/
inductive Awaited
  | response (command : Command)
  /-- Any request of the target about the component at work. -/
  | targetRequests (component : ComponentIndex)
  | stated (text : String)
  deriving DecidableEq, Repr

/-- Which bytes of the package could not be read. -/
inductive ReadFault
  | range (count position : Nat) (cause : String)
  | stated (text : String)
  deriving DecidableEq, Repr

/-- Why an update failed or a call was refused. -/
inductive UpdateError
  /-- A request could not be written. -/
  | encode (command : String) (fault : MessageFault)
  /-- A message of the target could not be understood. -/
  | decode (command : String) (fault : MessageFault)
  /-- The target answered with a failure. -/
  | remote (command : String) (completionCode : UInt8)
  /-- A pull of data is outside its bounds and is answered with the completion code. -/
  | protocolRange (completionCode : UInt8) (offset length : UInt32)
  /-- A request or its response could not be delivered. -/
  | transport (reason : String)
  /-- No instance id is free. -/
  | resourceExhausted (endpoint : EndpointId)
  /-- A wait ran out. -/
  | timeout (awaited : Awaited)
  /-- The device record and the component table do not fit together. -/
  | configuration (fault : RecordFault)
  /-- The agent's configuration is out of range. -/
  | invalidConfig (fault : ConfigFault)
  /-- The package did not supply the bytes of an image. -/
  | packageRead (fault : ReadFault)
  /-- The endpoint already has a session. -/
  | updateInProgress (endpoint : EndpointId)
  | cancelled
  /-- The session is gone. -/
  | sessionClosed
  deriving DecidableEq, Repr

namespace MessageFault

/-- The fault in words. -/
def message : MessageFault → String
  | malformed error => error.message
  | otherCommand code => "response carries command " ++ hexadecimalByte code.toNat
  | outOfTurn state => "response arrived in state " ++ state
  | stated text => text

end MessageFault

namespace RecordFault

/-- The fault in words, with the component or endpoint it is about. -/
def message : RecordFault → String
  | noComponents endpoint =>
    "endpoint " ++ toString endpoint.toNat ++ " has no applicable components"
  | missingComponent index count =>
    "component " ++ toString index.toNat ++ " is not in the package (" ++ toString count
      ++ " components)"
  | noSuchPosition position => "no applicable component at position " ++ toString position
  | noClassificationIndex index classification identifier =>
    "no classification index for component " ++ toString index.toNat ++ " (classification "
      ++ hexadecimalWord classification.toNat ++ ", identifier "
      ++ hexadecimalWord identifier.toNat ++ ")"
  | stated text => text

end RecordFault

namespace ConfigFault

/-- The fault in words: the bound that the value misses. -/
def message : ConfigFault → String
  | baselineTooSmall =>
    "baseline_transfer_size must be at least " ++ toString baselineTransferSize.toNat
  | maximumBelowBaseline =>
    "max_transfer_size must not be smaller than baseline_transfer_size"
  | noOutstandingRequests => "max_outstanding_transfer_requests must be greater than 0"
  | noInstanceIdExpiry => "instance_id_expiry must be greater than 0"
  | noCommandTimeout => "command_timeout must be greater than 0"
  | noOutcomeTimeout => "component_outcome_timeout must be greater than 0"
  | stated text => text

end ConfigFault

namespace Awaited

/-- What was waited for, in words. -/
def message : Awaited → String
  | response command => command.name ++ " response"
  | targetRequests component => "target requests for component " ++ toString component.toNat
  | stated text => text

end Awaited

namespace ReadFault

/-- The fault in words: the bytes that were wanted, and the cause. -/
def message : ReadFault → String
  | range count position cause =>
    toString count ++ " bytes at package offset " ++ toString position ++ ": " ++ cause
  | stated text => text

end ReadFault

namespace UpdateError

/-- The text of the error. -/
def message : UpdateError → String
  | encode command fault => "Failed to encode " ++ command ++ ": " ++ fault.message
  | decode command fault => "Failed to decode " ++ command ++ " response: " ++ fault.message
  | remote command completionCode =>
    command ++ " rejected by target with completion code "
      ++ hexadecimalByte completionCode.toNat
  | protocolRange completionCode offset length =>
    "Firmware data request offset=" ++ toString offset.toNat ++ " length="
      ++ toString length.toNat ++ " out of bounds (" ++ CompletionCode.name completionCode ++ ")"
  | transport reason => "Transport error: " ++ reason
  | resourceExhausted endpoint =>
    "No instance id available for endpoint " ++ toString endpoint.toNat
  | timeout awaited => "Timed out waiting for " ++ awaited.message
  | configuration fault => "Configuration error: " ++ fault.message
  | invalidConfig fault => "Invalid configuration: " ++ fault.message
  | packageRead fault => "Package read failed: " ++ fault.message
  | updateInProgress endpoint =>
    "Update already in progress for endpoint " ++ toString endpoint.toNat
  | cancelled => "Update cancelled"
  | sessionClosed => "Update session closed"

/-- Whether a fresh attempt at the whole update could succeed. -/
def isRecoverable : UpdateError → Bool
  | transport .. | timeout .. | resourceExhausted .. | remote .. => true
  | _ => false

def completionCode? : UpdateError → Option UInt8
  | remote _ completionCode | protocolRange completionCode .. => some completionCode
  | _ => none

end UpdateError

end FirmwareAgent
