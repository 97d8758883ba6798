import FirmwareAgent.Wire.Codec
import FirmwareAgent.Wire.Command
import FirmwareAgent.Wire.Transfer
import FirmwareAgent.Wire.VersionString

/-!
# Bodies

The bodies of the requests and responses that an update exchanges, each with its command and its
codec. A response body is what follows the completion code of a successful response; a response
that reports a failure has no body.

`Body.encode` and `Body.decode` are the two directions. A body is decoded from exactly its bytes,
so surplus bytes are refused. Only `GetPackageDataResponse` has an open end.
-/

namespace FirmwareAgent

/-- A type of message bodies. -/
class Body (α : Type) where
  /-- The command the body belongs to. -/
  command : Command
  /-- The name that the error about surplus bytes shows. -/
  message : String
  /-- The wire form. -/
  codec : Codec α

namespace Body

variable {α : Type} [Body α]

/-- Writes a body. The only bodies without a wire form are those with too long a version. -/
def encode (body : α) : Except WireError Bytes :=
  (codec : Codec α).write body

/-- Reads a body from exactly its bytes. -/
def decode (α : Type) [Body α] (bytes : Bytes) : Except WireError α :=
  (codec : Codec α).readAll (message α) bytes

end Body

/-! ## RequestUpdate -/

/-- Asks a target to enter update mode. -/
structure RequestUpdateRequest where
  /-- The largest chunk the agent serves per RequestFirmwareData. -/
  maxTransferSize : UInt32
  /-- The number of components that will be passed. -/
  numComponents : UInt16
  maxOutstandingTransferRequests : UInt8
  packageDataLength : UInt16
  imageSetVersion : VersionString
  deriving DecidableEq, Repr

/-- A count as a 16-bit field. -/
def countField (field : String) (count : Nat) : Except WireError UInt16 :=
  if count < 65536 then .ok (UInt16.ofNat count) else .error (.fieldOverflow field count)

/-- The request for given counts. The component count is checked before the package data length. -/
def RequestUpdateRequest.ofCounts (maxTransferSize : UInt32) (numComponents : Nat)
    (maxOutstandingTransferRequests : UInt8) (packageDataLength : Nat) (imageSetVersion : String) :
    Except WireError RequestUpdateRequest := do
  let numComponents ← countField "number of components" numComponents
  let packageDataLength ← countField "package data length" packageDataLength
  return ⟨maxTransferSize, numComponents, maxOutstandingTransferRequests, packageDataLength,
    VersionString.ofText imageSetVersion⟩

instance : Body RequestUpdateRequest where
  command := .requestUpdate
  message := "RequestUpdate request"
  codec :=
    ((Codec.word32 "maximum transfer size").followedBy <|
      (Codec.word16 "number of components").followedBy <|
      (Codec.byte "maximum outstanding requests").followedBy <|
      (Codec.word16 "package data length").followedBy VersionString.codec).as
    (fun (size, count, outstanding, length, version) => ⟨size, count, outstanding, length, version⟩)
    (fun body => (body.maxTransferSize, body.numComponents, body.maxOutstandingTransferRequests,
      body.packageDataLength, body.imageSetVersion))

/-- A target's consent to enter update mode. -/
structure RequestUpdateResponse where
  /-- The length of the metadata the target wants to hand over later. -/
  metadataLength : UInt16
  /-- Whether the target will pull the package data. -/
  willSendPackageData : Bool
  deriving DecidableEq, Repr

instance : Body RequestUpdateResponse where
  command := .requestUpdate
  message := "RequestUpdate response"
  codec :=
    ((Codec.word16 "device metadata length").followedBy (Codec.flag "will send package data")).as
    (fun (length, willSend) => ⟨length, willSend⟩)
    (fun body => (body.metadataLength, body.willSendPackageData))

/-! ## PassComponentTable -/

/-- What identifies a component to a target. -/
structure ComponentIdentity where
  classification : UInt16
  identifier : UInt16
  /-- The classification index that the target reported. -/
  classificationIndex : UInt8
  /-- The comparison stamp of the image in the package. -/
  comparisonStamp : UInt32
  deriving DecidableEq, Repr

/-- Classification, identifier, classification index, comparison stamp. -/
def ComponentIdentity.codec : Codec ComponentIdentity :=
  ((Codec.word16 "component classification").followedBy <|
    (Codec.word16 "component identifier").followedBy <|
    (Codec.byte "component classification index").followedBy
      (Codec.word32 "component comparison stamp")).as
  (fun (classification, identifier, index, stamp) => ⟨classification, identifier, index, stamp⟩)
  (fun identity => (identity.classification, identity.identifier, identity.classificationIndex,
    identity.comparisonStamp))

/-- One entry of the component table. -/
structure PassComponentTableRequest where
  /-- The place of the entry in the table. -/
  transferFlag : TransferFlag
  component : ComponentIdentity
  version : VersionString
  deriving DecidableEq, Repr

instance : Body PassComponentTableRequest where
  command := .passComponentTable
  message := "PassComponentTable request"
  codec :=
    (((Codec.byte "transfer flag").refine TransferFlag.ofCode TransferFlag.code).followedBy <|
      ComponentIdentity.codec.followedBy VersionString.codec).as
    (fun (transferFlag, component, version) => ⟨transferFlag, component, version⟩)
    (fun body => (body.transferFlag, body.component, body.version))

/-- A target's answer to a table entry. -/
structure PassComponentTableResponse where
  /-- 0 if the component can be updated, 1 if it may be. -/
  componentResponse : UInt8
  /-- The reason behind the response. -/
  componentResponseCode : UInt8
  deriving DecidableEq, Repr

instance : Body PassComponentTableResponse where
  command := .passComponentTable
  message := "PassComponentTable response"
  codec :=
    ((Codec.byte "component response").followedBy (Codec.byte "component response code")).as
    (fun (response, code) => ⟨response, code⟩)
    (fun body => (body.componentResponse, body.componentResponseCode))

/-! ## UpdateComponent -/

/-- Announces the component whose image comes next. -/
structure UpdateComponentRequest where
  component : ComponentIdentity
  imageSize : UInt32
  /-- The options asked for. -/
  updateOptionFlags : UInt32
  version : VersionString
  deriving DecidableEq, Repr

instance : Body UpdateComponentRequest where
  command := .updateComponent
  message := "UpdateComponent request"
  codec :=
    (ComponentIdentity.codec.followedBy <|
      (Codec.word32 "component image size").followedBy <|
      (Codec.word32 "update option flags").followedBy VersionString.codec).as
    (fun (component, size, flags, version) => ⟨component, size, flags, version⟩)
    (fun body => (body.component, body.imageSize, body.updateOptionFlags, body.version))

/-- A target's answer to an announced component. -/
structure UpdateComponentResponse where
  /-- 0 if the component can be updated, anything else if it will not be. -/
  compatibilityResponse : UInt8
  /-- The reason behind the response. -/
  compatibilityResponseCode : UInt8
  /-- The options the target accepted. -/
  updateOptionFlagsEnabled : UInt32
  /-- Seconds before the target starts to pull. -/
  timeBeforeRequest : UInt16
  deriving DecidableEq, Repr

/-- Whether the target accepted the component. -/
def UpdateComponentResponse.isCompatible (body : UpdateComponentResponse) : Bool :=
  body.compatibilityResponse == 0

instance : Body UpdateComponentResponse where
  command := .updateComponent
  message := "UpdateComponent response"
  codec :=
    ((Codec.byte "compatibility response").followedBy <|
      (Codec.byte "compatibility response code").followedBy <|
      (Codec.word32 "update option flags enabled").followedBy
        (Codec.word16 "time before request fw data")).as
    (fun (response, code, flags, time) => ⟨response, code, flags, time⟩)
    (fun body => (body.compatibilityResponse, body.compatibilityResponseCode,
      body.updateOptionFlagsEnabled, body.timeBeforeRequest))

/-! ## Requests of the target while a component is outstanding -/

/-- A target's pull of image bytes. -/
structure RequestFirmwareDataRequest where
  /-- The offset into the image. -/
  offset : UInt32
  /-- The number of bytes asked for. -/
  length : UInt32
  deriving DecidableEq, Repr

instance : Body RequestFirmwareDataRequest where
  command := .requestFirmwareData
  message := "RequestFirmwareData request"
  codec :=
    ((Codec.word32 "offset").followedBy (Codec.word32 "length")).as
    (fun (offset, length) => ⟨offset, length⟩)
    (fun body => (body.offset, body.length))

/-- The result of a transfer. -/
structure TransferCompleteRequest where
  /-- 0 for success, anything else names the failure. -/
  transferResult : UInt8
  deriving DecidableEq, Repr

def TransferCompleteRequest.succeeded (body : TransferCompleteRequest) : Bool :=
  body.transferResult == 0

instance : Body TransferCompleteRequest where
  command := .transferComplete
  message := "TransferComplete request"
  codec :=
    (Codec.byte "transfer result").as (fun result => ⟨result⟩) (fun body => body.transferResult)

/-- The result of a verification. -/
structure VerifyCompleteRequest where
  /-- 0 for success, anything else names the failure. -/
  verifyResult : UInt8
  deriving DecidableEq, Repr

def VerifyCompleteRequest.succeeded (body : VerifyCompleteRequest) : Bool :=
  body.verifyResult == 0

instance : Body VerifyCompleteRequest where
  command := .verifyComplete
  message := "VerifyComplete request"
  codec :=
    (Codec.byte "verify result").as (fun result => ⟨result⟩) (fun body => body.verifyResult)

structure ApplyCompleteRequest where
  /-- 0 for success, 1 for success with a changed activation method. -/
  applyResult : UInt8
  /-- The activation methods the target changed to, when the result is 1. -/
  activationMethodsModification : UInt16
  deriving DecidableEq, Repr

def ApplyCompleteRequest.succeeded (body : ApplyCompleteRequest) : Bool :=
  body.applyResult == 0 || body.applyResult == 1

instance : Body ApplyCompleteRequest where
  command := .applyComplete
  message := "ApplyComplete request"
  codec :=
    ((Codec.byte "apply result").followedBy (Codec.word16 "activation methods modification")).as
    (fun (result, methods) => ⟨result, methods⟩)
    (fun body => (body.applyResult, body.activationMethodsModification))

/-! ## ActivateFirmware -/

/-- Asks a target to activate what it applied. -/
structure ActivateFirmwareRequest where
  /-- Whether self-contained components are to be activated at once. -/
  selfContainedActivation : Bool
  deriving DecidableEq, Repr

instance : Body ActivateFirmwareRequest where
  command := .activateFirmware
  message := "ActivateFirmware request"
  codec :=
    (Codec.strictFlag "self-contained activation request").as
    (fun activation => ⟨activation⟩)
    (fun body => body.selfContainedActivation)

/-- A target's consent to activate. -/
structure ActivateFirmwareResponse where
  /-- Seconds the target needs for self-contained activation. -/
  estimatedTimeForActivation : UInt16
  deriving DecidableEq, Repr

instance : Body ActivateFirmwareResponse where
  command := .activateFirmware
  message := "ActivateFirmware response"
  codec :=
    (Codec.word16 "estimated activation time").as
    (fun time => ⟨time⟩)
    (fun body => body.estimatedTimeForActivation)

/-! ## GetPackageData -/

/-- A target's pull of package data. -/
structure GetPackageDataRequest where
  /-- The handle that came with the previous part, ignored for the first part. -/
  dataTransferHandle : UInt32
  operation : TransferOperation
  deriving DecidableEq, Repr

instance : Body GetPackageDataRequest where
  command := .getPackageData
  message := "GetPackageData request"
  codec :=
    ((Codec.word32 "data transfer handle").followedBy <|
      (Codec.byte TransferOperation.field).refine TransferOperation.ofCode
        TransferOperation.code).as
    (fun (handle, operation) => ⟨handle, operation⟩)
    (fun body => (body.dataTransferHandle, body.operation))

/-- One part of the package data. -/
structure GetPackageDataResponse where
  /-- The handle of the next part, 0 after the last. -/
  nextDataTransferHandle : UInt32
  /-- The place of this part. -/
  transferFlag : TransferFlag
  /-- The bytes of this part. -/
  portion : Bytes
  deriving DecidableEq, Repr

instance : Body GetPackageDataResponse where
  command := .getPackageData
  message := "GetPackageData response"
  codec :=
    ((Codec.word32 "next data transfer handle").followedBy <|
      ((Codec.byte "transfer flag").refine TransferFlag.ofCode TransferFlag.code).followedBy
        (Codec.remainder "portion")).as
    (fun (handle, transferFlag, portion) => ⟨handle, transferFlag, portion⟩)
    (fun body => (body.nextDataTransferHandle, body.transferFlag, body.portion))

/-! ## CancelUpdate -/

/-- A target's answer to a cancelled update. -/
structure CancelUpdateResponse where
  /-- Whether a component was left without function. -/
  nonFunctioningComponentIndication : Bool
  /-- The components left without function. -/
  nonFunctioningComponentBitmap : UInt64
  deriving DecidableEq, Repr

instance : Body CancelUpdateResponse where
  command := .cancelUpdate
  message := "CancelUpdate response"
  codec :=
    ((Codec.flag "non-functioning component indication").followedBy
      (Codec.word64 "non-functioning component bitmap")).as
    (fun (indication, bitmap) => ⟨indication, bitmap⟩)
    (fun body => (body.nonFunctioningComponentIndication, body.nonFunctioningComponentBitmap))

end FirmwareAgent
