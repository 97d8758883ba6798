import FirmwareAgent.Wire.Codec
import FirmwareAgent.Wire.Command

/-!
# Message framing

A message starts with a header of three bytes:

* byte 0: bit 7 tells a request from a response, bits 4 to 0 are the instance id;
* byte 1: bits 7 and 6 are the header version, which is 0, bits 5 to 0 the PLDM type;
* byte 2: the command code.

A response goes on with its completion code. The body follows. The header is read whole before its
version is judged, and its version before the direction of the message.
-/

namespace FirmwareAgent

/-- The tag that ties a response to its request: five bits, so 0 to 31. -/
abbrev InstanceId := Fin 32

namespace InstanceId

/-- The id with a given number. -/
def ofByte? (raw : UInt8) : Option InstanceId :=
  if fits : raw.toNat < 32 then some ⟨raw.toNat, fits⟩ else none

def toByte (id : InstanceId) : UInt8 :=
  UInt8.ofNat id.val

/-- Every id, in ascending order. -/
def all : List InstanceId :=
  List.finRange 32

end InstanceId

/-- The number of bytes in front of a request's body. -/
def headerLength : Nat := 3

/-- The header of a message. -/
structure Header where
  isRequest : Bool
  instanceId : InstanceId
  pldmType : UInt8
  command : UInt8
  deriving DecidableEq, Repr

namespace Header

/-- The three bytes of a header. Of the type only the low six bits are written. -/
def toBytes (header : Header) : Bytes :=
  [ (if header.isRequest then 0x80 else 0) ||| header.instanceId.toByte,
    header.pldmType &&& 0x3F,
    header.command ]

/-- The three bytes of a header as they are read. -/
def bytesCodec : Codec (UInt8 × UInt8 × UInt8) :=
  (Codec.byte "header flags").followedBy <|
    (Codec.byte "header type").followedBy (Codec.byte "command code")

/-- The id in the low five bits of the first byte. -/
def instanceIdOf (flags : UInt8) : InstanceId :=
  ⟨flags.toNat % 32, Nat.mod_lt _ (by decide)⟩

/-- Reads a header and gives back the bytes that follow it. -/
def read (bytes : Bytes) : Except WireError (Header × Bytes) := do
  -- A short header is reported as such even if its version is wrong too.
  let ((flags, typeByte, command), rest) ← bytesCodec.read bytes
  let version := typeByte >>> 6
  if version ≠ 0 then throw (.invalidValue "header version" version.toNat)
  return (⟨flags &&& 0x80 != 0, instanceIdOf flags, typeByte &&& 0x3F, command⟩, rest)

end Header

/-- A response. -/
structure Response where
  instanceId : InstanceId
  pldmType : UInt8
  command : UInt8
  completionCode : UInt8
  body : Bytes
  deriving DecidableEq, Repr

/-- A request. -/
structure Request where
  instanceId : InstanceId
  pldmType : UInt8
  command : UInt8
  payload : Bytes
  deriving DecidableEq, Repr

namespace Request

def firmwareUpdate (instanceId : InstanceId) (command : Command) (payload : Bytes) : Request :=
  ⟨instanceId, firmwareUpdateType, command.code, payload⟩

def header (request : Request) : Header :=
  ⟨true, request.instanceId, request.pldmType, request.command⟩

/-- The framed request. -/
def toBytes (request : Request) : Bytes :=
  request.header.toBytes ++ request.payload

/-- Reads a framed request. -/
def ofBytes (bytes : Bytes) : Except WireError Request := do
  let (header, payload) ← Header.read bytes
  if !header.isRequest then throw (.wrongDirection "request")
  return ⟨header.instanceId, header.pldmType, header.command, payload⟩

/-- The response that echoes the request's id, type and command. -/
def respond (request : Request) (completionCode : UInt8) (body : Bytes) : Response :=
  ⟨request.instanceId, request.pldmType, request.command, completionCode, body⟩

/-- The response that carries nothing but a completion code. -/
def refuse (request : Request) (completionCode : UInt8) : Response :=
  request.respond completionCode []

end Request

namespace Response

/-- Whether the completion code reports success. -/
def isSuccess (response : Response) : Bool :=
  response.completionCode == CompletionCode.success

def header (response : Response) : Header :=
  ⟨false, response.instanceId, response.pldmType, response.command⟩

/-- The framed response. -/
def toBytes (response : Response) : Bytes :=
  response.header.toBytes ++ response.completionCode :: response.body

/-- Reads a framed response. -/
def ofBytes (bytes : Bytes) : Except WireError Response := do
  let (header, rest) ← Header.read bytes
  if header.isRequest then throw (.wrongDirection "response")
  let (completionCode, body) ← (Codec.byte "completion code").read rest
  return ⟨header.instanceId, header.pldmType, header.command, completionCode, body⟩

end Response

end FirmwareAgent
