import FirmwareAgent.Component
import FirmwareAgent.Error
import FirmwareAgent.Package
import FirmwareAgent.Wire.Body

/-!
# Served data

What a session reads for its target, and which requests for it are refused.
-/

namespace FirmwareAgent

/-! ## Firmware data

Which bytes answer a target's pull of image data. A pull asks for a length between the baseline and
the largest transfer size, and may reach up to the baseline past the end of the image, so that the
last pull can be a full one. What lies past the end is answered with zeros.
-/

/-- The bytes that answer one pull of image data. -/
structure FirmwareDataWindow where
  /-- Where the window starts in the image. -/
  offset : UInt32
  /-- The bytes that are read from the package. -/
  readLength : UInt32
  /-- The zeros that follow them. -/
  padLength : UInt32
  deriving DecidableEq, Repr

namespace FirmwareDataWindow

/-- The length of the answer. -/
def totalLength (window : FirmwareDataWindow) : Nat :=
  window.readLength.toNat + window.padLength.toNat

/-- The window that answers a pull, or why the pull is refused: a length out of bounds is reported
before an offset out of bounds. -/
def plan (imageSize : UInt32) (request : RequestFirmwareDataRequest) (baseline maximum : UInt32) :
    Except UpdateError FirmwareDataWindow :=
  let last := request.offset.toNat + request.length.toNat
  if request.length < baseline ∨ maximum < request.length then
    .error (.protocolRange CompletionCode.invalidTransferLength request.offset request.length)
  else if imageSize.toNat + baseline.toNat < last then
    .error (.protocolRange CompletionCode.dataOutOfRange request.offset request.length)
  else
    -- The pull is at least as long as the baseline, and reaches no further past the end.
    let padLength := UInt32.ofNat (min (last - imageSize.toNat) request.length.toNat)
    .ok ⟨request.offset, request.length - padLength, padLength⟩

/-- Where the window starts in the package. The sum is one of 64-bit numbers and wraps around, as in
a build without overflow checks. -/
def position (window : FirmwareDataWindow) (component : ComponentImage) : UInt64 :=
  component.packageOffset + window.offset.toUInt64

/-- Reads a window of a component's image and appends its zeros. The package is asked even when
nothing is to be read. -/
def read (window : FirmwareDataWindow) (package : PackageSource) (component : ComponentImage) :
    Reading UpdateError :=
  let position := (window.position component).toNat
  let count := window.readLength.toNat
  ((package.readAt position count).mapError fun error =>
      .packageRead (.range count position error.message)).map
    fun bytes => bytes ++ List.replicate window.padLength.toNat 0

end FirmwareDataWindow

/-! ## Package data

A target pulls the opaque package data in parts. The handle of a part is its offset into the data;
0 as the next handle says that the part was the last one.
-/

/-- One part of a transfer of package data. -/
structure PackageDataPart where
  /-- The first byte of the part. -/
  start : Nat
  /-- One past the last byte of the part. -/
  stop : Nat
  /-- The place of the part in the transfer. -/
  transferFlag : TransferFlag
  /-- The handle of the next part, 0 after the last. -/
  nextHandle : UInt32
  deriving DecidableEq, Repr

namespace PackageDataPart

def refusal (request : GetPackageDataRequest) (completionCode : UInt8) : UpdateError :=
  .protocolRange completionCode request.dataTransferHandle 0

/-- Where the part that a request asks for starts in data of the given length. -/
def startOf (length : Nat) (request : GetPackageDataRequest) : Except UpdateError Nat :=
  match request.operation with
  | .getFirstPart => .ok 0
  | .getNextPart =>
    let handle := request.dataTransferHandle.toNat
    if handle = 0 ∨ length ≤ handle then
      .error (refusal request CompletionCode.invalidTransferHandle)
    else .ok handle

/-- The part that answers a request, or why the request is refused. -/
def plan (length : Nat) (request : GetPackageDataRequest) (maxTransferSize : UInt32) :
    Except UpdateError PackageDataPart := do
  if length = 0 then throw (refusal request CompletionCode.noPackageData)
  let start ← startOf length request
  let stop := min (start + maxTransferSize.toNat) length
  let isLast := stop == length
  let transferFlag := TransferFlag.ofBounds (start == 0) isLast
  if isLast then return ⟨start, stop, transferFlag, 0⟩
  -- A handle has 32 bits, and data behind the reach of a handle cannot be pulled.
  else if stop < UInt32.size then return ⟨start, stop, transferFlag, UInt32.ofNat stop⟩
  else throw (refusal request CompletionCode.invalidTransferHandle)

end PackageDataPart

end FirmwareAgent
