import FirmwareAgent.Bytes

/-!
# Package sources

A package source gives random access to the bytes of a firmware package. Sessions read one that is
in memory at once; a read of any other is finished apart from the session. A read yields the whole
range it asks for, or fails, or takes down whoever performs it.
-/

namespace FirmwareAgent

/-- How a read ends. -/
inductive Reading (ε : Type)
  /-- The bytes that were asked for. -/
  | done (bytes : Bytes)
  /-- They could not be supplied. -/
  | failed (error : ε)
  /-- The source broke down, and the reader with it. -/
  | crashed
  deriving DecidableEq, Repr

namespace Reading

/-- The same reading with another kind of error. -/
def mapError {ε δ : Type} (f : ε → δ) : Reading ε → Reading δ
  | done bytes => .done bytes
  | failed error => .failed (f error)
  | crashed => .crashed

/-- The same reading with other bytes. -/
def map {ε : Type} (f : Bytes → Bytes) : Reading ε → Reading ε
  | done bytes => .done (f bytes)
  | failed error => .failed error
  | crashed => .crashed

end Reading

/-- Why a source did not supply a range. -/
inductive SourceError
  /-- The range ends beyond a package held in memory. -/
  | pastEnd (count offset length : Nat)
  /-- The file ended before the range was complete. -/
  | shortFile
  /-- The file system takes no such offset. -/
  | invalidArgument
  deriving DecidableEq, Repr

namespace SourceError

/-- The class of the error. -/
def kind : SourceError → String
  | pastEnd .. | shortFile => "UnexpectedEof"
  | invalidArgument => "InvalidInput"

/-- The text of the error. -/
def message : SourceError → String
  | pastEnd count offset length =>
    "read of " ++ toString count ++ " bytes at " ++ toString offset ++ " past end of "
      ++ toString length ++ "-byte package"
  | shortFile => "failed to fill whole buffer"
  | invalidArgument => "Invalid argument (os error 22)"

end SourceError

/-- Random access to the bytes of a package. -/
structure PackageSource where
  /-- The length of the package. -/
  length : Nat
  /-- Whether sessions read the source at once. -/
  isInMemory : Bool
  readAt : (offset count : Nat) → Reading SourceError

namespace PackageSource

/-- Whether the package has no bytes. -/
def isEmpty (source : PackageSource) : Bool :=
  source.length == 0

/-- A package held in memory. It refuses every range that leaves it, the empty one included. -/
def memory (bytes : Array UInt8) : PackageSource where
  length := bytes.size
  isInMemory := true
  readAt offset count :=
    if offset + count ≤ bytes.size then .done (bytes.extract offset (offset + count)).toList
    else .failed (.pastEnd count offset bytes.size)

/-- A package in a file. The empty range never touches the file. File offsets are signed 64-bit
numbers, and a range must end within them. -/
def file (bytes : Array UInt8) : PackageSource where
  length := bytes.size
  isInMemory := false
  readAt offset count :=
    if count = 0 then .done []
    else if offset + count ≤ bytes.size then .done (bytes.extract offset (offset + count)).toList
    else if offset + count < UInt64.size / 2 then .failed .shortFile
    else .failed .invalidArgument

/-- The same source behind a store that answers apart from the session. -/
def offloaded (source : PackageSource) : PackageSource :=
  { source with isInMemory := false }

/-- An empty source that breaks down at every read. -/
def crashing (isInMemory : Bool) : PackageSource where
  length := 0
  isInMemory := isInMemory
  readAt _ _ := .crashed

end PackageSource

end FirmwareAgent
