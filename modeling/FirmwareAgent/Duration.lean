/-!
# Durations

A duration is a whole number of nanoseconds, below `2^64` seconds. It is written as whole seconds
and the nanoseconds left over; when it is read, nanoseconds of a second or more carry over into the
seconds.

An instant is the number of nanoseconds since the agent was started. A clock shows instants before
its end only, so a wait can be too long for the moment at which it is over to be set.
-/

namespace FirmwareAgent

def nanosPerSecond : Nat := 1000000000

def nanosPerMilli : Nat := 1000000

/-- A length of time. -/
structure Duration where
  /-- The nanoseconds it lasts. -/
  nanos : Nat
  /-- The whole seconds fit 64 bits. -/
  bounded : nanos / nanosPerSecond < UInt64.size
  deriving DecidableEq, Repr

namespace Duration

/-- A duration of a number of nanoseconds, if it is not too long. -/
def ofNanos? (nanos : Nat) : Option Duration :=
  if bounded : nanos / nanosPerSecond < UInt64.size then some ⟨nanos, bounded⟩ else none

def longest : Duration where
  nanos := nanosPerSecond * UInt64.size - 1
  bounded := by decide

/-- The duration of a number of nanoseconds, or the longest duration if it is longer than that. -/
def ofNanos (nanos : Nat) : Duration :=
  (ofNanos? nanos).getD longest

def ofMillis (millis : UInt64) : Duration where
  nanos := nanosPerMilli * millis.toNat
  bounded := by
    have small := millis.toNat_lt
    simp only [nanosPerMilli, nanosPerSecond, UInt64.size]
    omega

def ofSeconds (seconds : UInt64) : Duration where
  nanos := nanosPerSecond * seconds.toNat
  bounded := by
    have small := seconds.toNat_lt
    simpa [nanosPerSecond] using small

/-- Seconds and nanoseconds together. There is none if the carry exceeds 64 bits of seconds. -/
def ofParts? (seconds : UInt64) (nanos : UInt32) : Option Duration :=
  ofNanos? (nanosPerSecond * seconds.toNat + nanos.toNat)

/-- The whole seconds. -/
def seconds (duration : Duration) : Nat :=
  duration.nanos / nanosPerSecond

/-- The nanoseconds beyond the whole seconds. -/
def subsecondNanos (duration : Duration) : Nat :=
  duration.nanos % nanosPerSecond

/-- The whole milliseconds, at most `2^64 - 1`. -/
def millis (duration : Duration) : Nat :=
  min (duration.nanos / nanosPerMilli) (UInt64.size - 1)

/-- Whether no time passes. -/
def isZero (duration : Duration) : Bool :=
  duration.nanos == 0

end Duration

/-- Nanoseconds since the agent was started. -/
abbrev Instant := Nat

/-- The instant a duration after another, if it comes before the end of the clock. -/
def Instant.after? (start clockEnd : Instant) (duration : Duration) : Option Instant :=
  if start + duration.nanos < clockEnd then some (start + duration.nanos) else none

end FirmwareAgent
