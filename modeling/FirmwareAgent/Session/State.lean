import FirmwareAgent.Error

/-!
# Where a session is in the update sequence

```text
idle → awaitingUpdateAck → passingComponentTable 0 … N-1
     → updatingComponent i → awaitingComponentOutcome i → updatingComponent (i + 1) …
     → activatingFirmware → completed
```

Every state but the last can also lead to `failed`. Positions count the components that apply to the
device, not those of the package.
-/

namespace FirmwareAgent

/-- Where a session is in the update sequence. -/
inductive SessionState
  /-- Not started. -/
  | idle
  /-- RequestUpdate is sent. -/
  | awaitingUpdateAck
  /-- PassComponentTable is sent for the component at the position. -/
  | passingComponentTable (position : Nat)
  /-- UpdateComponent is sent for the component at the position. -/
  | updatingComponent (position : Nat)
  /-- The target pulls and applies the component at the position. -/
  | awaitingComponentOutcome (position : Nat)
  /-- ActivateFirmware is sent. -/
  | activatingFirmware
  /-- The target accepted activation. -/
  | completed
  /-- The update was given up. -/
  | failed (reason : UpdateError)
  deriving DecidableEq, Repr

namespace SessionState

/-- Whether no further transition can happen. -/
def isTerminal : SessionState → Bool
  | completed | failed _ => true
  | _ => false

/-- Whether the target is between RequestUpdate and the end of the update. -/
def isInProgress (state : SessionState) : Bool :=
  state ≠ idle && !state.isTerminal

def position? : SessionState → Option Nat
  | passingComponentTable position | updatingComponent position
  | awaitingComponentOutcome position => some position
  | _ => none

/-- Why the update was given up. -/
def reason? : SessionState → Option UpdateError
  | failed reason => some reason
  | _ => none

def name : SessionState → String
  | idle => "Idle"
  | awaitingUpdateAck => "AwaitingUpdateAck"
  | passingComponentTable _ => "PassingComponentTable"
  | updatingComponent _ => "UpdatingComponent"
  | awaitingComponentOutcome _ => "AwaitingComponentOutcome"
  | activatingFirmware => "ActivatingFirmware"
  | completed => "Completed"
  | failed _ => "Failed"

/-- The name of the state and its position, as errors show it. -/
def describe (state : SessionState) : String :=
  match state.position? with
  | some position => state.name ++ " \x7b position: " ++ toString position ++ " \x7d"
  | none => state.name

end SessionState

end FirmwareAgent
