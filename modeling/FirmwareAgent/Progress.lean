import FirmwareAgent.Duration
import FirmwareAgent.Session.Basic

/-!
# Progress and reports

The tracker counts, for every device, the components that have finished. It puts each notification
of a session into a progress event. The percentage of an event is taken over all tracked devices;
a device stays tracked after its report has been collected, until the collected ones are cleared,
so that the percentage does not fall while a batch of devices is under way.
-/

namespace FirmwareAgent

/-- What a progress event is about. -/
inductive UpdatePhase
  | started
  /-- One component has finished. -/
  | componentApplied (index : ComponentIndex) (success : Bool)
  | completed
  | failed
  deriving DecidableEq, Repr

/-- A progress event. -/
structure UpdateProgress where
  endpoint : EndpointId
  phase : UpdatePhase
  /-- The components of the device that have finished. -/
  componentsDone : Nat
  /-- The components that apply to the device. -/
  componentsTotal : Nat
  /-- The progress over all tracked devices, 0 to 100. -/
  progressPercent : UInt8
  statusMessage : String
  deriving DecidableEq, Repr

/-- How a component ended. -/
structure ComponentOutcome where
  index : ComponentIndex
  /-- Whether the target applied it. -/
  success : Bool
  deriving DecidableEq, Repr

/-- What became of the update of one device. -/
structure DeviceUpdateReport where
  endpoint : EndpointId
  /-- Whether the target accepted activation. -/
  success : Bool
  /-- How the components ended, in that order. -/
  components : List ComponentOutcome
  duration : Duration
  /-- Why the update failed. -/
  error : Option String
  deriving DecidableEq, Repr

structure DeviceProgress where
  componentsTotal : Nat
  outcomes : Array ComponentOutcome := #[]
  /-- Whether the report has been collected. -/
  isCollected : Bool := false
  deriving DecidableEq, Repr

/-- The progress of every tracked device, by endpoint. -/
structure ProgressTracker where
  devices : List (EndpointId × DeviceProgress) := []
  deriving DecidableEq, Repr

/-- The sum of some numbers. -/
def totalOf : List Nat → Nat
  | [] => 0
  | number :: numbers => number + totalOf numbers

/-- The share of `done` in `total` as a whole percentage, rounded down. -/
def percent (done total : Nat) : UInt8 :=
  if total = 0 then 0 else UInt8.ofNat (min done total * 100 / total)

namespace ProgressTracker

def device? (tracker : ProgressTracker) (endpoint : EndpointId) : Option DeviceProgress :=
  tracker.devices.lookup endpoint

def modify (tracker : ProgressTracker) (endpoint : EndpointId)
    (change : DeviceProgress → DeviceProgress) : ProgressTracker :=
  ⟨tracker.devices.map fun (key, device) =>
    (key, if key = endpoint then change device else device)⟩

/-- Finished components of all tracked devices. -/
def doneOverall (tracker : ProgressTracker) : Nat :=
  totalOf (tracker.devices.map fun (_, device) => device.outcomes.size)

/-- Applicable components of all tracked devices. -/
def totalOverall (tracker : ProgressTracker) : Nat :=
  totalOf (tracker.devices.map fun (_, device) => device.componentsTotal)

/-- The event that tells the progress of a device. -/
def event (tracker : ProgressTracker) (endpoint : EndpointId) (phase : UpdatePhase)
    (statusMessage : String) : UpdateProgress :=
  let device := (tracker.device? endpoint).getD { componentsTotal := 0 }
  ⟨endpoint, phase, device.outcomes.size, device.componentsTotal,
    percent tracker.doneOverall tracker.totalOverall, statusMessage⟩

/-- Tracks a device from the start. What was known of an earlier update of it is forgotten. -/
def register (tracker : ProgressTracker) (endpoint : EndpointId) (componentsTotal : Nat) :
    ProgressTracker × UpdateProgress :=
  let tracker : ProgressTracker :=
    ⟨(endpoint, { componentsTotal := componentsTotal }) ::
      tracker.devices.filter (·.1 ≠ endpoint)⟩
  (tracker, tracker.event endpoint .started "Update started")

/-- Takes note of a session's notification. -/
def record (tracker : ProgressTracker) : Notification → ProgressTracker × UpdateProgress
  | .applied endpoint index success =>
    let tracker := tracker.modify endpoint fun device =>
      { device with outcomes := device.outcomes.push ⟨index, success⟩ }
    (tracker, tracker.event endpoint (.componentApplied index success)
      ("Component " ++ toString index.toNat ++ if success then " applied" else " failed"))
  | .completed endpoint true =>
    (tracker, tracker.event endpoint .completed "Update completed")
  | .completed endpoint false =>
    (tracker, tracker.event endpoint .failed "Update failed")

/-- The outcomes of a device, which counts as collected from now on. -/
def collect (tracker : ProgressTracker) (endpoint : EndpointId) :
    ProgressTracker × List ComponentOutcome :=
  (tracker.modify endpoint fun device => { device with isCollected := true },
    ((tracker.device? endpoint).map (·.outcomes.toList)).getD [])

/-- Stops tracking the collected devices. -/
def clearCollected (tracker : ProgressTracker) : ProgressTracker :=
  ⟨tracker.devices.filter fun (_, device) => !device.isCollected⟩

end ProgressTracker

end FirmwareAgent
