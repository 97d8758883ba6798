import FirmwareAgent.Duration
import FirmwareAgent.Error

/-!
# Configuration

What every session of an agent has in common. `UpdateConfig.validate` says whether the values are
in range; the first value out of range, in the order of `UpdateConfig.faults`, is reported.
-/

namespace FirmwareAgent

/-- The configuration that an agent's sessions share. -/
structure UpdateConfig where
  /-- The largest chunk the agent serves per pull. -/
  maxTransferSize : UInt32 := 4096
  /-- The smallest chunk a target may pull, and the slack past the end of an image. -/
  baselineTransferSize : UInt32 := FirmwareAgent.baselineTransferSize
  /-- The outstanding transfer requests announced in RequestUpdate. -/
  maxOutstandingTransferRequests : UInt8 := minOutstandingTransferRequests
  /-- The age past which a held instance id may be taken back. -/
  instanceIdExpiry : Duration := .ofSeconds 5
  /-- The bound on the exchange of every command of the agent. -/
  commandTimeout : Duration := .ofSeconds 5
  /-- The bound on a target's silence while a component is outstanding. -/
  componentOutcomeTimeout : Duration := .ofSeconds 60
  /-- Whether a session that fails in update mode sends CancelUpdate. -/
  cancelOnFailure : Bool := true
  deriving DecidableEq, Repr

namespace UpdateConfig

/-- The faults a configuration can have, in the order of report, each with whether it is there. -/
def faults (config : UpdateConfig) : List (Bool × ConfigFault) :=
  [ (config.baselineTransferSize < FirmwareAgent.baselineTransferSize, .baselineTooSmall),
    (config.maxTransferSize < config.baselineTransferSize, .maximumBelowBaseline),
    (config.maxOutstandingTransferRequests < minOutstandingTransferRequests,
      .noOutstandingRequests),
    (config.instanceIdExpiry.isZero, .noInstanceIdExpiry),
    (config.commandTimeout.isZero, .noCommandTimeout),
    (config.componentOutcomeTimeout.isZero, .noOutcomeTimeout) ]

/-- Refuses a configuration with a value out of range. -/
def validate (config : UpdateConfig) : Except UpdateError Unit :=
  match config.faults.find? (·.1) with
  | some (_, fault) => .error (.invalidConfig fault)
  | none => .ok ()

end UpdateConfig

end FirmwareAgent
