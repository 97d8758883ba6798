import FirmwareAgent.Component
import FirmwareAgent.Config
import FirmwareAgent.Json.Basic
import FirmwareAgent.Progress

/-!
# Records as JSON

How the configuration, the component metadata, the device records, the progress events and the
reports are written as JSON, and what of JSON is read as one of them.
-/

namespace FirmwareAgent

/-! ## The configuration as JSON

Every field of a configuration has a default, so any of them may be left out. A duration has both
its fields and no others.
-/

namespace Duration

def keys : List String :=
  ["secs", "nanos"]

def toJson (duration : Duration) : Json :=
  .object [("secs", .ofNat duration.seconds), ("nanos", .ofNat duration.subsecondNanos)]

/-- Reads a duration. Nanoseconds of a second or more carry over. -/
def ofJson? (json : Json) : Option Duration := do
  guard (json.hasOnly keys)
  match ← json.slots keys keys.length with
  | [seconds, nanos] =>
    Duration.ofParts? (← Json.required Json.uint64? seconds) (← Json.required Json.uint32? nanos)
  | _ => none

end Duration

namespace UpdateConfig

/-- The keys of a configuration, in their fixed order. -/
def keys : List String :=
  ["max_transfer_size", "baseline_transfer_size", "max_outstanding_transfer_requests",
    "instance_id_expiry", "command_timeout", "component_outcome_timeout", "cancel_on_failure"]

def toJson (config : UpdateConfig) : Json :=
  .object (keys.zip
    [ .ofNat config.maxTransferSize.toNat,
      .ofNat config.baselineTransferSize.toNat,
      .ofNat config.maxOutstandingTransferRequests.toNat,
      config.instanceIdExpiry.toJson,
      config.commandTimeout.toJson,
      config.componentOutcomeTimeout.toJson,
      .bool config.cancelOnFailure ])

/-- Reads a configuration. -/
def ofJson? (json : Json) : Option UpdateConfig := do
  let standard : UpdateConfig := {}
  match ← json.slots keys 0 with
  | [maximum, baseline, outstanding, expiry, command, outcome, cancel] =>
    return {
      maxTransferSize := ← Json.optional Json.uint32? standard.maxTransferSize maximum
      baselineTransferSize := ← Json.optional Json.uint32? standard.baselineTransferSize baseline
      maxOutstandingTransferRequests :=
        ← Json.optional Json.uint8? standard.maxOutstandingTransferRequests outstanding
      instanceIdExpiry := ← Json.optional Duration.ofJson? standard.instanceIdExpiry expiry
      commandTimeout := ← Json.optional Duration.ofJson? standard.commandTimeout command
      componentOutcomeTimeout :=
        ← Json.optional Duration.ofJson? standard.componentOutcomeTimeout outcome
      cancelOnFailure := ← Json.optional Json.bool? standard.cancelOnFailure cancel }
  | _ => none

end UpdateConfig

/-! ## Components and device records as JSON -/

namespace ComponentImage

/-- The keys of a component, in their fixed order. -/
def keys : List String :=
  ["classification", "identifier", "comparison_stamp", "options", "requested_activation_method",
    "size", "package_offset", "version"]

def toJson (component : ComponentImage) : Json :=
  .object (keys.zip
    [ .ofNat component.classification.toNat,
      .ofNat component.identifier.toNat,
      .ofNat component.comparisonStamp.toNat,
      .ofNat component.options.toNat,
      .ofNat component.requestedActivationMethod.toNat,
      .ofNat component.size.toNat,
      .ofNat component.packageOffset.toNat,
      .text component.version ])

/-- Reads a component. -/
def ofJson? (json : Json) : Option ComponentImage := do
  match ← json.slots keys keys.length with
  | [classification, identifier, stamp, options, method, size, offset, version] =>
    return {
      classification := ← Json.required Json.uint16? classification
      identifier := ← Json.required Json.uint16? identifier
      comparisonStamp := ← Json.required Json.uint32? stamp
      options := ← Json.required Json.uint16? options
      requestedActivationMethod := ← Json.required Json.uint16? method
      size := ← Json.required Json.uint32? size
      packageOffset := ← Json.required Json.uint64? offset
      version := ← Json.required Json.text? version }
  | _ => none

end ComponentImage

namespace DeviceRecord

/-- The keys of a device record, in their fixed order. -/
def keys : List String :=
  ["endpoint", "applicable_components", "package_data", "image_set_version"]

def toJson (record : DeviceRecord) : Json :=
  .object (keys.zip
    [ .ofNat record.endpoint.toNat,
      .array (record.applicableComponents.toList.map fun index => .ofNat index.toNat),
      .array (record.packageData.toList.map fun byte => .ofNat byte.toNat),
      .text record.imageSetVersion ])

/-- Reads a device record. Package data may be left out. -/
def ofJson? (json : Json) : Option DeviceRecord := do
  match ← json.slots keys keys.length with
  | [endpoint, components, data, version] =>
    return {
      endpoint := ← Json.required Json.uint8? endpoint
      applicableComponents := (← Json.required (Json.list? Json.uint64?) components).toArray
      packageData := (← Json.optional (Json.list? Json.uint8?) [] data).toArray
      imageSetVersion := ← Json.required Json.text? version }
  | _ => none

end DeviceRecord

/-! ## Progress and reports as JSON

A phase without details is its name; one with details is an object with the name as its only key.
The duration of a report is written in whole milliseconds, so what is below a millisecond is lost.
-/

namespace UpdatePhase

/-- The keys of the details of a finished component. -/
def componentKeys : List String :=
  ["component_index", "success"]

def toJson : UpdatePhase → Json
  | started => .text "Started"
  | componentApplied index success =>
    .object [("ComponentApplied",
      .object (componentKeys.zip [.ofNat index.toNat, .bool success]))]
  | completed => .text "Completed"
  | failed => .text "Failed"

/-- The phase without details of that name. -/
def ofName? : String → Option UpdatePhase
  | "Started" => some started
  | "Completed" => some completed
  | "Failed" => some failed
  | _ => none

/-- Reads a phase. The details of a finished component are an object; a phase without details may be
written as an object that holds null. -/
def ofJson? : Json → Option UpdatePhase
  | .text name => ofName? name
  | .object [("ComponentApplied", .object details)] => do
    match ← (Json.object details).slots componentKeys componentKeys.length with
    | [index, success] =>
      return .componentApplied (← Json.required Json.uint64? index)
        (← Json.required Json.bool? success)
    | _ => none
  -- A phase without details has no other form than its name or that name with null.
  | .object [(name, .null)] => ofName? name
  | _ => none

end UpdatePhase

namespace UpdateProgress

/-- The keys of a progress event, in their fixed order. -/
def keys : List String :=
  ["endpoint", "phase", "components_done", "components_total", "progress_percent",
    "status_message"]

def toJson (progress : UpdateProgress) : Json :=
  .object (keys.zip
    [ .ofNat progress.endpoint.toNat,
      progress.phase.toJson,
      .ofNat progress.componentsDone,
      .ofNat progress.componentsTotal,
      .ofNat progress.progressPercent.toNat,
      .text progress.statusMessage ])

/-- Reads a progress event. -/
def ofJson? (json : Json) : Option UpdateProgress := do
  match ← json.slots keys keys.length with
  | [endpoint, phase, done, total, percent, message] =>
    return {
      endpoint := ← Json.required Json.uint8? endpoint
      phase := ← Json.required UpdatePhase.ofJson? phase
      componentsDone := ← Json.required Json.count? done
      componentsTotal := ← Json.required Json.count? total
      progressPercent := ← Json.required Json.uint8? percent
      statusMessage := ← Json.required Json.text? message }
  | _ => none

end UpdateProgress

namespace ComponentOutcome

/-- The keys of a component's outcome, in their fixed order. -/
def keys : List String :=
  ["component_index", "success"]

def toJson (outcome : ComponentOutcome) : Json :=
  .object (keys.zip [.ofNat outcome.index.toNat, .bool outcome.success])

/-- Reads a component's outcome. -/
def ofJson? (json : Json) : Option ComponentOutcome := do
  match ← json.slots keys keys.length with
  | [index, success] =>
    return {
      index := ← Json.required Json.uint64? index
      success := ← Json.required Json.bool? success }
  | _ => none

end ComponentOutcome

namespace DeviceUpdateReport

/-- The keys of a report, in their fixed order. -/
def keys : List String :=
  ["endpoint", "success", "components", "duration", "error"]

def toJson (report : DeviceUpdateReport) : Json :=
  .object (keys.zip
    [ .ofNat report.endpoint.toNat,
      .bool report.success,
      .array (report.components.map ComponentOutcome.toJson),
      .ofNat report.duration.millis,
      match report.error with
        | some message => .text message
        | none => .null ])

/-- Reads a report. The error may be null, or left out of an object. -/
def ofJson? (json : Json) : Option DeviceUpdateReport := do
  match ← json.slots keys keys.length with
  | [endpoint, success, components, duration, error] =>
    return {
      endpoint := ← Json.required Json.uint8? endpoint
      success := ← Json.required Json.bool? success
      components := ← Json.required (Json.list? ComponentOutcome.ofJson?) components
      duration := .ofMillis (← Json.required Json.uint64? duration)
      error := ← Json.optional (Json.nullable? Json.text?) none error }
  | _ => none

end DeviceUpdateReport

end FirmwareAgent
