import FirmwareAgent.Json.Records
import FirmwareAgent.Rehearsal.Directive
import FirmwareAgent.Proofs.Wire.RoundTrip
import FirmwareAgent.Proofs.Wire.Inverse
import FirmwareAgent.Proofs.Wire.Refusals
import FirmwareAgent.Proofs.Wire.Framing
import FirmwareAgent.Proofs.Wire.Layout
import FirmwareAgent.Proofs.Text.Utf8
import FirmwareAgent.Proofs.Wire.VersionText
import FirmwareAgent.Proofs.Json.Read
import FirmwareAgent.Proofs.Json.Records
import FirmwareAgent.Proofs.Session.Reaction
import FirmwareAgent.Proofs.Session.Draft
import FirmwareAgent.Proofs.Session.Plan
import FirmwareAgent.Proofs.Session.Replies
import FirmwareAgent.Proofs.Session.ImageData
import FirmwareAgent.Proofs.Session.WholeImage
import FirmwareAgent.Proofs.Session.LocalFaults
import FirmwareAgent.Proofs.Session.Verdict
import FirmwareAgent.Proofs.Session.PackageData
import FirmwareAgent.Proofs.Session.Judgement
import FirmwareAgent.Proofs.Session.Lockstep
import FirmwareAgent.Proofs.Pool.Holders
import FirmwareAgent.Proofs.Pool.Allocation
import FirmwareAgent.Proofs.Pool.Ledger
import FirmwareAgent.Proofs.Pool.Mirror
import FirmwareAgent.Proofs.Pool.Endpoints
import FirmwareAgent.Proofs.Pool.Tenant
import FirmwareAgent.Proofs.Run.Step
import FirmwareAgent.Proofs.Run.History
import FirmwareAgent.Proofs.Run.Driver
import FirmwareAgent.Proofs.Run.CommandOrder
import FirmwareAgent.Proofs.Run.Notifications
import FirmwareAgent.Proofs.Run.Inbound
import FirmwareAgent.Proofs.Run.Breakdown
import FirmwareAgent.Proofs.Run.ImageData
import FirmwareAgent.Proofs.Run.WholeImage
import FirmwareAgent.Proofs.Run.PackageData
import FirmwareAgent.Proofs.Run.OutcomeTimer
import FirmwareAgent.Proofs.Run.LocalFaults
import FirmwareAgent.Proofs.Run.Confinement
import FirmwareAgent.Proofs.Run.Announcement
import FirmwareAgent.Proofs.Run.Silent
import FirmwareAgent.Proofs.Run.Farewell
import FirmwareAgent.Proofs.Run.Verdict
import FirmwareAgent.Proofs.Run.Callers
import FirmwareAgent.Proofs.Run.Waiting
import FirmwareAgent.Proofs.Run.Lending
import FirmwareAgent.Proofs.Run.Mirror
import FirmwareAgent.Proofs.Run.Tenancy
import FirmwareAgent.Proofs.Fleet.HeldIds
import FirmwareAgent.Proofs.Fleet.Expiry
import FirmwareAgent.Proofs.Fleet.Shared
import FirmwareAgent.Proofs.Coordinator.History
import FirmwareAgent.Proofs.Coordinator.Lifecycle
import FirmwareAgent.Proofs.Coordinator.Callers
import FirmwareAgent.Proofs.Coordinator.EndpointView
import FirmwareAgent.Proofs.Coordinator.Isolation
import FirmwareAgent.Proofs.Coordinator.Lives
import FirmwareAgent.Proofs.Coordinator.Tracking
import FirmwareAgent.Proofs.Coordinator.Reports
import FirmwareAgent.Proofs.Coordinator.Collection
import FirmwareAgent.Proofs.Coordinator.Aggregate
import FirmwareAgent.Proofs.Coordinator.ProgressStream
import FirmwareAgent.Proofs.Coordinator.Routing
import FirmwareAgent.Proofs.Coordinator.Untouched
import FirmwareAgent.Proofs.Coordinator.Requests
import FirmwareAgent.Proofs.Rehearsal.History
