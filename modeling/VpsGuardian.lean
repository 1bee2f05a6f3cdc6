import VpsGuardian.Access.Batches
import VpsGuardian.Access.Lifetime
import VpsGuardian.Access.Owners
import VpsGuardian.Access.RateLimits
import VpsGuardian.Access.RecoveryCodes
import VpsGuardian.Access.Sessions
import VpsGuardian.Access.SingleUse
import VpsGuardian.Access.Totp
import VpsGuardian.Agent.Actions
import VpsGuardian.Agent.Delivery
import VpsGuardian.Agent.DiskQueue
import VpsGuardian.Agent.Host
import VpsGuardian.Agent.Identity
import VpsGuardian.Agent.Outcomes
import VpsGuardian.Agent.PortTraffic
import VpsGuardian.Agent.Protocol
import VpsGuardian.Agent.Registry
import VpsGuardian.Agent.Rollback
import VpsGuardian.Agent.Transport
import VpsGuardian.Agent.Truthful
import VpsGuardian.Backup.Promotions
import VpsGuardian.Backup.RecoveryPoints
import VpsGuardian.Controller.AgentSecurity
import VpsGuardian.Controller.Api
import VpsGuardian.Controller.Changes
import VpsGuardian.Controller.Completion
import VpsGuardian.Controller.Decisions
import VpsGuardian.Controller.Exclusivity
import VpsGuardian.Controller.Identities
import VpsGuardian.Controller.Maintenance
import VpsGuardian.Controller.Records
import VpsGuardian.Controller.Replay
import VpsGuardian.Controller.Representation
import VpsGuardian.Controller.Revocation
import VpsGuardian.Controller.Sessions
import VpsGuardian.Controller.Soundness
import VpsGuardian.Controller.Tasking
import VpsGuardian.Dashboard.Cache
import VpsGuardian.Dashboard.Resources
import VpsGuardian.Enrollment.Lifecycle
import VpsGuardian.Enrollment.Tokens
import VpsGuardian.Lib.Action
import VpsGuardian.Lib.Base64
import VpsGuardian.Lib.Block
import VpsGuardian.Lib.BoundedQueue
import VpsGuardian.Lib.Bytes
import VpsGuardian.Lib.Checks
import VpsGuardian.Lib.Dict
import VpsGuardian.Lib.Directory
import VpsGuardian.Lib.DiskNames
import VpsGuardian.Lib.FileTree
import VpsGuardian.Lib.Hoare
import VpsGuardian.Lib.Json
import VpsGuardian.Lib.JsonEscape
import VpsGuardian.Lib.JsonMap
import VpsGuardian.Lib.JsonRoundTrip
import VpsGuardian.Lib.Ledger
import VpsGuardian.Lib.Lines
import VpsGuardian.Lib.Lockstep
import VpsGuardian.Lib.NamedTree
import VpsGuardian.Lib.Nftables
import VpsGuardian.Lib.PosixPath
import VpsGuardian.Lib.PythonEquality
import VpsGuardian.Lib.PythonJson
import VpsGuardian.Lib.PythonJsonRoundTrip
import VpsGuardian.Lib.ReadCommitted
import VpsGuardian.Lib.Regex
import VpsGuardian.Lib.Run
import VpsGuardian.Lib.Schema
import VpsGuardian.Lib.SlidingWindow
import VpsGuardian.Lib.Table
import VpsGuardian.Lib.Text
import VpsGuardian.Lib.Trace
import VpsGuardian.Lib.Utf8Order
import VpsGuardian.Lifecycle.History
import VpsGuardian.Lifecycle.Journal
import VpsGuardian.Lifecycle.ReadBack
import VpsGuardian.Lifecycle.Timestamps
import VpsGuardian.Monitoring.Alerting
import VpsGuardian.Monitoring.Episodes
import VpsGuardian.Monitoring.Incidents
import VpsGuardian.Monitoring.Intervals
import VpsGuardian.Monitoring.Liveness
import VpsGuardian.Monitoring.Notifications
import VpsGuardian.Monitoring.Records
import VpsGuardian.Monitoring.Recovery
import VpsGuardian.Monitoring.ServiceChecks
import VpsGuardian.Monitoring.ServiceObservations
import VpsGuardian.Monitoring.StateMachine
import VpsGuardian.NetHelper.Accounting
import VpsGuardian.NetHelper.Authorization
import VpsGuardian.NetHelper.Configuration
import VpsGuardian.NetHelper.DryRun
import VpsGuardian.NetHelper.Durable
import VpsGuardian.NetHelper.Evolution
import VpsGuardian.NetHelper.Locking
import VpsGuardian.NetHelper.Lockstep
import VpsGuardian.NetHelper.Main
import VpsGuardian.NetHelper.Network
import VpsGuardian.NetHelper.Overlap
import VpsGuardian.NetHelper.Rejection
import VpsGuardian.NetHelper.Replay
import VpsGuardian.NetHelper.Rules
import VpsGuardian.NetHelper.Signed
import VpsGuardian.NetHelper.Snapshot
import VpsGuardian.NetHelper.Types
import VpsGuardian.PortPolicies.Api
import VpsGuardian.PortPolicies.AtMostOnce
import VpsGuardian.PortPolicies.Blocking
import VpsGuardian.PortPolicies.Boundaries
import VpsGuardian.PortPolicies.BoundaryOrder
import VpsGuardian.PortPolicies.BoundaryTimes
import VpsGuardian.PortPolicies.Calendar
import VpsGuardian.PortPolicies.Capacity
import VpsGuardian.PortPolicies.Effects
import VpsGuardian.PortPolicies.Execution
import VpsGuardian.PortPolicies.Feasibility
import VpsGuardian.PortPolicies.NextReset
import VpsGuardian.PortPolicies.Parameters
import VpsGuardian.PortPolicies.Reconciliation
import VpsGuardian.PortPolicies.Records
import VpsGuardian.PortPolicies.Schedule
import VpsGuardian.PortPolicies.Texts
import VpsGuardian.PortTraffic.Conservation
import VpsGuardian.PortTraffic.History
import VpsGuardian.PortTraffic.Ingest
import VpsGuardian.PortTraffic.QuotaAlerts
import VpsGuardian.PortTraffic.Records
import VpsGuardian.Probes.Addresses
import VpsGuardian.Probes.Agreement
import VpsGuardian.Probes.Http
import VpsGuardian.Probes.Notations
import VpsGuardian.Probes.Policy
import VpsGuardian.Probes.Verdicts
import VpsGuardian.Protocol.Renewal
import VpsGuardian.Protocol.Signing
import VpsGuardian.Recovery.Approved
import VpsGuardian.Recovery.Execution
import VpsGuardian.Recovery.Manifests
import VpsGuardian.Recovery.Plans
import VpsGuardian.Recovery.ReadBack
import VpsGuardian.Recovery.Restic
import VpsGuardian.Recovery.Verification
import VpsGuardian.Redaction.Quoted
import VpsGuardian.Redaction.Structure
import VpsGuardian.Redaction.Text
import VpsGuardian.Release.Identity
import VpsGuardian.Release.Manifest
import VpsGuardian.Repair.Bounds
import VpsGuardian.Repair.Dispatch
import VpsGuardian.Repair.Documents
import VpsGuardian.Repair.Interpolation
import VpsGuardian.Repair.Records
import VpsGuardian.Repair.Results
import VpsGuardian.Repair.Runbooks
import VpsGuardian.Repair.Statuses
import VpsGuardian.TrustMaterial.Chain
import VpsGuardian.TrustMaterial.Crl
