import ControlFabric.Lib.Dict
import ControlFabric.Lib.Index
import ControlFabric.Lib.Run
import ControlFabric.Lib.Loop
import ControlFabric.Lib.Distance
import ControlFabric.Lib.Code
import ControlFabric.Py.Text
import ControlFabric.Py.Value
import ControlFabric.Runtime
import ControlFabric.Graph.DomainTypes
import ControlFabric.Gate.ValidationChain
import ControlFabric.Gate.ReleaseGate
import ControlFabric.Gate.Accounting
import ControlFabric.Gate.Governed
import ControlFabric.Gate.Tamper
import ControlFabric.Registry.ObjectRegistry
import ControlFabric.Registry.Steps
import ControlFabric.Registry.History
import ControlFabric.Registry.HashBinding
import ControlFabric.Registry.Tamper
import ControlFabric.Graph.Store
import ControlFabric.Graph.Traverse
import ControlFabric.Graph.TraverseInvariant
import ControlFabric.Graph.TraverseExact
import ControlFabric.Registry.Indices
import ControlFabric.Platform.System
import ControlFabric.Platform.Steps
import ControlFabric.Platform.AllOrNothing
import ControlFabric.Gate.Evidence
import ControlFabric.Inference.Confinement
import ControlFabric.Inference.Engine
import ControlFabric.Inference.EvidenceLogger
import ControlFabric.Fabric.Atomicity
import ControlFabric.Fabric.Immutability
import ControlFabric.Fabric.Lineage
import ControlFabric.Fabric.LinkPolicy
import ControlFabric.Fabric.Replay
import ControlFabric.Fabric.Repository
import ControlFabric.Fabric.Succession
import ControlFabric.Fabric.Tenancy
import ControlFabric.Lib.Ranking
import ControlFabric.Lib.Reorder
import ControlFabric.Reconciliation.Accounted
import ControlFabric.Reconciliation.MismatchesKept
import ControlFabric.Reconciliation.OneToOne
import ControlFabric.Reconciliation.Reorder
import ControlFabric.Reconciliation.Scoped
import ControlFabric.Reconciliation.StorageOrder
import ControlFabric.Reconciliation.Thresholds
import ControlFabric.Action.Binding
import ControlFabric.Action.Lifecycle
import ControlFabric.Action.Reproducible
import ControlFabric.CrossPlane.Engine
import ControlFabric.CrossPlane.Findings
import ControlFabric.CrossPlane.OpenCases
import ControlFabric.CrossPlane.Validity
import ControlFabric.Exceptions.Content
import ControlFabric.Governance.Holds
import ControlFabric.Ingress.Contained
import ControlFabric.Ingress.InStep
import ControlFabric.Lib.SortedSet
import ControlFabric.Packs.Registry
import ControlFabric.PolicyAdmin.Manager
import ControlFabric.PolicyAdmin.Published
import ControlFabric.RateLimit.Limiter
import ControlFabric.RateLimit.Redis
import ControlFabric.Reasoning.Engine
import ControlFabric.Reasoning.Scope
import ControlFabric.ReleaseGuard.Approval
import ControlFabric.Validation.Agreement
import ControlFabric.Fabric.TypedPaths
import ControlFabric.Fabric.TypedSlices
import ControlFabric.Fabric.PlaneCheck
import ControlFabric.Graph.FindPath
import ControlFabric.Wave1.Marked
import ControlFabric.ReleaseGuard.Lifecycle
import ControlFabric.ReleaseGuard.Submissions
import ControlFabric.ReleaseGuard.BreakGlass
import ControlFabric.Webhook.Receiver
import ControlFabric.Graph.Impact
import ControlFabric.CrossPlane.Gaps
import ControlFabric.CrossPlane.CaseStore
import ControlFabric.Wave1.PairsOnce
import ControlFabric.Reconciliation.Scores
import ControlFabric.Reconciliation.Accounting
import ControlFabric.Reconciliation.HardFail
import ControlFabric.Reconciliation.Required
import ControlFabric.Reconciliation.RuleModel
import ControlFabric.Reconciliation.RuleKinds
import ControlFabric.Validation.RuleKinds
import ControlFabric.Exceptions.Reviews
import ControlFabric.Explainability.Blocked
import ControlFabric.Metering.Meter
import ControlFabric.PolicyAdmin.Simulation
import ControlFabric.Rbac.AccessController
import ControlFabric.Severity.Ranking
import ControlFabric.Wave1.MoreLinks
import ControlFabric.Wave1.ScoreBounds
import ControlFabric.Telco.Monotone
import ControlFabric.Margin.LeakageTotals
import ControlFabric.Margin.Charges
import ControlFabric.Margin.FollowsLinks
import ControlFabric.Chunking.Service
import ControlFabric.Sanitiser.InputSanitiser
import ControlFabric.Webhook.Trigger
import ControlFabric.RateLimit.UsageCounted
import ControlFabric.Telco.Runbook
import ControlFabric.Telco.Closure
import ControlFabric.Contract.ServiceCredit
import ControlFabric.Contract.SPENBillability
import ControlFabric.Contract.Recovery
import ControlFabric.Field.Readiness
import ControlFabric.Lib.Layers
import ControlFabric.Pilot.Cases
import ControlFabric.Pilot.Lifecycle
import ControlFabric.Pilot.Decisions
import ControlFabric.Services.ControlFabricService
import ControlFabric.Services.ControlGraphService
import ControlFabric.Services.GraphSlices
import ControlFabric.Services.FabricSlices
import ControlFabric.Services.GraphPaths
import ControlFabric.Services.Snapshots
import ControlFabric.Services.ReconciliationEngine
import ControlFabric.Services.ReconciliationRuns
import ControlFabric.Services.ValidationChain
import ControlFabric.Services.ActionEngine
import ControlFabric.Governance.Redaction
import ControlFabric.Packs.Loader
import ControlFabric.Metering.Billing
import ControlFabric.Metering.Health
import ControlFabric.ReleaseGuard.Inbox
import ControlFabric.Field.SPENReadiness
import ControlFabric.Margin.Reconciled
import ControlFabric.Margin.Reconciler
