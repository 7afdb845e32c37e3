import CartoonDemo.Library.Table
import CartoonDemo.Library.Run
import CartoonDemo.Library.Snapshot
import CartoonDemo.Library.Transaction
import CartoonDemo.Library.PyStr
import CartoonDemo.Types
import CartoonDemo.Workflow.TransitionTable
import CartoonDemo.Persistence.Store
import CartoonDemo.Persistence.Artifacts
import CartoonDemo.Workflow.OutboxBuilder
import CartoonDemo.Workflow.Engine
import CartoonDemo.Workflow.EngineSpec
import CartoonDemo.Workflow.Interleaving
import CartoonDemo.Workflow.RevisionCap
import CartoonDemo.Workflow.RepoRefinement
import CartoonDemo.Workflow.Lifetime
import CartoonDemo.Workflow.OutboxAgreement
import CartoonDemo.Workflow.Reconcile
import CartoonDemo.Workflow.ReconcileSpec
import CartoonDemo.Workflow.ReconcileScan
import CartoonDemo.Worker.Guards
import CartoonDemo.Workflow.ReconcileLive
import CartoonDemo.Workflow.ReconcileQuiet
import CartoonDemo.Workflow.RepoReaders
import CartoonDemo.Worker.Handlers
import CartoonDemo.Worker.Loop
import CartoonDemo.Worker.Exceptions
import CartoonDemo.Worker.LoopSpec
import CartoonDemo.Worker.Pool
import CartoonDemo.System.Model
import CartoonDemo.System.Effects
import CartoonDemo.System.DeliverySpec
import CartoonDemo.System.Consistent
import CartoonDemo.System.TerminalStates
import CartoonDemo.System.Progress
import CartoonDemo.System.LeaseSpec
import CartoonDemo.System.NoLostWork
import CartoonDemo.System.ScanSpec
import CartoonDemo.System.RepairKeys
import CartoonDemo.System.ScanSafety
import CartoonDemo.System.Schedule
import CartoonDemo.System.RepairProgress
import CartoonDemo.System.RetryBudget
import CartoonDemo.System.CompletedOnce
import CartoonDemo.System.PayloadReads
import CartoonDemo.System.LosingCommit
import CartoonDemo.Worker.Audit
import CartoonDemo.System.AuditTrail
import CartoonDemo.System.ArtifactVersions
import CartoonDemo.Library.Process
import CartoonDemo.Worker.Capacity
import CartoonDemo.Runtime.Outbox
import CartoonDemo.Runtime.PublishSafety
import CartoonDemo.Runtime.PublishBatch
import CartoonDemo.Runtime.OutboxStarvation
import CartoonDemo.Library.PyNumber
import CartoonDemo.Library.Loops
import CartoonDemo.Config.Schema
import CartoonDemo.Config.Validator
import CartoonDemo.Config.Conversions
import CartoonDemo.Config.SafeToRun
import CartoonDemo.Library.Log
import CartoonDemo.Library.TokenBucket
import CartoonDemo.Providers.RateLimit
import CartoonDemo.Library.Interrupt
import CartoonDemo.Api.Validation
import CartoonDemo.Api.EngineCall
import CartoonDemo.Api.Routes
import CartoonDemo.Api.ErrorRollback
import CartoonDemo.Api.BadRequests
import CartoonDemo.Api.ClientKeys
import CartoonDemo.Persistence.Leases
import CartoonDemo.Persistence.LeaseExclusion
import CartoonDemo.Worker.LeaseCoordinator
import CartoonDemo.Worker.LeaseRenewal
import CartoonDemo.Library.Calendar
import CartoonDemo.Library.PyText
import CartoonDemo.Library.PyDatetime
import CartoonDemo.Library.ConsumerGroup
import CartoonDemo.TaskQueue.Message
import CartoonDemo.TaskQueue.WireFormat
import CartoonDemo.TaskQueue.RedisQueue
import CartoonDemo.TaskQueue.Untrusted
import CartoonDemo.TaskQueue.Redelivery
import CartoonDemo.TaskQueue.Stats
import CartoonDemo.Library.Json
import CartoonDemo.Collector.Types
import CartoonDemo.Agents.Types
import CartoonDemo.Worker.StoredScenario
import CartoonDemo.Worker.StoredStories
import CartoonDemo.Library.PyFind
import CartoonDemo.Agents.JsonExtract
import CartoonDemo.Library.PyWord
import CartoonDemo.Library.Regex
import CartoonDemo.Config.Secrets
import CartoonDemo.Agents.Messages
import CartoonDemo.Agents.Prompts
import CartoonDemo.Library.JsonSchema
import CartoonDemo.Agents.OutputValidation
import CartoonDemo.Agents.OutputSafety
import CartoonDemo.Library.SortBy
import CartoonDemo.Collector.Ranker
import CartoonDemo.Library.Gather
import CartoonDemo.Collector.HnClient
import CartoonDemo.Library.PyUrl
import CartoonDemo.Library.PyTimestamp
import CartoonDemo.Collector.Normalizer
import CartoonDemo.Collector.Service
import CartoonDemo.Observability.Redaction
import CartoonDemo.Observability.Logger
import CartoonDemo.Providers.LimiterRuns
import CartoonDemo.Cli.Validation
import CartoonDemo.Providers.ErrorMapper
import CartoonDemo.Api.Responses
import CartoonDemo.Api.Timeline
import CartoonDemo.Workflow.HistoryOrder
import CartoonDemo.Persistence.ArtifactRepos
import CartoonDemo.Library.PyIsoformat
import CartoonDemo.Api.Serialization
import CartoonDemo.Cli.Client
import CartoonDemo.Cli.Arguments
import CartoonDemo.Workflow.ReconcileOnce
import CartoonDemo.Library.Deltas
import CartoonDemo.Observability.Cardinality
import CartoonDemo.Observability.Meter
import CartoonDemo.Library.PyDouble
import CartoonDemo.Library.Outcomes
import CartoonDemo.Collector.FloatRanker
import CartoonDemo.Collector.Conservation
import CartoonDemo.Collector.Robustness
import CartoonDemo.Agents.InputValidation
import CartoonDemo.Worker.HandOffs
import CartoonDemo.System.Lineage
import CartoonDemo.System.FirstDraft
import CartoonDemo.System.GateReachable
import CartoonDemo.Api.Output
import CartoonDemo.Cli.ApprovalReview
import CartoonDemo.Library.LoggedPool
import CartoonDemo.Providers.Generate
import CartoonDemo.Providers.GenerateRuns
import CartoonDemo.Agents.Pipeline
import CartoonDemo.Worker.AgentRuns
import CartoonDemo.Library.Clauses
import CartoonDemo.Persistence.UnitOfWork
import CartoonDemo.Persistence.Atomicity
import CartoonDemo.Library.RegexPlaces
import CartoonDemo.Observability.Growth
import CartoonDemo.Persistence.PooledDriver
import CartoonDemo.Persistence.Operations
