import AreFoundation.Library.Transition
import AreFoundation.Library.Pagination
import AreFoundation.Library.Interleaving
import AreFoundation.Library.Encoding
import AreFoundation.Library.Sha256
import AreFoundation.Library.Serde
import AreFoundation.Library.HashMap
import AreFoundation.Library.HashChain
import AreFoundation.Library.Table
import AreFoundation.Library.Calendar
import AreFoundation.Library.Wildcard
import AreFoundation.Library.EcmaScript
import AreFoundation.Library.OrderedMap
import AreFoundation.Library.GoStrings
import AreFoundation.Library.Json
import AreFoundation.Library.Rpc
import AreFoundation.Ledger.Repository
import AreFoundation.Ledger.Service
import AreFoundation.Ledger.Chain
import AreFoundation.Ledger.Postgres
import AreFoundation.Ledger.Storage
import AreFoundation.Ledger.Outbox
import AreFoundation.Ledger.Journal
import AreFoundation.Ledger.Theorems.InMemory
import AreFoundation.Ledger.Theorems.Writers
import AreFoundation.Ledger.Theorems.Contention
import AreFoundation.Ledger.Theorems.Verification
import AreFoundation.Ledger.Theorems.Tampering
import AreFoundation.Ledger.Theorems.Commitment
import AreFoundation.Ledger.Theorems.Idempotency
import AreFoundation.Ledger.Theorems.AppendOnly
import AreFoundation.Ledger.Theorems.Correspondence
import AreFoundation.Ledger.Theorems.HonestChains
import AreFoundation.Ledger.Theorems.Interchange
import AreFoundation.PassportIssuance.Domain
import AreFoundation.PassportIssuance.Service
import AreFoundation.PassportIssuance.Theorems.Issuance
import AreFoundation.PassportIssuance.Theorems.Binding
import AreFoundation.PassportIssuance.Grpc
import AreFoundation.PassportIssuance.Theorems.Payload
import AreFoundation.PassportIssuance.Theorems.Validity
import AreFoundation.PassportIssuance.Theorems.Audit
import AreFoundation.ScopeEvaluator.GlobMatch
import AreFoundation.ScopeEvaluator.GrpcPassport
import AreFoundation.ScopeEvaluator.Theorems.Revocation
import AreFoundation.ScopeEvaluator.Theorems.Glob
import AreFoundation.ScopeEvaluator.Theorems.Decision
import AreFoundation.ScopeEvaluator.Concurrent
import AreFoundation.ScopeEvaluator.Theorems.Invalidation
import AreFoundation.ScopeEvaluator.Theorems.CircuitBreaker
import AreFoundation.ScopeEvaluator.Theorems.Availability
import AreFoundation.OpaIntegration.Evaluator
import AreFoundation.OpaIntegration.Theorems.Strictest
import AreFoundation.OpaIntegration.Service
import AreFoundation.OpaIntegration.Theorems.Freshness
import AreFoundation.OpaIntegration.Theorems.Transparency
import AreFoundation.OpaIntegration.Theorems.CacheKey
import AreFoundation.OpaIntegration.Theorems.Errors
import AreFoundation.OpaIntegration.Theorems.Lifecycle
import AreFoundation.AgentRegistry.Domain
import AreFoundation.AgentRegistry.Service
import AreFoundation.AgentRegistry.Lifecycle
import AreFoundation.AgentRegistry.Theorems.History
import AreFoundation.AgentRegistry.Theorems.Envelopes
import AreFoundation.AgentRegistry.Theorems.StatusUpdates
import AreFoundation.AgentRegistry.Listing
import AreFoundation.AgentRegistry.Theorems.Listing
import AreFoundation.AgentRegistry.Outbox
import AreFoundation.AgentRegistry.Theorems.Delivery
import AreFoundation.AgentRegistry.Theorems.EmitOrder
import AreFoundation.AgentRegistry.Grpc
import AreFoundation.RestBff.Repo
import AreFoundation.RestBff.Postgres
import AreFoundation.RestBff.S0Delegate
import AreFoundation.RestBff.Api
import AreFoundation.RestBff.Theorems.Step
import AreFoundation.RestBff.Theorems.Registration
import AreFoundation.RestBff.Theorems.Passports
import AreFoundation.RestBff.Theorems.Envelope
import AreFoundation.RestBff.Theorems.ScopeCheck
import AreFoundation.RestBff.Theorems.Provenance
import AreFoundation.RestBff.Theorems.Rollback
import AreFoundation.RestBff.Theorems.Noninterference
import AreFoundation.RestBff.Theorems.Interchange
import AreFoundation.Gateway.Handler
import AreFoundation.Gateway.Theorems.Perimeter
import AreFoundation.Gateway.Upstream
import AreFoundation.Gateway.Theorems.Replay
import AreFoundation.RestBff.Policy
import AreFoundation.RestBff.Theorems.Policy
import AreFoundation.ScopeEvaluator.Theorems.Expiry
import AreFoundation.Library.Budget
import AreFoundation.ScopeEvaluator.Theorems.GlobLimits
import AreFoundation.Library.Recency
import AreFoundation.ScopeEvaluator.Theorems.Cache
import AreFoundation.Ledger.Theorems.Blame
import AreFoundation.Ledger.Query
import AreFoundation.Ledger.Theorems.Query
import AreFoundation.Library.SortByKey
import AreFoundation.OpaIntegration.Theorems.Responses
import AreFoundation.OpaIntegration.Theorems.Compiler
import AreFoundation.Library.SingleFlight
import AreFoundation.OpaIntegration.Admission
import AreFoundation.OpaIntegration.Theorems.Admission
import AreFoundation.OpaIntegration.Theorems.Provenance
import AreFoundation.ScopeEvaluator.Deployment
import AreFoundation.ScopeEvaluator.Theorems.Deployment
import AreFoundation.OpaIntegration.Enforcement
import AreFoundation.OpaIntegration.Theorems.Enforcement
import AreFoundation.Library.Traverse
import AreFoundation.PassportIssuance.Server
import AreFoundation.PassportIssuance.Theorems.Limits
import AreFoundation.RestBff.Theorems.KeyReuse
import AreFoundation.Gateway.RedMetrics
import AreFoundation.RestBff.Theorems.ReadBack
import AreFoundation.Library.ReadCommitted
import AreFoundation.RestBff.Transactions
import AreFoundation.RestBff.Theorems.IdemRace
import AreFoundation.Library.Linearization
import AreFoundation.RestBff.Theorems.Linearizable
import AreFoundation.Ledger.Transactions
import AreFoundation.Ledger.Theorems.Linearizable
import AreFoundation.Ledger.Cluster
import AreFoundation.Ledger.Theorems.Cluster
import AreFoundation.Ledger.Grpc
import AreFoundation.Ledger.Theorems.Attribution
import AreFoundation.Ledger.Theorems.Grpc
import AreFoundation.AgentRegistry.Transactions
import AreFoundation.AgentRegistry.Theorems.Transactions
import AreFoundation.AgentRegistry.Theorems.Linearizable
