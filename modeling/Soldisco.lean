import Soldisco.Library.Transition
import Soldisco.Library.Accumulation
import Soldisco.Library.BinarySearch
import Soldisco.Library.MachineInteger
import Soldisco.Library.Text
import Soldisco.Construction.Domain
import Soldisco.Construction.Window.Token
import Soldisco.Construction.Window.Atomics
import Soldisco.Construction.Window.Registry
import Soldisco.Construction.Window.System
import Soldisco.Construction.Qualification
import Soldisco.Construction.Snapshot.Arithmetic
import Soldisco.Construction.Snapshot.Builder
import Soldisco.Construction.Snapshot.Metrics
import Soldisco.Proof.Snapshot.Arithmetic
import Soldisco.Proof.Qualification
import Soldisco.Proof.Window.Token
import Soldisco.Proof.Window.Atomics
import Soldisco.Proof.Window.Lifecycle
import Soldisco.Library.AssociationList
import Soldisco.Proof.Window.Coverage
import Soldisco.Proof.Window.Effect
import Soldisco.Proof.Window.Finalization
import Soldisco.Proof.Window.Registry
import Soldisco.Proof.Window.Invariant
import Soldisco.Proof.Window.Presentation
import Soldisco.Proof.Window.Provision
import Soldisco.Proof.Window.Retention
import Soldisco.Proof.Window.Step
import Soldisco.Proof.Intake.LogScope
import Soldisco.Proof.Pipeline.Delivery
import Soldisco.Proof.Pipeline.Settlement
import Soldisco.Proof.Intake.LogText
import Soldisco.Proof.Intake.Completeness
import Soldisco.Proof.SourcePump.Decoder
import Soldisco.Construction.Persistence.System
import Soldisco.Construction.Persistence.Candidate
import Soldisco.Proof.Persistence.Finalization
import Soldisco.Proof.Persistence.Provenance
import Soldisco.Proof.Persistence.Markets
import Soldisco.Proof.Persistence.Feed
import Soldisco.Proof.Persistence.Application
import Soldisco.Proof.Pipeline.Targets
import Soldisco.Proof.Intake.Walkers
import Soldisco.Proof.SolanaRpc.Recovery
import Soldisco.Proof.Pipeline.DiscoveryRpc
import Soldisco.Proof.Persistence.Replay
import Soldisco.Proof.Pipeline.Corroboration
import Soldisco.Proof.Supervisor
import Soldisco.Proof.SolanaRpc.Base58
import Soldisco.Proof.LiveEvents
import Soldisco.Proof.Web.DiscoveryRefresh
import Soldisco.Proof.Persistence.Settings
import Soldisco.Proof.Projections
import Soldisco.Proof.Persistence.Confluence
import Soldisco.Proof.Persistence.Convergence
import Soldisco.Proof.Pipeline.BatchProcessor
import Soldisco.Proof.Web.Parsers
import Soldisco.Proof.Web.LocalProxy
import Soldisco.Proof.Pipeline.Interleaving
import Soldisco.Proof.Pipeline.Sequential
import Soldisco.Proof.Pipeline.Rejections
import Soldisco.Proof.Pipeline.Quarantine
import Soldisco.Proof.SolanaRpc.RecoveryEnd
import Soldisco.Proof.SolanaRpc.RecoveryRejection
import Soldisco.Proof.Pipeline.Pacing
import Soldisco.Proof.Pipeline.PendingActivity
import Soldisco.Proof.Snapshot.Order
import Soldisco.Proof.Snapshot.Conservation
import Soldisco.Proof.Snapshot.ScaledRatio
import Soldisco.Proof.Snapshot.Prices
import Soldisco.Proof.Pipeline.QuarantineContent
import Soldisco.Proof.Pipeline.Redelivery
import Soldisco.Proof.Persistence.FrozenWindows
import Soldisco.Proof.Persistence.MemberReceipts
import Soldisco.Proof.Persistence.Retention
import Soldisco.Library.Agreement
import Soldisco.Proof.Persistence.Pruning
import Soldisco.Construction.Finalizer
import Soldisco.Proof.Finalizer.Marks
import Soldisco.Proof.Finalizer.Worker
import Soldisco.Proof.Finalizer.Safety
import Soldisco.Proof.Finalizer.Attribution
import Soldisco.Construction.DiscoverySnapshot
import Soldisco.Construction.Web.Contracts
import Soldisco.Construction.Web.ResponseParsers
import Soldisco.Proof.Web.Contracts
import Soldisco.Proof.Web.ServedSnapshot
import Soldisco.Proof.Web.SettingsContract
import Soldisco.Proof.Web.Dashboard.Delivery
