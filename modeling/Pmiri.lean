import Pmiri.GateD.Soundness
import Pmiri.GateD.Epochs
import Pmiri.RequestAuth.GuardPair
import Pmiri.RequestAuth.Revalidation
import Pmiri.ControlPlane.Withdrawal
import Pmiri.Store.AnyMigration
import Pmiri.Read.Continuation
import Pmiri.Read.Isolation
import Pmiri.Read.Order
import Pmiri.Network.History
import Pmiri.GateD.Constraints
import Pmiri.GateD.Clock
import Pmiri.Sealing.Detection
import Pmiri.GateD.Meet
import Pmiri.ControlPlane.RateLimits
import Pmiri.Store.Backup
import Pmiri.Deployment.Exactness
import Pmiri.Deployment.Completeness
import Pmiri.GateD.Fetch
import Pmiri.GateD.AnyEmission
import Pmiri.GateD.Endpoint
import Pmiri.GateD.Capability
import Pmiri.Delegation
import Pmiri.Egress
import Pmiri.GateD.AnyNetwork
import Pmiri.Network.Stability
import Pmiri.Replay.Counts
import Pmiri.Network.Redirects
import Pmiri.Store.Names
import Pmiri.Read.Coverage
import Pmiri.Read.Fence
import Pmiri.Store.Processes
import Pmiri.ControlPlane.Rewriting
import Pmiri.Read.Conflicts
import Pmiri.Read.Compilation
import Pmiri.Policy.Redaction
import Pmiri.Policy.Freshness
import Pmiri.Crypto.KeyReferences
import Pmiri.Privacy.Tampering
import Pmiri.Audit.Log
import Pmiri.Http.Requests
import Pmiri.RequestAuth.Capacity
import Pmiri.Delegation.Meet
import Pmiri.Replay.Reviewers
import Pmiri.Replay.Attestations
import Pmiri.Replay.Containment
import Pmiri.Handoff.Current
import Pmiri.Handoff.AllOrNothing
import Pmiri.Deployment.Acceptance
import Pmiri.Deployment.AnyReports
import Pmiri.Preflight.Confinement
import Pmiri.Schema.Conformance
import Pmiri.Privacy.Retention
import Pmiri.Privacy.KeyFiles
import Pmiri.Http.Server
import Pmiri.Http.Traffic
import Pmiri.Policy.Cache
import Pmiri.GateD.Credentials
import Pmiri.Schema.Integrity
import Pmiri.Store.Ingest
import Pmiri.Preflight.Acceptance
import Pmiri.Replay.Launched
