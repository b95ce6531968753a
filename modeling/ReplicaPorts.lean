import ReplicaPorts.Cluster.Api
import ReplicaPorts.Cluster.Call
import ReplicaPorts.Cluster.Form
import ReplicaPorts.Cluster.Member
import ReplicaPorts.Cluster.Memory
import ReplicaPorts.Cluster.Node
import ReplicaPorts.Cluster.Object
import ReplicaPorts.Cluster.Pod
import ReplicaPorts.Cluster.Reply
import ReplicaPorts.Cluster.Service
import ReplicaPorts.Cluster.ServiceSpec
import ReplicaPorts.Cluster.ServiceStatus
import ReplicaPorts.Cluster.StatefulSet
import ReplicaPorts.Cluster.Timestamp
import ReplicaPorts.Compute.Body
import ReplicaPorts.Compute.Call
import ReplicaPorts.Compute.Error
import ReplicaPorts.Compute.Firewall
import ReplicaPorts.Compute.Model
import ReplicaPorts.Compute.Operation
import ReplicaPorts.Compute.Path
import ReplicaPorts.Compute.Provision
import ReplicaPorts.Compute.Rest
import ReplicaPorts.Compute.Scope
import ReplicaPorts.Compute.Simulator
import ReplicaPorts.Compute.Token
import ReplicaPorts.Http.Exchange
import ReplicaPorts.Http.Form
import ReplicaPorts.Http.Host
import ReplicaPorts.Http.Status
import ReplicaPorts.Http.Url
import ReplicaPorts.Http.Wire
import ReplicaPorts.Json.Bounds
import ReplicaPorts.Json.Decode
import ReplicaPorts.Json.Printer
import ReplicaPorts.Json.Reader
import ReplicaPorts.Json.Token
import ReplicaPorts.Json.Value
import ReplicaPorts.Keyed
import ReplicaPorts.Meter.Basic
import ReplicaPorts.Meter.Exposition
import ReplicaPorts.Meter.Histogram
import ReplicaPorts.Operator
import ReplicaPorts.Pass.Basic
import ReplicaPorts.Pass.Clock
import ReplicaPorts.Pass.Error
import ReplicaPorts.Pass.Event
import ReplicaPorts.Pass.Managed
import ReplicaPorts.Pass.NodeService
import ReplicaPorts.Pass.Nodes
import ReplicaPorts.Pass.Resources
import ReplicaPorts.Pass.World
import ReplicaPorts.Payload.Basic
import ReplicaPorts.Payload.Names
import ReplicaPorts.Payload.Validation
import ReplicaPorts.Probes
import ReplicaPorts.Program
import ReplicaPorts.Proofs.Cluster.Memory
import ReplicaPorts.Proofs.Cluster.Reachable
import ReplicaPorts.Proofs.Compute.Conversation
import ReplicaPorts.Proofs.Compute.Path
import ReplicaPorts.Proofs.Compute.Protocol
import ReplicaPorts.Proofs.Compute.Provision
import ReplicaPorts.Proofs.Compute.Reachable
import ReplicaPorts.Proofs.Compute.Retirement
import ReplicaPorts.Proofs.Compute.Simulator
import ReplicaPorts.Proofs.Compute.Store
import ReplicaPorts.Proofs.Compute.Usage
import ReplicaPorts.Proofs.Http.Url
import ReplicaPorts.Proofs.Keyed
import ReplicaPorts.Proofs.Pass.Adoption
import ReplicaPorts.Proofs.Pass.Avoidance
import ReplicaPorts.Proofs.Pass.Chain
import ReplicaPorts.Proofs.Pass.Convergence
import ReplicaPorts.Proofs.Pass.Course
import ReplicaPorts.Proofs.Pass.Dismantling
import ReplicaPorts.Proofs.Pass.Endpoints
import ReplicaPorts.Proofs.Pass.Errand
import ReplicaPorts.Proofs.Pass.Exposure
import ReplicaPorts.Proofs.Pass.Finalizer
import ReplicaPorts.Proofs.Pass.Guard
import ReplicaPorts.Proofs.Pass.Isolation
import ReplicaPorts.Proofs.Pass.Leads
import ReplicaPorts.Proofs.Pass.Outcome
import ReplicaPorts.Proofs.Pass.Path
import ReplicaPorts.Proofs.Pass.Propriety
import ReplicaPorts.Proofs.Pass.Quiet
import ReplicaPorts.Proofs.Pass.Removal
import ReplicaPorts.Proofs.Pass.Residue
import ReplicaPorts.Proofs.Pass.Separation
import ReplicaPorts.Proofs.Pass.Stages
import ReplicaPorts.Proofs.Pass.Standing
import ReplicaPorts.Proofs.Pass.Teardown
import ReplicaPorts.Proofs.Pass.Tenancy
import ReplicaPorts.Proofs.Pass.Tending
import ReplicaPorts.Proofs.Pass.Timing
import ReplicaPorts.Proofs.Pass.Withdrawal
import ReplicaPorts.Proofs.Payload.Accepted
import ReplicaPorts.Proofs.Program.Interference
import ReplicaPorts.Proofs.Program.Interleaving
import ReplicaPorts.Proofs.Program.Invariant
import ReplicaPorts.Proofs.Program.Path
import ReplicaPorts.Proofs.Replica.PortRun
import ReplicaPorts.Replica.Machine
import ReplicaPorts.Replica.Order
import ReplicaPorts.Replica.PortRun
import ReplicaPorts.Settings
import ReplicaPorts.Text.Address
import ReplicaPorts.Text.Blank
import ReplicaPorts.Text.Cut
import ReplicaPorts.Text.Decimal
import ReplicaPorts.Text.Digit
import ReplicaPorts.Text.Duration
import ReplicaPorts.Text.Percent
import ReplicaPorts.Text.Printable
import ReplicaPorts.Text.Quoted
import ReplicaPorts.Text.Shortest
import ReplicaPorts.Text.Utf8
import ReplicaPorts.Proofs.Compute.Evidence
import ReplicaPorts.Proofs.Json.Text
import ReplicaPorts.Proofs.Cluster.Finalizers
import ReplicaPorts.Proofs.Compute.Coherence
import ReplicaPorts.Proofs.Json.Growth
import ReplicaPorts.Proofs.Replica.Mappings
import ReplicaPorts.Proofs.Compute.RoundTrip
import ReplicaPorts.Proofs.Http.Segment
import ReplicaPorts.Proofs.Compute.Address
import ReplicaPorts.Proofs.Pass.Alignment
import ReplicaPorts.Proofs.Payload.Violations
import ReplicaPorts.Proofs.Replica.Order
import ReplicaPorts.Proofs.Replica.Scaling
import ReplicaPorts.Proofs.Pass.Listing
import ReplicaPorts.Proofs.Pass.Lookups
import ReplicaPorts.Proofs.Pass.Offsets
import ReplicaPorts.Proofs.Pass.Repair
import ReplicaPorts.Proofs.Compute.Refusal
import ReplicaPorts.Proofs.Http.Form
import ReplicaPorts.Proofs.Compute.Paging
import ReplicaPorts.Proofs.Pass.Recognition
import ReplicaPorts.Proofs.Replica.Machine
import ReplicaPorts.Proofs.Compute.Firewall
import ReplicaPorts.Proofs.Compute.Fidelity
import ReplicaPorts.Proofs.Compute.Token
import ReplicaPorts.Proofs.Meter.Account
import ReplicaPorts.Proofs.Text.Blank
import ReplicaPorts.Proofs.Compute.Annotation
import ReplicaPorts.Proofs.Compute.Scope
import ReplicaPorts.Proofs.Settings
import ReplicaPorts.Proofs.Cluster.Edits
