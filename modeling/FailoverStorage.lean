import FailoverStorage.Cluster.Simulation
import FailoverStorage.CommandLine.Arguments
import FailoverStorage.CommandLine.Command
import FailoverStorage.CommandLine.Report
import FailoverStorage.CommandLine.Run
import FailoverStorage.CommandLine.Table
import FailoverStorage.Controller.Address
import FailoverStorage.Controller.Backend
import FailoverStorage.Controller.Client
import FailoverStorage.Controller.Wire
import FailoverStorage.Data.SortedMap
import FailoverStorage.Data.Sorting
import FailoverStorage.Digest.Sha1
import FailoverStorage.Digest.Uuid
import FailoverStorage.Endpoint.Basic
import FailoverStorage.Endpoint.Configuration
import FailoverStorage.Endpoint.Json
import FailoverStorage.Endpoint.Protocol
import FailoverStorage.Endpoint.Recovery
import FailoverStorage.Error
import FailoverStorage.Gateway.Backend
import FailoverStorage.Gateway.Reconciler
import FailoverStorage.Gateway.Waiter
import FailoverStorage.Http.MediaType
import FailoverStorage.Http.Percent
import FailoverStorage.Http.Request
import FailoverStorage.Http.Target
import FailoverStorage.Http.Token
import FailoverStorage.Json.Decoder
import FailoverStorage.Json.Reader
import FailoverStorage.Json.Value
import FailoverStorage.Json.Writer
import FailoverStorage.Main
import FailoverStorage.Naming.QualifiedName
import FailoverStorage.Naming.ResourceName
import FailoverStorage.Net.Address
import FailoverStorage.Net.ServiceIp
import FailoverStorage.Promoter.Agent
import FailoverStorage.Promoter.Agent.Line
import FailoverStorage.Promoter.Agent.Network
import FailoverStorage.Promoter.Config
import FailoverStorage.Promoter.Document
import FailoverStorage.Proofs.Cluster.Completing
import FailoverStorage.Proofs.Cluster.Ensuring
import FailoverStorage.Proofs.Cluster.Extending
import FailoverStorage.Proofs.Cluster.Histories
import FailoverStorage.Proofs.Cluster.Primitives
import FailoverStorage.Proofs.Cluster.Replicas
import FailoverStorage.Proofs.Cluster.Soundness
import FailoverStorage.Proofs.CommandLine.Targets
import FailoverStorage.Proofs.Controller.Absence
import FailoverStorage.Proofs.Controller.Acceptance
import FailoverStorage.Proofs.Controller.Calls
import FailoverStorage.Proofs.Controller.Cuts
import FailoverStorage.Proofs.Controller.Listing
import FailoverStorage.Proofs.Controller.Provision
import FailoverStorage.Proofs.Controller.Rivalry
import FailoverStorage.Proofs.Controller.Traces
import FailoverStorage.Proofs.Data.Except
import FailoverStorage.Proofs.Data.SortedMap
import FailoverStorage.Proofs.Data.Sorting
import FailoverStorage.Proofs.Endpoint.AgentNames
import FailoverStorage.Proofs.Endpoint.Configuration
import FailoverStorage.Proofs.Endpoint.Faults
import FailoverStorage.Proofs.Endpoint.Identity
import FailoverStorage.Proofs.Endpoint.Legibility
import FailoverStorage.Proofs.Endpoint.Numbers
import FailoverStorage.Proofs.Endpoint.Persistence
import FailoverStorage.Proofs.Endpoint.Recovery
import FailoverStorage.Proofs.Endpoint.Rereading
import FailoverStorage.Proofs.Endpoint.RoundTrip
import FailoverStorage.Proofs.Endpoint.Settings
import FailoverStorage.Proofs.Endpoint.Settled
import FailoverStorage.Proofs.Endpoint.StartOrder
import FailoverStorage.Proofs.Gateway.Action
import FailoverStorage.Proofs.Gateway.Adoption
import FailoverStorage.Proofs.Gateway.Calls
import FailoverStorage.Proofs.Gateway.Concealment
import FailoverStorage.Proofs.Gateway.Confined
import FailoverStorage.Proofs.Gateway.Consistency
import FailoverStorage.Proofs.Gateway.Coverage
import FailoverStorage.Proofs.Gateway.Creation
import FailoverStorage.Proofs.Gateway.Deadline
import FailoverStorage.Proofs.Gateway.Evenness
import FailoverStorage.Proofs.Gateway.Exclusivity
import FailoverStorage.Proofs.Gateway.Extension
import FailoverStorage.Proofs.Gateway.Footprint
import FailoverStorage.Proofs.Gateway.Fulfilment
import FailoverStorage.Proofs.Gateway.Grouping
import FailoverStorage.Proofs.Gateway.Identities
import FailoverStorage.Proofs.Gateway.Interruption
import FailoverStorage.Proofs.Gateway.Isolation
import FailoverStorage.Proofs.Gateway.Keeping
import FailoverStorage.Proofs.Gateway.Legibility
import FailoverStorage.Proofs.Gateway.Listing
import FailoverStorage.Proofs.Gateway.Management
import FailoverStorage.Proofs.Gateway.Origins
import FailoverStorage.Proofs.Gateway.Reachable
import FailoverStorage.Proofs.Gateway.Recording
import FailoverStorage.Proofs.Gateway.Rejection
import FailoverStorage.Proofs.Gateway.Release
import FailoverStorage.Proofs.Gateway.Removal
import FailoverStorage.Proofs.Gateway.Reordering
import FailoverStorage.Proofs.Gateway.Repetition
import FailoverStorage.Proofs.Gateway.Resources
import FailoverStorage.Proofs.Gateway.Resting
import FailoverStorage.Proofs.Gateway.Reversal
import FailoverStorage.Proofs.Gateway.Rewriting
import FailoverStorage.Proofs.Gateway.Sharing
import FailoverStorage.Proofs.Gateway.Stranding
import FailoverStorage.Proofs.Gateway.Switching
import FailoverStorage.Proofs.Gateway.Views
import FailoverStorage.Proofs.Gateway.Waiting
import FailoverStorage.Proofs.Http.Percent
import FailoverStorage.Proofs.Naming.Grammar
import FailoverStorage.Proofs.Naming.QualifiedName
import FailoverStorage.Proofs.Net.Address
import FailoverStorage.Proofs.Net.ServiceIp
import FailoverStorage.Proofs.Promoter.Document
import FailoverStorage.Proofs.Promoter.Line
import FailoverStorage.Proofs.Promoter.Network
import FailoverStorage.Proofs.Promoter.Rewriting
import FailoverStorage.Proofs.Promoter.Spelling
import FailoverStorage.Proofs.Status
import FailoverStorage.Proofs.Status.Aggregation
import FailoverStorage.Proofs.Text.Numeral
import FailoverStorage.Proofs.Text.Split
import FailoverStorage.Proofs.Toml.Lines
import FailoverStorage.Proofs.Toml.Quoted
import FailoverStorage.Rest.Route
import FailoverStorage.Rest.Service
import FailoverStorage.Status
import FailoverStorage.Storage.Deployment
import FailoverStorage.Storage.Request
import FailoverStorage.Text.Binary64
import FailoverStorage.Text.Blank
import FailoverStorage.Text.Duration
import FailoverStorage.Text.Numeral
import FailoverStorage.Text.Split
import FailoverStorage.Text.UpperCase
import FailoverStorage.Toml.Number
import FailoverStorage.Toml.Quoted
import FailoverStorage.Toml.Reader
import FailoverStorage.Toml.Value
import FailoverStorage.Toml.Writer
import FailoverStorage.Volume.Basic
import FailoverStorage.Volume.Size
import FailoverStorage.Yaml.Scalar
import FailoverStorage.Yaml.Writer
