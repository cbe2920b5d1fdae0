import BareMetal.Allocator
import BareMetal.Api.Answer
import BareMetal.Api.Client
import BareMetal.Api.Exchange
import BareMetal.Api.Kubeconfig
import BareMetal.Api.Patch
import BareMetal.Api.Request
import BareMetal.Api.Store
import BareMetal.Api.Workload
import BareMetal.Backoff
import BareMetal.Claim
import BareMetal.Config
import BareMetal.Dict
import BareMetal.Index
import BareMetal.Json.Basic
import BareMetal.Json.MergePatch
import BareMetal.Json.Parser
import BareMetal.Json.Printer
import BareMetal.Json.Record
import BareMetal.Links
import BareMetal.Main
import BareMetal.Manifest.Definition
import BareMetal.Manifest.Kinds
import BareMetal.Manifest.Schema
import BareMetal.Net.Certificate
import BareMetal.Net.ServerName
import BareMetal.Net.SocketAddress
import BareMetal.Net.Url
import BareMetal.Object.Address
import BareMetal.Object.Canonical
import BareMetal.Object.Condition
import BareMetal.Object.Key
import BareMetal.Object.Metadata
import BareMetal.Object.MetalMachine
import BareMetal.Object.Owner
import BareMetal.Object.Reference
import BareMetal.Object.Resource
import BareMetal.Object.Selector
import BareMetal.Object.Server
import BareMetal.Object.ServerBinding
import BareMetal.Object.ServerClass
import BareMetal.Pass.Allocation
import BareMetal.Pass.Basic
import BareMetal.Pass.Binding
import BareMetal.Pass.Commit
import BareMetal.Pass.Holding
import BareMetal.Pass.Machine
import BareMetal.Pass.Outcome
import BareMetal.Pass.Program
import BareMetal.Pass.Release
import BareMetal.Pass.Run
import BareMetal.Pass.Server
import BareMetal.Pass.ServerClass
import BareMetal.Pass.Startup
import BareMetal.Proofs.Program.Secures
import BareMetal.Qualification
import BareMetal.Rehearsal.CallName
import BareMetal.Rehearsal.Feed
import BareMetal.Rehearsal.ScriptedServer
import BareMetal.Rehearsal.Snapshot
import BareMetal.Rehearsal.Stage
import BareMetal.Rehearsal.Step
import BareMetal.Rehearsal.Stream
import BareMetal.Rehearsal.Watching
import BareMetal.Service
import BareMetal.Store.Call
import BareMetal.Store.Error
import BareMetal.Store.Memory
import BareMetal.Store.Nodes
import BareMetal.Summary
import BareMetal.Tally
import BareMetal.Text.Base64
import BareMetal.Text.Blank
import BareMetal.Text.Combining
import BareMetal.Text.Pem
import BareMetal.Text.Quoted
import BareMetal.Text.Unprintable
import BareMetal.Text.Utf8
import BareMetal.Text.Uuid
import BareMetal.Text.WholeFloat
import BareMetal.Time.Date
import BareMetal.Time.Span
import BareMetal.Time.Timestamp
import BareMetal.Watch.Cache
import BareMetal.Watch.Event
import BareMetal.Watch.Keeping
import BareMetal.Watch.Notice
import BareMetal.Watch.Queue
import BareMetal.Watch.Rest
import BareMetal.Watch.Task
import BareMetal.Yaml.Glyph
import BareMetal.Yaml.Node
import BareMetal.Yaml.Node.Parser
import BareMetal.Yaml.Printer
import BareMetal.Yaml.Record
import BareMetal.Yaml.Scalar
import BareMetal.Yaml.Token
import BareMetal.Yaml.Token.Block
import BareMetal.Yaml.Token.Lexer
import BareMetal.Yaml.Token.Marks
import BareMetal.Yaml.Token.Words
import BareMetal.Yaml.Value
import BareMetal.Proofs.Pass.Secures
import BareMetal.Proofs.Pass.Holding
import BareMetal.Proofs.Store.WellKept
import BareMetal.Proofs.Pass.Writes
import BareMetal.Proofs.Pass.Allocation
import BareMetal.Proofs.Pass.Healing
import BareMetal.Proofs.Pass.Machine
import BareMetal.Proofs.Pass.Refreshing
import BareMetal.Proofs.Fleet
import BareMetal.Proofs.Claim.Evolution
import BareMetal.Proofs.Claim.Standing
import BareMetal.Proofs.Pass.Release
import BareMetal.Proofs.Claim.Accord
import BareMetal.Proofs.Claim.Sequential
import BareMetal.Proofs.Qualification
import BareMetal.Proofs.Claim.Racing
import BareMetal.Proofs.Claim.Race
import BareMetal.Proofs.Pass.Passive
import BareMetal.Proofs.Pass.Hearsay
import BareMetal.Proofs.Pass.Warrant
import BareMetal.Proofs.Pass.Sparing
import BareMetal.Proofs.Pass.Deletion
import BareMetal.Proofs.Hearing
import BareMetal.Proofs.Claim.Overtaking
import BareMetal.Proofs.Claim.Acceptance
import BareMetal.Proofs.Claim.Doubling
import BareMetal.Proofs.Claim.Exposure
import BareMetal.Proofs.Claim.Adoption
import BareMetal.Proofs.Orderly
import BareMetal.Proofs.Claim.Recovery
import BareMetal.Proofs.Claim.Releasing
import BareMetal.Proofs.Claim.Indexing
import BareMetal.Proofs.Pass.Restoring
import BareMetal.Proofs.Claim.Restoration
import BareMetal.Proofs.Conditions
import BareMetal.Proofs.Pass.Offering
import BareMetal.Proofs.Pass.Working
import BareMetal.Proofs.Claim.Turning
import BareMetal.Proofs.Claim.Quiescence
import BareMetal.Proofs.Store.Versions
import BareMetal.Proofs.Time.Timestamp
import BareMetal.Proofs.Json.Fields
import BareMetal.Proofs.Json.MergePatch
import BareMetal.Proofs.Json.Dictionaries
import BareMetal.Proofs.Object.Written
import BareMetal.Proofs.Object.Merging
import BareMetal.Proofs.Object.Records
import BareMetal.Proofs.Api.Sending
import BareMetal.Proofs.Api.StatusPatch
import BareMetal.Proofs.Api.SpecPatch
import BareMetal.Proofs.Pass.Readying
import BareMetal.Proofs.Claim.Convergence
import BareMetal.Proofs.Watch.Noting
import BareMetal.Proofs.Watch.Answering
import BareMetal.Proofs.Claim.Picking
import BareMetal.Proofs.Claim.Committing
import BareMetal.Proofs.Text.Octets
import BareMetal.Proofs.Object.Selector
import BareMetal.Proofs.Selection
import BareMetal.Proofs.Pass.Aggregating
import BareMetal.Proofs.Claim.Refusing
import BareMetal.Proofs.Claim.Confining
import BareMetal.Proofs.Watch.Remembering
import BareMetal.Proofs.Object.History
import BareMetal.Proofs.Watch.Starting
import BareMetal.Proofs.Watch.Tracking
import BareMetal.Proofs.Delays
import BareMetal.Proofs.Retrying
import BareMetal.Proofs.Store.Contract
import BareMetal.Proofs.Pass.Finishing
import BareMetal.Proofs.Api.Paths
import BareMetal.Proofs.Api.Visiting
import BareMetal.Proofs.Loosening
import BareMetal.Proofs.Configuring
