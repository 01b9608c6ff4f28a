import TrafficRules.Annotation
import TrafficRules.CommandLine.Disk
import TrafficRules.CommandLine.Form
import TrafficRules.CommandLine.Invocation
import TrafficRules.CommandLine.Run
import TrafficRules.Corpus
import TrafficRules.Counts
import TrafficRules.Document.Node
import TrafficRules.Document.Rule
import TrafficRules.Engine.Basic
import TrafficRules.Engine.Config
import TrafficRules.Engine.Distributor
import TrafficRules.Engine.Literal
import TrafficRules.Engine.Stream
import TrafficRules.Fault
import TrafficRules.Json.Basic
import TrafficRules.Json.Node
import TrafficRules.Json.Real
import TrafficRules.Json.Token
import TrafficRules.Main
import TrafficRules.Manager
import TrafficRules.Pattern
import TrafficRules.Regex.Basic
import TrafficRules.Regex.ByteSpans
import TrafficRules.Regex.Cursor
import TrafficRules.Regex.Expr
import TrafficRules.Regex.Mode
import TrafficRules.Regex.Program
import TrafficRules.Regex.Reader
import TrafficRules.Regex.Search
import TrafficRules.Regex.Size
import TrafficRules.Regex.Strings
import TrafficRules.Regex.Term
import TrafficRules.Registry
import TrafficRules.RowId
import TrafficRules.Rule
import TrafficRules.Settings
import TrafficRules.Signature
import TrafficRules.Store.Basic
import TrafficRules.Store.Context
import TrafficRules.Store.File
import TrafficRules.Store.Memory
import TrafficRules.Table
import TrafficRules.Text.Address
import TrafficRules.Text.Hex
import TrafficRules.Text.Path
import TrafficRules.Text.Quoted
import TrafficRules.Text.Utf8
import TrafficRules.Unicode.Age
import TrafficRules.Unicode.BinaryProperty
import TrafficRules.Unicode.Boundary
import TrafficRules.Unicode.CaseFolding
import TrafficRules.Unicode.Folding
import TrafficRules.Unicode.GeneralCategory
import TrafficRules.Unicode.Hidden
import TrafficRules.Unicode.Later
import TrafficRules.Unicode.Names
import TrafficRules.Unicode.Property
import TrafficRules.Unicode.Ranges
import TrafficRules.Unicode.Script
import TrafficRules.Unicode.ScriptExtensions
import TrafficRules.Unicode.Word
import TrafficRules.Yaml.Cursor
import TrafficRules.Yaml.Document
import TrafficRules.Yaml.Scalar
import TrafficRules.Yaml.Tag
import TrafficRules.Yaml.Text
import TrafficRules.Yaml.Token
import TrafficRules.Proofs.Outcome
import TrafficRules.Proofs.Table
import TrafficRules.Proofs.Sorting
import TrafficRules.Proofs.Signature
import TrafficRules.Proofs.Corpus
import TrafficRules.Proofs.Registry.Admission
import TrafficRules.Proofs.Registry.Invariant
import TrafficRules.Proofs.Registry.Session
import TrafficRules.Proofs.Registry.Consistency
import TrafficRules.Proofs.Manager.Run
import TrafficRules.Proofs.Manager.Coherence
import TrafficRules.Proofs.Counts
import TrafficRules.Proofs.Annotation
import TrafficRules.Proofs.Regex.Spans
import TrafficRules.Proofs.Engine.Literals
import TrafficRules.Proofs.Engine.Matches
import TrafficRules.Proofs.Stream.Tracks
import TrafficRules.Proofs.Stream.History
import TrafficRules.Proofs.Stream.Additive
import TrafficRules.Proofs.Stream.Detection
import TrafficRules.Proofs.Stream.Chunking
import TrafficRules.Proofs.Manager.Detection
import TrafficRules.Proofs.Regex.Paths
import TrafficRules.Proofs.Registry.Reverting
import TrafficRules.Proofs.Regex.Enclosing
import TrafficRules.Proofs.Engine.Prefilter
import TrafficRules.Proofs.Regex.Plain
import TrafficRules.Proofs.Engine.LiteralSearch
import TrafficRules.Proofs.Json.Rounding
import TrafficRules.Proofs.Json.Real
import TrafficRules.Proofs.Json.Number
import TrafficRules.Proofs.Json.Text
import TrafficRules.Proofs.Json.Values
import TrafficRules.Proofs.Json.Integral
import TrafficRules.Proofs.Document.Rule
import TrafficRules.Proofs.Store.Records
import TrafficRules.Proofs.Store.Agreement
import TrafficRules.Proofs.Manager.Storage
import TrafficRules.Proofs.Engine.Build
import TrafficRules.Proofs.Stream.Independence
import TrafficRules.Proofs.Registry.Registering
import TrafficRules.Proofs.Manager.Loading
import TrafficRules.Proofs.Manager.Restart
import TrafficRules.Proofs.Manager.Versions
import TrafficRules.Proofs.Store.RoundTrip
import TrafficRules.Proofs.Store.Interchange
import TrafficRules.Proofs.Stream.Invariant
import TrafficRules.Proofs.Refusal
import TrafficRules.Proofs.Store.Working
import TrafficRules.Proofs.Manager.Adding
import TrafficRules.Proofs.Engine.HandOff
import TrafficRules.Proofs.Manager.Updating
import TrafficRules.Proofs.Engine.Occurrences
import TrafficRules.Proofs.Stream.Literals
import TrafficRules.Proofs.Stream.Occurrences
import TrafficRules.Proofs.Stream.Trimming
import TrafficRules.Proofs.Regex.Context
import TrafficRules.Proofs.Regex.Conditions
import TrafficRules.Proofs.Engine.Matching
import TrafficRules.Proofs.Stream.Matching
import TrafficRules.Proofs.Store.Listing
import TrafficRules.Proofs.Store.Frame
import TrafficRules.Proofs.Registry.LateCommit
import TrafficRules.Proofs.Registry.Checks
import TrafficRules.Proofs.Annotation.Exact
import TrafficRules.Proofs.Annotation.Triggering
import TrafficRules.Proofs.Registry.Reachable
import TrafficRules.Proofs.RowId.Text
import TrafficRules.Proofs.RowId.Generation
import TrafficRules.Proofs.Registry.Sharing
import TrafficRules.Proofs.Stream.Ranges
import TrafficRules.Proofs.Manager.Delivery
