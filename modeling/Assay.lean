import Assay.Argument
import Assay.Binding
import Assay.Check
import Assay.CheckResult
import Assay.CommandLine
import Assay.CommandLine.Consultation
import Assay.Declaration
import Assay.Digest.Sha256
import Assay.Files.FileSystem
import Assay.Files.Volume
import Assay.Http.Exchange
import Assay.Http.Host
import Assay.Http.Host.Address4
import Assay.Http.Host.Address6
import Assay.Http.Host.Folding
import Assay.Http.Host.FoldingTable
import Assay.Http.Host.Name
import Assay.Http.Url
import Assay.Http.Wire
import Assay.Identity
import Assay.Instance
import Assay.Json.Decoder
import Assay.Json.Numeral
import Assay.Json.Printer
import Assay.Json.Reader
import Assay.Json.Source
import Assay.Json.Value
import Assay.Main
import Assay.Metadata
import Assay.NameTable
import Assay.Number.Binary64
import Assay.Number.Layout
import Assay.Number.Shortest
import Assay.Parameter
import Assay.Parameter.Type
import Assay.Registry
import Assay.Report
import Assay.Settings
import Assay.Settings.DotEnv
import Assay.Store
import Assay.Store.Directory
import Assay.Store.Memory
import Assay.Store.Rehearsal
import Assay.Store.Remote
import Assay.Suite
import Assay.Suite.Input
import Assay.Suite.Parallel
import Assay.Suite.Resolution
import Assay.Text.Alphanumeric
import Assay.Text.Base64
import Assay.Text.Blank
import Assay.Text.CodeRange
import Assay.Text.CodeTable
import Assay.Text.CombiningClass
import Assay.Text.Composition
import Assay.Text.CompositionTable
import Assay.Text.Direction
import Assay.Text.Hexadecimal
import Assay.Text.Identifier
import Assay.Text.Joining
import Assay.Text.Mark
import Assay.Text.PercentEncoding
import Assay.Text.Printable
import Assay.Text.Punycode
import Assay.Text.Quoted
import Assay.Time.Instant
import Assay.Time.Timestamp
import Assay.Proofs.Instance
import Assay.Proofs.NameTable
import Assay.Proofs.Suite.Inputs
import Assay.Proofs.Suite.Resolution
import Assay.Proofs.Text.ByteOrder
import Assay.Proofs.Suite.CombinedResolution
import Assay.Proofs.Suite.Invocation
import Assay.Proofs.Suite.Parallel
import Assay.Proofs.Json.Equality
import Assay.Proofs.Metadata
import Assay.Proofs.Registry
import Assay.Proofs.Registry.History
import Assay.Proofs.Json.Numeral
import Assay.Proofs.Json.Quotation
import Assay.Proofs.Json.Reading
import Assay.Proofs.Json.Decoding
import Assay.Proofs.Metadata.RoundTrip
import Assay.Proofs.Files.Volume
import Assay.Proofs.Files.Volume.Paths
import Assay.Proofs.Metadata.Listing
import Assay.Proofs.Store.Directory
import Assay.Proofs.Store.Directory.History
import Assay.Proofs.Metadata.Portability
import Assay.Proofs.Store.Persistence
import Assay.Proofs.Json.Rereading
import Assay.Proofs.Registry.Binding
import Assay.Proofs.Registry.Upload
import Assay.Proofs.Suite.Upload
import Assay.Proofs.Suite.Upload.Once
import Assay.Proofs.Suite.Upload.Resumption
import Assay.Proofs.Files.Volume.Change
import Assay.Proofs.Files.Medium
import Assay.Proofs.Identity
import Assay.Proofs.Store.Directory.Interruption
import Assay.Proofs.Registry.Ownership
import Assay.Proofs.Registry.Loading
import Assay.Proofs.Files.Volume.Targets
import Assay.Proofs.Files.Volume.Growth
import Assay.Proofs.Store.Directory.Segments
import Assay.Proofs.Json.Decoded
import Assay.Proofs.Json.Structures
import Assay.Proofs.Metadata.Canonical
import Assay.Proofs.Suite.Report
import Assay.Proofs.Report.RoundTrip
import Assay.Proofs.Json.Lines
import Assay.Proofs.Store.Provenance
import Assay.Proofs.CommandLine
import Assay.Proofs.Http.Address
import Assay.Proofs.Store.Server
import Assay.Proofs.Store.Remote
import Assay.Proofs.Suite.References
import Assay.Proofs.Suite.Locality
import Assay.Proofs.Suite.Monotonicity
import Assay.Proofs.Suite.Composition
import Assay.Proofs.Suite.Standalone
import Assay.Proofs.Text.Identifier
import Assay.Proofs.Declaration
import Assay.Proofs.Suite.Defaults
import Assay.Proofs.Registry.Failure
import Assay.Proofs.Registry.Recovery
import Assay.Proofs.Identity.Derivation
import Assay.Proofs.Settings
import Assay.Proofs.Json.SingleField
import Assay.Proofs.Store.Remote.Answers
import Assay.Proofs.Http.Base
import Assay.Proofs.Store.Remote.Addresses
import Assay.Proofs.Registry.Listing
import Assay.Proofs.Suite.Rebinding
import Assay.Proofs.Json.Members
import Assay.Proofs.Registry.Conflict
import Assay.Proofs.Declaration.Tags
