import DocBlocks.Block
import DocBlocks.Cache
import DocBlocks.Command
import DocBlocks.CommandLine
import DocBlocks.Detection.Basic
import DocBlocks.Detection.Span
import DocBlocks.Document
import DocBlocks.Family
import DocBlocks.Folding
import DocBlocks.Hover
import DocBlocks.Json.Basic
import DocBlocks.Json.Binary64
import DocBlocks.Json.Decode
import DocBlocks.Json.Parser
import DocBlocks.Json.Printer
import DocBlocks.Main
import DocBlocks.Pattern.Basic
import DocBlocks.Pattern.Builtin
import DocBlocks.Pattern.Matcher
import DocBlocks.Pattern.Spec
import DocBlocks.Preview.Basic
import DocBlocks.Preview.Content
import DocBlocks.Preview.Markers
import DocBlocks.Preview.Markup
import DocBlocks.Protocol.Capabilities
import DocBlocks.Protocol.Location
import DocBlocks.Protocol.Message
import DocBlocks.Protocol.Method
import DocBlocks.Protocol.Params
import DocBlocks.Protocol.Request
import DocBlocks.Protocol.Shape
import DocBlocks.Protocol.Wire
import DocBlocks.Regex.Basic
import DocBlocks.Regex.Bracket
import DocBlocks.Regex.CharClass
import DocBlocks.Regex.Escape
import DocBlocks.Regex.Footprint
import DocBlocks.Regex.Mode
import DocBlocks.Regex.Parser
import DocBlocks.Regex.Property
import DocBlocks.Regex.Residual
import DocBlocks.Regex.Search
import DocBlocks.Regex.Tree
import DocBlocks.Regex.Utf8
import DocBlocks.Registry
import DocBlocks.Service.Basic
import DocBlocks.Service.Detect
import DocBlocks.Session
import DocBlocks.Settings.Basic
import DocBlocks.Settings.Encoding
import DocBlocks.Text.Age
import DocBlocks.Text.Basic
import DocBlocks.Text.Blank
import DocBlocks.Text.Boundary
import DocBlocks.Text.CaseFold
import DocBlocks.Text.Category
import DocBlocks.Text.Combining
import DocBlocks.Text.Composition
import DocBlocks.Text.Hidden
import DocBlocks.Text.Letter
import DocBlocks.Text.Property
import DocBlocks.Text.Ranges
import DocBlocks.Text.Replacements
import DocBlocks.Text.Script
import DocBlocks.Text.Search
import DocBlocks.Text.Slice
import DocBlocks.Uri.Basic
import DocBlocks.Uri.Domain.Basic
import DocBlocks.Uri.Domain.Direction
import DocBlocks.Uri.Domain.Joining
import DocBlocks.Uri.Domain.Mapping
import DocBlocks.Uri.Host
import DocBlocks.Uri.Parser
import DocBlocks.Uri.Percent
import DocBlocks.Uri.Punycode
import DocBlocks.Worker
import DocBlocks.Workspace.Basic
import DocBlocks.Workspace.Query
import DocBlocks.Proofs.Cache.Entries
import DocBlocks.Proofs.Cache.History
import DocBlocks.Proofs.Detection.Blocks
import DocBlocks.Proofs.Detection.Builtin
import DocBlocks.Proofs.Detection.Endings
import DocBlocks.Proofs.Detection.Families
import DocBlocks.Proofs.Detection.Gathering
import DocBlocks.Proofs.Detection.Interruption
import DocBlocks.Proofs.Detection.LineComments
import DocBlocks.Proofs.Detection.Markers
import DocBlocks.Proofs.Detection.Pairing
import DocBlocks.Proofs.Detection.Precedence
import DocBlocks.Proofs.Detection.Quiet
import DocBlocks.Proofs.Detection.Runs
import DocBlocks.Proofs.Detection.Shortcut
import DocBlocks.Proofs.Detection.Tails
import DocBlocks.Proofs.Detection.Thorough
import DocBlocks.Proofs.Detection.Within
import DocBlocks.Proofs.Document.Batches
import DocBlocks.Proofs.Document.Numbering
import DocBlocks.Proofs.Document.Offset
import DocBlocks.Proofs.Folding.Order
import DocBlocks.Proofs.Preview.Agreement
import DocBlocks.Proofs.Preview.Closings
import DocBlocks.Proofs.Preview.Dedent
import DocBlocks.Proofs.Preview.Limits
import DocBlocks.Proofs.Preview.Slices
import DocBlocks.Proofs.Regex.Finding
import DocBlocks.Proofs.Regex.Leftover
import DocBlocks.Proofs.Registry.Languages
import DocBlocks.Proofs.Revision.Key
import DocBlocks.Proofs.Service.Callers
import DocBlocks.Proofs.Service.Calls
import DocBlocks.Proofs.Service.Holders
import DocBlocks.Proofs.Service.Invalidation
import DocBlocks.Proofs.Service.Layers
import DocBlocks.Proofs.Service.Paths
import DocBlocks.Proofs.Service.Quiet
import DocBlocks.Proofs.Service.Removal
import DocBlocks.Proofs.Service.Renewal
import DocBlocks.Proofs.Service.Rest
import DocBlocks.Proofs.Service.Results
import DocBlocks.Proofs.Service.Run
import DocBlocks.Proofs.Service.Soundness
import DocBlocks.Proofs.Session.Caching
import DocBlocks.Proofs.Settings.Nesting
import DocBlocks.Proofs.Settings.RoundTrip
import DocBlocks.Proofs.Text.Lines
import DocBlocks.Proofs.Text.Trim
import DocBlocks.Proofs.Worker.Answers
import DocBlocks.Proofs.Worker.Delivery
import DocBlocks.Proofs.Workspace.Answers
import DocBlocks.Proofs.Workspace.Coherence
import DocBlocks.Proofs.Workspace.Configuration
import DocBlocks.Proofs.Workspace.Supersession
