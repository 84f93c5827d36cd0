import LiteralFlow.Binary
import LiteralFlow.Call.Basic
import LiteralFlow.Call.Classify
import LiteralFlow.Call.Pattern
import LiteralFlow.Config.Basic
import LiteralFlow.Config.Decode
import LiteralFlow.Config.Document
import LiteralFlow.Config.Error
import LiteralFlow.Config.Preset
import LiteralFlow.Decimal
import LiteralFlow.Error
import LiteralFlow.Format
import LiteralFlow.Graph.Basic
import LiteralFlow.Graph.BinaryOp
import LiteralFlow.Graph.Decode
import LiteralFlow.Graph.Encode
import LiteralFlow.Graph.Function
import LiteralFlow.Integer
import LiteralFlow.Json.Basic
import LiteralFlow.Json.Decode
import LiteralFlow.Json.Printer
import LiteralFlow.Json.Reader
import LiteralFlow.Listing.Basic
import LiteralFlow.Listing.Document
import LiteralFlow.Literal.Basic
import LiteralFlow.Literal.Numeral
import LiteralFlow.Literal.Quoted
import LiteralFlow.Proofs.Call.ExactPattern
import LiteralFlow.Proofs.Call.Instance
import LiteralFlow.Proofs.Call.PatternGrammar
import LiteralFlow.Proofs.Call.PointerMark
import LiteralFlow.Proofs.Call.Target
import LiteralFlow.Proofs.Call.Widening
import LiteralFlow.Proofs.Config.Validation
import LiteralFlow.Proofs.Config.YamlRoundTrip
import LiteralFlow.Proofs.Format.Directive
import LiteralFlow.Proofs.Format.Division
import LiteralFlow.Proofs.Format.Pieces
import LiteralFlow.Proofs.Graph.Admission
import LiteralFlow.Proofs.Graph.Presentation
import LiteralFlow.Proofs.Graph.RearrangedDecoding
import LiteralFlow.Proofs.Graph.Rearrangement
import LiteralFlow.Proofs.Graph.RoundTrip
import LiteralFlow.Proofs.Json.Nesting
import LiteralFlow.Proofs.Json.Respacing
import LiteralFlow.Proofs.Json.RoundTrip
import LiteralFlow.Proofs.Json.Scalar
import LiteralFlow.Proofs.Json.Words
import LiteralFlow.Proofs.Listing.Innermost
import LiteralFlow.Proofs.Literal.ByteScan
import LiteralFlow.Proofs.Literal.FirstFault
import LiteralFlow.Proofs.Literal.IntegerLiteral
import LiteralFlow.Proofs.Literal.QuotedGrammar
import LiteralFlow.Proofs.Literal.Unquote
import LiteralFlow.Proofs.Resolve.Comparison
import LiteralFlow.Proofs.Resolve.CountingLoop
import LiteralFlow.Proofs.Resolve.CutAndGlue
import LiteralFlow.Proofs.Resolve.DepthAccounting
import LiteralFlow.Proofs.Resolve.DepthBound
import LiteralFlow.Proofs.Resolve.DepthsLeft
import LiteralFlow.Proofs.Resolve.IntegerDenotation
import LiteralFlow.Proofs.Resolve.Renaming
import LiteralFlow.Proofs.Resolve.Run
import LiteralFlow.Proofs.Resolve.SpelledOutJoin
import LiteralFlow.Proofs.Resolve.TextDenotation
import LiteralFlow.Proofs.Resolve.TextResolution
import LiteralFlow.Proofs.Resolve.Validation
import LiteralFlow.Proofs.Resolve.Walk
import LiteralFlow.Proofs.Resolve.WordDepth
import LiteralFlow.Proofs.Text.Blank
import LiteralFlow.Proofs.Text.Bytes
import LiteralFlow.Proofs.Text.Cut
import LiteralFlow.Proofs.Text.Digits
import LiteralFlow.Proofs.Text.Scan
import LiteralFlow.Proofs.Yaml.LiteralBlock
import LiteralFlow.Proofs.Yaml.Mapping
import LiteralFlow.Proofs.Yaml.PlainScalar
import LiteralFlow.Proofs.Yaml.Position
import LiteralFlow.Proofs.Yaml.QuotedScalar
import LiteralFlow.Resolve.Candidates
import LiteralFlow.Resolve.Integer
import LiteralFlow.Resolve.Resolver
import LiteralFlow.Resolve.Text
import LiteralFlow.Resolve.Trace
import LiteralFlow.Resolve.Walk
import LiteralFlow.Span
import LiteralFlow.Text.Blank
import LiteralFlow.Text.Bytes
import LiteralFlow.Text.Cut
import LiteralFlow.Text.Digits
import LiteralFlow.Text.Inspect
import LiteralFlow.Text.Unprintable
import LiteralFlow.Yaml.Basic
import LiteralFlow.Yaml.BlockScalar
import LiteralFlow.Yaml.Character
import LiteralFlow.Yaml.Cursor
import LiteralFlow.Yaml.FlowScalar
import LiteralFlow.Yaml.Plain
import LiteralFlow.Yaml.Reader
import LiteralFlow.Yaml.Writer
