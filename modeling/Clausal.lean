import Clausal.Command.Args
import Clausal.Command.Files
import Clausal.Command.Help
import Clausal.Command.Inputs
import Clausal.Command.Numeral
import Clausal.Command.Run
import Clausal.Command.Settings
import Clausal.Document.Decode
import Clausal.Document.Encode
import Clausal.Document.Text
import Clausal.Event
import Clausal.Json.Basic
import Clausal.Json.Equality
import Clausal.Json.Number
import Clausal.Json.Printer
import Clausal.Json.Reader
import Clausal.Main
import Clausal.Number.Binary64
import Clausal.Number.Digits
import Clausal.Number.Literal
import Clausal.Number.Shortest
import Clausal.Param.Basic
import Clausal.Param.Instant
import Clausal.Param.Uuid
import Clausal.Param.Wire
import Clausal.Query.Basic
import Clausal.Query.ClauseMap
import Clausal.Query.Combine
import Clausal.Query.Equality
import Clausal.Query.Error
import Clausal.Query.Kind
import Clausal.Query.Limit
import Clausal.Query.Operator
import Clausal.Statement.Ident
import Clausal.Statement.Render
import Clausal.Statement.Writer
import Clausal.Text.Blank
import Clausal.Text.Cut
import Clausal.Text.Hidden
import Clausal.Text.Quoted
import Clausal.Text.Uppercase
import Clausal.Toml.Basic
import Clausal.Toml.Reader
import Clausal.Toml.Scalar
import Clausal.Toml.Text
import Clausal.Proofs.Query.Traversal
import Clausal.Proofs.Query.Places
import Clausal.Proofs.Query.Slots
import Clausal.Proofs.Query.Lookup
import Clausal.Proofs.Query.Depth
import Clausal.Proofs.Query.Append
import Clausal.Proofs.Query.CombinedMarks
import Clausal.Proofs.Json.Fields
import Clausal.Proofs.Json.Keys
import Clausal.Proofs.Number.Rounding
import Clausal.Proofs.Param.JsonForm
import Clausal.Proofs.Param.InlineValues
import Clausal.Proofs.Param.Binding
import Clausal.Proofs.Text.Cut
import Clausal.Proofs.Statement.Piece
import Clausal.Proofs.Statement.QuotedNames
import Clausal.Proofs.Statement.Simulation
import Clausal.Proofs.Statement.Rendering
import Clausal.Proofs.Statement.Relocation
import Clausal.Proofs.Statement.ParamSafety
import Clausal.Proofs.Statement.DepthLimit
import Clausal.Proofs.Statement.Layout
import Clausal.Proofs.Statement.Placeholders
import Clausal.Proofs.Statement.Brackets
import Clausal.Proofs.Document.ReadBack
import Clausal.Proofs.Document.RoundTrip
import Clausal.Proofs.Document.Canonical
import Clausal.Proofs.Document.DepthLimit
import Clausal.Proofs.Document.Acceptance
import Clausal.Proofs.Document.Grammar
import Clausal.Proofs.Document.Reading
import Clausal.Proofs.Document.PayloadSafety
import Clausal.Proofs.Document.OperatorTags
import Clausal.Proofs.Command.Output
import Clausal.Proofs.Command.RenderStage
import Clausal.Proofs.Statement.AppendedValues
import Clausal.Proofs.Statement.Grouping
import Clausal.Proofs.Query.Operations
import Clausal.Proofs.Document.Union
import Clausal.Proofs.Json.Tokens
import Clausal.Proofs.Json.PrettyText
import Clausal.Proofs.Document.KeyOrder
import Clausal.Proofs.Command.Feedback
import Clausal.Proofs.Command.Units
import Clausal.Proofs.Command.LastUse
import Clausal.Proofs.Json.Progress
import Clausal.Proofs.Command.Documents
import Clausal.Proofs.Statement.EmptyClauses
