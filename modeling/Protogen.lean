import Protogen.Text.Basic
import Protogen.Text.Lines
import Protogen.Text.Blank
import Protogen.Text.Upper
import Protogen.Template.Fill
import Protogen.Json.Parser
import Protogen.Json.Printer
import Protogen.Naming
import Protogen.Failure
import Protogen.Code.Writer
import Protogen.Code.Program
import Protogen.Code.Emission
import Protogen.Schema.Decode
import Protogen.Schema.Encode
import Protogen.Registry
import Protogen.Output.Index
import Protogen.Import.Resolver
import Protogen.Generation
import Protogen.Main
import Protogen.Markup.Emoji
import Protogen.Markup.Styled
import Protogen.Table.Columns
import Protogen.Table.Grid
import Protogen.Markup.Color
import Protogen.Markup.Style
import Protogen.Markup.Literal
import Protogen.Text.Alphanumeric
import Protogen.Template.Catalogue
import Protogen.Proofs.Code.Emits
import Protogen.Proofs.Script.Basic
import Protogen.Proofs.Script.Reader
import Protogen.Proofs.Script.Run
import Protogen.Proofs.Text.Cut
import Protogen.Proofs.Script.RoundTrip
import Protogen.Proofs.Naming
import Protogen.Proofs.Field.Plan
import Protogen.Proofs.Field.Generate
import Protogen.Proofs.Field.Run
import Protogen.Proofs.Output.Parser
import Protogen.Proofs.Import.Statement
import Protogen.Proofs.Import.Resolver
import Protogen.Proofs.Import.Idempotence
import Protogen.Proofs.Schema.Types
import Protogen.Proofs.Registry
import Protogen.Proofs.Code.Outcome
import Protogen.Proofs.Field.Consistency
import Protogen.Proofs.Output.File
import Protogen.Proofs.Generation.Render
import Protogen.Proofs.Field.Outcome
import Protogen.Proofs.Session
import Protogen.Proofs.Generation.Unrendered
import Protogen.Proofs.Import.Replacement
import Protogen.Proofs.Import.WellKnown
import Protogen.Proofs.FileTree
import Protogen.Proofs.Generation.Rendered
import Protogen.Proofs.Text.HasLine
import Protogen.Proofs.Output.Declaration
import Protogen.Proofs.Generation.Appended
import Protogen.Proofs.Generation.Completed
import Protogen.Proofs.Import.Stored
import Protogen.Proofs.Code.Balance
import Protogen.Proofs.Field.Balance
import Protogen.Proofs.Output.Balance
import Protogen.Proofs.Schema.Names
import Protogen.Proofs.Output.Index
import Protogen.Proofs.Output.TypeUrl
import Protogen.Proofs.Output.Agreement
import Protogen.Proofs.Text.Occurrence
import Protogen.Proofs.Output.References
import Protogen.Proofs.Registry.Inverse
import Protogen.Proofs.FileTree.Alike
import Protogen.Proofs.FileTree.Room
import Protogen.Proofs.Generation.Filed
import Protogen.Proofs.Session.Alike
import Protogen.Proofs.Generation.Steps
import Protogen.Proofs.Schema.Order
import Protogen.Proofs.Registry.Order
import Protogen.Proofs.Generation.Rewritten
import Protogen.Proofs.Generation.Order
import Protogen.Proofs.FileTree.Destination
import Protogen.Proofs.Import.Rewrite
import Protogen.Proofs.Import.Passage
import Protogen.Proofs.Import.Runtime
import Protogen.Proofs.Generation.Passage
import Protogen.Proofs.Generation.Runtime
import Protogen.Proofs.Command.Schema
import Protogen.Proofs.Schema.RoundTrip
import Protogen.Proofs.Schema.Faults
import Protogen.Proofs.FileTree.Growth
import Protogen.Proofs.Session.Notes
import Protogen.Proofs.Generation.Declaring
import Protogen.Proofs.Generation.Touched
import Protogen.Proofs.Generation.Listed
import Protogen.Proofs.Code.Mark
import Protogen.Proofs.Code.Headers
import Protogen.Proofs.Code.Program
import Protogen.Proofs.Code.InPlace
import Protogen.Proofs.Import.Verdict
import Protogen.Proofs.Import.Each
import Protogen.Proofs.Command.Check
import Protogen.Proofs.Command.Resolve
import Protogen.Proofs.Code.Manager
import Protogen.Proofs.Output.Concatenation
import Protogen.Proofs.Schema.FullName
import Protogen.Proofs.Import.Pattern.Overlap
import Protogen.Proofs.Import.Fallback
import Protogen.Proofs.Text.Trim
import Protogen.Proofs.Import.Pattern.Text
import Protogen.Proofs.Json
import Protogen.Proofs.Import.Config
import Protogen.Proofs.Command.Modules
import Protogen.Proofs.Import.Apart
import Protogen.Proofs.Import.Offsets
import Protogen.Proofs.Import.Mentions
import Protogen.Proofs.Import.Concatenation
import Protogen.Proofs.Text.Upper
import Protogen.Proofs.Naming.Case
import Protogen.Proofs.Generation.RootWay
import Protogen.Proofs.Import.MainSources
import Protogen.Proofs.Script.Access
import Protogen.Proofs.Field.Key
