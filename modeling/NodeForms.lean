import NodeForms.Batch.Dump
import NodeForms.Batch.Run
import NodeForms.Batch.Tree
import NodeForms.CommandLine.Command
import NodeForms.CommandLine.Dump
import NodeForms.CommandLine.Exit
import NodeForms.CommandLine.Run
import NodeForms.CommandLine.Standard
import NodeForms.CommandLine.Surroundings
import NodeForms.CommandLine.Switch
import NodeForms.Decimal.Binary64
import NodeForms.Decimal.Notation
import NodeForms.Decimal.Shortest
import NodeForms.Decimal.Sum
import NodeForms.Document.Calendar
import NodeForms.Document.Data
import NodeForms.Document.Display
import NodeForms.Document.Error
import NodeForms.Document.Fault
import NodeForms.Document.Json.Reader
import NodeForms.Document.Json.Writer
import NodeForms.Document.Order
import NodeForms.Document.Yaml.Cursor
import NodeForms.Document.Yaml.Fault
import NodeForms.Document.Yaml.Grammar
import NodeForms.Document.Yaml.Graph
import NodeForms.Document.Yaml.Lexer
import NodeForms.Document.Yaml.Merge
import NodeForms.Document.Yaml.Scalar
import NodeForms.Document.Yaml.Shape
import NodeForms.Document.Yaml.Tag
import NodeForms.Document.Yaml.Token
import NodeForms.Document.Yaml.Value
import NodeForms.Document.Yaml.Writer
import NodeForms.Main
import NodeForms.Node.Basic
import NodeForms.Node.Check
import NodeForms.Node.Decode
import NodeForms.Node.Display
import NodeForms.Node.Encode
import NodeForms.Node.Form
import NodeForms.Node.Kind
import NodeForms.Node.Layout
import NodeForms.Node.Locals
import NodeForms.Node.Make
import NodeForms.Node.Text
import NodeForms.Proofs.Batch.ErrorContext
import NodeForms.Proofs.Batch.Isolation
import NodeForms.Proofs.Batch.MethodOrder
import NodeForms.Proofs.Batch.Writable
import NodeForms.Proofs.CommandLine.Delivery
import NodeForms.Proofs.CommandLine.Reports
import NodeForms.Proofs.CommandLine.Standard
import NodeForms.Proofs.Computation
import NodeForms.Proofs.Decimal.Nearest
import NodeForms.Proofs.Decimal.Notation
import NodeForms.Proofs.Decimal.Shortest
import NodeForms.Proofs.Document.Json.RoundTrip
import NodeForms.Proofs.Document.Json.Scalars
import NodeForms.Proofs.Document.Json.Sound
import NodeForms.Proofs.Document.Keys
import NodeForms.Proofs.Document.Reordered
import NodeForms.Proofs.Node.Alike
import NodeForms.Proofs.Node.Depth
import NodeForms.Proofs.Node.Format
import NodeForms.Proofs.Node.Graph
import NodeForms.Proofs.Node.JsonText
import NodeForms.Proofs.Node.Members
import NodeForms.Proofs.Node.ReadBack
import NodeForms.Proofs.Node.Reading
import NodeForms.Proofs.Node.Refusals
import NodeForms.Proofs.Node.Reordered
import NodeForms.Proofs.Node.RoundTrip
import NodeForms.Proofs.Node.Sound
import NodeForms.Proofs.Registry.Definitions
import NodeForms.Proofs.Registry.Format
import NodeForms.Proofs.Registry.Methods
import NodeForms.Proofs.Registry.Names
import NodeForms.Proofs.Registry.Refusals
import NodeForms.Proofs.Registry.Registrations
import NodeForms.Proofs.Registry.RoundTrip
import NodeForms.Proofs.Registry.Selection
import NodeForms.Proofs.Serialize.Arity
import NodeForms.Proofs.Serialize.Clauses
import NodeForms.Proofs.Serialize.Contributions
import NodeForms.Proofs.Serialize.Decoded
import NodeForms.Proofs.Serialize.Draw
import NodeForms.Proofs.Serialize.Failures
import NodeForms.Proofs.Serialize.Frames
import NodeForms.Proofs.Serialize.Headed
import NodeForms.Proofs.Serialize.Limit
import NodeForms.Proofs.Serialize.MarkerAgreement
import NodeForms.Proofs.Serialize.MarkerLists
import NodeForms.Proofs.Serialize.Markers
import NodeForms.Proofs.Serialize.Parameters
import NodeForms.Proofs.Serialize.Places
import NodeForms.Proofs.Serialize.ReadyForms
import NodeForms.Proofs.Serialize.Rules
import NodeForms.Proofs.Serialize.Serves
import NodeForms.Proofs.Serialize.Simulation
import NodeForms.Proofs.Serialize.Stack
import NodeForms.Proofs.Serialize.Steps
import NodeForms.Proofs.Serialize.Tasks
import NodeForms.Proofs.Serialize.Unhandled
import NodeForms.Proofs.Serialize.UnhandledLists
import NodeForms.Proofs.Serialize.VisitTree
import NodeForms.Proofs.Serialize.Visits
import NodeForms.Proofs.Serialize.Walk
import NodeForms.Proofs.Serialize.WellTyped
import NodeForms.Proofs.Serialize.WorkLoop
import NodeForms.Proofs.Settings.Format
import NodeForms.Proofs.Sexp.Acceptance
import NodeForms.Proofs.Sexp.Columns
import NodeForms.Proofs.Sexp.Denotation
import NodeForms.Proofs.Sexp.DigitLimit
import NodeForms.Proofs.Sexp.Grammar
import NodeForms.Proofs.Sexp.Layout
import NodeForms.Proofs.Sexp.Loop
import NodeForms.Proofs.Sexp.Markers
import NodeForms.Proofs.Sexp.Notation
import NodeForms.Proofs.Sexp.Prefixes
import NodeForms.Proofs.Sexp.Refusals
import NodeForms.Proofs.Sexp.RoundTrip
import NodeForms.Proofs.Sexp.Separators
import NodeForms.Proofs.Sexp.Slice
import NodeForms.Proofs.Sexp.Verdict
import NodeForms.Proofs.Sexp.Widths
import NodeForms.Registry.Basic
import NodeForms.Registry.Decode
import NodeForms.Registry.Encode
import NodeForms.Registry.HostType
import NodeForms.Registry.Load
import NodeForms.Registry.Place
import NodeForms.Serialize.Diagnostic
import NodeForms.Serialize.Error
import NodeForms.Serialize.Log
import NodeForms.Serialize.Machine
import NodeForms.Serialize.Part
import NodeForms.Serialize.Rule
import NodeForms.Settings.Basic
import NodeForms.Settings.Load
import NodeForms.Sexp.Basic
import NodeForms.Sexp.Builder
import NodeForms.Sexp.Compact
import NodeForms.Sexp.Marks
import NodeForms.Sexp.Printer
import NodeForms.Sexp.Reader
import NodeForms.Sexp.Slice
import NodeForms.Sexp.Widths
import NodeForms.Source.Files
import NodeForms.Source.Path
import NodeForms.Terminal.Emoji
import NodeForms.Terminal.Lines
import NodeForms.Terminal.Markup
import NodeForms.Terminal.Screen
import NodeForms.Terminal.Style
import NodeForms.Terminal.Table
import NodeForms.Text.Blank
import NodeForms.Text.Case
import NodeForms.Text.Columns
import NodeForms.Text.Numeral
import NodeForms.Text.Printable
import NodeForms.Text.Quoted
import NodeForms.Text.Similar
