import VectorLint.CommandLine.Basic
import VectorLint.CommandLine.Request
import VectorLint.CommandLine.Results
import VectorLint.CommandLine.Switches
import VectorLint.Config.Basic
import VectorLint.Config.Load
import VectorLint.Document.Basic
import VectorLint.Document.Place
import VectorLint.Document.Query
import VectorLint.Files.Basic
import VectorLint.Files.Path
import VectorLint.Html.Basic
import VectorLint.Html.Direction
import VectorLint.Html.Form
import VectorLint.Html.Range
import VectorLint.Main
import VectorLint.Markup.Character
import VectorLint.Markup.Charset
import VectorLint.Markup.Charset.Composition
import VectorLint.Markup.Charset.Plane
import VectorLint.Markup.Charset.Plane.Japanese
import VectorLint.Markup.Charset.Plane.Korean
import VectorLint.Markup.Charset.Plane.Simplified
import VectorLint.Markup.Charset.Plane.Traditional
import VectorLint.Markup.Charset.Reading
import VectorLint.Markup.Charset.Registered
import VectorLint.Markup.Charset.Shifting
import VectorLint.Markup.Charset.Table
import VectorLint.Markup.Charset.Wide
import VectorLint.Markup.Content
import VectorLint.Markup.Declaration
import VectorLint.Markup.Doctype
import VectorLint.Markup.Encoding
import VectorLint.Markup.Event
import VectorLint.Markup.Fault
import VectorLint.Markup.Literal
import VectorLint.Markup.Move
import VectorLint.Markup.Namespace
import VectorLint.Markup.Prolog
import VectorLint.Markup.Reader
import VectorLint.Markup.Reference
import VectorLint.Markup.Remark
import VectorLint.Markup.Salvage
import VectorLint.Markup.Tag
import VectorLint.Markup.Tree
import VectorLint.Markup.Value
import VectorLint.Markup.Writing
import VectorLint.Number.Binary64
import VectorLint.Number.Shortest
import VectorLint.Number.Written
import VectorLint.Proofs.CommandLine.Formats
import VectorLint.Proofs.CommandLine.Json
import VectorLint.Proofs.Config.Values
import VectorLint.Proofs.Document.Addresses
import VectorLint.Proofs.Document.Checked
import VectorLint.Proofs.Document.Matched
import VectorLint.Proofs.Document.Numbering
import VectorLint.Proofs.Document.Paths
import VectorLint.Proofs.Document.Places
import VectorLint.Proofs.Document.RoundTrip
import VectorLint.Proofs.Markup.Names
import VectorLint.Proofs.Number.Rounding
import VectorLint.Proofs.Number.Shortest
import VectorLint.Proofs.Number.Written
import VectorLint.Proofs.Report.Reporters
import VectorLint.Proofs.Rule.Actions
import VectorLint.Proofs.Rule.Attributes
import VectorLint.Proofs.Rule.Counting
import VectorLint.Proofs.Rule.Elements
import VectorLint.Proofs.Rule.Subjects
import VectorLint.Proofs.Run.Callbacks
import VectorLint.Proofs.Run.Calls
import VectorLint.Proofs.Run.Concatenation
import VectorLint.Proofs.Run.Findings
import VectorLint.Proofs.Run.Lifecycle
import VectorLint.Proofs.Run.Notification
import VectorLint.Proofs.Run.Operations
import VectorLint.Proofs.Run.Waiting
import VectorLint.Proofs.Value.Numeral
import VectorLint.Proofs.Value.Reading
import VectorLint.Proofs.Value.RoundTrip
import VectorLint.Proofs.Value.Strings
import VectorLint.Report.Basic
import VectorLint.Report.Diagnostic
import VectorLint.Report.Failure
import VectorLint.Report.Log
import VectorLint.Report.Reporters
import VectorLint.Rule.Action
import VectorLint.Rule.Attributes
import VectorLint.Rule.Basic
import VectorLint.Rule.Elements
import VectorLint.Rule.Finding
import VectorLint.Rule.Notice
import VectorLint.Rule.Script
import VectorLint.Rule.Script.Conduct
import VectorLint.Run.Basic
import VectorLint.Run.Lint
import VectorLint.Run.State
import VectorLint.Run.Turns
import VectorLint.Selector.Basic
import VectorLint.Selector.Fault
import VectorLint.Selector.Html
import VectorLint.Selector.Language
import VectorLint.Selector.Matching
import VectorLint.Selector.Reader
import VectorLint.Selector.Scan
import VectorLint.Selector.Token
import VectorLint.Terminal.Action
import VectorLint.Terminal.Action.Quoted
import VectorLint.Terminal.Action.Word
import VectorLint.Terminal.Emoji
import VectorLint.Terminal.Emoji.Table
import VectorLint.Terminal.Lines
import VectorLint.Terminal.Markup
import VectorLint.Terminal.Style
import VectorLint.Terminal.Table
import VectorLint.Terminal.Width
import VectorLint.Terminal.Width.Table
import VectorLint.Text.Alphanumeric
import VectorLint.Text.Blank
import VectorLint.Text.Cased
import VectorLint.Text.Changes
import VectorLint.Text.Direction
import VectorLint.Text.Folding
import VectorLint.Text.Lowercase
import VectorLint.Text.Named
import VectorLint.Text.Named.Table
import VectorLint.Text.Pieces
import VectorLint.Text.Printable
import VectorLint.Text.Quoted
import VectorLint.Text.Utf8
import VectorLint.Value.Basic
import VectorLint.Value.Json
import VectorLint.Value.Limits
import VectorLint.Value.Reader
import VectorLint.Value.Shown
import VectorLint.Proofs.Document.Failures
import VectorLint.Proofs.Markup.Shifted
import VectorLint.Proofs.Markup.Pairs
import VectorLint.Proofs.Markup.Fallback
import VectorLint.Proofs.Document.Encodings
import VectorLint.Proofs.Run.Rounds
import VectorLint.Document.Memory
import VectorLint.Proofs.Document.Handles
import VectorLint.Proofs.Value.Limits
import VectorLint.Proofs.Value.LineEnds
import VectorLint.Proofs.CommandLine.Loading
import VectorLint.Proofs.Config.Search
import VectorLint.Proofs.CommandLine.Shown
import VectorLint.Proofs.Rule.Instances
import VectorLint.Proofs.Rule.Resolution
