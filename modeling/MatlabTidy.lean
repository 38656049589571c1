import MatlabTidy.Charset.Basic
import MatlabTidy.Charset.Reader
import MatlabTidy.Charset.Utf8
import MatlabTidy.Checker.Advisory
import MatlabTidy.Checker.Basic
import MatlabTidy.Checker.Score
import MatlabTidy.Command.Arguments
import MatlabTidy.Command.Program
import MatlabTidy.Command.Registry
import MatlabTidy.Command.Streams
import MatlabTidy.Config.Discovery
import MatlabTidy.Config.Moment
import MatlabTidy.Config.Settings
import MatlabTidy.Config.Toml.Document
import MatlabTidy.Config.Toml.Scalar
import MatlabTidy.Config.Value
import MatlabTidy.Console.Escape
import MatlabTidy.Console.Table
import MatlabTidy.Console.Text
import MatlabTidy.Console.Wrap
import MatlabTidy.Main
import MatlabTidy.Number.Binary64
import MatlabTidy.Number.Decimal
import MatlabTidy.Path.Basic
import MatlabTidy.Report.Basic
import MatlabTidy.Report.Printer
import MatlabTidy.Report.Violation
import MatlabTidy.Rule.Basic
import MatlabTidy.Rule.Columns
import MatlabTidy.Rule.Pattern
import MatlabTidy.Run.Assess
import MatlabTidy.Run.Criterion
import MatlabTidy.Run.Event
import MatlabTidy.Run.Failure
import MatlabTidy.Run.Host
import MatlabTidy.Run.Itinerary
import MatlabTidy.Run.Job
import MatlabTidy.Run.Line
import MatlabTidy.Run.Log
import MatlabTidy.Run.Options
import MatlabTidy.Run.Scan
import MatlabTidy.Run.Walk
import MatlabTidy.Stack
import MatlabTidy.Text.Blank
import MatlabTidy.Text.Digit
import MatlabTidy.Text.Lines
import MatlabTidy.Text.Printable
import MatlabTidy.Text.Quoted
import MatlabTidy.Text.Ranges
import MatlabTidy.Text.Scan
import MatlabTidy.Text.Width
import MatlabTidy.Text.Word
import MatlabTidy.Volume.Access
import MatlabTidy.Volume.Basic
import MatlabTidy.Volume.RealPath
import MatlabTidy.Proofs.Rule.Classes
import MatlabTidy.Proofs.Rule.Gaps
import MatlabTidy.Proofs.Rule.Interplay
import MatlabTidy.Proofs.Rule.Respaced
import MatlabTidy.Proofs.Run.Job
import MatlabTidy.Proofs.Run.Turn
import MatlabTidy.Proofs.Run.Turns
import MatlabTidy.Proofs.Run.Order
import MatlabTidy.Proofs.Charset.Utf8
import MatlabTidy.Proofs.Text.Lines
import MatlabTidy.Proofs.Charset.Reading
import MatlabTidy.Proofs.Run.Tidy
import MatlabTidy.Proofs.Run.Lines
import MatlabTidy.Proofs.Run.Totals
import MatlabTidy.Proofs.Volume.Nodes
import MatlabTidy.Proofs.Volume.Walk
import MatlabTidy.Proofs.Volume.Replace
import MatlabTidy.Proofs.Volume.TopFolder
import MatlabTidy.Proofs.Volume.Removal
import MatlabTidy.Proofs.Run.File
import MatlabTidy.Proofs.Run.Parts
import MatlabTidy.Proofs.Run.Endings
import MatlabTidy.Proofs.Run.FixedPoint
import MatlabTidy.Proofs.Run.Preservation
import MatlabTidy.Proofs.Run.Tallies
import MatlabTidy.Proofs.Run.Effects
import MatlabTidy.Proofs.Run.Fairness
import MatlabTidy.Proofs.Command.Check
import MatlabTidy.Proofs.Command.ExitCode
import MatlabTidy.Proofs.Command.SecondRun
import MatlabTidy.Proofs.Run.Coverage
import MatlabTidy.Proofs.Report.Regrouping
import MatlabTidy.Proofs.Rule.Bounds
import MatlabTidy.Proofs.Charset.Writing
import MatlabTidy.Proofs.Run.Findings
import MatlabTidy.Proofs.Run.Answers
import MatlabTidy.Proofs.Run.Interactive
import MatlabTidy.Proofs.Run.Reporting
import MatlabTidy.Proofs.Run.Accounts
import MatlabTidy.Proofs.Run.Parting
import MatlabTidy.Proofs.Run.Isolation
import MatlabTidy.Proofs.Checker.Numbers
import MatlabTidy.Proofs.Run.Assessing
import MatlabTidy.Proofs.Run.Shape
import MatlabTidy.Proofs.Charset.Marked
import MatlabTidy.Proofs.Run.Unfixed
import MatlabTidy.Proofs.Rule.Fences
import MatlabTidy.Proofs.Run.Inline
import MatlabTidy.Proofs.Rule.Positions
import MatlabTidy.Proofs.Rule.Edits
import MatlabTidy.Proofs.Rule.Carets
import MatlabTidy.Proofs.Volume.Likeness
import MatlabTidy.Proofs.Run.Blind
import MatlabTidy.Proofs.Run.Terminators
import MatlabTidy.Proofs.Volume.Nulls
import MatlabTidy.Proofs.Run.Encodings
import MatlabTidy.Proofs.Checker.Grammar
import MatlabTidy.Proofs.Charset.Lossless
import MatlabTidy.Proofs.Checker.Streams
import MatlabTidy.Proofs.Run.Calls
import MatlabTidy.Proofs.Path.DisplayName
import MatlabTidy.Proofs.Volume.RealPath
import MatlabTidy.Proofs.Config.Loading
import MatlabTidy.Proofs.Config.Literal
import MatlabTidy.Proofs.Config.Validation
