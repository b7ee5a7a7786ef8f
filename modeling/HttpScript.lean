import HttpScript.Calendar.Date
import HttpScript.Calendar.DateTime
import HttpScript.Calendar.Format
import HttpScript.CommandLine.Command
import HttpScript.CommandLine.FileRun
import HttpScript.CommandLine.Options
import HttpScript.Document.Block
import HttpScript.Document.Directive
import HttpScript.Document.Line
import HttpScript.Document.LineForm
import HttpScript.Document.Reader
import HttpScript.Dotenv
import HttpScript.Expectation
import HttpScript.Fault
import HttpScript.Files.Disk
import HttpScript.Files.Path
import HttpScript.Json.Basic
import HttpScript.Json.Equality
import HttpScript.Json.Merge
import HttpScript.Json.Reader
import HttpScript.Json.Writer
import HttpScript.Main
import HttpScript.Number.Double
import HttpScript.Number.Shortest
import HttpScript.Pattern.Basic
import HttpScript.Pattern.Escape
import HttpScript.Pattern.Fault
import HttpScript.Pattern.Flags
import HttpScript.Pattern.Reader
import HttpScript.Pattern.Scan
import HttpScript.Placeholder.Expansion
import HttpScript.Placeholder.Function
import HttpScript.Proofs.Document.Concatenation
import HttpScript.Proofs.Document.LineForms
import HttpScript.Proofs.Document.LineNumbers
import HttpScript.Proofs.Document.NormalForm
import HttpScript.Proofs.Document.Reading
import HttpScript.Proofs.Document.WellFormed
import HttpScript.Proofs.Placeholder.Filling
import HttpScript.Proofs.Placeholder.Termination
import HttpScript.Proofs.Placeholder.Texts
import HttpScript.Proofs.Table
import HttpScript.Proofs.Text.Contents
import HttpScript.Proofs.Text.Lines
import HttpScript.Proofs.Text.Trim
import HttpScript.Query.Basic
import HttpScript.Query.Reader
import HttpScript.Query.Selection
import HttpScript.Redaction
import HttpScript.Redaction.Shared
import HttpScript.Run.Exchange
import HttpScript.Run.Outcome
import HttpScript.Run.Report
import HttpScript.Run.Session
import HttpScript.Setup.Config
import HttpScript.Setup.Environment
import HttpScript.Setup.Fault
import HttpScript.Setup.Notice
import HttpScript.Table
import HttpScript.Text.Basic
import HttpScript.Text.Blank
import HttpScript.Text.CharacterNames
import HttpScript.Text.Digit
import HttpScript.Text.Identifier
import HttpScript.Text.LetterCase
import HttpScript.Text.Lines
import HttpScript.Text.NameTable
import HttpScript.Text.Numeral
import HttpScript.Text.Quoted
import HttpScript.Text.Utf8
import HttpScript.Text.Word
import HttpScript.Yaml.Place
import HttpScript.Yaml.Reader
import HttpScript.Yaml.Scalar
import HttpScript.Yaml.Word
import HttpScript.Proofs.Placeholder.Cycles
import HttpScript.Proofs.Placeholder.Visibility
import HttpScript.Proofs.Run.History
import HttpScript.Proofs.Run.Registry
import HttpScript.Proofs.Run.Sequence
import HttpScript.Proofs.Redaction
import HttpScript.Proofs.Run.Breakdowns
import HttpScript.Proofs.Placeholder.Chains
import HttpScript.Proofs.Query.Locations
import HttpScript.Proofs.Query.Matching
import HttpScript.Proofs.Redaction.Cover
import HttpScript.Proofs.Redaction.Selected
import HttpScript.Proofs.Placeholder.Requests
import HttpScript.Proofs.Run.JsonBodies
import HttpScript.Proofs.Placeholder.Extension
import HttpScript.Proofs.Query.Written
import HttpScript.Proofs.Redaction.Reported
import HttpScript.Proofs.Text.Digits
import HttpScript.Proofs.Placeholder.Behind
import HttpScript.Proofs.Placeholder.Globals
import HttpScript.Proofs.Placeholder.Hoisting
import HttpScript.Proofs.Run.Chaining
import HttpScript.Proofs.Placeholder.Joining
import HttpScript.Proofs.Document.Blocks
import HttpScript.Proofs.Document.Faults
import HttpScript.Proofs.Json.Equality
import HttpScript.Proofs.Document.Sections
import HttpScript.Proofs.Run.States
import HttpScript.Proofs.Json.Written
import HttpScript.Proofs.Run.OutcomeValues
import HttpScript.Proofs.Query.Order
import HttpScript.Proofs.Query.Names
import HttpScript.Proofs.Document.Preambles
import HttpScript.Proofs.Document.Insertion
import HttpScript.Proofs.Document.Directives
import HttpScript.Proofs.Json.Merge
import HttpScript.Proofs.Run.Headers
import HttpScript.Proofs.Run.ResponseBodies
import HttpScript.Proofs.Query.Faults
import HttpScript.Proofs.Calendar.Days
import HttpScript.Proofs.Calendar.Instants
import HttpScript.Proofs.Document.LineBreaks
import HttpScript.Proofs.Calendar.Shifts
import HttpScript.Proofs.Calendar.Months
import HttpScript.Proofs.CommandLine.Passes
import HttpScript.Proofs.CommandLine.Result
import HttpScript.Proofs.Calendar.Patterns
import HttpScript.Proofs.Calendar.Timestamps
import HttpScript.Proofs.Text.Words
import HttpScript.Proofs.Calendar.Offsets
import HttpScript.Proofs.Placeholder.DateCalls
