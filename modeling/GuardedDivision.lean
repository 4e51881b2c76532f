import GuardedDivision.Binary64.Arithmetic
import GuardedDivision.Binary64.Basic
import GuardedDivision.Binary64.Rounding
import GuardedDivision.Case
import GuardedDivision.ChaCha
import GuardedDivision.CommandLine.Meaning
import GuardedDivision.CommandLine.Reader
import GuardedDivision.CommandLine.Setting
import GuardedDivision.Decimal.Literal
import GuardedDivision.Decimal.Shortest
import GuardedDivision.Division
import GuardedDivision.Failure
import GuardedDivision.FileTree
import GuardedDivision.Log.Directive
import GuardedDivision.Log.Event
import GuardedDivision.Log.Filter
import GuardedDivision.Main
import GuardedDivision.Program
import GuardedDivision.Proofs.Binary64.Correct
import GuardedDivision.Proofs.Binary64.Division
import GuardedDivision.Proofs.Binary64.Nearest
import GuardedDivision.Proofs.Binary64.Quotient
import GuardedDivision.Proofs.Binary64.Rank
import GuardedDivision.Proofs.Binary64.Whole
import GuardedDivision.Proofs.Blank
import GuardedDivision.Proofs.Case
import GuardedDivision.Proofs.Catching
import GuardedDivision.Proofs.CommandLine.Flags
import GuardedDivision.Proofs.CommandLine.Grammar
import GuardedDivision.Proofs.CommandLine.Meaning
import GuardedDivision.Proofs.CommandLine.Reader
import GuardedDivision.Proofs.Console
import GuardedDivision.Proofs.Consumption
import GuardedDivision.Proofs.Decimal.Coarsest
import GuardedDivision.Proofs.Decimal.Form
import GuardedDivision.Proofs.Decimal.Grammar
import GuardedDivision.Proofs.Decimal.Literal
import GuardedDivision.Proofs.Decimal.Reading
import GuardedDivision.Proofs.Decimal.RoundTrip
import GuardedDivision.Proofs.Decimal.Rounded
import GuardedDivision.Proofs.Decimal.Shortest
import GuardedDivision.Proofs.Decimal.Significant
import GuardedDivision.Proofs.Fallback
import GuardedDivision.Proofs.FileTree
import GuardedDivision.Proofs.FloatDivision
import GuardedDivision.Proofs.FloatGuard
import GuardedDivision.Proofs.Influence
import GuardedDivision.Proofs.IntegerDivision
import GuardedDivision.Proofs.IntegerReading
import GuardedDivision.Proofs.Lines
import GuardedDivision.Proofs.Location
import GuardedDivision.Proofs.Logging
import GuardedDivision.Proofs.NearZero
import GuardedDivision.Proofs.NotNumber
import GuardedDivision.Proofs.Numeral
import GuardedDivision.Proofs.Printable
import GuardedDivision.Proofs.Program
import GuardedDivision.Proofs.Quoted
import GuardedDivision.Proofs.ReportLines
import GuardedDivision.Proofs.Reports
import GuardedDivision.Proofs.Reproduction
import GuardedDivision.Proofs.Routes
import GuardedDivision.Proofs.Run
import GuardedDivision.Proofs.Settings.Discovery
import GuardedDivision.Proofs.Settings.Overlay
import GuardedDivision.Proofs.Settings.RoundTrip
import GuardedDivision.Proofs.Story
import GuardedDivision.Proofs.Toml.Datum
import GuardedDivision.Proofs.Toml.Document
import GuardedDivision.Proofs.Toml.Expression
import GuardedDivision.Proofs.Toml.Integer
import GuardedDivision.Proofs.Toml.Line
import GuardedDivision.Proofs.Toml.Scalar
import GuardedDivision.Proofs.Toml.Text
import GuardedDivision.Proofs.Utf8
import GuardedDivision.Run
import GuardedDivision.Session
import GuardedDivision.Settings.Basic
import GuardedDivision.Settings.Discovery
import GuardedDivision.Settings.Reader
import GuardedDivision.Settings.Text
import GuardedDivision.Source
import GuardedDivision.Text.Alphanumeric
import GuardedDivision.Text.Blank
import GuardedDivision.Text.Category
import GuardedDivision.Text.CharRange
import GuardedDivision.Text.Cut
import GuardedDivision.Text.Fields
import GuardedDivision.Text.Numeral
import GuardedDivision.Text.Quoted
import GuardedDivision.Text.Utf8
import GuardedDivision.Toml.Characters
import GuardedDivision.Toml.Defect
import GuardedDivision.Toml.Document
import GuardedDivision.Toml.Expression
import GuardedDivision.Toml.Item
import GuardedDivision.Toml.Meaning
import GuardedDivision.Toml.Scalar
import GuardedDivision.Toml.Table
import GuardedDivision.Toml.Text
import GuardedDivision.Toml.Word
import GuardedDivision.Words
import GuardedDivision.Proofs.ChaCha.Cipher
import GuardedDivision.Proofs.ChaCha.Keystream
import GuardedDivision.Proofs.RandomWords
import GuardedDivision.Proofs.Cut
import GuardedDivision.Proofs.Filtering
