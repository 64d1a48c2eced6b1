import PascalLint.Block.Basic
import PascalLint.Block.Layout
import PascalLint.Block.Printed
import PascalLint.Block.Scan
import PascalLint.Column
import PascalLint.Command.Basic
import PascalLint.Command.Locate
import PascalLint.CommandLine.Basic
import PascalLint.CommandLine.Parse
import PascalLint.CommandLine.Written
import PascalLint.Diagnostic
import PascalLint.Extraction.Basic
import PascalLint.Extraction.Cursor
import PascalLint.Host.Basic
import PascalLint.Host.FileTree
import PascalLint.IgnoreSet
import PascalLint.Log.Basic
import PascalLint.Log.Filter
import PascalLint.Main
import PascalLint.Number.Double
import PascalLint.Number.Shortest
import PascalLint.Proofs.Block.Grammar
import PascalLint.Proofs.Block.Layout
import PascalLint.Proofs.Block.Parts
import PascalLint.Proofs.Block.Printed
import PascalLint.Proofs.Block.Returned
import PascalLint.Proofs.Block.Scanned
import PascalLint.Proofs.Block.Search
import PascalLint.Proofs.Block.Separated
import PascalLint.Proofs.Block.ThreeLines
import PascalLint.Proofs.Extraction.Cursor
import PascalLint.Proofs.Extraction.Muted
import PascalLint.Proofs.Extraction.Printed
import PascalLint.Proofs.Extraction.Returned
import PascalLint.Proofs.Extraction.WellFormed
import PascalLint.Proofs.IgnoreSet.Listed
import PascalLint.Proofs.Pattern.Matches
import PascalLint.Proofs.Pattern.Search
import PascalLint.Proofs.Settings.Ignored
import PascalLint.Proofs.Text.Lines
import PascalLint.Proofs.Text.Numeral
import PascalLint.Report.Json
import PascalLint.Report.JsonReader
import PascalLint.Report.Line
import PascalLint.Report.Plain
import PascalLint.Report.Table
import PascalLint.Report.TableReader
import PascalLint.Run
import PascalLint.Settings.Basic
import PascalLint.Settings.Document
import PascalLint.Settings.Load
import PascalLint.Text.Alphanumeric
import PascalLint.Text.Basic
import PascalLint.Text.DecimalDigit
import PascalLint.Text.Extender
import PascalLint.Text.Numeral
import PascalLint.Text.Order
import PascalLint.Text.Pattern
import PascalLint.Text.Printable
import PascalLint.Text.Quoted
import PascalLint.Text.Ranges
import PascalLint.Text.Reader
import PascalLint.Text.Utf8
import PascalLint.Text.WhiteSpace
import PascalLint.Text.Width
import PascalLint.Toml.Document
import PascalLint.Toml.Number
import PascalLint.Toml.Quotation
import PascalLint.Toml.Tree
import PascalLint.Toml.Value
import PascalLint.Proofs.Extraction.Accounted
import PascalLint.Proofs.Report.Line
import PascalLint.Proofs.Report.Json
import PascalLint.Proofs.Run.Outcome
import PascalLint.Proofs.Run.Reported
import PascalLint.Proofs.Extraction.NumericEntries
import PascalLint.Proofs.Extraction.Restartable
import PascalLint.Proofs.Report.Agreement
import PascalLint.Proofs.Column
import PascalLint.Proofs.Run.StrayBytes
import PascalLint.Proofs.Column.Word
import PascalLint.Proofs.Column.Encoded
import PascalLint.Proofs.Column.Projection
import PascalLint.Proofs.Extraction.Severity
import PascalLint.Proofs.Settings.Merged
import PascalLint.Proofs.IgnoreSet.Changes
import PascalLint.Proofs.IgnoreSet.Segments
import PascalLint.Proofs.Text.ByteOrder
import PascalLint.Proofs.Report.Plain
import PascalLint.Proofs.Block.Renumbered
import PascalLint.Proofs.Command.Calls
import PascalLint.Proofs.Command.Printed
import PascalLint.Proofs.Settings.Accepted
import PascalLint.Proofs.Toml.Keys
import PascalLint.Proofs.CommandLine.Words
import PascalLint.Proofs.CommandLine.ReadBack
import PascalLint.Proofs.Report.PrintedColumn
import PascalLint.Proofs.Report.Aligned
import PascalLint.Proofs.Report.Arranged
