import LegendReport.Text.Blank
import LegendReport.Text.Lines
import LegendReport.Text.Numeral
import LegendReport.Text.Quoted
import LegendReport.Text.Styled
import LegendReport.Text.Pattern.Reading
import LegendReport.Path
import LegendReport.Store.Fault
import LegendReport.Legend.Token
import LegendReport.Legend.Basic
import LegendReport.Legend.Reading
import LegendReport.SourceDocument
import LegendReport.Report.Csv
import LegendReport.Xml.Reading
import LegendReport.Report.Assembly
import LegendReport.Report.OutputName
import LegendReport.DocumentUri
import LegendReport.Json.Records
import LegendReport.Store.Script
import LegendReport.Extraction
import LegendReport.Journal.Filter
import LegendReport.Journal.Format
import LegendReport.Report.Summary
import LegendReport.Legend.Listing
import LegendReport.Command.Table
import LegendReport.Command.Arguments
import LegendReport.Command.Console
import LegendReport.Main
import LegendReport.Proofs.Report.Alignment
import LegendReport.Proofs.Report.CsvRoundTrip
import LegendReport.Proofs.Legend.Listing
import LegendReport.Proofs.Text.Runs
import LegendReport.Proofs.Text.Pieces
import LegendReport.Proofs.Path.Containment
import LegendReport.Proofs.Store.Lookup
import LegendReport.Proofs.Store.Staging
import LegendReport.Proofs.Legend.Loading
import LegendReport.Proofs.Legend.Positions
import LegendReport.Proofs.Legend.Tokens
import LegendReport.Proofs.Legend.CanonicalTokens
import LegendReport.Proofs.Legend.Occurrences
import LegendReport.Proofs.Legend.WrittenLines
import LegendReport.Proofs.Extraction.AllOrNothing
import LegendReport.Proofs.Path.Joining
import LegendReport.Proofs.Path.Identifiers
import LegendReport.Proofs.Report.Accounting
import LegendReport.Proofs.Store.Listing
import LegendReport.Proofs.Text.ByteOrder
import LegendReport.Proofs.Intake.Discovery
import LegendReport.Proofs.Store.Frame
import LegendReport.Proofs.Intake.Separation
import LegendReport.Proofs.Extraction.Repetition
import LegendReport.Proofs.Extraction.Documents
import LegendReport.Proofs.Extraction.Containment
import LegendReport.Proofs.Resolution.PlainTrees
import LegendReport.Proofs.Resolution.Reaching
import LegendReport.Proofs.Resolution.Failing
import LegendReport.Proofs.Resolution.Contexts
import LegendReport.Proofs.Resolution.Correspondence
import LegendReport.Proofs.Xml.Escaping
import LegendReport.Proofs.Xml.Writing
import LegendReport.Proofs.Xml.RoundTrip
import LegendReport.Proofs.Report.Faithfulness
import LegendReport.Proofs.Report.Content
import LegendReport.Proofs.Report.Namespaces
import LegendReport.Proofs.Report.CsvQuoting
import LegendReport.Proofs.Report.Summaries
import LegendReport.Proofs.Report.Tables
import LegendReport.Proofs.Xml.ElementNames
import LegendReport.Proofs.Report.HopelessColumns
import LegendReport.Proofs.Legend.Warnings
import LegendReport.Proofs.Legend.LineEndings
import LegendReport.Proofs.Report.FailedRows
import LegendReport.Proofs.Legend.PathlessColumns
import LegendReport.Proofs.Json.Fields
import LegendReport.Proofs.Json.Records
