import LegendReport.Command.Arguments
import LegendReport.Command.Logging
import LegendReport.Command.Table
import LegendReport.DocumentUri
import LegendReport.Extraction
import LegendReport.Legend.Listing
import LegendReport.Report.Summary

/-!
# Tasks of the command line

An extraction prints where the report is and a summary of it; the listing of a
legend prints its table.  A task that fails prints the chain of causes on the
error stream.
-/

namespace LegendReport
namespace Command

/-- How a task ended: the exit code, and what is printed on the two streams at the end. -/
structure Ending where
  code : Nat
  output : String
  complaint : String
  deriving DecidableEq, Repr

namespace Ending

/-- A task that did its work. -/
def success (output : String) : Ending :=
  { code := 0, output, complaint := "" }

/-- A task that failed. -/
def failure (message : String) : Ending :=
  { code := 1, output := "", complaint := "error: " ++ message ++ "\n" }

/-- A command line that cannot be used. -/
def misuse (cause : UsageError) : Ending :=
  { code := 2, output := "", complaint := "error: " ++ cause.message ++ "\n" }

end Ending

/-- What the program calls itself. -/
def versionText : String := "xtract 0.1.0\n"

def helpText : String :=
  "Extract legend-described fields from XML files into a CSV report\n\n" ++
    "Usage: xtract [OPTIONS] extract --legend <FILE> [--output <NAME>] [--output-dir <DIR>]\n" ++
    "                                [--namespace <URI>] [--quote necessary|never] <FOLDER>\n" ++
    "       xtract [OPTIONS] legend <FILE>\n\n" ++
    "Options:\n" ++
    "  -v, --verbose      log more events\n" ++
    "  -q, --quiet        log fewer events\n" ++
    "      --color        auto, always or never\n" ++
    "      --log-level    error, warn, info, debug or trace\n" ++
    "      --log-format   pretty, compact or json\n" ++
    "      --log-file     add log lines to a file\n" ++
    "  -h, --help         print this text\n" ++
    "  -V, --version      print the version\n"

/-- The table of a summary. -/
def summaryTable (summary : Summary) : Table :=
  { header := [.left "Documents", .left "Columns", .left "Failed cells"]
    rows :=
      [[.right (toString summary.documents), .right (toString summary.columns),
        .right (toString summary.failedCells)]] }

/-- The table of the documents with failures. -/
def failureTable (notes : List FailureNote) : Table :=
  { header := [.left "File", .left "Failed columns"]
    rows := notes.map fun note => [.left note.file, .left (String.intercalate ", " note.headers)] }

/-- The table of a legend. -/
def legendTable (legend : Legend) : Table :=
  { header := Legend.listingHeaders.map .left
    rows := legend.listing.map (·.map .left) }

/-- What is printed about a finished extraction. -/
def extractionText (extraction : Extraction) : String :=
  "Output created here:\t" ++ extraction.outputPath.text ++ "\n" ++
    (summaryTable extraction.report.summary).render ++
    if extraction.report.hasFailures then (failureTable extraction.report.failureNotes).render
    else ""

/-- What is printed about a legend. -/
def legendText (legend : Legend) : String :=
  (legendTable legend).render ++ toString legend.size ++ " column(s) plus File Name\n"

/-- What an extraction is asked to do. -/
def extractRequest
    (folder legend : Path)
    (settings : Settings)
    (environment : Environment) :
    Request :=
  { folder
    legend
    outputName := settings.output
    outputFolder := settings.outputDir
    uri := documentUri settings.uri environment.uri
    quoting := settings.quote.getD .necessary }

/-- The script of an invocation. -/
def Invocation.script (call : Invocation) (environment : Environment) : Script Ending :=
  match call.task with
  | .extract folder legend =>
    (extractRequest folder legend call.settings environment).extract.map fun result =>
      match result with
      | .ok extraction => .success (extractionText extraction)
      | .error cause => .failure (chainMessage cause.chain)
  | .listLegend legend =>
    (Intake.loadLegend legend).map fun result =>
      match result with
      | .ok legend => .success (legendText legend)
      | .error cause =>
        .failure (chainMessage (("load legend " ++ legend.text) :: cause.chain))

/-- How a command line ends that names no task. -/
def Stop.ending : Stop → Ending
  | help => .success helpText
  | version => .success versionText
  | misuse cause => .misuse cause

/-- How the program ends if the log file cannot be opened. -/
def loggingFailure (cause : FileFault) : Ending :=
  .failure ("failed to initialize logging: " ++ cause.message)

end Command
end LegendReport
