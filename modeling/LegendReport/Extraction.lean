import LegendReport.Intake
import LegendReport.Report.Assembly
import LegendReport.Report.Csv
import LegendReport.Report.OutputName
import LegendReport.Text.Quoted

/-!
# Extraction

An extraction reads the documents of a folder and a legend, assembles the report
and writes it.  It fails if there are no documents, if there is no legend, or if
the report cannot be put in its place, in this order; then nothing is written.
Failures of documents and cells show in the report and never stop the
extraction.
-/

namespace LegendReport

namespace PlacementError

/-- The messages of the error and its causes, the outermost first. -/
def chain : PlacementError → List String
  | staging folder cause =>
    ["create temporary output in " ++ folder.text,
      cause.message ++ " at path " ++ Text.quoted (folder.join stagedName).text]
  | placing path cause =>
    ["move report into " ++ path.text, "failed to persist temporary file: " ++ cause.message,
      cause.message]

end PlacementError

namespace Report

/-- Writes a report to a file. -/
def writeFile
    (report : Report)
    (path : Path)
    (quoting : Csv.Quoting) :
    Script (Except PlacementError Unit) :=
  .replaceFile path (report.toCsv quoting) fun result =>
    match result with
    | .error cause => .done (.error cause)
    | .ok () => .report (.reportWritten path report.rows.length) (.done (.ok ()))

end Report

/-- What is to be extracted, and where the report is to be written. -/
structure Request where
  folder : Path
  legend : Path
  /-- The chosen name of the report file. -/
  outputName : Option String
  /-- The folder of the report file, if it is not the input folder. -/
  outputFolder : Option Path
  /-- The namespace of the documents. -/
  uri : String
  quoting : Csv.Quoting
  deriving DecidableEq, Repr

/-- A finished extraction. -/
structure Extraction where
  outputPath : Path
  report : Report
  deriving DecidableEq, Repr

/-- Why an extraction failed. -/
inductive ExtractionError where
  | documents (cause : IntakeError)
  | legend (cause : LegendError)
  | output (cause : PlacementError)
  deriving DecidableEq, Repr

namespace ExtractionError

/-- The messages of the error and its causes, the outermost first. -/
def chain : ExtractionError → List String
  | documents cause => ["load documents from " ++ cause.folder.text, cause.message]
  | legend cause => "load legend" :: cause.chain
  | output cause => cause.chain

end ExtractionError

/-- The messages of an error and its causes in one line. -/
def chainMessage (chain : List String) : String :=
  String.intercalate ": " chain

namespace Request

/-- Where the report is written. -/
def outputPath (request : Request) : Path :=
  LegendReport.outputPath request.folder request.outputFolder request.outputName

/-- Assembles the report of documents and a legend and writes it. -/
def produce
    (request : Request)
    (documents : DocumentSet)
    (legend : Legend) :
    Script (Except ExtractionError Extraction) :=
  .report (.legendAccepted request.legend legend.size) <|
    (Script.ofLogged (Report.assemble documents legend request.uri)).bind fun report =>
      (report.writeFile request.outputPath request.quoting).bind fun written =>
        match written with
        | .error cause => .done (.error (.output cause))
        | .ok () =>
          .elapsed fun time =>
            .report (.extractionComplete documents.size report.failedCellCount time)
              (.done (.ok ⟨request.outputPath, report⟩))

/-- Runs the extraction. -/
def extract (request : Request) : Script (Except ExtractionError Extraction) :=
  Script.within (.extraction request.folder) <|
    (Intake.loadFolder request.folder).bind fun loaded =>
      match loaded with
      | .error cause => .done (.error (.documents cause))
      | .ok documents =>
        (Intake.loadLegend request.legend).bind fun parsed =>
          match parsed with
          | .error cause => .done (.error (.legend cause))
          | .ok legend => request.produce documents legend

end Request

end LegendReport
