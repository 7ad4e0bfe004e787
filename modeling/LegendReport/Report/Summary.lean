import LegendReport.Report.Basic

/-!
# Summaries

The summary of a report counts its documents, columns and failed cells.  If a
cell failed, a list of the documents with failures goes with it, each with the
headers of its failed columns.
-/

namespace LegendReport

/-- The numbers of documents, columns and failed cells of a report. -/
structure Summary where
  documents : Nat
  columns : Nat
  failedCells : Nat
  deriving DecidableEq, Repr

/-- A document of which columns failed, and their headers. -/
structure FailureNote where
  file : String
  headers : List String
  deriving DecidableEq, Repr

namespace Report

/-- The numbers of a report; the column of file names is not counted. -/
def summary (report : Report) : Summary :=
  { documents := report.rows.length
    columns := report.headers.length - 1
    failedCells := report.failedCellCount }

/-- The headers of the failed columns of a row. -/
def failedHeaders (report : Report) (row : Row) : List String :=
  row.failedColumns.filterMap fun column => report.headers[column + 1]?

/-- The documents with failures, in order. -/
def failureNotes (report : Report) : List FailureNote :=
  (report.rows.filter Row.hasFailures).map fun row =>
    { file := row.identifier, headers := report.failedHeaders row }

end Report

end LegendReport
