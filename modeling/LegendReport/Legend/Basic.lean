import LegendReport.Legend.Segment

/-!
# Legends

A legend is the ordered list of the columns of a report.  Each column has a
header and the path of the element that holds its value.  The report has one
more column before these, with the name of each document.
-/

namespace LegendReport

/-- A column of the report and the path to its value. -/
structure Column where
  header : String
  path : List Segment
  deriving DecidableEq, Repr

/-- The columns of a report, in order, without the column of file names. -/
structure Legend where
  columns : List Column
  deriving DecidableEq, Repr

namespace Legend

/-- The header of the column that holds the name of each document. -/
def fileNameHeader : String := "File Name"

/-- The headers of the report, that of the file names first. -/
def headers (legend : Legend) : List String :=
  fileNameHeader :: legend.columns.map Column.header

/-- The number of columns. -/
def size (legend : Legend) : Nat :=
  legend.columns.length

/-- A legend followed by another. -/
def append (legend other : Legend) : Legend :=
  ⟨legend.columns ++ other.columns⟩

@[simp] theorem length_headers
    (legend : Legend) :
    legend.headers.length = legend.size + 1 := by
  simp [headers, size]

end Legend

end LegendReport
