import LegendReport.Legend.Basic

/-!
# Listing of legends

A legend is shown as a table with a line for each segment: the number and the
header of the column, the name of the segment, whether it is in the namespace of
the run, and which occurrence it takes.  Only the first line of a column shows
its number and header.  The first segment takes the first match in the whole
document.
-/

namespace LegendReport
namespace Legend

/-- The headers of the listing. -/
def listingHeaders : List String :=
  ["#", "Column", "Segment", "Namespace", "Occurrence"]

/-- What the listing shows of the way a segment selects, by its place in the path.  In a legend that
was read every occurrence has a successor among machine words, and it is this number. -/
def occurrenceLabel (position : Nat) (segment : Segment) : String :=
  if position = 0 then "first match" else toString (segment.occurrence + 1)

/-- The line of a segment, by the number of its column and its place in the path. -/
def segmentLine
    (number : Nat)
    (header : String)
    (position : Nat)
    (segment : Segment) :
    List String :=
  [if position = 0 then toString number else "", if position = 0 then header else "",
    segment.name, if segment.qualified then "yes" else "no", occurrenceLabel position segment]

/-- The lines of the segments of a column, of which the first has the given place in the path. -/
def segmentLines
    (number : Nat)
    (header : String)
    (position : Nat) :
    List Segment → List (List String)
  | [] => []
  | segment :: rest =>
    segmentLine number header position segment :: segmentLines number header (position + 1) rest

/-- The lines of a column. -/
def columnLines (number : Nat) (column : Column) : List (List String) :=
  if column.path = [] then [[toString number, column.header, "(no path)", "", ""]]
  else segmentLines number column.header 0 column.path

/-- The lines of columns of which the first has the given number. -/
def linesFrom (number : Nat) : List Column → List (List String)
  | [] => []
  | column :: rest => columnLines number column ++ linesFrom (number + 1) rest

/-- The lines of the listing of a legend. -/
def listing (legend : Legend) : List (List String) :=
  linesFrom 1 legend.columns

end Legend
end LegendReport
