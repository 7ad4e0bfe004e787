/-!
# Reports

A report is a table: headers, then one row for each document.  The first value
of a row names the document; the others are the values of the legend's columns.
A cell whose value could not be found shows the failure mark, and the row keeps
the list of those columns, counted from zero without the first.
-/

namespace LegendReport

/-- A line of the report. -/
structure Row where
  values : List String
  failedColumns : List Nat
  deriving DecidableEq, Repr

namespace Row

/-- What a cell shows if its value could not be found. -/
def failureMark : String := "Error!"

/-- The name of the document of a row. -/
def identifier (row : Row) : String :=
  row.values.headD ""

/-- Whether a column of the row failed. -/
def hasFailures (row : Row) : Bool :=
  !row.failedColumns.isEmpty

end Row

/-- Headers and one row for each document, in the order of the documents. -/
structure Report where
  headers : List String
  rows : List Row
  deriving DecidableEq, Repr

namespace Report

/-- The number of cells that failed. -/
def failedCellCount (report : Report) : Nat :=
  (report.rows.flatMap Row.failedColumns).length

/-- Whether a cell failed. -/
def hasFailures (report : Report) : Bool :=
  report.rows.any Row.hasFailures

/-- The records of the report as a table of texts: the headers, then the values of each row. -/
def records (report : Report) : List (List String) :=
  report.headers :: report.rows.map Row.values

theorem hasFailures_iff
    (report : Report) :
    report.hasFailures = true ↔ report.failedCellCount ≠ 0 := by
  unfold hasFailures failedCellCount
  induction report.rows with
  | nil => simp
  | cons row rest ih =>
      rw [List.any_cons, Bool.or_eq_true, ih]
      cases h : row.failedColumns <;> simp [Row.hasFailures, h]

end Report

end LegendReport
