import LegendReport.Journal.Logged
import LegendReport.Legend.Basic
import LegendReport.Legend.Token
import LegendReport.Store.Fault
import LegendReport.Text.Lines

/-!
# Reading legends

A legend file has one line for each column: the header, then the tokens of the
path, with single spaces between.  Two adjacent spaces have an empty token
between them.  A blank line is a column without header and path.  A column
without a path is accepted with a warning and fails in every document; a bad
token makes the whole legend fail at its line.

`Column.line` writes the line that a column comes from.
-/

namespace LegendReport

/-- Why there is no legend. -/
inductive LegendError where
  /-- The legend file could not be read. -/
  | unreadable (path : Path) (cause : FileFault)
  /-- A line, counted from one, has a bad token. -/
  | line (number : Nat) (cause : TokenError)
  deriving DecidableEq, Repr

namespace LegendError

def message : LegendError → String
  | unreadable path cause => "failed to read legend file " ++ path.text ++ ": " ++ cause.message
  | line number cause => "legend line " ++ toString number ++ ": " ++ cause.message

/-- The message of the error and that of its cause. -/
def chain : LegendError → List String
  | unreadable path cause => [(unreadable path cause).message, cause.message]
  | line number cause => [(line number cause).message, cause.message]

/-- The same error in a text where so many lines come before. -/
def shift (lines : Nat) : LegendError → LegendError
  | unreadable path cause => unreadable path cause
  | line number cause => line (number + lines) cause

end LegendError

namespace Column

/-- The column of a blank line. -/
def blank : Column :=
  { header := "", path := [] }

/-- The column that a line of a legend describes. -/
def ofLine (line : String) : Except TokenError Column :=
  if Text.isBlank line then
    .ok blank
  else
    match Text.pieces ' ' line with
    | [] => .ok blank
    | header :: tokens =>
      (tokens.mapM Segment.ofToken).map fun path => { header, path }

/-- What there is to say about an accepted line: whether its column has no path, and why. -/
def warnings (number : Nat) (line : String) (column : Column) : List Event :=
  if Text.isBlank line then [.blankLegendLine number]
  else if column.path = [] then [.pathlessColumn number column.header]
  else []

/-- The line that describes a column: its header, and its path if it has one. -/
def line (column : Column) : String :=
  if column.path = [] then column.header
  else column.header ++ " " ++ Segment.renderPath column.path

end Column

namespace Legend

/-- The columns of a list of lines of which the first has the given number. -/
def columnsFrom (number : Nat) : List String → Logged (Except LegendError (List Column))
  | [] => .silent (.ok [])
  | line :: rest =>
    match Column.ofLine line with
    | .error cause => .silent (.error (.line number cause))
    | .ok column =>
      (Logged.reporting column (Column.warnings number line column)).bind fun column =>
        (columnsFrom (number + 1) rest).map fun columns => columns.map (column :: ·)

/-- The legend of a list of lines. -/
def ofLines (lines : List String) : Logged (Except LegendError Legend) :=
  (columnsFrom 1 lines).map fun columns => columns.map Legend.mk

/-- The legend that a text describes. -/
def ofText (text : String) : Logged (Except LegendError Legend) :=
  ofLines (Text.lines text)

@[simp] theorem columnsFrom_nil
    (number : Nat) :
    columnsFrom number [] = .silent (.ok []) := by
  rfl

end Legend

end LegendReport
