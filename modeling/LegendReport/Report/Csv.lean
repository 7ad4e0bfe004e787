import LegendReport.Report.Basic

/-!
# Comma-separated values

A table of texts is written record by record, the fields of a record joined by
commas and each record ended by a line feed.  With the necessary quoting, a
field that holds a comma, a double quote or a line break stands between double
quotes, and its own double quotes are doubled.  Without quoting, fields are
written as they are.  A record that would have no characters at all is written
as an empty quoted field either way.

`read` reads such a table back, and accepts special characters in quoted fields
only.
-/

namespace LegendReport
namespace Csv

/-- How fields are quoted. -/
inductive Quoting where
  | necessary
  | never
  deriving DecidableEq, Repr

/-- The characters that a field without quotes cannot hold. -/
def isSpecial (c : Char) : Bool :=
  c == ',' || c == '"' || c == '\r' || c == '\n'

/-- A text with each double quote doubled. -/
def doubleQuotes : List Char → List Char
  | [] => []
  | c :: rest => if c = '"' then '"' :: '"' :: doubleQuotes rest else c :: doubleQuotes rest

/-- The characters that a field is written as. -/
def field (quoting : Quoting) (cs : List Char) : List Char :=
  match quoting with
  | .never => cs
  | .necessary => if cs.any isSpecial then '"' :: doubleQuotes cs ++ ['"'] else cs

/-- The characters that a record is written as, its line feed included. -/
def record (quoting : Quoting) (fields : List (List Char)) : List Char :=
  let line := [','].intercalate (fields.map (field quoting))
  (if line = [] then ['"', '"'] else line) ++ ['\n']

/-- The characters of a table. -/
def table (quoting : Quoting) (records : List (List String)) : List Char :=
  records.flatMap fun fields => record quoting (fields.map String.toList)

/-- Where a reader is inside a field. -/
inductive Place where
  /-- At the first character of a field. -/
  | start
  /-- In a field without quotes. -/
  | plain
  /-- Between the quotes of a field. -/
  | quoted
  /-- After a quote that ends the field unless another follows. -/
  | closed
  deriving DecidableEq, Repr

/-- Reads on from a place, with the characters of the field and the fields of the record so far,
both in reverse. -/
def readFrom
    (place : Place)
    (chars : List Char)
    (fields : List String) :
    List Char → Option (List (List String))
  | [] => if place = .start ∧ fields = [] then some [] else none
  | c :: rest =>
    let done := String.ofList chars.reverse :: fields
    match place with
    | .quoted =>
      if c = '"' then readFrom .closed chars fields rest
      else readFrom .quoted (c :: chars) fields rest
    | .start =>
      if c = '"' then readFrom .quoted [] fields rest
      else if c = ',' then readFrom .start [] done rest
      else if c = '\n' then (readFrom .start [] [] rest).map (done.reverse :: ·)
      else if c = '\r' then none
      else readFrom .plain [c] fields rest
    | .plain =>
      if c = ',' then readFrom .start [] done rest
      else if c = '\n' then (readFrom .start [] [] rest).map (done.reverse :: ·)
      else if isSpecial c then none
      else readFrom .plain (c :: chars) fields rest
    | .closed =>
      if c = '"' then readFrom .quoted ('"' :: chars) fields rest
      else if c = ',' then readFrom .start [] done rest
      else if c = '\n' then (readFrom .start [] [] rest).map (done.reverse :: ·)
      else none

/-- The records of a table, if the text is one. -/
def read (text : String) : Option (List (List String)) :=
  readFrom .start [] [] text.toList

theorem field_of_plain
    (quoting : Quoting)
    {cs : List Char}
    (h : cs.any isSpecial = false) :
    field quoting cs = cs := by
  cases quoting <;> simp [field, h]

end Csv

namespace Report

/-- The text of the report as a table of comma-separated values. -/
def toCsv (report : Report) (quoting : Csv.Quoting) : String :=
  String.ofList (Csv.table quoting report.records)

end Report

end LegendReport
