import LegendReport.Json.Value
import LegendReport.Legend.Basic
import LegendReport.Report.Basic
import LegendReport.SourceDocument

/-!
# Records as JSON

Legends, reports and documents are written as JSON records, an object for each
structure with a member for each field.  A structure is read from such an object
or from the array of its fields.  The content of a document is an object with
one member, whose name says whether the document was loaded.
-/

namespace LegendReport

namespace Segment

def fieldNames : List String := ["name", "has_namespace", "occurrence_index", "raw_token"]

def toJson (segment : Segment) : Json :=
  .object
    [("name", .string segment.name), ("has_namespace", .bool segment.qualified),
      ("occurrence_index", .integer segment.occurrence), ("raw_token", .string segment.token)]

def ofJson? (json : Json) : Option Segment := do
  match ← json.record? fieldNames with
  | [name, qualified, occurrence, token] =>
    return {
      name := ← name.string?
      qualified := ← qualified.bool?
      occurrence := ← occurrence.count?
      token := ← token.string? }
  | _ => none

end Segment

namespace Column

def fieldNames : List String := ["header", "path"]

def toJson (column : Column) : Json :=
  .object [("header", .string column.header), ("path", .array (column.path.map Segment.toJson))]

def ofJson? (json : Json) : Option Column := do
  match ← json.record? fieldNames with
  | [header, path] =>
    return { header := ← header.string?, path := ← path.list? Segment.ofJson? }
  | _ => none

end Column

namespace Legend

def fieldNames : List String := ["columns"]

def toJson (legend : Legend) : Json :=
  .object [("columns", .array (legend.columns.map Column.toJson))]

def ofJson? (json : Json) : Option Legend := do
  match ← json.record? fieldNames with
  | [columns] => return { columns := ← columns.list? Column.ofJson? }
  | _ => none

end Legend

namespace Row

def fieldNames : List String := ["values", "failed_columns"]

def toJson (row : Row) : Json :=
  .object
    [("values", .array (row.values.map .string)),
      ("failed_columns", .array (row.failedColumns.map fun (n : Nat) => .integer n))]

def ofJson? (json : Json) : Option Row := do
  match ← json.record? fieldNames with
  | [values, failedColumns] =>
    return {
      values := ← values.list? Json.string?
      failedColumns := ← failedColumns.list? Json.count? }
  | _ => none

end Row

namespace Report

def fieldNames : List String := ["headers", "rows"]

def toJson (report : Report) : Json :=
  .object
    [("headers", .array (report.headers.map .string)),
      ("rows", .array (report.rows.map Row.toJson))]

def ofJson? (json : Json) : Option Report := do
  match ← json.record? fieldNames with
  | [headers, rows] =>
    return { headers := ← headers.list? Json.string?, rows := ← rows.list? Row.ofJson? }
  | _ => none

end Report

namespace Content

def toJson : Content → Json
  | loaded text => .object [("Loaded", .string text)]
  | unreadable reason => .object [("Unreadable", .object [("reason", .string reason)])]

/-- The content that a value stands for.  The reason of an unreadable document is read from an object
only; the array with nothing but the reason, which some readers take for it, is refused. -/
def ofJson? (json : Json) : Option Content :=
  match json with
  | .object [(name, value)] =>
    if name = "Loaded" then value.string?.map loaded
    else if name = "Unreadable" then
      (value.member? "reason").bind fun reason => reason.string?.map unreadable
    else none
  | _ => none

end Content

namespace SourceDocument

def fieldNames : List String := ["identifier", "path", "content"]

def toJson (document : SourceDocument) : Json :=
  .object
    [("identifier", .string document.identifier), ("path", .string document.path.text),
      ("content", document.content.toJson)]

def ofJson? (json : Json) : Option SourceDocument := do
  match ← json.record? fieldNames with
  | [identifier, path, content] =>
    return {
      identifier := ← identifier.string?
      path := ⟨← path.string?⟩
      content := ← Content.ofJson? content }
  | _ => none

end SourceDocument

end LegendReport
