import LegendReport.Journal.Logged
import LegendReport.Legend.Basic
import LegendReport.Report.Basic
import LegendReport.SourceDocument
import LegendReport.Xml.Reading

/-!
# Assembly of reports

The report has one row for each document, in order.  A cell of the row is what
its column's path leads to from the root element of the document, or the failure
mark.  If a document cannot be read or is malformed, all cells of its row fail;
no failure stops the assembly.

Each cell depends on its own document and column only: `Row.ofOutcomes` turns
the outcomes of the columns into a row, and `Row.failed` is the row in which
every column failed.
-/

namespace LegendReport

namespace Column

/-- What a column's path leads to in a document. -/
def outcome
    (column : Column)
    (root : Xml.Node)
    (uri : String) :
    Except ResolveError String :=
  Resolution.resolve root column.path uri

/-- What is reported about a column of a document. -/
def event
    (column : Column)
    (file : String)
    (outcome : Except ResolveError String) :
    Event :=
  match outcome with
  | .ok _ => .columnResolved file column.header
  | .error cause => .columnFailed file column.header (Segment.renderPath column.path) cause

end Column

namespace Row

section Outcomes

variable {ε : Type}

/-- What a cell shows. -/
def cell : Except ε String → String
  | .ok value => value
  | .error _ => failureMark

/-- Whether an outcome is a failure. -/
def isFailure : Except ε String → Bool
  | .ok _ => false
  | .error _ => true

/-- The positions of the failures among outcomes of which the first has the given position. -/
def failuresFrom (position : Nat) : List (Except ε String) → List Nat
  | [] => []
  | outcome :: rest =>
    if isFailure outcome then position :: failuresFrom (position + 1) rest
    else failuresFrom (position + 1) rest

/-- The row of a document, given the outcomes of the columns. -/
def ofOutcomes (identifier : String) (outcomes : List (Except ε String)) : Row :=
  { values := identifier :: outcomes.map cell
    failedColumns := failuresFrom 0 outcomes }

@[simp] theorem length_values_ofOutcomes
    (identifier : String)
    (outcomes : List (Except ε String)) :
    (ofOutcomes identifier outcomes).values.length = outcomes.length + 1 := by
  simp [ofOutcomes]

end Outcomes

/-- The row of a document of which nothing could be read. -/
def failed (legend : Legend) (identifier : String) : Row :=
  { values := identifier :: List.replicate legend.size failureMark
    failedColumns := List.range legend.size }

/-- The row of a document that was parsed. -/
def ofTree
    (root : Xml.Node)
    (legend : Legend)
    (identifier : String)
    (uri : String) :
    Logged Row :=
  let outcomes := legend.columns.map (·.outcome root uri)
  .reporting (ofOutcomes identifier outcomes)
    (List.zipWith (fun column outcome => column.event identifier outcome) legend.columns outcomes)

/-- The row of a document. -/
def ofDocument
    (document : SourceDocument)
    (legend : Legend)
    (uri : String) :
    Logged Row :=
  match document.content with
  | .unreadable reason =>
    .reporting (failed legend document.identifier)
      [.documentNotRead document.identifier ⟨document.path, reason⟩]
  | .loaded text =>
    match Xml.Document.read? text with
    | none =>
      .reporting (failed legend document.identifier)
        [.documentMalformed document.identifier ⟨document.path, Xml.Document.malformedReason⟩]
    | some tree =>
      (Logged.reporting () [.documentParsed tree.nodeCount]).bind fun _ =>
        ofTree tree.root legend document.identifier uri

end Row

namespace Report

/-- The report of the documents under the legend's headers. -/
def assemble
    (documents : DocumentSet)
    (legend : Legend)
    (uri : String) :
    Logged Report :=
  let rows :=
    Logged.all <|
      documents.documents.map fun document =>
        (Row.ofDocument document legend uri).within (.document document.identifier)
  let report : Report := { headers := legend.headers, rows := rows.value }
  ⟨report,
    rows.journal ++
      [⟨[], .reportAssembled report.rows.length legend.size report.failedCellCount⟩]⟩

@[simp] theorem length_rows_assemble
    (documents : DocumentSet)
    (legend : Legend)
    (uri : String) :
    (assemble documents legend uri).value.rows.length = documents.size := by
  simp [assemble, DocumentSet.size]

end Report

end LegendReport
