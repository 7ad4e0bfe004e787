import LegendReport.Command.Task
import LegendReport.Proofs.Report.Alignment
import LegendReport.Proofs.Report.Tables

/-!
# What a summary tells of failures

The summary of an assembled report counts its documents, the columns of its legend and
the documents and columns that fail together.  With a failure there is a note for each
document that has one, in order, with the headers of the columns that fail in it.

A note finds a header for every failed column, because no row lists a position beyond
the legend and the headers are those of the legend after one more.  So the notes have
one header for each failed cell.
-/

namespace LegendReport

/-- The columns of a legend that fail in a document, in order. -/
def Legend.failing (legend : Legend) (uri : String) (document : SourceDocument) : List Column :=
  legend.columns.filter fun column => column.FailsIn uri document

namespace Row

section Positions

variable {ε : Type} (outcome : Column → Except ε String)

theorem length_failuresFrom_map
    (position : Nat)
    (columns : List Column) :
    (failuresFrom position (columns.map outcome)).length =
      (columns.filter fun column => isFailure (outcome column)).length := by
  induction columns generalizing position with
  | nil => rfl
  | cons column rest ih =>
      rw [List.map_cons, failuresFrom, List.filter_cons]
      split
      · rw [List.length_cons, List.length_cons, ih]
      · exact ih (position + 1)

/-- The positions of failures lead to the headers of the columns that fail, whatever headers stand
before those of the columns. -/
theorem filterMap_failuresFrom
    (before : List String)
    (columns : List Column) :
    ((failuresFrom before.length (columns.map outcome)).filterMap fun k =>
        (before ++ columns.map Column.header)[k]?) =
      (columns.filter fun column => isFailure (outcome column)).map Column.header := by
  induction columns generalizing before with
  | nil => rfl
  | cons column rest ih =>
      have hhere :
          (before ++ column.header :: rest.map Column.header)[before.length]? =
            some column.header := by
        simp
      have hrest := ih (before ++ [column.header])
      rw [List.length_append, List.length_singleton, List.append_assoc,
        List.singleton_append] at hrest
      rw [List.map_cons, List.map_cons, failuresFrom, List.filter_cons]
      split
      · rw [List.filterMap_cons, hhere, hrest, List.map_cons]
      · exact hrest

end Positions

end Row

/-- What is printed has the second table only if a cell failed. -/
theorem Command.extractionText_eq
    (extraction : Extraction) :
    extractionText extraction =
      "Output created here:\t" ++ extraction.outputPath.text ++ "\n" ++
        (summaryTable extraction.report.summary).render ++
          if extraction.report.failedCellCount = 0 then ""
          else (failureTable extraction.report.failureNotes).render := by
  have hfailures := extraction.report.hasFailures_iff
  unfold extractionText
  congr 1
  by_cases hnone : extraction.report.failedCellCount = 0
  · have hfalse : ¬ extraction.report.hasFailures = true := fun h => hfailures.mp h hnone
    rw [if_pos hnone, if_neg hfalse]
  · rw [if_neg hnone, if_pos (hfailures.mpr hnone)]

/-- What is printed has all that is in the tables. -/
theorem Command.infix_extractionText
    (extraction : Extraction)
    {row : List Cell}
    (hrow :
      row ∈ (summaryTable extraction.report.summary).grid ++
        if extraction.report.failedCellCount = 0 then []
        else (failureTable extraction.report.failureNotes).grid)
    {cell : Cell}
    (hcell : cell ∈ row)
    {line : String}
    (hline : line ∈ cell.lines) :
    line.toList <:+: (extractionText extraction).toList := by
  rw [extractionText_eq, String.toList_append, String.toList_append, List.append_assoc]
  rcases List.mem_append.mp hrow with hsummary | hfailures
  · exact (Table.infix_render hsummary hcell hline).trans (List.infix_append' _ _ _)
  · split at hfailures
    · cases hfailures
    · next hfailed =>
        rw [if_neg hfailed, ← List.append_assoc]
        exact (Table.infix_render hfailures hcell hline).trans (List.suffix_append _ _).isInfix

namespace Report

section Assembly

variable (documents : DocumentSet) (legend : Legend) (uri : String)

/-- The documents in which a column fails, in order. -/
def failingDocuments : List SourceDocument :=
  documents.documents.filter fun document => legend.failing uri document ≠ []

/-- The note of a document. -/
def noteOf (document : SourceDocument) : FailureNote :=
  { file := document.identifier
    headers := (legend.failing uri document).map Column.header }

variable {documents legend uri}

theorem filter_isFailure_outcomeIn
    (document : SourceDocument) :
    (legend.columns.filter fun column => Row.isFailure (column.outcomeIn uri document)) =
      legend.failing uri document := by
  refine List.filter_congr fun column _ => ?_
  rw [Bool.eq_iff_iff, Row.isFailure_outcomeIn, decide_eq_true_iff]

theorem length_failedColumns_ofOutcomes
    (document : SourceDocument) :
    (Row.ofOutcomes document.identifier
        (legend.columns.map (·.outcomeIn uri document))).failedColumns.length =
      (legend.failing uri document).length := by
  rw [← filter_isFailure_outcomeIn, Row.ofOutcomes, Row.length_failuresFrom_map]

theorem hasFailures_ofOutcomes
    (document : SourceDocument) :
    (Row.ofOutcomes document.identifier
        (legend.columns.map (·.outcomeIn uri document))).hasFailures =
      decide (legend.failing uri document ≠ []) := by
  rw [Bool.eq_iff_iff, decide_eq_true_iff, ← List.length_pos_iff,
    ← length_failedColumns_ofOutcomes document, List.length_pos_iff]
  simp [Row.hasFailures]

theorem failedHeaders_ofOutcomes
    (report : Report)
    (hheaders : report.headers = legend.headers)
    (document : SourceDocument) :
    report.failedHeaders
        (Row.ofOutcomes document.identifier (legend.columns.map (·.outcomeIn uri document))) =
      (legend.failing uri document).map Column.header := by
  have hfound := Row.filterMap_failuresFrom (·.outcomeIn uri document) [] legend.columns
  rw [filter_isFailure_outcomeIn] at hfound
  rw [failedHeaders, hheaders, ← hfound]
  rfl

theorem failureNotes_assemble :
    (assemble documents legend uri).value.failureNotes =
      (failingDocuments documents legend uri).map (noteOf legend uri) := by
  rw [failureNotes, rows_assemble, List.filter_map, List.map_map, failingDocuments]
  have hkept :
      (documents.documents.filter
          (Row.hasFailures ∘ fun document =>
            Row.ofOutcomes document.identifier
              (legend.columns.map (·.outcomeIn uri document)))) =
        documents.documents.filter fun document => legend.failing uri document ≠ [] :=
    List.filter_congr fun document _ => hasFailures_ofOutcomes document
  rw [hkept]
  refine List.map_congr_left fun document _ => ?_
  rw [Function.comp_apply, failedHeaders_ofOutcomes _ rfl]
  rfl

/-- Documents without failures have no headers to list. -/
theorem flatMap_headers_failingDocuments :
    ((failingDocuments documents legend uri).map (noteOf legend uri)).flatMap FailureNote.headers =
      documents.documents.flatMap fun document =>
        (legend.failing uri document).map Column.header := by
  rw [failingDocuments, List.flatMap_map]
  induction documents.documents with
  | nil => rfl
  | cons document rest ih =>
      rw [List.filter_cons, List.flatMap_cons, ← ih]
      split
      · rfl
      · next hnone =>
          have hnil : legend.failing uri document = [] := by
            simpa using hnone
          rw [hnil, List.map_nil, List.nil_append]

theorem length_headers_failureNotes :
    ((assemble documents legend uri).value.failureNotes.flatMap FailureNote.headers).length =
      (assemble documents legend uri).value.failedCellCount := by
  rw [failureNotes_assemble, flatMap_headers_failingDocuments, failedCellCount, rows_assemble,
    List.flatMap_map, List.length_flatMap, List.length_flatMap]
  simp only [List.length_map, length_failedColumns_ofOutcomes]

theorem summary_assemble :
    (assemble documents legend uri).value.summary =
      { documents := documents.size
        columns := legend.size
        failedCells := (failingCells documents legend uri).card } := by
  rw [summary, failedCellCount_assemble, length_rows_assemble]
  simp [assemble]

/-- The header of a failed column stands one place after its position. -/
theorem exists_header_of_mem_failedColumns
    {row : Row}
    (hrow : row ∈ (assemble documents legend uri).value.rows)
    {k : Nat}
    (hk : k ∈ row.failedColumns) :
    ∃ column,
      legend.columns[k]? = some column ∧
        (assemble documents legend uri).value.headers[k + 1]? = some column.header := by
  rw [rows_assemble] at hrow
  obtain ⟨document, _, rfl⟩ := List.mem_map.mp hrow
  have hlt : k < legend.columns.length :=
    (Row.aligned_ofOutcomes document legend uri).lt_size k hk
  refine ⟨legend.columns[k], List.getElem?_eq_getElem hlt, ?_⟩
  simp [assemble, Legend.headers, hlt]

/-- A document without a tree fails in every column. -/
theorem failing_eq_columns
    {document : SourceDocument}
    (h :
      (∃ reason, document.content = .unreadable reason) ∨
        ∃ text, document.content = .loaded text ∧ Xml.Document.read? text = none) :
    legend.failing uri document = legend.columns := by
  rw [Legend.failing, List.filter_eq_self]
  intro column _
  rw [decide_eq_true_iff]
  rcases h with ⟨_, hcontent⟩ | ⟨_, hcontent, hread⟩
  · exact .unreadable hcontent
  · exact .malformed hcontent hread

/--
The summary of an assembled report has the numbers of its documents, of the columns of its
legend and of the documents and columns that fail together, and its table shows them.  It is
printed with a table of failures exactly if the last number is not zero, and every line of
every cell is in what is printed.  The table of failures has a row for each document in which
a column fails, in order, with the name of the document and the headers of just these columns
in the order of the legend.  Every failed column has a header, so there are as many headers as
failed cells.  A document that cannot be read or is malformed is in the table with all headers
of the legend, unless there are none.
-/
theorem summary_tells_every_failure
    (documents : DocumentSet)
    (legend : Legend)
    (uri : String) :
    let report := (assemble documents legend uri).value
    let failed := (failingCells documents legend uri).card
    let failing :=
      documents.documents.filter fun document => legend.failing uri document ≠ []
    report.summary =
      { documents := documents.size, columns := legend.size, failedCells := failed } ∧
    (Command.summaryTable report.summary).header =
      [.left "Documents", .left "Columns", .left "Failed cells"] ∧
    (Command.summaryTable report.summary).rows =
      [[.right (toString documents.size), .right (toString legend.size),
        .right (toString failed)]] ∧
    (∀ path,
      Command.extractionText ⟨path, report⟩ =
        "Output created here:\t" ++ path.text ++ "\n" ++
          (Command.summaryTable report.summary).render ++
            if failed = 0 then "" else (Command.failureTable report.failureNotes).render) ∧
    (∀ path,
      ∀ row ∈
        (Command.summaryTable report.summary).grid ++
          (if failed = 0 then [] else (Command.failureTable report.failureNotes).grid),
        ∀ cell ∈ row, ∀ line ∈ cell.lines,
          line.toList <:+: (Command.extractionText ⟨path, report⟩).toList) ∧
    report.failureNotes =
      (failing.map fun document =>
        ⟨document.identifier, (legend.failing uri document).map Column.header⟩) ∧
    (Command.failureTable report.failureNotes).header =
      [.left "File", .left "Failed columns"] ∧
    (Command.failureTable report.failureNotes).rows =
      (failing.map fun document =>
        [.left document.identifier,
          .left (String.intercalate ", " ((legend.failing uri document).map Column.header))]) ∧
    (∀ row ∈ report.rows, ∀ k ∈ row.failedColumns,
      ∃ column,
        legend.columns[k]? = some column ∧ report.headers[k + 1]? = some column.header) ∧
    (report.failureNotes.flatMap FailureNote.headers).length = failed ∧
    (legend.size ≠ 0 →
      ∀ document ∈ documents.documents,
        ((∃ reason, document.content = .unreadable reason) ∨
          ∃ text, document.content = .loaded text ∧ Xml.Document.read? text = none) →
          ⟨document.identifier, legend.columns.map Column.header⟩ ∈ report.failureNotes) := by
  intro report failed failing
  have hnotes : report.failureNotes = failing.map (noteOf legend uri) := failureNotes_assemble
  refine ⟨summary_assemble, rfl, ?_, ?_, ?_, hnotes, rfl, ?_, ?_, ?_, ?_⟩
  · rw [summary_assemble]
    rfl
  · intro path
    rw [Command.extractionText_eq, failedCellCount_assemble]
  · intro path row hrow cell hcell line hline
    refine Command.infix_extractionText ⟨path, report⟩ ?_ hcell hline
    rwa [failedCellCount_assemble]
  · rw [Command.failureTable, hnotes, List.map_map]
    rfl
  · intro row hrow k hk
    exact exists_header_of_mem_failedColumns hrow hk
  · exact length_headers_failureNotes.trans (failedCellCount_assemble documents legend uri)
  · intro hsize document hdocument htree
    have hfailing : legend.failing uri document = legend.columns := failing_eq_columns htree
    have hne : legend.columns ≠ [] := by
      simpa [Legend.size] using hsize
    rw [hnotes]
    refine List.mem_map.mpr ⟨document, ?_, by rw [noteOf, hfailing]⟩
    rw [List.mem_filter, hfailing]
    exact ⟨hdocument, decide_eq_true hne⟩

/-- A document that is not read and one that is cut off have all headers, one with a single failing
column has its header, and one without failures is not listed. -/
theorem summary_tells_every_failure_of_mixed_documents :
    let broken : SourceDocument := ⟨"a.xml", ⟨"in/a.xml"⟩, .unreadable "no text"⟩
    let cut := SourceDocument.ofText "d.xml" "<r><x>"
    let documents : DocumentSet :=
      ⟨[broken, .ofText "b.xml" "<r><x>1</x></r>", .ofText "c.xml" "<r><x>1</x><y/></r>", cut],
        by simp⟩
    let legend : Legend := ⟨[⟨"Y", [.plain "y"]⟩, ⟨"X", [.plain "x"]⟩]⟩
    let report := (assemble documents legend "").value
    report.summary = ⟨4, 2, 5⟩ ∧
      (Command.summaryTable report.summary).header =
        [.left "Documents", .left "Columns", .left "Failed cells"] ∧
      (Command.summaryTable report.summary).rows = [[.right "4", .right "2", .right "5"]] ∧
      (∀ path, "Y, X".toList <:+: (Command.extractionText ⟨path, report⟩).toList) ∧
      report.failureNotes = [⟨"a.xml", ["Y", "X"]⟩, ⟨"b.xml", ["Y"]⟩, ⟨"d.xml", ["Y", "X"]⟩] ∧
      ⟨"d.xml", ["Y", "X"]⟩ ∈ report.failureNotes ∧
      (∃ column,
        legend.columns[0]? = some column ∧ report.headers[1]? = some column.header) := by
  intro broken cut documents legend report
  obtain ⟨_, hheader, hrows, _, hprinted, _, _, _, hheaders, _, hlisted⟩ :=
    summary_tells_every_failure documents legend ""
  have hcount : (failingCells documents legend "").card = 5 := by
    decide +kernel
  rw [hcount] at hrows hprinted
  have hcut : cut ∈ documents.documents := by
    decide
  refine ⟨by decide +kernel, hheader, hrows.trans (by decide +kernel), ?_, by decide +kernel, ?_, ?_⟩
  · intro path
    exact hprinted path [.left "a.xml", .left "Y, X"] (by decide +kernel) (.left "Y, X") (by decide)
      "Y, X" (by decide +kernel)
  · exact hlisted (by decide) cut hcut (Or.inr ⟨"<r><x>", rfl, by decide +kernel⟩)
  · exact hheaders ⟨["b.xml", "Error!", "1"], [0]⟩ (by decide +kernel) 0 (by decide)

end Assembly

end Report

end LegendReport
