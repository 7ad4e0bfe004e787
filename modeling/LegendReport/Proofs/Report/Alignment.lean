import LegendReport.Report.Assembly
import Mathlib.Algebra.BigOperators.Fin

/-!
# Alignment of reports

A document contributes to a report in one of three ways: it cannot be read, it is
malformed, or each column is resolved in its tree.  All three give the row of one
list of outcomes, one for each column (`value_ofDocument`).  Headers, values and
failed columns are therefore aligned in every row, and a cell depends on nothing
but its own document and column.

The number of failed cells is the number of pairs of a document and a column that
fail together.
-/

namespace LegendReport

/-- Why a cell has no text. -/
inductive CellFault where
  | unreadable (reason : String)
  | malformed
  | unresolved (cause : ResolveError)

namespace Column

/-- What a column comes to in a document. -/
def outcomeIn
    (column : Column)
    (uri : String)
    (document : SourceDocument) :
    Except CellFault String :=
  match document.content with
  | .unreadable reason => .error (.unreadable reason)
  | .loaded text =>
    match Xml.Document.read? text with
    | none => .error .malformed
    | some tree => (column.outcome tree.root uri).mapError .unresolved

/-- The text that a column's path leads to from the root element of a document. -/
inductive Yields
    (column : Column)
    (uri : String)
    (document : SourceDocument)
    (value : String) : Prop
  | resolved
      {text : String}
      {tree : Xml.Document}
      (hcontent : document.content = .loaded text)
      (hread : Xml.Document.read? text = some tree)
      (hresolve : Resolution.resolve tree.root column.path uri = .ok value) :
      Yields column uri document value

/-- The ways in which a column fails in a document. -/
inductive FailsIn
    (column : Column)
    (uri : String)
    (document : SourceDocument) : Prop
  | unreadable
      {reason : String}
      (hcontent : document.content = .unreadable reason) :
      FailsIn column uri document
  | malformed
      {text : String}
      (hcontent : document.content = .loaded text)
      (hread : Xml.Document.read? text = none) :
      FailsIn column uri document
  | unresolved
      {text : String}
      {tree : Xml.Document}
      {cause : ResolveError}
      (hcontent : document.content = .loaded text)
      (hread : Xml.Document.read? text = some tree)
      (hresolve : Resolution.resolve tree.root column.path uri = .error cause) :
      FailsIn column uri document

variable {column : Column} {uri : String} {document : SourceDocument}

theorem outcomeIn_eq_ok_iff
    {value : String} :
    column.outcomeIn uri document = .ok value ↔ column.Yields uri document value := by
  constructor
  · intro h
    unfold outcomeIn at h
    split at h
    · cases h
    · next text hcontent =>
        split at h
        · cases h
        · next tree hread =>
            cases hresolve : column.outcome tree.root uri with
            | error cause => simp [hresolve, Except.mapError] at h
            | ok found =>
                have hfound : found = value := by
                  simpa [hresolve, Except.mapError] using h
                subst hfound
                exact .resolved hcontent hread hresolve
  · rintro ⟨hcontent, hread, hresolve⟩
    simp [outcomeIn, outcome, hcontent, hread, hresolve, Except.mapError]

theorem exists_outcomeIn_eq_error_iff :
    (∃ fault, column.outcomeIn uri document = .error fault) ↔ column.FailsIn uri document := by
  constructor
  · rintro ⟨fault, h⟩
    unfold outcomeIn at h
    split at h
    · next reason hcontent => exact .unreadable hcontent
    · next text hcontent =>
        split at h
        · next hread => exact .malformed hcontent hread
        · next tree hread =>
            cases hresolve : column.outcome tree.root uri with
            | error cause => exact .unresolved hcontent hread hresolve
            | ok found => simp [hresolve, Except.mapError] at h
  · intro h
    cases h with
    | unreadable hcontent => simp [outcomeIn, hcontent]
    | malformed hcontent hread => simp [outcomeIn, hcontent, hread]
    | unresolved hcontent hread hresolve =>
        simp [outcomeIn, outcome, hcontent, hread, hresolve, Except.mapError]

end Column

namespace Row

section Outcomes

variable {ε ε' : Type}

theorem isFailure_iff
    {outcome : Except ε String} :
    isFailure outcome = true ↔ ∃ fault, outcome = .error fault := by
  cases outcome <;> simp [isFailure]

theorem cell_of_isFailure
    {outcome : Except ε String}
    (h : isFailure outcome = true) :
    cell outcome = failureMark := by
  obtain ⟨fault, rfl⟩ := isFailure_iff.mp h
  rfl

@[simp] theorem cell_mapError
    (f : ε → ε')
    (outcome : Except ε String) :
    cell (outcome.mapError f) = cell outcome := by
  cases outcome <;> rfl

@[simp] theorem isFailure_mapError
    (f : ε → ε')
    (outcome : Except ε String) :
    isFailure (outcome.mapError f) = isFailure outcome := by
  cases outcome <;> rfl

/-- The positions of the failures are counted from that of the first outcome. -/
theorem mem_failuresFrom
    {position k : Nat}
    {outcomes : List (Except ε String)} :
    k ∈ failuresFrom position outcomes ↔
      ∃ j outcome, k = position + j ∧ outcomes[j]? = some outcome ∧ isFailure outcome = true := by
  induction outcomes generalizing position with
  | nil => simp [failuresFrom]
  | cons first rest ih =>
      have hrest :
          k ∈ failuresFrom (position + 1) rest ↔
            ∃ j outcome, k = position + (j + 1) ∧
              (first :: rest)[j + 1]? = some outcome ∧ isFailure outcome = true := by
        rw [ih]
        simp only [List.getElem?_cons_succ]
        constructor
        · rintro ⟨j, outcome, rfl, hget, hfail⟩
          exact ⟨j, outcome, by omega, hget, hfail⟩
        · rintro ⟨j, outcome, rfl, hget, hfail⟩
          exact ⟨j, outcome, by omega, hget, hfail⟩
      have hsplit :
          (∃ j outcome, k = position + j ∧
              (first :: rest)[j]? = some outcome ∧ isFailure outcome = true) ↔
            (k = position ∧ isFailure first = true) ∨ k ∈ failuresFrom (position + 1) rest := by
        rw [hrest]
        constructor
        · rintro ⟨j, outcome, hk, hget, hfail⟩
          cases j with
          | zero =>
              obtain rfl : first = outcome := by simpa using hget
              exact Or.inl ⟨hk, hfail⟩
          | succ j => exact Or.inr ⟨j, outcome, hk, hget, hfail⟩
        · rintro (⟨hk, hfail⟩ | ⟨j, outcome, hk, hget, hfail⟩)
          · exact ⟨0, first, hk, rfl, hfail⟩
          · exact ⟨j + 1, outcome, hk, hget, hfail⟩
      rw [hsplit, failuresFrom]
      split
      · next hfail => simp [hfail]
      · next hfail => simp [hfail]

theorem le_of_mem_failuresFrom
    {position k : Nat}
    {outcomes : List (Except ε String)}
    (h : k ∈ failuresFrom position outcomes) :
    position ≤ k := by
  obtain ⟨j, _, rfl, _⟩ := mem_failuresFrom.mp h
  omega

theorem pairwise_failuresFrom
    (position : Nat)
    (outcomes : List (Except ε String)) :
    (failuresFrom position outcomes).Pairwise (· < ·) := by
  induction outcomes generalizing position with
  | nil => exact List.Pairwise.nil
  | cons first rest ih =>
      rw [failuresFrom]
      split
      · refine List.Pairwise.cons ?_ (ih (position + 1))
        intro k hk
        have := le_of_mem_failuresFrom hk
        omega
      · exact ih (position + 1)

theorem length_failuresFrom
    (position : Nat)
    (outcomes : List (Except ε String)) :
    (failuresFrom position outcomes).length =
      (outcomes.map fun outcome => if isFailure outcome then 1 else 0).sum := by
  induction outcomes generalizing position with
  | nil => rfl
  | cons first rest ih =>
      rw [failuresFrom, List.map_cons, List.sum_cons]
      split
      · rw [List.length_cons, ih, Nat.add_comm]
      · rw [ih, Nat.zero_add]

theorem failuresFrom_map_mapError
    (f : ε → ε')
    (position : Nat)
    (outcomes : List (Except ε String)) :
    failuresFrom position (outcomes.map (Except.mapError f)) = failuresFrom position outcomes := by
  induction outcomes generalizing position with
  | nil => rfl
  | cons first rest ih => simp [failuresFrom, ih]

theorem failuresFrom_of_all_failed
    (position : Nat)
    {outcomes : List (Except ε String)}
    (h : ∀ outcome ∈ outcomes, isFailure outcome = true) :
    failuresFrom position outcomes = List.range' position outcomes.length := by
  induction outcomes generalizing position with
  | nil => rfl
  | cons first rest ih =>
      have hfirst : isFailure first = true := h first (by simp)
      have hrest : ∀ outcome ∈ rest, isFailure outcome = true :=
        fun outcome hmem => h outcome (by simp [hmem])
      rw [failuresFrom, if_pos hfirst, ih (position + 1) hrest, List.length_cons,
        List.range'_succ]

/-- A row shows of a fault only that it is one. -/
theorem ofOutcomes_map_mapError
    (f : ε → ε')
    (identifier : String)
    (outcomes : List (Except ε String)) :
    ofOutcomes identifier (outcomes.map (Except.mapError f)) = ofOutcomes identifier outcomes := by
  have hcells : (outcomes.map (Except.mapError f)).map cell = outcomes.map cell := by
    simp
  rw [ofOutcomes, hcells, failuresFrom_map_mapError, ofOutcomes]

/-- If all outcomes are failures, every cell shows the mark and every position is listed. -/
theorem ofOutcomes_of_all_failed
    (identifier : String)
    {outcomes : List (Except ε String)}
    (h : ∀ outcome ∈ outcomes, isFailure outcome = true) :
    ofOutcomes identifier outcomes =
      { values := identifier :: List.replicate outcomes.length failureMark
        failedColumns := List.range outcomes.length } := by
  have hcells : outcomes.map cell = List.replicate outcomes.length failureMark := by
    rw [List.eq_replicate_iff]
    refine ⟨by simp, ?_⟩
    intro text htext
    obtain ⟨outcome, hmem, rfl⟩ := List.mem_map.mp htext
    exact cell_of_isFailure (h outcome hmem)
  rw [ofOutcomes, hcells, failuresFrom_of_all_failed 0 h, List.range_eq_range']

end Outcomes

theorem value_ofTree
    (root : Xml.Node)
    (legend : Legend)
    (identifier uri : String) :
    (ofTree root legend identifier uri).value =
      ofOutcomes identifier (legend.columns.map (·.outcome root uri)) := by
  rfl

theorem failed_eq_ofOutcomes
    {ε : Type}
    (legend : Legend)
    (identifier : String)
    {outcomes : List (Except ε String)}
    (hlength : outcomes.length = legend.size)
    (h : ∀ outcome ∈ outcomes, isFailure outcome = true) :
    failed legend identifier = ofOutcomes identifier outcomes := by
  rw [ofOutcomes_of_all_failed identifier h, hlength, failed]

/-- However a document ends up in the report, its row is that of the outcomes of the columns. -/
theorem value_ofDocument
    (document : SourceDocument)
    (legend : Legend)
    (uri : String) :
    (ofDocument document legend uri).value =
      ofOutcomes document.identifier (legend.columns.map (·.outcomeIn uri document)) := by
  unfold ofDocument
  split
  · next reason hcontent =>
      refine failed_eq_ofOutcomes legend document.identifier (by simp [Legend.size]) ?_
      intro outcome hmem
      obtain ⟨column, _, rfl⟩ := List.mem_map.mp hmem
      simp [Column.outcomeIn, hcontent, isFailure]
  · next text hcontent =>
      split
      · next hread =>
          refine failed_eq_ofOutcomes legend document.identifier (by simp [Legend.size]) ?_
          intro outcome hmem
          obtain ⟨column, _, rfl⟩ := List.mem_map.mp hmem
          simp [Column.outcomeIn, hcontent, hread, isFailure]
      · next tree hread =>
          have hcolumns :
              legend.columns.map (·.outcomeIn uri document) =
                (legend.columns.map (·.outcome tree.root uri)).map
                  (Except.mapError CellFault.unresolved) := by
            simp [Column.outcomeIn, hcontent, hread]
          rw [hcolumns, ofOutcomes_map_mapError, Logged.value_bind, value_ofTree]

end Row

namespace Row

/-- A row that tells for each column of a legend what it comes to in a document. -/
structure Aligned
    (legend : Legend)
    (uri : String)
    (document : SourceDocument)
    (row : Row) : Prop where
  head_values : row.values.head? = some document.identifier
  length_values : row.values.length = legend.size + 1
  mem_failedColumns_iff :
    ∀ k column, legend.columns[k]? = some column →
      (k ∈ row.failedColumns ↔ column.FailsIn uri document)
  failed_cell :
    ∀ k column, legend.columns[k]? = some column → column.FailsIn uri document →
      row.values[k + 1]? = some "Error!"
  resolved_cell :
    ∀ k column, legend.columns[k]? = some column → ¬ column.FailsIn uri document →
      ∃ value, column.Yields uri document value ∧ row.values[k + 1]? = some value
  ascending : row.failedColumns.Pairwise (· < ·)
  lt_size : ∀ k ∈ row.failedColumns, k < legend.size

theorem isFailure_outcomeIn
    (column : Column)
    (uri : String)
    (document : SourceDocument) :
    isFailure (column.outcomeIn uri document) = true ↔ column.FailsIn uri document :=
  isFailure_iff.trans Column.exists_outcomeIn_eq_error_iff

instance (column : Column) (uri : String) (document : SourceDocument) :
    Decidable (column.FailsIn uri document) :=
  decidable_of_iff _ (isFailure_outcomeIn column uri document)

theorem aligned_ofOutcomes
    (document : SourceDocument)
    (legend : Legend)
    (uri : String) :
    Aligned legend uri document
      (ofOutcomes document.identifier (legend.columns.map (·.outcomeIn uri document))) where
  head_values := rfl
  length_values := by
    simp [Legend.size]
  mem_failedColumns_iff := by
    intro k column hcolumn
    simp only [ofOutcomes]
    rw [← isFailure_outcomeIn, mem_failuresFrom]
    constructor
    · rintro ⟨j, outcome, rfl, hget, hfail⟩
      rw [Nat.zero_add] at hcolumn
      obtain rfl : column.outcomeIn uri document = outcome := by
        simpa [hcolumn] using hget
      exact hfail
    · intro hfail
      exact ⟨k, column.outcomeIn uri document, by omega, by simp [hcolumn], hfail⟩
  failed_cell := by
    intro k column hcolumn hfails
    have hcell := cell_of_isFailure ((isFailure_outcomeIn column uri document).mpr hfails)
    simp [ofOutcomes, hcolumn, hcell, failureMark]
  resolved_cell := by
    intro k column hcolumn hfails
    cases houtcome : column.outcomeIn uri document with
    | error fault =>
        exact absurd (Column.exists_outcomeIn_eq_error_iff.mp ⟨fault, houtcome⟩) hfails
    | ok value =>
        exact ⟨value, Column.outcomeIn_eq_ok_iff.mp houtcome,
          by simp [ofOutcomes, hcolumn, houtcome, cell]⟩
  ascending := pairwise_failuresFrom 0 _
  lt_size := by
    intro k hk
    obtain ⟨j, outcome, rfl, hget, _⟩ := mem_failuresFrom.mp hk
    obtain ⟨hlt, _⟩ := List.getElem?_eq_some_iff.mp hget
    simpa [Legend.size] using hlt

end Row

namespace Report

/-- What a report shows in the cell of a row and a legend column, and whether that is a failure. -/
def cell? (report : Report) (i k : Nat) : Option (String × Bool) :=
  report.rows[i]?.bind fun row =>
    row.values[k + 1]?.map fun text => (text, decide (k ∈ row.failedColumns))

/-- The cell that a column has in the row of a document. -/
def cellOf (document : SourceDocument) (column : Column) (uri : String) : String × Bool :=
  (Row.cell (column.outcomeIn uri document), Row.isFailure (column.outcomeIn uri document))

/-- The positions of the documents and columns that fail together. -/
def failingCells
    (documents : DocumentSet)
    (legend : Legend)
    (uri : String) :
    Finset (Fin documents.documents.length × Fin legend.columns.length) :=
  Finset.univ.filter fun cell =>
    legend.columns[cell.2].FailsIn uri documents.documents[cell.1]

section Assembly

variable (documents : DocumentSet) (legend : Legend) (uri : String)

theorem value_assemble :
    (assemble documents legend uri).value =
      { headers := legend.headers
        rows :=
          documents.documents.map fun document =>
            Row.ofOutcomes document.identifier (legend.columns.map (·.outcomeIn uri document)) } := by
  simp [assemble, Row.value_ofDocument]

theorem value_assemble_eq_map :
    (assemble documents legend uri).value =
      { headers := legend.headers
        rows :=
          documents.documents.map fun document => (Row.ofDocument document legend uri).value } := by
  simp only [value_assemble, Row.value_ofDocument]

theorem rows_assemble :
    (assemble documents legend uri).value.rows =
      documents.documents.map fun document =>
        Row.ofOutcomes document.identifier (legend.columns.map (·.outcomeIn uri document)) := by
  rw [value_assemble]

/-- A cell is a function of its document, its column and the namespace. -/
theorem cell?_assemble
    (i k : Nat) :
    (assemble documents legend uri).value.cell? i k =
      documents.documents[i]?.bind fun document =>
        legend.columns[k]?.map fun column => cellOf document column uri := by
  rw [cell?, rows_assemble, List.getElem?_map]
  cases documents.documents[i]? with
  | none => rfl
  | some document =>
      have haligned := Row.aligned_ofOutcomes document legend uri
      cases hcolumn : legend.columns[k]? with
      | none =>
          simp [Row.ofOutcomes, hcolumn]
      | some column =>
          have hmem := haligned.mem_failedColumns_iff k column hcolumn
          rw [← Row.isFailure_outcomeIn] at hmem
          simp only [Option.map_some, Option.bind_some, hmem, Bool.decide_eq_true]
          simp [Row.ofOutcomes, hcolumn, cellOf]

/-- Each failed cell of a report is counted once, as a document and a column that fail. -/
theorem failedCellCount_assemble :
    (assemble documents legend uri).value.failedCellCount =
      (failingCells documents legend uri).card := by
  have hrow :
      ∀ document : SourceDocument,
        (Row.failuresFrom 0 (legend.columns.map (·.outcomeIn uri document))).length =
          ∑ k : Fin legend.columns.length,
            if legend.columns[k].FailsIn uri document then 1 else 0 := by
    intro document
    simp only [Row.length_failuresFrom, List.map_map, Fin.getElem_fin]
    rw [Fin.sum_univ_fun_getElem legend.columns
      (fun column => if column.FailsIn uri document then 1 else 0)]
    simp [Function.comp_def, Row.isFailure_outcomeIn]
  calc
    (assemble documents legend uri).value.failedCellCount =
        (documents.documents.map fun document =>
          (Row.failuresFrom 0 (legend.columns.map (·.outcomeIn uri document))).length).sum := by
      simp [failedCellCount, rows_assemble, Row.ofOutcomes, List.length_flatMap, Function.comp_def]
    _ = ∑ i : Fin documents.documents.length, ∑ k : Fin legend.columns.length,
          if legend.columns[k].FailsIn uri documents.documents[i] then 1 else 0 := by
      simp only [hrow]
      exact (Fin.sum_univ_fun_getElem documents.documents _).symm
    _ = (failingCells documents legend uri).card := by
      rw [failingCells, Finset.card_filter, ← Finset.univ_product_univ, Finset.sum_product]

end Assembly

/--
A report has the headers of its legend after that of the file names, and one row
for each document, in order, which is aligned with the legend.  Its failed cells
are the documents and columns that fail together, and the same document and
column have the same cell in every report of the namespace.
-/
theorem assemble_cellwise
    (documents : DocumentSet)
    (legend : Legend)
    (uri : String) :
    let report := (assemble documents legend uri).value
    report.headers = "File Name" :: legend.columns.map Column.header ∧
    List.Forall₂ (Row.Aligned legend uri) documents.documents report.rows ∧
    report.failedCellCount = (failingCells documents legend uri).card ∧
    (report.hasFailures = true ↔ (failingCells documents legend uri).card ≠ 0) ∧
    ∀ (documents' : DocumentSet) (legend' : Legend) (i i' k k' : Nat),
      documents'.documents[i']? = documents.documents[i]? →
      legend'.columns[k']? = legend.columns[k]? →
      (assemble documents' legend' uri).value.cell? i' k' = report.cell? i k := by
  refine ⟨rfl, ?_, failedCellCount_assemble documents legend uri, ?_, ?_⟩
  · rw [rows_assemble, List.forall₂_map_right_iff, List.forall₂_same]
    intro document _
    exact Row.aligned_ofOutcomes document legend uri
  · rw [hasFailures_iff, failedCellCount_assemble]
  · intro documents' legend' i i' k k' hdocument hcolumn
    rw [cell?_assemble, cell?_assemble, hdocument, hcolumn]

/-- A document between others that fail has the cell that it has on its own. -/
theorem assemble_cellwise_among_failures :
    let broken : SourceDocument := ⟨"a.xml", ⟨"a.xml"⟩, .unreadable "no text"⟩
    let whole := SourceDocument.ofText "b.xml" "<r><x>1</x></r>"
    let cut := SourceDocument.ofText "c.xml" "<r><x>"
    let x : Column := ⟨"X", [.plain "x"]⟩
    let y : Column := ⟨"Y", [.plain "y"]⟩
    let report := (assemble ⟨[broken, whole, cut], by simp⟩ ⟨[y, x]⟩ "").value
    (assemble ⟨[whole], by simp⟩ ⟨[x]⟩ "").value.cell? 0 0 = report.cell? 1 1 ∧
      report.cell? 1 1 = some ("1", false) ∧ report.failedCellCount = 5 := by
  intro broken whole cut x y report
  have hcellwise := assemble_cellwise ⟨[broken, whole, cut], by simp⟩ ⟨[y, x]⟩ ""
  refine ⟨?_, by decide +kernel, by decide +kernel⟩
  exact hcellwise.2.2.2.2 ⟨[whole], by simp⟩ ⟨[x]⟩ 1 0 1 0 rfl rfl

end Report

end LegendReport
