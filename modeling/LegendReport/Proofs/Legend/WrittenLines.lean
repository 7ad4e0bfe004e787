import LegendReport.Proofs.Legend.Positions
import LegendReport.Proofs.Report.Accounting

/-!
# Lines written back

A line that is not blank is its column, written out: the header and, if there is a path,
a space and the path.  No character of the line is lost, so what a warning shows as the
path of a column is what stands behind the header in the legend.

Written back and read again, the columns of a legend are the same, with the same
warnings.  A blank line comes back as an empty one, which is blank as well, and all
other lines come back as they were.
-/

namespace LegendReport

namespace Column

variable {line : String} {column : Column}

theorem map_token_eq
    {tokens : List String}
    {path : List Segment}
    (h : List.Forall₂ (fun token segment => Segment.ofToken token = .ok segment) tokens path) :
    path.map Segment.token = tokens := by
  induction h with
  | nil => rfl
  | cons htoken _ ih => rw [List.map_cons, Segment.token_of_ofToken htoken, ih]

theorem line_of_path_eq_nil
    (h : column.path = []) :
    column.line = column.header := by
  rw [Column.line, if_pos h]

theorem line_of_path_ne_nil
    (h : column.path ≠ []) :
    column.line = column.header ++ " " ++ Segment.renderPath column.path := by
  rw [Column.line, if_neg h]

/-- A line is cut at its spaces, and they are all put back. -/
theorem line_eq_of_isSplit
    {header : String}
    {tokens : List String}
    {path : List Segment}
    (hsplit : IsSplit line header tokens)
    (hpath : List.Forall₂ (fun token segment => Segment.ofToken token = .ok segment) tokens path) :
    ({ header, path } : Column).line = line := by
  rw [hsplit.line_eq, ← map_token_eq hpath]
  by_cases hnil : path = []
  · subst hnil
    rw [line_of_path_eq_nil rfl, List.map_nil, String.intercalate_singleton]
  · rw [line_of_path_ne_nil hnil, Segment.renderPath,
      String.intercalate_cons_of_ne_nil (by simpa using hnil)]

theorem Describes.line_eq
    (h : Describes line column)
    (hblank : Text.isBlank line = false) :
    column.line = line := by
  cases h with
  | blank hline => rw [hline] at hblank; cases hblank
  | split _ hsplit hpath => exact line_eq_of_isSplit hsplit hpath

/-- The line that is written for a column is blank only if the column comes from a blank line. -/
theorem Describes.isBlank_line
    (h : Describes line column) :
    Text.isBlank column.line = Text.isBlank line := by
  cases hblank : Text.isBlank line with
  | false => rw [h.line_eq hblank, hblank]
  | true =>
      cases h with
      | blank _ => rfl
      | split hline => rw [hline] at hblank; cases hblank

/-- The line that is written for a column describes that column. -/
theorem Describes.ofLine_line
    (h : Describes line column) :
    ofLine column.line = .ok column := by
  cases hblank : Text.isBlank line with
  | false => rw [h.line_eq hblank, ofLine_eq_ok_iff.mpr h]
  | true =>
      rw [ofLine_of_isBlank (h.isBlank_line.trans hblank), ← ofLine_of_isBlank hblank,
        ofLine_eq_ok_iff.mpr h]

theorem Describes.warnings_line
    (h : Describes line column)
    (number : Nat) :
    warnings number column.line column = warnings number line column := by
  rw [warnings, warnings, h.isBlank_line]

end Column

section Failures

/-- A column fails in the tree of a document, which is told at the position of the column behind the
event of the document itself. -/
structure Legend.TellsFailure
    (legend : Legend)
    (uri : String)
    (document : SourceDocument)
    (k : Nat)
    (column : Column)
    (cause : ResolveError) : Prop where
  column_eq : legend.columns[k]? = some column
  outcome_eq : column.outcomeIn uri document = .error (.unresolved cause)
  entry_eq :
    (Row.ofDocument document legend uri).journal[k + 1]? =
      some
        ⟨[], .columnFailed document.identifier column.header (Segment.renderPath column.path) cause⟩

variable {legend : Legend} {uri : String} {entry : Entry} {file header path : String}
  {cause : ResolveError}

theorem Column.eq_of_event_eq
    {column : Column}
    {identifier : String}
    {outcome : Except ResolveError String}
    (h : column.event identifier outcome = .columnFailed file header path cause) :
    outcome = .error cause ∧ file = identifier ∧ header = column.header ∧
      path = Segment.renderPath column.path := by
  cases outcome with
  | ok value => cases h
  | error other => cases h; exact ⟨rfl, rfl, rfl, rfl⟩

theorem Row.journal_ofDocument_of_tree
    {document : SourceDocument}
    {text : String}
    {tree : Xml.Document}
    (hcontent : document.content = .loaded text)
    (hread : Xml.Document.read? text = some tree)
    (legend : Legend)
    (uri : String) :
    (ofDocument document legend uri).journal =
      ⟨[], .documentParsed tree.nodeCount⟩ ::
        legend.columns.map fun column =>
          ⟨[], column.event document.identifier (column.outcome tree.root uri)⟩ := by
  simp [ofDocument, hcontent, hread, journal_ofTree, Logged.reporting]

theorem Row.exists_tellsFailure_of_columnFailed
    {document : SourceDocument}
    (hentry : entry ∈ (ofDocument document legend uri).journal)
    (hevent : entry.event = .columnFailed file header path cause) :
    ∃ k column,
      legend.TellsFailure uri document k column cause ∧ file = document.identifier ∧
        header = column.header ∧ path = Segment.renderPath column.path := by
  cases hcontent : document.content with
  | unreadable reason =>
      simp only [ofDocument, hcontent, Logged.reporting, List.map_cons, List.map_nil,
        List.mem_singleton] at hentry
      subst hentry
      cases hevent
  | loaded text =>
      cases hread : Xml.Document.read? text with
      | none =>
          simp only [ofDocument, hcontent, hread, Logged.reporting, List.map_cons, List.map_nil,
            List.mem_singleton] at hentry
          subst hentry
          cases hevent
      | some tree =>
          have hjournal := journal_ofDocument_of_tree hcontent hread legend uri
          rw [hjournal, List.mem_cons, List.mem_map] at hentry
          rcases hentry with rfl | ⟨column, hcolumn, rfl⟩
          · cases hevent
          · obtain ⟨k, hk⟩ := List.mem_iff_getElem?.mp hcolumn
            obtain ⟨houtcome, rfl, rfl, rfl⟩ := Column.eq_of_event_eq hevent
            refine ⟨k, column, ⟨hk, ?_, ?_⟩, rfl, rfl, rfl⟩
            · simp [Column.outcomeIn, hcontent, hread, houtcome, Except.mapError]
            · rw [hjournal, List.getElem?_cons_succ, List.getElem?_map, hk, Option.map_some,
                houtcome]
              rfl

/-- A failure is told with the header of a column and with its path as the legend spells it. -/
theorem Report.exists_tellsFailure_of_columnFailed
    {documents : DocumentSet}
    (hentry : entry ∈ (assemble documents legend uri).journal)
    (hevent : entry.event = .columnFailed file header path cause) :
    ∃ document ∈ documents.documents, ∃ k column,
      legend.TellsFailure uri document k column cause ∧ file = document.identifier ∧
        header = column.header ∧ path = Segment.renderPath column.path := by
  simp only [assemble, Logged.journal_all, List.flatMap_map, List.mem_append, List.mem_flatMap,
    Logged.within, List.mem_map, List.mem_singleton] at hentry
  rcases hentry with ⟨document, hdocument, told, htold, rfl⟩ | rfl
  · exact ⟨document, hdocument, Row.exists_tellsFailure_of_columnFailed htold hevent⟩
  · cases hevent

end Failures

namespace Legend

theorem columnsFrom_map_line
    {lines : List String}
    {columns : List Column}
    (h : List.Forall₂ Column.Describes lines columns)
    (number : Nat) :
    columnsFrom number (columns.map Column.line) = columnsFrom number lines := by
  induction h generalizing number with
  | nil => rfl
  | cons hline _ ih =>
      rw [List.map_cons, columnsFrom, columnsFrom, hline.ofLine_line,
        Column.ofLine_eq_ok_iff.mpr hline, ih (number + 1)]
      dsimp only
      rw [hline.warnings_line]

/--
A line of a legend that loads is the header of its column and, if the column has a path, a
space and the path.  What a failure shows as header and path is the line of the column that
fails, at the same position.  The lines written back for the columns give the same legend and
the same warnings.  A blank line has no characters to keep; an empty one is written for it.
-/
theorem ofLines_written_back
    {lines : List String}
    {legend : Legend}
    (h : (ofLines lines).value = .ok legend) :
    List.Forall₂
      (fun line column =>
        Text.isBlank line = false →
          line =
            if column.path = [] then column.header
            else column.header ++ " " ++ Segment.renderPath column.path)
      lines legend.columns ∧
    (∀ documents uri entry file header path cause,
      entry ∈ (Report.assemble documents legend uri).journal →
        entry.event = .columnFailed file header path cause →
          ∃ document ∈ documents.documents, ∃ (k : Nat) (line : String) (column : Column),
            legend.TellsFailure uri document k column cause ∧ document.identifier = file ∧
              lines[k]? = some line ∧ legend.columns[k]? = some column ∧
                column.header = header ∧ Segment.renderPath column.path = path ∧
                  (Text.isBlank line = false →
                    line = if column.path = [] then header else header ++ " " ++ path)) ∧
    (ofLines (legend.columns.map Column.line)).value = .ok legend ∧
    (ofLines (legend.columns.map Column.line)).journal = (ofLines lines).journal := by
  have hlines := value_ofLines_eq_ok_iff.mp h
  have hagain : ofLines (legend.columns.map Column.line) = ofLines lines := by
    rw [ofLines, ofLines, columnsFrom_map_line hlines]
  refine ⟨?_, ?_, by rw [hagain, h], by rw [hagain]⟩
  · exact hlines.imp fun line column hline hblank => (hline.line_eq hblank).symm
  · intro documents uri entry file header path cause hentry hevent
    obtain ⟨document, hdocument, k, column, htold, rfl, rfl, rfl⟩ :=
      Report.exists_tellsFailure_of_columnFailed hentry hevent
    obtain ⟨hk, rfl⟩ := List.getElem?_eq_some_iff.mp htold.column_eq
    obtain ⟨hlength, hdescribes⟩ := List.forall₂_iff_get.mp hlines
    have hline := hdescribes k (hlength ▸ hk) hk
    exact ⟨document, hdocument, k, lines[k], legend.columns[k], htold, rfl,
      List.getElem?_eq_getElem _, htold.column_eq, rfl, rfl,
      fun hblank => (hline.line_eq hblank).symm⟩

/-- Empty tokens, repeated colons, leading zeros and white space other than the space are written
back, but not those of a blank line.  An empty name that is not found is told of with the whole
path. -/
theorem ofLines_written_back_of_odd_spacing :
    let lines := ["A\tge  ::P<02> ", " \u00A0", "Notes", " A", ": :"]
    let legend : Legend :=
      ⟨[⟨"A\tge", [.plain "", ⟨"P", true, 1, "::P<02>"⟩, .plain ""]⟩, ⟨"", []⟩, ⟨"Notes", []⟩,
        ⟨"", [.plain "A"]⟩, ⟨":", [⟨"", true, 0, ":"⟩]⟩]⟩
    let documents : DocumentSet := ⟨[.ofText "a.xml" "<r/>"], by simp⟩
    let failure : Event :=
      .columnFailed "a.xml" "A\tge" " ::P<02> " (.elementNotFound ⟨none, ""⟩)
    (ofLines lines).value = .ok legend ∧
      legend.columns.map Column.line = ["A\tge  ::P<02> ", "", "Notes", " A", ": :"] ∧
      (ofLines (legend.columns.map Column.line)).value = .ok legend ∧
      ⟨[.document "a.xml"], failure⟩ ∈ (Report.assemble documents legend "").journal ∧
      ∃ document ∈ documents.documents, ∃ (k : Nat) (line : String) (column : Column),
        legend.TellsFailure "" document k column (.elementNotFound ⟨none, ""⟩) ∧
          document.identifier = "a.xml" ∧ lines[k]? = some line ∧
            legend.columns[k]? = some column ∧ column.header = "A\tge" ∧
              Segment.renderPath column.path = " ::P<02> " ∧
                (Text.isBlank line = false →
                  line = if column.path = [] then "A\tge" else "A\tge" ++ " " ++ " ::P<02> ") := by
  intro lines legend documents failure
  have hlegend : (ofLines lines).value = .ok legend := by
    rfl
  have hentry :
      ⟨[.document "a.xml"], failure⟩ ∈ (Report.assemble documents legend "").journal := by
    decide +kernel
  obtain ⟨_, hfailures, hagain, _⟩ := ofLines_written_back hlegend
  exact ⟨hlegend, by decide +kernel, hagain, hentry, hfailures _ _ _ _ _ _ _ hentry rfl⟩

end Legend

end LegendReport
