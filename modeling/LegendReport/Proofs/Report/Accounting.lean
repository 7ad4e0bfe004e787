import LegendReport.Journal.Filter
import LegendReport.Proofs.Report.Alignment

/-!
# The journal of a report

A log that shows everything tells of each document in order, inside the span of
the document.  There is one error for a document that cannot be read or is
malformed; for a document that was parsed there is one event for each column, in
the order of the legend, and it is a warning exactly if the column failed.  At
the end the counts of the report are told.

So every failed cell is accounted for once: by its own warning, or by the error
of its document, which stands for one cell of each column.
-/

namespace LegendReport

/-- What a log shows of an event: its level, its message, and its fields as texts. -/
structure Event.Shows
    (event : Event)
    (level : Level)
    (message : String)
    (fields : List (String × String)) : Prop where
  level_eq : event.level = level
  message_eq : event.message = message
  fields_eq : event.fields.map (fun field => (field.name, field.value.render)) = fields

/-- What a log shows of a span: its name, and its fields as texts. -/
structure Span.Shows
    (span : Span)
    (name : String)
    (fields : List (String × String)) : Prop where
  name_eq : span.name = name
  fields_eq : span.fields.map (fun field => (field.name, field.value.render)) = fields

/-- What the message of a failure says: which name is missing, or which occurrence of a name, counted
from one in machine words, and how many there are. -/
inductive ResolveError.Says : ResolveError → String → Prop
  | emptyPath :
      Says .emptyPath "column has no path segments"
  | elementNotFound
      (name : ExpandedName) :
      Says (.elementNotFound name) ("no element named " ++ name.render ++ " in document")
  | indexOutOfRange
      (name : ExpandedName)
      (index available : Nat) :
      Says (.indexOutOfRange name index available)
        ("element " ++ name.render ++ " occurrence " ++ toString ((index + 1) % Text.wordLimit) ++
          " requested but only " ++ toString available ++ " found")

/-- Whether an event tells what came of a column in the tree of a document. -/
inductive Column.Told
    (root : Xml.Node)
    (uri file : String)
    (column : Column)
    (event : Event) : Prop
  | failed
      {cause : ResolveError}
      (hresolve : Resolution.resolve root column.path uri = .error cause)
      (hmessage : cause.Says cause.message)
      (hshows :
        event.Shows .warn "failed to retrieve column"
          [("file", file), ("column", column.header),
            ("path", String.intercalate " " (column.path.map Segment.token)),
            ("error", cause.message)]) :
      Told root uri file column event
  | resolved
      {value : String}
      (hresolve : Resolution.resolve root column.path uri = .ok value)
      (hshows :
        event.Shows .trace "column resolved" [("file", file), ("column", column.header)]) :
      Told root uri file column event

/-- Whether events tell what came of a document, with the row that the report has for it. -/
inductive Row.Told
    (legend : Legend)
    (uri : String)
    (document : SourceDocument)
    (row : Row) : List Event → Prop
  | notRead
      {reason : String}
      {event : Event}
      (hcontent : document.content = .unreadable reason)
      (hshows :
        event.Shows .error "document could not be read"
          [("file", document.identifier), ("path", document.path.text), ("reason", reason)])
      (hfailed : row.failedColumns = List.range legend.size) :
      Told legend uri document row [event]
  | malformed
      {text reason : String}
      {event : Event}
      (hcontent : document.content = .loaded text)
      (hread : Xml.Document.read? text = none)
      (hshows :
        event.Shows .error "document is not well-formed XML"
          [("file", document.identifier), ("path", document.path.text), ("error", reason)])
      (hfailed : row.failedColumns = List.range legend.size) :
      Told legend uri document row [event]
  | parsed
      {text : String}
      {tree : Xml.Document}
      {opening : Event}
      {cells : List Event}
      (hcontent : document.content = .loaded text)
      (hread : Xml.Document.read? text = some tree)
      (hopening : opening.Shows .debug "document parsed" [("nodes", toString tree.nodeCount)])
      (hcells :
        List.Forall₂ (Column.Told tree.root uri document.identifier) legend.columns cells)
      (hfailed : row.failedColumns = cells.findIdxs (·.level == .warn)) :
      Told legend uri document row (opening :: cells)

theorem ResolveError.says_message
    (cause : ResolveError) :
    cause.Says cause.message := by
  cases cause with
  | emptyPath => exact .emptyPath
  | elementNotFound name => exact .elementNotFound name
  | indexOutOfRange name index available =>
      have hmessage := Says.indexOutOfRange name index available
      rwa [← Text.wordSucc_eq] at hmessage

section Columns

variable {root : Xml.Node} {uri file : String}

theorem Column.told_event
    (column : Column)
    (root : Xml.Node)
    (uri file : String) :
    column.Told root uri file (column.event file (column.outcome root uri)) := by
  cases houtcome : column.outcome root uri with
  | error cause => exact .failed houtcome cause.says_message ⟨rfl, rfl, rfl⟩
  | ok value => exact .resolved houtcome ⟨rfl, rfl, rfl⟩

theorem Column.level_event
    (column : Column)
    (outcome : Except ResolveError String) :
    ((column.event file outcome).level == .warn) = Row.isFailure outcome := by
  cases outcome <;> rfl

/-- Columns are told of by warnings and traces, never by errors. -/
theorem Column.Told.level_ne_error
    {columns : List Column}
    {events : List Event}
    (h : List.Forall₂ (Column.Told root uri file) columns events) :
    ∀ event ∈ events, event.level ≠ .error := by
  induction h with
  | nil => simp
  | cons htold _ ih =>
      rw [List.forall_mem_cons]
      refine ⟨?_, ih⟩
      cases htold with
      | failed _ _ hshows => simp [hshows.level_eq]
      | resolved _ hshows => simp [hshows.level_eq]

/-- The failures of a row stand where the warnings stand among the events of its columns. -/
theorem Row.failuresFrom_eq_findIdxs
    (position : Nat)
    (columns : List Column) :
    Row.failuresFrom position (columns.map (·.outcome root uri)) =
      (columns.map fun column => column.event file (column.outcome root uri)).findIdxs
        (·.level == .warn) position := by
  induction columns generalizing position with
  | nil => rfl
  | cons column rest ih =>
      rw [List.map_cons, List.map_cons, List.findIdxs_cons, Row.failuresFrom, ih,
        Column.level_event]

end Columns

namespace Row

section Documents

variable (document : SourceDocument) (legend : Legend) (uri : String)

theorem journal_ofTree
    (root : Xml.Node)
    (identifier : String) :
    (ofTree root legend identifier uri).journal =
      (legend.columns.map fun column =>
        column.event identifier (column.outcome root uri)).map (⟨[], ·⟩) := by
  rw [ofTree, Logged.reporting, List.zipWith_map_right, List.zipWith_self]

/-- The events of a document, outside of its span, tell what came of it. -/
theorem exists_told_ofDocument :
    ∃ events,
      (ofDocument document legend uri).journal = events.map (⟨[], ·⟩) ∧
        Told legend uri document (ofDocument document legend uri).value events := by
  unfold ofDocument
  cases hcontent : document.content with
  | unreadable reason => exact ⟨_, rfl, .notRead hcontent ⟨rfl, rfl, rfl⟩ rfl⟩
  | loaded text =>
      dsimp only
      cases hread : Xml.Document.read? text with
      | none => exact ⟨_, rfl, .malformed hcontent hread ⟨rfl, rfl, rfl⟩ rfl⟩
      | some tree =>
          dsimp only
          rw [Logged.journal_bind, journal_ofTree, Logged.value_bind, value_ofTree]
          refine ⟨_, rfl, .parsed hcontent hread ⟨rfl, rfl, rfl⟩ ?_ ?_⟩
          · rw [List.forall₂_map_right_iff, List.forall₂_same]
            intro column _
            exact column.told_event tree.root uri document.identifier
          · exact failuresFrom_eq_findIdxs 0 legend.columns

end Documents

/-- Each failed cell of a document has its warning, or the error that stands for all of them. -/
theorem Told.length_failedColumns
    {legend : Legend}
    {uri : String}
    {document : SourceDocument}
    {row : Row}
    {events : List Event}
    (h : Told legend uri document row events) :
    row.failedColumns.length =
      events.countP (·.level == .warn) + legend.size * events.countP (·.level == .error) := by
  cases h with
  | notRead _ hshows hfailed => simp [hfailed, hshows.level_eq]
  | malformed _ _ hshows hfailed => simp [hfailed, hshows.level_eq]
  | @parsed _ _ _ cells _ _ hopening hcells hfailed =>
      have hnone : cells.countP (·.level == .error) = 0 := by
        rw [List.countP_eq_zero]
        intro event hmem
        simpa using Column.Told.level_ne_error hcells event hmem
      rw [hfailed, List.length_findIdxs, List.countP_cons, List.countP_cons, hnone,
        hopening.level_eq]
      rfl

end Row

namespace Filter

/-- The filter that shows everything opens every span. -/
theorem foldl_enter_uniform_trace
    (spans shown : List Span) :
    spans.foldl (uniform (.upTo .trace)).enter ⟨shown, .off⟩ = ⟨shown ++ spans, .off⟩ := by
  induction spans generalizing shown with
  | nil => simp
  | cons span rest ih =>
      have hshows : (uniform (.upTo .trace)).showsSpan ⟨shown, .off⟩ span = true := by
        rw [showsSpan, ofSpan_uniform]
        cases span <;> simp [Threshold.passes, Span.level, Level.rank, Threshold.rank]
      have henter :
          (uniform (.upTo .trace)).enter ⟨shown, .off⟩ span = ⟨shown ++ [span], .off⟩ := by
        rw [enter, if_pos hshows, inside_uniform]
        rfl
      rw [List.foldl_cons, henter, ih, List.append_assoc, List.singleton_append]

theorem apply_uniform_trace
    (journal : List Entry) :
    (uniform (.upTo .trace)).apply journal = journal := by
  have hentry : ∀ entry : Entry, Filter.entry? (uniform (.upTo .trace)) entry = some entry := by
    intro entry
    have hpasses : ∀ level : Level, (Threshold.upTo .trace).passes level = true := by
      intro level
      cases level <;> rfl
    unfold entry?
    dsimp only
    rw [Scope.outermost, foldl_enter_uniform_trace, showsEvent, ofEvent_uniform]
    simp [hpasses]
  simp [apply, hentry]

end Filter

namespace Report

/-- How many events of a journal have a level. -/
def levelCount (journal : List Entry) (level : Level) : Nat :=
  journal.countP (·.event.level == level)

/-- The entries of documents, each in the span of its own. -/
def documentEntries (documents : List SourceDocument) (events : List (List Event)) : List Entry :=
  (List.zipWith (fun document told => told.map (⟨[.document document.identifier], ·⟩)) documents
    events).flatten

section Journal

variable (documents : List SourceDocument) (legend : Legend) (uri : String)

/-- The journals of documents, one after the other, tell of each document. -/
theorem exists_told_documents :
    ∃ events,
      (documents.flatMap fun document =>
          ((Row.ofDocument document legend uri).within (.document document.identifier)).journal) =
        documentEntries documents events ∧
      List.Forall₂ (fun pair told => Row.Told legend uri pair.1 pair.2 told)
        (documents.zip (documents.map fun document => (Row.ofDocument document legend uri).value))
        events := by
  induction documents with
  | nil => exact ⟨[], rfl, .nil⟩
  | cons document rest ih =>
      obtain ⟨told, hjournal, htold⟩ := Row.exists_told_ofDocument document legend uri
      obtain ⟨events, hrest, hevents⟩ := ih
      refine ⟨told :: events, ?_, .cons htold hevents⟩
      rw [List.flatMap_cons, hrest, Logged.within, hjournal]
      simp [documentEntries, Entry.within, Function.comp_def]

end Journal

section Counts

variable {legend : Legend} {uri : String}

theorem levelCount_documentEntries_cons
    (document : SourceDocument)
    (rest : List SourceDocument)
    (told : List Event)
    (events : List (List Event))
    (level : Level) :
    levelCount (documentEntries (document :: rest) (told :: events)) level =
      told.countP (·.level == level) + levelCount (documentEntries rest events) level := by
  simp [levelCount, documentEntries, List.countP_append, List.countP_map, Function.comp_def]

/-- The failed cells of all rows are what the warnings and the errors stand for. -/
theorem sum_length_failedColumns
    {documents : List SourceDocument}
    {rows : List Row}
    {events : List (List Event)}
    (hlength : rows.length = documents.length)
    (h :
      List.Forall₂ (fun pair told => Row.Told legend uri pair.1 pair.2 told)
        (documents.zip rows) events) :
    (rows.flatMap Row.failedColumns).length =
      levelCount (documentEntries documents events) .warn +
        legend.size * levelCount (documentEntries documents events) .error := by
  induction documents generalizing rows events with
  | nil =>
      obtain rfl : rows = [] := List.length_eq_zero_iff.mp hlength
      cases h
      rfl
  | cons document rest ih =>
      obtain ⟨row, rows, rfl⟩ := List.exists_cons_of_length_eq_add_one hlength
      rw [List.zip_cons_cons] at h
      cases h with
      | cons htold hevents =>
          have hrow := htold.length_failedColumns
          have hrest := ih (by simpa using hlength) hevents
          rw [List.flatMap_cons, List.length_append, hrow, hrest,
            levelCount_documentEntries_cons, levelCount_documentEntries_cons, Nat.mul_add]
          omega

end Counts

/--
The log of a report that shows everything tells of each document in order and
then of the report; it has one warning or one share of an error for each failed
cell.
-/
theorem assemble_accounted
    (documents : DocumentSet)
    (legend : Legend)
    (uri : String) :
    let report := (assemble documents legend uri).value
    let log := (Filter.uniform (.upTo .trace)).apply (assemble documents legend uri).journal
    report.rows.length = documents.size ∧
    (∀ document ∈ documents.documents,
      (Span.document document.identifier).Shows "document" [("file", document.identifier)]) ∧
    (∃ events last,
      log = documentEntries documents.documents events ++ [⟨[], last⟩] ∧
      List.Forall₂ (fun pair told => Row.Told legend uri pair.1 pair.2 told)
        (documents.documents.zip report.rows) events ∧
      last.Shows .info "report assembled"
        [("documents", toString report.rows.length), ("columns", toString legend.size),
          ("failed_cells", toString report.failedCellCount)]) ∧
    report.failedCellCount = levelCount log .warn + legend.size * levelCount log .error := by
  intro report log
  have hlength : report.rows.length = documents.size :=
    length_rows_assemble documents legend uri
  obtain ⟨events, hjournal, htold⟩ := exists_told_documents documents.documents legend uri
  have hrows :
      report.rows =
        documents.documents.map fun document => (Row.ofDocument document legend uri).value := by
    simp [report, assemble]
  have hlog :
      log =
        documentEntries documents.documents events ++
          [⟨[], .reportAssembled report.rows.length legend.size report.failedCellCount⟩] := by
    rw [← hjournal]
    simp [log, report, Filter.apply_uniform_trace, assemble, List.flatMap_map]
  rw [← hrows] at htold
  refine ⟨hlength, fun _ _ => ⟨rfl, rfl⟩, ⟨events, _, hlog, htold, ⟨rfl, rfl, rfl⟩⟩, ?_⟩
  have hcells := sum_length_failedColumns hlength htold
  have hlast : ∀ level : Level,
      level ≠ .info →
        levelCount log level = levelCount (documentEntries documents.documents events) level := by
    intro level hlevel
    rw [hlog, levelCount, List.countP_append]
    simpa [levelCount, Event.level] using hlevel.symm
  rw [failedCellCount, hcells, hlast .warn (by simp), hlast .error (by simp)]

end Report

end LegendReport
