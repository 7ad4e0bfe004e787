import LegendReport.Proofs.Legend.Warnings
import LegendReport.Proofs.Report.Accounting
import LegendReport.Proofs.Report.FailedRows

/-!
# Columns without a path

The journal of a legend tells of each column without a path, once and in the order of the
lines, up to the first bad line; it tells of nothing else.  A blank line and a line without a
space have messages of their own.

Such a column has no path to follow in any document.  It is the only kind of column that is
said to have none, so the lines that are warned about are just the columns that fail in this
way, and these fail in every row.
-/

namespace LegendReport

namespace Column

/-- A path that is said to be empty is empty. -/
theorem resolve_eq_emptyPath_iff
    (column : Column)
    (root : Xml.Node)
    (uri : String) :
    Resolution.resolve root column.path uri = .error .emptyPath ↔ column.path = [] := by
  rw [Resolution.resolve_eq_error_iff, Resolution.locate_eq_emptyPath_iff]

end Column

namespace Legend

section Telling

/-- Whether events tell of the columns without a path among those of some lines, of which the first
has the given number. -/
inductive TellsPathless : Nat → List String → List Event → Prop where
  | done
      {number : Nat} :
      TellsPathless number [] []
  | blank
      {number : Nat}
      {line : String}
      {column : Column}
      {event : Event}
      {rest : List String}
      {events : List Event}
      (hcolumn : Column.Describes line column)
      (hpath : column.path = [])
      (hblank : Text.isBlank line = true)
      (hshows :
        event.Shows .warn "blank legend line has no header or path" [("line", toString number)])
      (hrest : TellsPathless (number + 1) rest events) :
      TellsPathless number (line :: rest) (event :: events)
  | headerOnly
      {number : Nat}
      {line : String}
      {column : Column}
      {event : Event}
      {rest : List String}
      {events : List Event}
      (hcolumn : Column.Describes line column)
      (hpath : column.path = [])
      (hblank : Text.isBlank line = false)
      (hspace : ' ' ∉ line.toList)
      (hshows :
        event.Shows .warn "legend column has no path"
          [("line", toString number), ("column", column.header)])
      (hrest : TellsPathless (number + 1) rest events) :
      TellsPathless number (line :: rest) (event :: events)
  | withPath
      {number : Nat}
      {line : String}
      {column : Column}
      {rest : List String}
      {events : List Event}
      (hcolumn : Column.Describes line column)
      (hpath : column.path ≠ [])
      (hblank : Text.isBlank line = false)
      (hspace : ' ' ∈ line.toList)
      (hrest : TellsPathless (number + 1) rest events) :
      TellsPathless number (line :: rest) events

variable {lines : List String}

theorem tellsPathless_warnings
    (h : ∀ line ∈ lines, Column.IsLine line)
    (number : Nat) :
    TellsPathless number lines
      ((lines.zipIdx number).filterMap fun entry => warning? entry.2 entry.1) := by
  induction lines generalizing number with
  | nil => exact .done
  | cons line rest ih =>
      rw [List.forall_mem_cons] at h
      have hrest := ih h.2 (number + 1)
      obtain ⟨column, hofLine⟩ := (Column.exists_ofLine_eq_ok_iff line).mpr h.1
      have hcolumn := Column.ofLine_eq_ok_iff.mp hofLine
      have hpath := hcolumn.path_eq_nil_iff
      rw [List.zipIdx_cons, List.filterMap_cons, warning?]
      cases hblank : Text.isBlank line with
      | true =>
          exact .blank hcolumn (hpath.mpr (Or.inl hblank)) hblank ⟨rfl, rfl, rfl⟩ hrest
      | false =>
          rw [hblank, or_iff_right Bool.false_ne_true] at hpath
          by_cases hspace : ' ' ∈ line.toList
          · rw [if_neg Bool.false_ne_true, if_pos hspace]
            exact .withPath hcolumn (hpath.not.mpr (not_not.mpr hspace)) hblank hspace hrest
          · have hnil := hpath.mpr hspace
            have hline := hcolumn.line_eq hblank
            rw [Column.line_of_path_eq_nil hnil] at hline
            rw [if_neg Bool.false_ne_true, if_neg hspace]
            exact .headerOnly hcolumn hnil hblank hspace ⟨rfl, rfl, by rw [hline]; rfl⟩ hrest

/-- Reading stops at a bad line without a word about it. -/
theorem journal_columnsFrom_of_firstFault
    {line : String}
    {fault : TokenError}
    (h : Column.FirstFault line fault)
    (number : Nat)
    (rest : List String) :
    (columnsFrom number (line :: rest)).journal = [] := by
  rw [columnsFrom, Column.ofLine_eq_error_iff.mpr h]
  rfl

/-- There is a first bad line, or none, and what is told is about the lines before. -/
theorem exists_tellsPathless
    (lines : List String) :
    ∃ before rest events,
      lines = before ++ rest ∧
      (∀ bad ∈ rest.head?, ∃ fault, Column.FirstFault bad fault) ∧
      (ofLines lines).journal = events.map (⟨[], ·⟩) ∧
      TellsPathless 1 before events := by
  cases hvalue : (ofLines lines).value with
  | ok legend =>
      have hlines := (exists_ofLines_eq_ok_iff lines).mp ⟨legend, hvalue⟩
      exact ⟨lines, [], _, (List.append_nil lines).symm, by simp, journal_ofLines hvalue,
        tellsPathless_warnings hlines 1⟩
  | error cause =>
      obtain ⟨before, line, after, fault, rfl, hbefore, hfault, -⟩ :=
        value_ofLines_eq_error_iff.mp hvalue
      have hjournal := journal_columnsFrom_append hbefore 1 (line :: after)
      rw [journal_columnsFrom_of_firstFault hfault, List.append_nil] at hjournal
      refine ⟨before, line :: after, _, rfl, ?_, hjournal, tellsPathless_warnings hbefore 1⟩
      rintro bad ⟨⟩
      exact ⟨fault, hfault⟩

end Telling

/--
The journal of a list of lines has one warning for each line without a path before the first
bad line, in order and with the number of the line, and nothing else.  If the legend loads, a
line is warned about exactly if its column has no path to resolve in any tree, which is so in
all trees if it is so in one; the column is then among the failed columns of every row.
-/
theorem ofLines_tells_of_pathless
    (lines : List String) :
    (∃ before rest events,
      lines = before ++ rest ∧
      (∀ bad ∈ rest.head?, ∃ fault, Column.FirstFault bad fault) ∧
      (ofLines lines).journal = events.map (⟨[], ·⟩) ∧
      TellsPathless 1 before events) ∧
    ∀ legend,
      (ofLines lines).value = .ok legend →
      legend.columns.length = lines.length ∧
      ∀ k column,
        legend.columns[k]? = some column →
        (WarnsOf (ofLines lines).journal (k + 1) ↔
          ∀ root uri, Resolution.resolve root column.path uri = .error .emptyPath) ∧
        (∀ root uri,
          Resolution.resolve root column.path uri = .error .emptyPath →
            WarnsOf (ofLines lines).journal (k + 1)) ∧
        (WarnsOf (ofLines lines).journal (k + 1) →
          (∀ root identifier uri,
            k ∈ (Row.ofTree root legend identifier uri).value.failedColumns) ∧
          ∀ identifier, k ∈ (Row.failed legend identifier).failedColumns) := by
  refine ⟨exists_tellsPathless lines, ?_⟩
  intro legend hlegend
  have hlength := (value_ofLines_eq_ok_iff.mp hlegend).length_eq
  refine ⟨hlength.symm, ?_⟩
  intro k column hcolumn
  obtain ⟨line, hline⟩ : ∃ line, lines[k]? = some line := by
    obtain ⟨hk, -⟩ := List.getElem?_eq_some_iff.mp hcolumn
    exact ⟨lines[k], List.getElem?_eq_getElem (hlength ▸ hk)⟩
  have hwarns : WarnsOf (ofLines lines).journal (k + 1) ↔ column.path = [] := by
    rw [warnsOf_iff hlegend hline, (describes_of_getElem? hlegend hline hcolumn).path_eq_nil_iff]
  simp only [hwarns, Column.resolve_eq_emptyPath_iff]
  refine ⟨⟨fun hpath _ _ => hpath, fun hpath => hpath (.text "") ""⟩, fun _ _ hpath => hpath, ?_⟩
  intro hpath
  refine ⟨?_, Row.mem_failedColumns_failed hcolumn⟩
  intro root identifier uri
  rw [Row.mem_failedColumns_ofTree_iff hcolumn, hpath, Resolution.resolve_nil]
  exact ⟨.emptyPath, rfl⟩

/-- Blank lines count, and a bad line ends the warnings without one of its own.  Without it the
legend loads, and its third column, which has a path of an empty token, is not said to have
none. -/
theorem ofLines_tells_of_pathless_of_bad_line :
    let lines := ["\t ", "Age", "Notes "]
    let legend : Legend := ⟨[⟨"", []⟩, ⟨"Age", []⟩, ⟨"Notes", [.plain ""]⟩]⟩
    (ofLines (lines ++ ["City A<0>", "Name"])).journal =
        [⟨[], .blankLegendLine 1⟩, ⟨[], .pathlessColumn 2 "Age"⟩] ∧
      (ofLines lines).value = .ok legend ∧
      WarnsOf (ofLines lines).journal 2 ∧ ¬ WarnsOf (ofLines lines).journal 3 ∧
      ∀ root identifier uri, 1 ∈ (Row.ofTree root legend identifier uri).value.failedColumns := by
  intro lines legend
  have hlegend : (ofLines lines).value = .ok legend := by
    rfl
  obtain ⟨-, hcolumns⟩ := (ofLines_tells_of_pathless lines).2 legend hlegend
  obtain ⟨-, hage, hfailed⟩ := hcolumns 1 ⟨"Age", []⟩ rfl
  obtain ⟨hnotes, -, -⟩ := hcolumns 2 ⟨"Notes", [.plain ""]⟩ rfl
  have hwarned : WarnsOf (ofLines lines).journal 2 := hage (.text "") "" rfl
  refine ⟨by decide +kernel, hlegend, hwarned, ?_, (hfailed hwarned).1⟩
  intro hwarns
  cases hnotes.mp hwarns (.text "") ""

end Legend

end LegendReport
