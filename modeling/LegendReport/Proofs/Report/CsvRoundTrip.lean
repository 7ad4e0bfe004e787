import LegendReport.Proofs.Report.Alignment
import LegendReport.Report.Csv

/-!
# Reading written tables

A table that is written with the necessary quoting is read back as it was, if
every record has a field.  A reader that starts at a field arrives after it with
the characters of the field, quoted or not (`readFrom_field`); fields, records
and tables follow by induction.

The text of such a report therefore determines its table.
-/

namespace LegendReport

namespace Csv

section Fields

variable {chars cs rest : List Char} {fields : List String} {c : Char}

/-- The characters that end a field without quotes. -/
def EndsField (c : Char) : Prop :=
  c = ',' ∨ c = '\n'

/-- A plain field and a closed one are ended alike. -/
theorem readFrom_plain_of_endsField
    (hc : EndsField c) :
    readFrom .plain chars fields (c :: rest) = readFrom .closed chars fields (c :: rest) := by
  rcases hc with rfl | rfl <;> simp [readFrom]

/-- So is an empty field. -/
theorem readFrom_start_of_endsField
    (hc : EndsField c) :
    readFrom .start [] fields (c :: rest) = readFrom .closed [] fields (c :: rest) := by
  rcases hc with rfl | rfl <;> simp [readFrom]

theorem readFrom_plain
    (hcs : cs.any isSpecial = false)
    (hc : EndsField c) :
    readFrom .plain chars fields (cs ++ c :: rest) =
      readFrom .closed (cs.reverse ++ chars) fields (c :: rest) := by
  induction cs generalizing chars with
  | nil => exact readFrom_plain_of_endsField hc
  | cons first tail ih =>
      rw [List.any_cons, Bool.or_eq_false_iff] at hcs
      obtain ⟨hfirst, htail⟩ := hcs
      have hplain := hfirst
      simp only [isSpecial, Bool.or_eq_false_iff, beq_eq_false_iff_ne, ne_eq] at hplain
      obtain ⟨⟨⟨hcomma, _⟩, _⟩, hfeed⟩ := hplain
      rw [List.cons_append, readFrom]
      simp only [hcomma, hfeed, hfirst, if_false, Bool.false_eq_true]
      rw [ih htail]
      simp

/-- Doubled quotes are undone up to the quote that closes the field. -/
theorem readFrom_quoted
    (cs : List Char) :
    readFrom .quoted chars fields (doubleQuotes cs ++ '"' :: rest) =
      readFrom .closed (cs.reverse ++ chars) fields rest := by
  induction cs generalizing chars with
  | nil => simp [doubleQuotes, readFrom]
  | cons first tail ih =>
      by_cases hquote : first = '"'
      · subst hquote
        simp [doubleQuotes, readFrom, ih]
      · simp [doubleQuotes, readFrom, hquote, ih]

/-- Whatever a field holds, the reader has its characters when it comes to the end. -/
theorem readFrom_field
    (cs : List Char)
    (hc : EndsField c) :
    readFrom .start [] fields (field .necessary cs ++ c :: rest) =
      readFrom .closed cs.reverse fields (c :: rest) := by
  cases hspecial : cs.any isSpecial with
  | true =>
      have hfield :
          field .necessary cs ++ c :: rest = '"' :: (doubleQuotes cs ++ '"' :: c :: rest) := by
        simp [field, hspecial]
      have hopen :
          readFrom .start [] fields (field .necessary cs ++ c :: rest) =
            readFrom .quoted [] fields (doubleQuotes cs ++ '"' :: c :: rest) := by
        rw [hfield]
        simp [readFrom]
      rw [hopen, readFrom_quoted, List.append_nil]
  | false =>
      rw [field_of_plain .necessary hspecial]
      cases cs with
      | nil => exact readFrom_start_of_endsField hc
      | cons first tail =>
          rw [List.any_cons, Bool.or_eq_false_iff] at hspecial
          obtain ⟨hfirst, htail⟩ := hspecial
          simp only [isSpecial, Bool.or_eq_false_iff, beq_eq_false_iff_ne, ne_eq] at hfirst
          obtain ⟨⟨⟨hcomma, hquote⟩, hreturn⟩, hfeed⟩ := hfirst
          rw [List.cons_append, readFrom]
          simp only [hcomma, hquote, hreturn, hfeed, if_false]
          rw [readFrom_plain htail hc, List.reverse_cons]

theorem readFrom_closed_comma :
    readFrom .closed cs.reverse fields (',' :: rest) =
      readFrom .start [] (String.ofList cs :: fields) rest := by
  simp [readFrom]

theorem readFrom_closed_lineFeed :
    readFrom .closed cs.reverse fields ('\n' :: rest) =
      (readFrom .start [] [] rest).map ((String.ofList cs :: fields).reverse :: ·) := by
  simp [readFrom]

end Fields

section Records

/-- The fields of a line are read one after the other. -/
theorem readFrom_line
    (first : List Char)
    (others : List (List Char))
    (before : List String)
    (rest : List Char) :
    readFrom .start [] before
        ([','].intercalate ((first :: others).map (field .necessary)) ++ '\n' :: rest) =
      (readFrom .start [] [] rest).map
        ((before.reverse ++ (first :: others).map String.ofList) :: ·) := by
  induction others generalizing first before with
  | nil =>
      have hline :
          [','].intercalate ([first].map (field .necessary)) = field .necessary first := by
        simp
      rw [hline, readFrom_field first (Or.inr rfl), readFrom_closed_lineFeed]
      simp
  | cons second others ih =>
      have hline :
          [','].intercalate ((first :: second :: others).map (field .necessary)) ++ '\n' :: rest =
            field .necessary first ++ ',' ::
              ([','].intercalate ((second :: others).map (field .necessary)) ++ '\n' :: rest) := by
        simp [List.intercalate]
      rw [hline, readFrom_field first (Or.inl rfl), readFrom_closed_comma, ih]
      simp

/-- A line without characters has no field, or an empty one and no other. -/
theorem intercalate_comma_eq_nil_iff
    {fields : List (List Char)} :
    [','].intercalate fields = [] ↔ fields = [] ∨ fields = [[]] := by
  cases fields with
  | nil => simp
  | cons first others =>
      cases others with
      | nil => simp
      | cons second others => simp [List.intercalate_cons_cons]

/-- No field becomes empty by being written, and none ceases to be. -/
theorem field_eq_nil_iff
    {quoting : Quoting}
    {cs : List Char} :
    field quoting cs = [] ↔ cs = [] := by
  cases hspecial : cs.any isSpecial with
  | false => rw [field_of_plain quoting hspecial]
  | true =>
      cases quoting with
      | never => rfl
      | necessary =>
          have hcs : cs ≠ [] := by
            rintro rfl
            cases hspecial
          simp [field, hspecial, hcs]

/-- What is written of a record has characters unless it has no field but an empty one. -/
theorem line_eq_nil_iff
    {quoting : Quoting}
    {fields : List (List Char)} :
    [','].intercalate (fields.map (field quoting)) = [] ↔ fields = [] ∨ fields = [[]] := by
  rw [intercalate_comma_eq_nil_iff, List.map_eq_nil_iff, List.map_eq_singleton_iff]
  simp only [field_eq_nil_iff, exists_eq_right]

theorem readFrom_record
    {fields : List (List Char)}
    (hfields : fields ≠ [])
    (rest : List Char) :
    readFrom .start [] [] (record .necessary fields ++ rest) =
      (readFrom .start [] [] rest).map (fields.map String.ofList :: ·) := by
  obtain ⟨first, others, rfl⟩ := List.exists_cons_of_ne_nil hfields
  unfold record
  dsimp only
  split
  · next hline =>
      obtain ⟨rfl, rfl⟩ : first = [] ∧ others = [] := by
        simpa using line_eq_nil_iff.mp hline
      simp [readFrom]
  · rw [List.append_assoc, List.singleton_append, readFrom_line]
    simp

theorem readFrom_table
    {records : List (List String)}
    (hrecords : ∀ fields ∈ records, fields ≠ []) :
    readFrom .start [] [] (table .necessary records) = some records := by
  induction records with
  | nil => simp [table, readFrom]
  | cons fields others ih =>
      have hfields : fields.map String.toList ≠ [] := by
        simpa using hrecords fields (by simp)
      have hothers : ∀ other ∈ others, other ≠ [] :=
        fun other hmem => hrecords other (by simp [hmem])
      have htable :
          table .necessary (fields :: others) =
            record .necessary (fields.map String.toList) ++ table .necessary others := by
        simp [table]
      rw [htable, readFrom_record hfields, ih hothers]
      simp [Function.comp_def]

end Records

end Csv

namespace Report

/-- Whether each record of a report has a field. -/
def HasFields (report : Report) : Prop :=
  report.headers ≠ [] ∧ ∀ row ∈ report.rows, row.values ≠ []

theorem HasFields.ne_nil
    {report : Report}
    (h : report.HasFields) :
    ∀ fields ∈ report.records, fields ≠ [] := by
  intro fields hmem
  rcases List.mem_cons.mp hmem with rfl | hmem
  · exact h.1
  · obtain ⟨row, hrow, rfl⟩ := List.mem_map.mp hmem
    exact h.2 row hrow

theorem read_toCsv_necessary
    {report : Report}
    (h : report.HasFields) :
    Csv.read (report.toCsv .necessary) = some report.records := by
  rw [Csv.read, toCsv, String.toList_ofList]
  exact Csv.readFrom_table h.ne_nil

theorem length_of_mem_records_assemble
    (documents : DocumentSet)
    (legend : Legend)
    (uri : String)
    {fields : List String}
    (h : fields ∈ (assemble documents legend uri).value.records) :
    fields.length = legend.size + 1 := by
  rcases List.mem_cons.mp h with rfl | h
  · exact legend.length_headers
  · rw [rows_assemble, List.map_map] at h
    obtain ⟨document, _, rfl⟩ := List.mem_map.mp h
    simp [Legend.size]

theorem hasFields_assemble
    (documents : DocumentSet)
    (legend : Legend)
    (uri : String) :
    (assemble documents legend uri).value.HasFields := by
  refine ⟨List.cons_ne_nil _ _, ?_⟩
  intro row hrow hnil
  have hmem : row.values ∈ (assemble documents legend uri).value.records :=
    List.mem_cons_of_mem _ (List.mem_map_of_mem hrow)
  have hlength := length_of_mem_records_assemble documents legend uri hmem
  simp [hnil] at hlength

/--
A report whose records all have a field is read back from its text as the table
of its headers and values.  Its text is shared only by reports with that table,
and the text of an assembled report is read as a header record and one record for
each document, each with one field more than the legend has columns.
-/
theorem read_toCsv :
    (∀ report : Report, report.HasFields →
      Csv.read (report.toCsv .necessary) = some (report.headers :: report.rows.map Row.values)) ∧
    (∀ report report' : Report, report.HasFields → report'.HasFields →
      report.toCsv .necessary = report'.toCsv .necessary →
      report.headers = report'.headers ∧
        report.rows.map Row.values = report'.rows.map Row.values) ∧
    ∀ (documents : DocumentSet) (legend : Legend) (uri : String),
      ∃ records,
        Csv.read ((assemble documents legend uri).value.toCsv .necessary) = some records ∧
        records.length = documents.size + 1 ∧
        ∀ fields ∈ records, fields.length = legend.size + 1 := by
  refine ⟨fun report h => read_toCsv_necessary h, ?_, ?_⟩
  · intro report report' h h' htext
    have hread := read_toCsv_necessary h
    rw [htext, read_toCsv_necessary h'] at hread
    have htable : report'.records = report.records := Option.some.inj hread
    obtain ⟨hheaders, hrows⟩ := List.cons.inj htable
    exact ⟨hheaders.symm, hrows.symm⟩
  · intro documents legend uri
    refine ⟨(assemble documents legend uri).value.records,
      read_toCsv_necessary (hasFields_assemble documents legend uri), ?_, ?_⟩
    · simp [records]
    · intro fields hmem
      exact length_of_mem_records_assemble documents legend uri hmem

/-- Quotes, separators, line breaks and a record of one empty field are read back. -/
theorem read_toCsv_of_special_cells :
    let report : Report :=
      { headers := ["a,b", "\"\"", "x\r\ny"]
        rows := [⟨[""], []⟩, ⟨["\"", "", ",\n"], []⟩] }
    Csv.read (report.toCsv .necessary) =
      some [["a,b", "\"\"", "x\r\ny"], [""], ["\"", "", ",\n"]] := by
  intro report
  exact read_toCsv.1 report ⟨by simp [report], by simp [report]⟩

end Report

end LegendReport
