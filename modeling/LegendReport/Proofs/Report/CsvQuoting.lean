import LegendReport.Proofs.Extraction.AllOrNothing
import LegendReport.Proofs.Intake.Separation
import LegendReport.Proofs.Report.CsvRoundTrip
import Mathlib.Algebra.Order.BigOperators.Group.List

/-!
# Tables with and without quotes

Without quoting a table is its fields with commas between them, each record ended by a
line feed.  Only a record that would have no characters is written differently, and no
report of an extraction has one, because every document has a name.

Quoting writes a field as it is unless the field holds a special character, and then it
makes the field longer.  Since nothing that is written becomes shorter, one such field
is enough to make the whole table longer.  So the two tables of a report are the same
exactly if it holds no special character anywhere.
-/

namespace LegendReport

namespace Csv

section Lengths

theorem length_le_length_doubleQuotes
    (cs : List Char) :
    cs.length ≤ (doubleQuotes cs).length := by
  induction cs with
  | nil => exact Nat.le_refl _
  | cons c rest ih =>
      rw [doubleQuotes]
      split
      · simp only [List.length_cons]
        omega
      · simpa using ih

theorem length_lt_length_field
    {cs : List Char}
    (h : cs.any isSpecial = true) :
    cs.length < (field .necessary cs).length := by
  have hquotes := length_le_length_doubleQuotes cs
  simp only [field, h, if_true, List.length_append, List.length_cons, List.length_nil]
  omega

theorem length_le_length_field
    (cs : List Char) :
    cs.length ≤ (field .necessary cs).length := by
  cases h : cs.any isSpecial with
  | true => exact (length_lt_length_field h).le
  | false => rw [field_of_plain .necessary h]

/-- A line ends one character earlier than its fields with a comma behind each. -/
theorem length_intercalate_comma
    (first : List Char)
    (others : List (List Char)) :
    ([','].intercalate (first :: others)).length + 1 =
      ((first :: others).map fun field => field.length + 1).sum := by
  induction others generalizing first with
  | nil => simp
  | cons second others ih =>
      have hrest := ih second
      rw [List.intercalate_cons_cons, List.map_cons, List.sum_cons, ← hrest]
      simp only [List.length_append, List.length_cons, List.length_nil]
      omega

end Lengths

section Records

/-- Whether a record holds a special character. -/
def HoldsSpecial (fields : List (List Char)) : Prop :=
  ∃ cs ∈ fields, cs.any isSpecial = true

theorem record_of_line_ne_nil
    {quoting : Quoting}
    {fields : List (List Char)}
    (hnone : fields ≠ [])
    (hempty : fields ≠ [[]]) :
    record quoting fields = [','].intercalate (fields.map (field quoting)) ++ ['\n'] := by
  have hline : [','].intercalate (fields.map (field quoting)) ≠ [] :=
    fun hline => (line_eq_nil_iff.mp hline).elim hnone hempty
  rw [record, if_neg hline]

/-- Each field of a record takes its characters and one that ends it. -/
theorem length_record
    {quoting : Quoting}
    {fields : List (List Char)}
    (hnone : fields ≠ [])
    (hempty : fields ≠ [[]]) :
    (record quoting fields).length = (fields.map fun cs => (field quoting cs).length + 1).sum := by
  obtain ⟨first, others, rfl⟩ := List.exists_cons_of_ne_nil hnone
  rw [record_of_line_ne_nil hnone hempty, List.length_append, List.map_cons, List.length_singleton,
    length_intercalate_comma, ← List.map_cons, List.map_map]
  rfl

theorem record_of_plain
    {fields : List (List Char)}
    (h : ¬ HoldsSpecial fields) :
    record .never fields = record .necessary fields := by
  have hfields : fields.map (field .never) = fields.map (field .necessary) := by
    refine List.map_congr_left fun cs hmem => ?_
    have hplain : cs.any isSpecial = false :=
      Bool.eq_false_iff.mpr fun hspecial => h ⟨cs, hmem, hspecial⟩
    rw [field_of_plain .never hplain, field_of_plain .necessary hplain]
  rw [record, record, hfields]

/-- A record with a special character is longer with quotes than without. -/
theorem length_record_lt
    {fields : List (List Char)}
    (h : HoldsSpecial fields) :
    (record .never fields).length < (record .necessary fields).length := by
  obtain ⟨cs, hmem, hspecial⟩ := h
  have hnone : fields ≠ [] := List.ne_nil_of_mem hmem
  have hempty : fields ≠ [[]] := by
    rintro rfl
    obtain rfl := List.mem_singleton.mp hmem
    cases hspecial
  rw [length_record hnone hempty, length_record hnone hempty]
  apply List.sum_lt_sum
  · intro other _
    exact Nat.succ_le_succ (length_le_length_field other)
  · exact ⟨cs, hmem, Nat.succ_lt_succ (length_lt_length_field hspecial)⟩

theorem length_record_le
    (fields : List (List Char)) :
    (record .never fields).length ≤ (record .necessary fields).length := by
  by_cases h : HoldsSpecial fields
  · exact (length_record_lt h).le
  · exact (congrArg List.length (record_of_plain h)).le

/-- Two tables are the same exactly if no record of them holds a special character. -/
theorem table_never_eq_iff
    {records : List (List String)} :
    table .never records = table .necessary records ↔
      ∀ fields ∈ records, ¬ HoldsSpecial (fields.map String.toList) := by
  constructor
  · intro h fields hmem hspecial
    have hlt : (table .never records).length < (table .necessary records).length := by
      rw [table, table, List.length_flatMap, List.length_flatMap]
      apply List.sum_lt_sum
      · intro other _
        exact length_record_le _
      · exact ⟨fields, hmem, length_record_lt hspecial⟩
    rw [h] at hlt
    exact lt_irrefl _ hlt
  · intro h
    rw [table, table, List.flatMap_def, List.flatMap_def]
    congr 1
    exact List.map_congr_left fun fields hmem => record_of_plain (h fields hmem)

end Records

end Csv

namespace Report

/-- Whether each record of a report has a field that is not empty, or more than one field. -/
def HasNoEmptyRecord (report : Report) : Prop :=
  ∀ fields ∈ report.headers :: report.rows.map Row.values, fields ≠ [] ∧ fields ≠ [""]

/-- A record of more than nothing is written as its fields with commas between them. -/
theorem record_never
    {fields : List String}
    (hnone : fields ≠ [])
    (hempty : fields ≠ [""]) :
    Csv.record .never (fields.map String.toList) =
      (String.intercalate "," fields ++ "\n").toList := by
  have hline : (fields.map String.toList).map (Csv.field .never) = fields.map String.toList :=
    List.map_id _
  have hchars : fields.map String.toList ≠ [[]] := by
    rintro h
    obtain ⟨field, rfl, hfield⟩ := List.map_eq_singleton_iff.mp h
    exact hempty (by rw [String.toList_eq_nil_iff.mp hfield])
  rw [Csv.record_of_line_ne_nil (by simpa using hnone) hchars, hline, String.toList_append,
    String.toList_intercalate]
  rfl

theorem toCsv_never_eq_join
    {report : Report}
    (h : report.HasNoEmptyRecord) :
    report.toCsv .never =
      String.join
        ((report.headers :: report.rows.map Row.values).map fun fields =>
          String.intercalate "," fields ++ "\n") := by
  rw [← String.toList_inj, toCsv, String.toList_ofList, String.toList_join, Csv.table,
    List.flatMap_map, List.flatMap_def, List.flatMap_def]
  congr 1
  exact List.map_congr_left fun fields hmem => record_never (h fields hmem).1 (h fields hmem).2

theorem toCsv_never_eq_iff
    (report : Report) :
    report.toCsv .never = report.toCsv .necessary ↔
      ∀ fields ∈ report.headers :: report.rows.map Row.values, ∀ field ∈ fields,
        ∀ c ∈ field.toList, c ≠ ',' ∧ c ≠ '"' ∧ c ≠ '\r' ∧ c ≠ '\n' := by
  rw [toCsv, toCsv, String.ofList_inj, Csv.table_never_eq_iff]
  simp [records, Csv.HoldsSpecial, Csv.isSpecial, and_assoc]

theorem hasNoEmptyRecord_assemble
    {documents : DocumentSet}
    (h : ∀ document ∈ documents.documents, document.identifier ≠ "")
    (legend : Legend)
    (uri : String) :
    (assemble documents legend uri).value.HasNoEmptyRecord := by
  intro fields hmem
  rw [value_assemble, List.map_map] at hmem
  rcases List.mem_cons.mp hmem with rfl | hmem
  · simp [Legend.headers, Legend.fileNameHeader]
  · obtain ⟨document, hdocument, rfl⟩ := List.mem_map.mp hmem
    simp [Row.ofOutcomes, h document hdocument]

end Report

/-- A document that is found in a folder is known by the name of its file. -/
theorem Intake.identifier_ne_empty
    {store : Store}
    {folder : Path}
    {children : List Child}
    {found : SourceDocument}
    (h : found ∈ documentsOf store folder children) :
    found.identifier ≠ "" := by
  obtain ⟨p, hp, rfl⟩ := List.mem_map.mp h
  obtain ⟨name, _, hname, _⟩ := exists_endsInName_of_mem_xmlPaths hp
  have hidentifier : p.identifier ≠ "" := by
    rw [hname.identifier_eq]
    exact hname.ne_empty
  exact hidentifier

theorem Request.hasNoEmptyRecord_of_extract
    {request : Request}
    {store : Store}
    {extraction : Extraction}
    (h : (request.extract.run store).value = .ok extraction) :
    extraction.report.HasNoEmptyRecord := by
  have hends := request.extract_ends store
  rw [h] at hends
  cases hends with
  | delivered _ _ _ hdelivered =>
      obtain ⟨children, documents, _, legend, _, hdocuments, _, _, _, hreport⟩ :=
        hdelivered.report_eq
      rw [hreport]
      apply Report.hasNoEmptyRecord_assemble
      intro document hdocument
      rw [hdocuments] at hdocument
      exact Intake.identifier_ne_empty hdocument

/--
Without quoting, the text of a report is the fields of each record with commas between
them, and a line feed behind each record, as long as no record is empty or a single empty
field.  No report of an extraction has such a record.  The text is the same with the
necessary quoting exactly if no header and no value holds a comma, a double quote, a
carriage return or a line feed, whatever the records are.
-/
theorem Report.toCsv_without_quotes :
    (∀ report : Report,
      report.HasNoEmptyRecord →
        report.toCsv .never =
          String.join
            ((report.headers :: report.rows.map Row.values).map fun fields =>
              String.intercalate "," fields ++ "\n")) ∧
    (∀ (request : Request) (store : Store) (extraction : Extraction),
      (request.extract.run store).value = .ok extraction →
        extraction.report.HasNoEmptyRecord) ∧
    (∀ report : Report,
      report.toCsv .never = report.toCsv .necessary ↔
        ∀ fields ∈ report.headers :: report.rows.map Row.values, ∀ field ∈ fields,
          ∀ c ∈ field.toList, c ≠ ',' ∧ c ≠ '"' ∧ c ≠ '\r' ∧ c ≠ '\n') :=
  ⟨fun _ => toCsv_never_eq_join, fun _ _ _ => Request.hasNoEmptyRecord_of_extract,
    toCsv_never_eq_iff⟩

/-- Separators and quotes inside of cells stay as they are, also those of an empty legend's only
column, and the report of a run has a name in every row. -/
theorem Report.toCsv_without_quotes_of_special_cells :
    let report : Report :=
      { headers := ["File Name", "a,b"], rows := [⟨["x.xml", "\"1\"\n2"], []⟩, ⟨["", ""], []⟩] }
    let store : Store :=
      { items :=
          [(["in"], .folder), (["in", "a,b.xml"], .file "<r/>".toUTF8), (["legend"], .file "".toUTF8)]
        home := [] }
    let request : Request := ⟨⟨"in"⟩, ⟨"legend"⟩, none, none, "", .never⟩
    let extracted : Report := ⟨["File Name"], [⟨["a,b.xml"], []⟩]⟩
    report.toCsv .never = "File Name,a,b\nx.xml,\"1\"\n2\n,\n" ∧
      report.toCsv .never ≠ report.toCsv .necessary ∧
      (request.extract.run store).value = .ok ⟨⟨"in/output.csv"⟩, extracted⟩ ∧
      extracted.toCsv .never = "File Name\na,b.xml\n" := by
  intro report store request extracted
  obtain ⟨hjoin, hextract, hsame⟩ := toCsv_without_quotes
  have hrun : (request.extract.run store).value = .ok ⟨⟨"in/output.csv"⟩, extracted⟩ := by
    decide +kernel
  refine ⟨?_, ?_, hrun, ?_⟩
  · exact (hjoin report (by simp [report, HasNoEmptyRecord])).trans (by decide +kernel)
  · rw [Ne, hsame]
    intro h
    exact (h ["File Name", "a,b"] (by simp [report]) "a,b" (by simp) ',' (by decide)).1 rfl
  · exact (hjoin extracted (hextract request store _ hrun)).trans (by decide +kernel)

end LegendReport
