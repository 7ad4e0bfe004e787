import LegendReport.Proofs.Legend.Tokens
import LegendReport.Proofs.Legend.WrittenLines
import LegendReport.Proofs.Report.HopelessColumns

/-!
# Warnings about lines

While a legend is read, a warning tells of each line whose column has no path, because
such a column fails in every document.  The characters of the line decide: it is blank,
or it has no space.

A column with a path can fail in every document too.  A token with nothing left for its
name gives a segment that no element meets: an empty token between two spaces or at the
end of a line, a lone colon, a number without a name.  Nothing tells of such a column.
-/

namespace LegendReport

namespace Segment

variable {token : String} {segment : Segment}

/-- Behind its colons the token has nothing, or at once a number in brackets. -/
def IsNameless (token : String) : Prop :=
  let body := token.toList.dropWhile (· == ':')
  body = [] ∨ (body.head? = some '<' ∧ body.getLast? = some '>')

theorem name_eq_empty_iff
    (h : ofToken token = .ok segment) :
    segment.name = "" ↔ IsNameless token := by
  unfold ofToken at h
  unfold IsNameless
  dsimp only at h ⊢
  generalize token.toList.dropWhile (· == ':') = body at h ⊢
  split at h
  · next hlast =>
      obtain ⟨first, behind, rfl⟩ : ∃ first behind, body = first :: behind := by
        refine List.exists_cons_of_ne_nil ?_
        rintro rfl
        cases hlast
      split at h
      · cases h
      · obtain ⟨-, -, -, hname, -⟩ := of_ofNumbered_eq_ok h
        rw [← String.toList_eq_nil_iff, hname]
        simp [hlast]
  · next hlast =>
      cases h
      simp [hlast]

end Segment

namespace Column

variable {line : String} {column : Column}

/-- A line without a path for its column is blank or has no space. -/
theorem Describes.path_eq_nil_iff
    (h : Describes line column) :
    column.path = [] ↔ Text.isBlank line = true ∨ ' ' ∉ line.toList := by
  cases h with
  | blank hblank => exact iff_of_true rfl (Or.inl hblank)
  | @split header tokens path hblank hsplit hpath =>
      have hheader : ' ' ∉ header.toList := hsplit.space_not_mem header List.mem_cons_self
      rw [or_iff_right (by simp [hblank])]
      cases hpath with
      | nil =>
          rw [hsplit.line_eq, String.intercalate_singleton]
          exact iff_of_true rfl hheader
      | cons htoken hrest =>
          rw [hsplit.line_eq, String.intercalate_cons_of_ne_nil (List.cons_ne_nil _ _)]
          simp

end Column

namespace Legend

section Journals

/-- The warning about a line of the given number, if its column has no path. -/
def warning? (number : Nat) (line : String) : Option Event :=
  if Text.isBlank line then some (.blankLegendLine number)
  else if ' ' ∈ line.toList then none
  else some (.pathlessColumn number line)

/-- A journal has a warning with the number of a line. -/
def WarnsOf (journal : List Entry) (number : Nat) : Prop :=
  ∃ entry ∈ journal,
    entry.event.level = .warn ∧ ⟨"line", .count number⟩ ∈ entry.event.fields

variable {number : Nat} {line : String} {lines : List String} {event : Event}

theorem warning?_eq_some_iff :
    warning? number line = some event ↔
      (Text.isBlank line = true ∧ event = .blankLegendLine number) ∨
        (Text.isBlank line = false ∧ ' ' ∉ line.toList ∧ event = .pathlessColumn number line) := by
  unfold warning?
  split
  · next hblank => simp [hblank, eq_comm]
  · next hblank =>
      split
      · next hspace => simp [hblank, hspace]
      · next hspace => simp [hblank, hspace, eq_comm]

theorem exists_warning?_iff
    (number : Nat) :
    (∃ event, warning? number line = some event) ↔
      Text.isBlank line = true ∨ ' ' ∉ line.toList := by
  simp only [warning?_eq_some_iff]
  cases Text.isBlank line <;> simp

theorem level_of_warning?
    (h : warning? number line = some event) :
    event.level = .warn := by
  obtain ⟨-, rfl⟩ | ⟨-, -, rfl⟩ := warning?_eq_some_iff.mp h
  · rfl
  · rfl

/-- A warning has the number of its own line and of no other. -/
theorem mem_fields_of_warning?
    (h : warning? number line = some event)
    (other : Nat) :
    (⟨"line", .count other⟩ : Field) ∈ event.fields ↔ other = number := by
  obtain ⟨-, rfl⟩ | ⟨-, -, rfl⟩ := warning?_eq_some_iff.mp h
  · simp [Event.fields]
  · simp [Event.fields]

/-- What is said of an accepted line can be seen from the line. -/
theorem warnings_eq
    {column : Column}
    (h : Column.Describes line column)
    (number : Nat) :
    Column.warnings number line column = (warning? number line).toList := by
  unfold Column.warnings warning?
  split
  · rfl
  · next hblank =>
      have hpath : column.path = [] ↔ ' ' ∉ line.toList := by
        rw [h.path_eq_nil_iff, or_iff_right hblank]
      split
      · next hnil =>
          have hline := h.line_eq (by simpa using hblank)
          rw [Column.line_of_path_eq_nil hnil] at hline
          rw [if_neg (hpath.mp hnil), hline]
          rfl
      · next hnil =>
          rw [if_pos (not_not.mp (hpath.not.mp hnil))]
          rfl

/-- The warnings about good lines come in order, before those about the lines that follow. -/
theorem journal_columnsFrom_append
    (h : ∀ line ∈ lines, Column.IsLine line)
    (number : Nat)
    (rest : List String) :
    (columnsFrom number (lines ++ rest)).journal =
      ((lines.zipIdx number).filterMap fun entry => warning? entry.2 entry.1).map (⟨[], ·⟩) ++
        (columnsFrom (number + lines.length) rest).journal := by
  induction lines generalizing number with
  | nil => rfl
  | cons line lines ih =>
      rw [List.forall_mem_cons] at h
      obtain ⟨column, hcolumn⟩ := (Column.exists_ofLine_eq_ok_iff line).mpr h.1
      have hwarnings := warnings_eq (Column.ofLine_eq_ok_iff.mp hcolumn) number
      have hlength : number + (line :: lines).length = number + 1 + lines.length := by
        rw [List.length_cons]
        omega
      have hjournal :
          (columnsFrom number (line :: (lines ++ rest))).journal =
            (warning? number line).toList.map (⟨[], ·⟩) ++
              (columnsFrom (number + 1) (lines ++ rest)).journal := by
        rw [columnsFrom, hcolumn, ← hwarnings]
        rfl
      rw [List.cons_append, hjournal, ih h.2 (number + 1), hlength, List.zipIdx_cons,
        List.filterMap_cons]
      cases warning? number line <;> rfl

/-- A legend that loads is read with a warning about each of its lines without a path. -/
theorem journal_ofLines
    {legend : Legend}
    (h : (ofLines lines).value = .ok legend) :
    (ofLines lines).journal =
      ((lines.zipIdx 1).filterMap fun entry => warning? entry.2 entry.1).map (⟨[], ·⟩) := by
  have hlines := (exists_ofLines_eq_ok_iff lines).mp ⟨legend, h⟩
  have hjournal := journal_columnsFrom_append hlines 1 []
  rw [List.append_nil, columnsFrom_nil] at hjournal
  rw [ofLines, Logged.map, hjournal]
  exact List.append_nil _

theorem warnsOf_iff
    {legend : Legend}
    (h : (ofLines lines).value = .ok legend)
    {k : Nat}
    (hline : lines[k]? = some line) :
    WarnsOf (ofLines lines).journal (k + 1) ↔ Text.isBlank line = true ∨ ' ' ∉ line.toList := by
  rw [← exists_warning?_iff (k + 1), WarnsOf, journal_ofLines h]
  constructor
  · rintro ⟨entry, hentry, -, hnumber⟩
    obtain ⟨event, hevent, rfl⟩ := List.mem_map.mp hentry
    obtain ⟨⟨other, number⟩, hmem, hwarning⟩ := List.mem_filterMap.mp hevent
    obtain rfl := (mem_fields_of_warning? hwarning (k + 1)).mp hnumber
    have hother := (List.mk_mem_zipIdx_iff_le_and_getElem?_sub.mp hmem).2
    rw [Nat.add_sub_cancel, hline] at hother
    obtain rfl := Option.some.inj hother
    exact ⟨event, hwarning⟩
  · rintro ⟨event, hwarning⟩
    refine ⟨⟨[], event⟩, ?_, level_of_warning? hwarning,
      (mem_fields_of_warning? hwarning (k + 1)).mpr rfl⟩
    refine List.mem_map.mpr ⟨event, List.mem_filterMap.mpr ⟨(line, k + 1), ?_, hwarning⟩, rfl⟩
    exact List.mk_mem_zipIdx_iff_le_and_getElem?_sub.mpr ⟨Nat.le_add_left 1 k, hline⟩

end Journals

section Silence

/-- The names of a path are not empty if no token of the line is without one. -/
theorem forall_name_ne_empty_iff
    {tokens : List String}
    {path : List Segment}
    (h : List.Forall₂ (fun token segment => Segment.ofToken token = .ok segment) tokens path) :
    (∀ segment ∈ path, segment.name ≠ "") ↔ ∀ token ∈ tokens, ¬ Segment.IsNameless token := by
  induction h with
  | nil => simp
  | cons htoken _ ih =>
      rw [List.forall_mem_cons, List.forall_mem_cons, ih, Ne, Segment.name_eq_empty_iff htoken]

theorem describes_of_getElem?
    {lines : List String}
    {legend : Legend}
    (h : (ofLines lines).value = .ok legend)
    {k : Nat}
    {line : String}
    {column : Column}
    (hline : lines[k]? = some line)
    (hcolumn : legend.columns[k]? = some column) :
    Column.Describes line column := by
  obtain ⟨hk, rfl⟩ := List.getElem?_eq_some_iff.mp hline
  obtain ⟨hk', rfl⟩ := List.getElem?_eq_some_iff.mp hcolumn
  exact (List.forall₂_iff_get.mp (value_ofLines_eq_ok_iff.mp h)).2 k hk hk'

/--
A line of a legend that loads is warned about exactly if its column has no path, and that is
if it is blank or has no space.  The column of any other line has a path, and the segments of
the path have names exactly if the tokens of the line do.  A column fails in every document
if it has a segment without a name, as if it has no path, but no warning tells of it.  All columns
that fail in every document are hopeless: they have no path, or a name that is not proper.
-/
theorem ofLines_silent_columns
    {lines : List String}
    {legend : Legend}
    (h : (ofLines lines).value = .ok legend)
    {k : Nat}
    {line : String}
    {column : Column}
    (hline : lines[k]? = some line)
    (hcolumn : legend.columns[k]? = some column) :
    (WarnsOf (ofLines lines).journal (k + 1) ↔ column.path = []) ∧
    (WarnsOf (ofLines lines).journal (k + 1) ↔ Text.isBlank line = true ∨ ' ' ∉ line.toList) ∧
    (¬ WarnsOf (ofLines lines).journal (k + 1) →
      ((column.path ≠ [] ∧ ∀ segment ∈ column.path, segment.name ≠ "") ↔
        ∀ token ∈ (Text.pieces ' ' line).tail, ¬ Segment.IsNameless token)) ∧
    ((column.path = [] ∨ ∃ segment ∈ column.path, segment.name = "") →
      ∀ uri document, column.FailsIn uri document) ∧
    (∀ uri,
      Xml.IsNamespace uri →
        ((∀ document, column.FailsIn uri document) ↔ column.IsHopeless)) := by
  have hdescribes := describes_of_getElem? h hline hcolumn
  have hwarns := warnsOf_iff h hline
  rw [hwarns, ← hdescribes.path_eq_nil_iff]
  refine ⟨Iff.rfl, Iff.rfl, ?_, ?_, fun _ huri => column.forall_failsIn_iff huri⟩
  · intro hpath
    rw [and_iff_right hpath]
    cases hdescribes with
    | blank hblank => exact absurd rfl hpath
    | split hblank hsplit htokens =>
        rw [Column.pieces_eq_cons_iff.mpr hsplit, List.tail_cons]
        exact forall_name_ne_empty_iff htokens
  · intro hhopeless uri document
    rcases hhopeless with hnil | ⟨segment, hsegment, hname⟩
    · exact Column.IsHopeless.failsIn (Or.inl hnil) uri document
    · exact (Column.isHopeless_of_name_eq_empty hsegment hname).failsIn uri document

/-- The journal tells of a blank line and of a line without a space.  It is silent about tokens with
names, and as silent about the empty token behind a space at the end. -/
theorem ofLines_silent_columns_of_trailing_space :
    let lines := ["\t", "Age", "Age :Person Birth<2>", "Notes "]
    let nameless : Column := ⟨"Notes", [.plain ""]⟩
    let legend : Legend :=
      ⟨[⟨"", []⟩, ⟨"Age", []⟩,
        ⟨"Age", [⟨"Person", true, 0, ":Person"⟩, ⟨"Birth", false, 1, "Birth<2>"⟩]⟩, nameless]⟩
    (ofLines lines).value = .ok legend ∧
      WarnsOf (ofLines lines).journal 1 ∧ WarnsOf (ofLines lines).journal 2 ∧
      ¬ WarnsOf (ofLines lines).journal 3 ∧ ¬ WarnsOf (ofLines lines).journal 4 ∧
      ∀ uri document, nameless.FailsIn uri document := by
  intro lines nameless legend
  have h : (ofLines lines).value = .ok legend := by
    rfl
  have hwarns {k : Nat} {line : String} {column : Column} (hline : lines[k]? = some line)
      (hcolumn : legend.columns[k]? = some column) :=
    (ofLines_silent_columns h hline hcolumn).1
  obtain ⟨_, _, _, hfails, _⟩ := ofLines_silent_columns h (k := 3) rfl rfl
  refine ⟨h, (hwarns (k := 0) rfl rfl).mpr rfl, (hwarns (k := 1) rfl rfl).mpr rfl, ?_, ?_, ?_⟩
  · exact (hwarns (k := 2) rfl rfl).not.mpr (by decide)
  · exact (hwarns (k := 3) rfl rfl).not.mpr (by decide)
  · exact hfails (Or.inr ⟨.plain "", by decide, rfl⟩)

/-- An empty token at the end of a line or between two spaces, a lone colon and a number without a
name are accepted, and no line is warned about. -/
theorem ofLines_accepts_nameless_silently :
    let lines := ["Notes ", "Age  Birth", "City :", "Name <2>"]
    ∃ legend,
      (ofLines lines).value = .ok legend ∧
        (∀ number, ¬ WarnsOf (ofLines lines).journal number) ∧
        ∀ column ∈ legend.columns,
          (∃ segment ∈ column.path, segment.name = "") ∧
            ∀ uri document, column.FailsIn uri document := by
  intro lines
  let legend : Legend :=
    ⟨[⟨"Notes", [.plain ""]⟩, ⟨"Age", [.plain "", .plain "Birth"]⟩, ⟨"City", [⟨"", true, 0, ":"⟩]⟩,
      ⟨"Name", [⟨"", false, 1, "<2>"⟩]⟩]⟩
  have hjournal : (ofLines lines).journal = [] := by
    decide +kernel
  have hnameless : ∀ column ∈ legend.columns, ∃ segment ∈ column.path, segment.name = "" := by
    decide
  refine ⟨legend, rfl, ?_, ?_⟩
  · rintro number ⟨entry, hentry, -⟩
    rw [hjournal] at hentry
    cases hentry
  · intro column hcolumn
    obtain ⟨segment, hsegment, hname⟩ := hnameless column hcolumn
    exact ⟨⟨segment, hsegment, hname⟩,
      (Column.isHopeless_of_name_eq_empty hsegment hname).failsIn⟩

end Silence

end Legend

end LegendReport
