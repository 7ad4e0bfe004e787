import LegendReport.Command.Task
import LegendReport.Legend.Listing
import LegendReport.Legend.Reading
import LegendReport.Proofs.Report.Alignment
import LegendReport.Text.Numeral

/-!
# What the listing of a legend tells

The listing shows all of a legend but the tokens as they were written and the
occurrence of the first segment of each path.  Two legends have the same listing
exactly if they are alike in the rest (`listing_eq_iff`): the lines of a column
begin at its number, and no further line of it has one, so the columns can be
told apart in the listing.

Resolution reads nothing else either.  Legends whose tables have the same rows
therefore give the same report of every set of documents in every namespace.
-/

namespace LegendReport

namespace Segment

/-- Two segments that name the same elements. -/
structure SameName (segment segment' : Segment) : Prop where
  name_eq : segment.name = segment'.name
  qualified_eq : segment.qualified = segment'.qualified

/-- Two segments that name the same elements and pass over as many of them. -/
structure SameStep (segment segment' : Segment) : Prop extends SameName segment segment' where
  occurrence_eq : segment.occurrence = segment'.occurrence

theorem SameName.nameIn_eq
    {segment segment' : Segment}
    (h : segment.SameName segment')
    (uri : String) :
    segment.nameIn uri = segment'.nameIn uri := by
  simp [nameIn, h.name_eq, h.qualified_eq]

/-- Two paths that differ at most in their tokens and in the occurrence of their first segments. -/
inductive SamePath : List Segment → List Segment → Prop
  | nil : SamePath [] []
  | cons
      {first first' : Segment}
      {rest rest' : List Segment}
      (hfirst : first.SameName first')
      (hrest : List.Forall₂ SameStep rest rest') :
      SamePath (first :: rest) (first' :: rest')

end Segment

/-- Two columns with the same header whose paths lead the same way. -/
structure Column.Alike (column column' : Column) : Prop where
  header_eq : column.header = column'.header
  samePath : Segment.SamePath column.path column'.path

/-- Two legends whose columns are alike one by one. -/
def Legend.Alike (legend legend' : Legend) : Prop :=
  List.Forall₂ Column.Alike legend.columns legend'.columns

namespace Resolution

theorem descend_congr
    (uri : String)
    (node : Xml.Node)
    {rest rest' : List Segment}
    (h : List.Forall₂ Segment.SameStep rest rest') :
    descend uri node rest = descend uri node rest' := by
  induction h generalizing node with
  | nil => rfl
  | cons hstep _ ih =>
      simp only [descend, hstep.nameIn_eq uri, hstep.occurrence_eq]
      split
      · next child _ => exact ih child
      · rfl

/-- A path is resolved without a look at its tokens or the occurrence of its first segment. -/
theorem resolve_congr
    (start : Xml.Node)
    (uri : String)
    {path path' : List Segment}
    (h : Segment.SamePath path path') :
    resolve start path uri = resolve start path' uri := by
  cases h with
  | nil => rfl
  | cons hfirst hrest =>
      simp only [resolve, locate, locateAmong, hfirst.nameIn_eq uri, descend_congr uri _ hrest]

end Resolution

theorem Column.Alike.outcomeIn_eq
    {column column' : Column}
    (h : column.Alike column')
    (uri : String)
    (document : SourceDocument) :
    column.outcomeIn uri document = column'.outcomeIn uri document := by
  simp only [outcomeIn, outcome, Resolution.resolve_congr _ uri h.samePath]

/-- Columns that agree one by one have the same list of whatever they agree in. -/
theorem Legend.Alike.map_eq
    {β : Type}
    {legend legend' : Legend}
    (h : legend.Alike legend')
    (f : Column → β)
    (hf : ∀ column column', column.Alike column' → f column = f column') :
    legend.columns.map f = legend'.columns.map f := by
  rw [← List.forall₂_eq_eq_eq, List.forall₂_map_left_iff, List.forall₂_map_right_iff]
  exact h.imp hf

/-- Alike legends give the same reports. -/
theorem Report.assemble_congr
    {legend legend' : Legend}
    (h : legend.Alike legend')
    (documents : DocumentSet)
    (uri : String) :
    (assemble documents legend uri).value = (assemble documents legend' uri).value := by
  have hheaders : legend.headers = legend'.headers := by
    rw [Legend.headers, h.map_eq Column.header fun _ _ hcolumn => hcolumn.header_eq,
      Legend.headers]
  have houtcomes :
      ∀ document : SourceDocument,
        legend.columns.map (·.outcomeIn uri document) =
          legend'.columns.map (·.outcomeIn uri document) := by
    intro document
    exact h.map_eq (·.outcomeIn uri document) fun _ _ hcolumn =>
      hcolumn.outcomeIn_eq uri document
  rw [value_assemble, value_assemble, hheaders]
  simp only [houtcomes]

namespace Legend

section Lines

/-- Whether a line of a listing shows no number, and so goes on with the column before. -/
def continues (line : List String) : Bool :=
  line.head? == some ""

theorem flagLabel_inj
    {flag flag' : Bool} :
    (if flag then "yes" else "no") = (if flag' then "yes" else "no") ↔ flag = flag' := by
  cases flag <;> cases flag' <;> simp

/-- The first line of a column shows the name of the segment only. -/
theorem segmentLine_first_eq_iff
    {number : Nat}
    {header header' : String}
    {segment segment' : Segment} :
    segmentLine number header 0 segment = segmentLine number header' 0 segment' ↔
      header = header' ∧ segment.SameName segment' := by
  simp only [segmentLine, occurrenceLabel, if_true, List.cons.injEq, flagLabel_inj, true_and,
    and_true]
  constructor
  · rintro ⟨hheader, hname, hqualified⟩
    exact ⟨hheader, hname, hqualified⟩
  · rintro ⟨hheader, hname, hqualified⟩
    exact ⟨hheader, hname, hqualified⟩

/-- Each further line shows all there is to a step. -/
theorem segmentLine_later_eq_iff
    {number number' : Nat}
    {header header' : String}
    {position position' : Nat}
    {segment segment' : Segment} :
    segmentLine number header (position + 1) segment =
        segmentLine number' header' (position' + 1) segment' ↔
      segment.SameStep segment' := by
  simp only [segmentLine, occurrenceLabel, Nat.add_eq_zero_iff, one_ne_zero, and_false, if_false,
    List.cons.injEq, flagLabel_inj, Text.toString_inj, Nat.add_right_cancel_iff, true_and,
    and_true]
  constructor
  · rintro ⟨hname, hqualified, hoccurrence⟩
    exact ⟨⟨hname, hqualified⟩, hoccurrence⟩
  · rintro ⟨⟨hname, hqualified⟩, hoccurrence⟩
    exact ⟨hname, hqualified, hoccurrence⟩

theorem segmentLines_later_eq_iff
    {number number' : Nat}
    {header header' : String}
    {position position' : Nat}
    {rest rest' : List Segment} :
    segmentLines number header (position + 1) rest =
        segmentLines number' header' (position' + 1) rest' ↔
      List.Forall₂ Segment.SameStep rest rest' := by
  induction rest generalizing position position' rest' with
  | nil => cases rest' <;> simp [segmentLines]
  | cons segment rest ih =>
      cases rest' with
      | nil => simp [segmentLines]
      | cons segment' rest' =>
          rw [segmentLines, segmentLines, List.cons.injEq, segmentLine_later_eq_iff, ih,
            List.forall₂_cons]

/-- A segment always says whether it is in the namespace, so no path is like none. -/
theorem segmentLine_ne_pathless
    (number number' : Nat)
    (header header' : String)
    (position : Nat)
    (segment : Segment) :
    segmentLine number header position segment ≠
      [toString number', header', "(no path)", "", ""] := by
  intro h
  simp only [segmentLine, List.cons.injEq] at h
  obtain ⟨_, _, _, hflag, _⟩ := h
  cases hqualified : segment.qualified <;> simp [hqualified] at hflag

theorem columnLines_eq_iff
    {number : Nat}
    {column column' : Column} :
    columnLines number column = columnLines number column' ↔ column.Alike column' := by
  obtain ⟨header, path⟩ := column
  obtain ⟨header', path'⟩ := column'
  constructor
  · intro h
    cases path with
    | nil =>
        cases path' with
        | nil =>
            have hheader : header = header' := by
              simpa [columnLines] using h
            exact ⟨hheader, .nil⟩
        | cons first' rest' =>
            rw [columnLines, columnLines, if_pos rfl, if_neg (List.cons_ne_nil _ _),
              segmentLines, List.cons.injEq] at h
            exact absurd h.1.symm (segmentLine_ne_pathless _ _ _ _ _ _)
    | cons first rest =>
        cases path' with
        | nil =>
            rw [columnLines, columnLines, if_pos rfl, if_neg (List.cons_ne_nil _ _),
              segmentLines, List.cons.injEq] at h
            exact absurd h.1 (segmentLine_ne_pathless _ _ _ _ _ _)
        | cons first' rest' =>
            rw [columnLines, columnLines, if_neg (List.cons_ne_nil _ _),
              if_neg (List.cons_ne_nil _ _), segmentLines, segmentLines, List.cons.injEq,
              segmentLine_first_eq_iff, segmentLines_later_eq_iff] at h
            obtain ⟨⟨hheader, hfirst⟩, hrest⟩ := h
            exact ⟨hheader, .cons hfirst hrest⟩
  · rintro ⟨hheader, hpath⟩
    cases hpath with
    | nil => simpa [columnLines] using hheader
    | cons hfirst hrest =>
        rw [columnLines, columnLines, if_neg (List.cons_ne_nil _ _),
          if_neg (List.cons_ne_nil _ _), segmentLines, segmentLines, List.cons.injEq,
          segmentLine_first_eq_iff, segmentLines_later_eq_iff]
        exact ⟨⟨hheader, hfirst⟩, hrest⟩

theorem continues_segmentLines_later
    (number : Nat)
    (header : String)
    (position : Nat)
    (rest : List Segment) :
    ∀ line ∈ segmentLines number header (position + 1) rest, continues line = true := by
  induction rest generalizing position with
  | nil => simp [segmentLines]
  | cons segment rest ih =>
      intro line hmem
      rw [segmentLines] at hmem
      rcases List.mem_cons.mp hmem with rfl | hmem
      · simp [segmentLine, continues]
      · exact ih (position + 1) line hmem

/-- The lines of a column begin with its number, which is shown once. -/
theorem exists_columnLines_eq_cons
    (number : Nat)
    (column : Column) :
    ∃ first others,
      columnLines number column = first :: others ∧ continues first = false ∧
        ∀ line ∈ others, continues line = true := by
  unfold columnLines
  cases hpath : column.path with
  | nil =>
      refine ⟨_, [], rfl, ?_, by simp⟩
      simp [continues, Nat.repr_ne_empty]
  | cons first rest =>
      rw [if_neg (List.cons_ne_nil _ _), segmentLines]
      refine ⟨_, _, rfl, ?_, continues_segmentLines_later number column.header 0 rest⟩
      simp [segmentLine, continues, Nat.repr_ne_empty]

/-- The lines that go on with a column end where the lines of the next one begin. -/
theorem span_append_linesFrom
    {others : List (List String)}
    (hothers : ∀ line ∈ others, continues line = true)
    (number : Nat)
    (rest : List Column) :
    (others ++ linesFrom number rest).takeWhile continues = others ∧
      (others ++ linesFrom number rest).dropWhile continues = linesFrom number rest := by
  have hnext :
      (linesFrom number rest).takeWhile continues = [] ∧
        (linesFrom number rest).dropWhile continues = linesFrom number rest := by
    cases rest with
    | nil => simp [linesFrom]
    | cons next rest =>
        obtain ⟨first, others, hlines, hfirst, _⟩ := exists_columnLines_eq_cons number next
        simp [linesFrom, hlines, hfirst]
  rw [List.takeWhile_append_of_pos hothers, List.dropWhile_append_of_pos hothers, hnext.1,
    hnext.2, List.append_nil]
  exact ⟨rfl, rfl⟩

theorem linesFrom_cons_eq_iff
    {number : Nat}
    {column column' : Column}
    {rest rest' : List Column} :
    linesFrom number (column :: rest) = linesFrom number (column' :: rest') ↔
      columnLines number column = columnLines number column' ∧
        linesFrom (number + 1) rest = linesFrom (number + 1) rest' := by
  constructor
  · intro h
    obtain ⟨first, others, hlines, _, hothers⟩ := exists_columnLines_eq_cons number column
    obtain ⟨first', others', hlines', _, hothers'⟩ := exists_columnLines_eq_cons number column'
    rw [linesFrom, linesFrom, hlines, hlines', List.cons_append, List.cons_append,
      List.cons.injEq] at h
    obtain ⟨hfirst, htail⟩ := h
    -- Only lines that continue a column show no number, so both listings are cut at one place.
    obtain ⟨htake, hdrop⟩ := span_append_linesFrom hothers (number + 1) rest
    obtain ⟨htake', hdrop'⟩ := span_append_linesFrom hothers' (number + 1) rest'
    rw [htail] at htake hdrop
    rw [hlines, hlines', hfirst]
    exact ⟨by rw [← htake, htake'], by rw [← hdrop, hdrop']⟩
  · rintro ⟨hcolumn, hrest⟩
    rw [linesFrom, linesFrom, hcolumn, hrest]

theorem linesFrom_eq_iff
    {number : Nat}
    {columns columns' : List Column} :
    linesFrom number columns = linesFrom number columns' ↔
      List.Forall₂ Column.Alike columns columns' := by
  induction columns generalizing number columns' with
  | nil =>
      cases columns' with
      | nil => simp [linesFrom]
      | cons column' rest' =>
          obtain ⟨first, others, hlines, _⟩ := exists_columnLines_eq_cons number column'
          simp [linesFrom, hlines]
  | cons column rest ih =>
      cases columns' with
      | nil =>
          obtain ⟨first, others, hlines, _⟩ := exists_columnLines_eq_cons number column
          simp [linesFrom, hlines]
      | cons column' rest' =>
          rw [linesFrom_cons_eq_iff, columnLines_eq_iff, ih, List.forall₂_cons]

/-- The listing tells legends apart exactly if they are not alike. -/
theorem listing_eq_iff
    {legend legend' : Legend} :
    legend.listing = legend'.listing ↔ legend.Alike legend' :=
  linesFrom_eq_iff

end Lines

/-- The table of a legend shows the lines of its listing, and nothing is lost in its cells. -/
theorem rows_legendTable_eq_iff
    {legend legend' : Legend} :
    (Command.legendTable legend).rows = (Command.legendTable legend').rows ↔
      legend.listing = legend'.listing := by
  have hcell : Function.Injective Cell.left := by
    intro text text' heq
    exact congrArg Cell.text heq
  exact (hcell.list_map.list_map).eq_iff

/--
Legends that are shown in the same table rows differ at most in what resolution does
not read, and every set of documents has the same report under both, in every
namespace.
-/
theorem assemble_eq_of_listing_eq
    {legend legend' : Legend}
    (h : (Command.legendTable legend).rows = (Command.legendTable legend').rows) :
    legend.Alike legend' ∧
    ∀ (documents : DocumentSet) (uri : String),
      (Report.assemble documents legend uri).value =
        (Report.assemble documents legend' uri).value := by
  have halike : legend.Alike legend' := listing_eq_iff.mp (rows_legendTable_eq_iff.mp h)
  exact ⟨halike, Report.assemble_congr halike⟩

/-- Spellings and first occurrences that the listing hides do not show in a report. -/
theorem assemble_eq_of_listing_eq_of_spellings :
    let legend : Legend :=
      ⟨[⟨"Age", [⟨"A", true, 4, ":A<5>"⟩, ⟨"B", false, 0, "B"⟩]⟩, ⟨"", []⟩]⟩
    let legend' : Legend :=
      ⟨[⟨"Age", [⟨"A", true, 0, "::A"⟩, ⟨"B", false, 0, "B<1>"⟩]⟩, ⟨"", []⟩]⟩
    let documents : DocumentSet :=
      ⟨[.ofText "a.xml" "<r xmlns:n='u'><n:A><B>7</B></n:A></r>"], by simp⟩
    (ofLines ["Age :A<5> B", " "]).value = .ok legend ∧
      (ofLines ["Age ::A B<1>", " "]).value = .ok legend' ∧
      legend ≠ legend' ∧
      (Report.assemble documents legend "u").value =
        (Report.assemble documents legend' "u").value := by
  intro legend legend' documents
  refine ⟨by rfl, by rfl, by decide, ?_⟩
  have hrows : (Command.legendTable legend).rows = (Command.legendTable legend').rows := by
    rfl
  exact (assemble_eq_of_listing_eq hrows).2 documents "u"

end Legend

end LegendReport
