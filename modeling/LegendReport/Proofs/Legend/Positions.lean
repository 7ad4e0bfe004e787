import LegendReport.Proofs.Legend.Loading
import LegendReport.Proofs.Text.Pieces
import Mathlib.Data.List.Forall2

/-!
# Lines and columns

A legend has one column for each of its lines, in order, blank lines included.  A line
that is not blank gives its header and a segment for each of its tokens; two spaces side
by side have an empty token between them.

A legend without a column for one of its lines does not load.  The error is that of the
first bad token of the first line that has one, with the number of that line.  So one
list of lines after another gives one legend after another, or an error whose line is
counted on.
-/

namespace LegendReport

section Traversals

variable {α β ε : Type}

/-- A traversal that succeeds has the results of its steps, in order. -/
theorem mapM_eq_ok_iff
    {f : α → Except ε β}
    {xs : List α}
    {ys : List β} :
    xs.mapM f = .ok ys ↔ List.Forall₂ (fun x y => f x = .ok y) xs ys := by
  induction xs generalizing ys with
  | nil => cases ys <;> simp [pure, Except.pure]
  | cons x xs ih =>
      rw [List.mapM_cons, List.forall₂_cons_left_iff]
      cases f x with
      | error cause => simp [bind, Except.bind]
      | ok y =>
          simp only [← ih]
          cases xs.mapM f with
          | error cause => simp [bind, Except.bind]
          | ok rest => simp [bind, Except.bind, pure, Except.pure, eq_comm]

/-- A traversal that fails has the error of its first step that does. -/
theorem mapM_eq_error_iff
    {f : α → Except ε β}
    {xs : List α}
    {cause : ε} :
    xs.mapM f = .error cause ↔
      ∃ before x after,
        xs = before ++ x :: after ∧ (∀ earlier ∈ before, ∃ y, f earlier = .ok y) ∧
          f x = .error cause := by
  constructor
  · intro h
    induction xs with
    | nil => cases h
    | cons x xs ih =>
        rw [List.mapM_cons] at h
        cases hx : f x with
        | error other =>
            rw [hx] at h
            cases h
            exact ⟨[], x, xs, rfl, by simp, hx⟩
        | ok y =>
            cases hxs : xs.mapM f with
            | ok ys => simp [hx, hxs, bind, Except.bind, pure, Except.pure] at h
            | error other =>
                obtain rfl : other = cause := by
                  simpa [hx, hxs, bind, Except.bind] using h
                obtain ⟨before, found, after, rfl, hbefore, hfound⟩ := ih hxs
                exact ⟨x :: before, found, after, rfl,
                  List.forall_mem_cons.mpr ⟨⟨y, hx⟩, hbefore⟩, hfound⟩
  · rintro ⟨before, x, after, rfl, hbefore, hx⟩
    induction before with
    | nil => rw [List.nil_append, List.mapM_cons, hx]; rfl
    | cons first rest ih =>
        rw [List.forall_mem_cons] at hbefore
        obtain ⟨⟨y, hy⟩, hrest⟩ := hbefore
        rw [List.cons_append, List.mapM_cons, hy]
        simp [ih hrest, bind, Except.bind]

end Traversals

namespace Column

section Meaning

/-- The header of a line and its tokens: texts without spaces, between which single spaces stand. -/
structure IsSplit (line header : String) (tokens : List String) : Prop where
  line_eq : line = String.intercalate " " (header :: tokens)
  space_not_mem : ∀ piece ∈ header :: tokens, ' ' ∉ piece.toList

/-- The column of a line: without header and path if it is blank, or else with its header and the
segments of its tokens. -/
inductive Describes (line : String) : Column → Prop where
  | blank
      (hblank : Text.isBlank line = true) :
      Describes line { header := "", path := [] }
  | split
      {header : String}
      {tokens : List String}
      {path : List Segment}
      (hblank : Text.isBlank line = false)
      (hsplit : IsSplit line header tokens)
      (hpath : List.Forall₂ (fun token segment => Segment.ofToken token = .ok segment) tokens path) :
      Describes line { header, path }

/-- What is wrong with the first bad token of a line. -/
inductive FirstFault (line : String) (fault : TokenError) : Prop where
  | token
      {header token : String}
      {before after : List String}
      (hblank : Text.isBlank line = false)
      (hsplit : IsSplit line header (before ++ token :: after))
      (hbefore : ∀ earlier ∈ before, ∃ segment, Segment.ofToken earlier = .ok segment)
      (htoken : Segment.ofToken token = .error fault) :
      FirstFault line fault

end Meaning

section Lines

variable {line : String}

theorem pieces_eq_cons_iff
    {header : String}
    {tokens : List String} :
    Text.pieces ' ' line = header :: tokens ↔ IsSplit line header tokens := by
  have hspace : " ".toList = [' '] := rfl
  rw [Text.pieces_eq_iff, ← hspace, ← String.toList_intercalate, String.toList_inj]
  constructor
  · rintro ⟨_, hline, hfree⟩
    exact ⟨hline, hfree⟩
  · rintro ⟨hline, hfree⟩
    exact ⟨List.cons_ne_nil _ _, hline, hfree⟩

/-- What becomes of a line that is not blank is decided by its tokens. -/
theorem ofLine_of_isSplit
    (hblank : Text.isBlank line = false)
    {header : String}
    {tokens : List String}
    (hsplit : IsSplit line header tokens) :
    ofLine line = (tokens.mapM Segment.ofToken).map fun path => { header, path } := by
  rw [ofLine, hblank, pieces_eq_cons_iff.mpr hsplit]
  rfl

theorem exists_isSplit
    (line : String) :
    ∃ header tokens, IsSplit line header tokens := by
  have hne : Text.pieces ' ' line ≠ [] := (Text.pieces_eq_iff.mp rfl).1
  obtain ⟨header, tokens, hpieces⟩ := List.exists_cons_of_ne_nil hne
  exact ⟨header, tokens, pieces_eq_cons_iff.mp hpieces⟩

theorem ofLine_of_isBlank
    (hblank : Text.isBlank line = true) :
    ofLine line = .ok blank := by
  rw [ofLine, if_pos hblank]

theorem ofLine_eq_ok_iff
    {column : Column} :
    ofLine line = .ok column ↔ Describes line column := by
  constructor
  · intro h
    cases hblank : Text.isBlank line with
    | true =>
        rw [ofLine_of_isBlank hblank] at h
        cases h
        exact .blank hblank
    | false =>
        obtain ⟨header, tokens, hsplit⟩ := exists_isSplit line
        rw [ofLine_of_isSplit hblank hsplit] at h
        cases hpath : tokens.mapM Segment.ofToken with
        | error cause => simp [hpath, Except.map] at h
        | ok path =>
            rw [hpath] at h
            cases h
            exact .split hblank hsplit (mapM_eq_ok_iff.mp hpath)
  · intro h
    cases h with
    | blank hblank => exact ofLine_of_isBlank hblank
    | split hblank hsplit hpath =>
        rw [ofLine_of_isSplit hblank hsplit, mapM_eq_ok_iff.mpr hpath]
        rfl

theorem ofLine_eq_error_iff
    {fault : TokenError} :
    ofLine line = .error fault ↔ FirstFault line fault := by
  constructor
  · intro h
    cases hblank : Text.isBlank line with
    | true =>
        rw [ofLine_of_isBlank hblank] at h
        cases h
    | false =>
        obtain ⟨header, tokens, hsplit⟩ := exists_isSplit line
        rw [ofLine_of_isSplit hblank hsplit] at h
        cases hpath : tokens.mapM Segment.ofToken with
        | ok path => simp [hpath, Except.map] at h
        | error cause =>
            rw [hpath] at h
            cases h
            obtain ⟨before, token, after, rfl, hbefore, htoken⟩ := mapM_eq_error_iff.mp hpath
            exact .token hblank hsplit hbefore htoken
  · rintro ⟨hblank, hsplit, hbefore, htoken⟩
    rw [ofLine_of_isSplit hblank hsplit,
      mapM_eq_error_iff.mpr ⟨_, _, _, rfl, hbefore, htoken⟩]
    rfl

end Lines

end Column

namespace Legend

section Positions

variable {lines : List String}

theorem columnsFrom_eq_ok_iff
    (number : Nat)
    {columns : List Column} :
    (columnsFrom number lines).value = .ok columns ↔
      List.Forall₂ Column.Describes lines columns := by
  induction lines generalizing number columns with
  | nil => cases columns <;> simp [Logged.silent]
  | cons line rest ih =>
      rw [value_columnsFrom_cons, List.forall₂_cons_left_iff]
      simp only [← ih (number + 1), ← Column.ofLine_eq_ok_iff]
      cases Column.ofLine line with
      | error cause => simp
      | ok column =>
          cases (columnsFrom (number + 1) rest).value with
          | error cause => simp [Except.map]
          | ok found => simp [Except.map, eq_comm]

/-- The lines before the first bad one are counted. -/
theorem columnsFrom_eq_error_iff
    (number : Nat)
    {cause : LegendError} :
    (columnsFrom number lines).value = .error cause ↔
      ∃ before line after fault,
        lines = before ++ line :: after ∧ (∀ earlier ∈ before, Column.IsLine earlier) ∧
          Column.FirstFault line fault ∧ cause = .line (number + before.length) fault := by
  constructor
  · intro h
    induction lines generalizing number with
    | nil => cases h
    | cons line rest ih =>
        rw [value_columnsFrom_cons] at h
        cases hline : Column.ofLine line with
        | error fault =>
            rw [hline] at h
            cases h
            exact ⟨[], line, rest, fault, rfl, by simp, Column.ofLine_eq_error_iff.mp hline, rfl⟩
        | ok column =>
            have hfirst := (Column.exists_ofLine_eq_ok_iff line).mp ⟨column, hline⟩
            cases hrest : (columnsFrom (number + 1) rest).value with
            | ok columns => simp [hline, hrest, Except.map] at h
            | error other =>
                obtain rfl : other = cause := by
                  simpa [hline, hrest, Except.map] using h
                obtain ⟨before, bad, after, fault, rfl, hbefore, hfault, rfl⟩ := ih _ hrest
                refine ⟨line :: before, bad, after, fault, rfl,
                  List.forall_mem_cons.mpr ⟨hfirst, hbefore⟩, hfault, ?_⟩
                rw [List.length_cons, Nat.add_right_comm, Nat.add_assoc]
  · rintro ⟨before, line, after, fault, rfl, hbefore, hfault, rfl⟩
    induction before generalizing number with
    | nil =>
        rw [List.nil_append, value_columnsFrom_cons, Column.ofLine_eq_error_iff.mpr hfault]
        rfl
    | cons first rest ih =>
        rw [List.forall_mem_cons] at hbefore
        obtain ⟨column, hfirst⟩ := (Column.exists_ofLine_eq_ok_iff first).mpr hbefore.1
        rw [List.cons_append, value_columnsFrom_cons, hfirst]
        dsimp only
        rw [ih _ hbefore.2, List.length_cons, Nat.add_right_comm, Nat.add_assoc]
        rfl

theorem value_ofLines_eq_ok_iff
    {legend : Legend} :
    (ofLines lines).value = .ok legend ↔
      List.Forall₂ Column.Describes lines legend.columns := by
  obtain ⟨columns⟩ := legend
  rw [← columnsFrom_eq_ok_iff 1]
  simp only [ofLines, Logged.map]
  cases (columnsFrom 1 lines).value with
  | error cause => simp [Except.map]
  | ok found => simp [Except.map]

theorem value_ofLines_eq_error_iff
    {cause : LegendError} :
    (ofLines lines).value = .error cause ↔
      ∃ before line after fault,
        lines = before ++ line :: after ∧ (∀ earlier ∈ before, Column.IsLine earlier) ∧
          Column.FirstFault line fault ∧ cause = .line (before.length + 1) fault := by
  simp only [Nat.add_comm _ 1, ← columnsFrom_eq_error_iff, ofLines, Logged.map]
  cases (columnsFrom 1 lines).value with
  | error other => simp [Except.map]
  | ok columns => simp [Except.map]

/--
A list of lines gives a legend exactly if every line is blank or has nothing but tokens
after its header; the legend then has the column of each line, in order.  Otherwise the
error is that of the first bad token of the first line that has one, and it has the
number of that line.  So what comes after lines that load is added to their legend, or
its error is counted on, and what comes after a bad line does not matter.
-/
theorem ofLines_positional
    (lines more : List String) :
    ((∃ legend, (ofLines lines).value = .ok legend) ↔ ∀ line ∈ lines, Column.IsLine line) ∧
    (∀ legend,
      (ofLines lines).value = .ok legend ↔
        List.Forall₂ Column.Describes lines legend.columns) ∧
    (∀ cause,
      (ofLines lines).value = .error cause ↔
        ∃ before line after fault,
          lines = before ++ line :: after ∧ (∀ earlier ∈ before, Column.IsLine earlier) ∧
            Column.FirstFault line fault ∧ cause = .line (before.length + 1) fault) ∧
    (∀ legend other,
      (ofLines lines).value = .ok legend → (ofLines more).value = .ok other →
        (ofLines (lines ++ more)).value = .ok (legend.append other)) ∧
    (∀ legend cause,
      (ofLines lines).value = .ok legend → (ofLines more).value = .error cause →
        (ofLines (lines ++ more)).value = .error (cause.shift lines.length)) ∧
    (∀ cause,
      (ofLines lines).value = .error cause →
        (ofLines (lines ++ more)).value = .error cause) := by
  refine ⟨exists_ofLines_eq_ok_iff lines, fun _ => value_ofLines_eq_ok_iff,
    fun _ => value_ofLines_eq_error_iff, ?_, ?_, ?_⟩
  · intro legend other hlines hmore
    rw [value_ofLines_eq_ok_iff] at hlines hmore ⊢
    exact List.rel_append hlines hmore
  · intro legend cause hlines hmore
    have hgood := (exists_ofLines_eq_ok_iff lines).mp ⟨legend, hlines⟩
    obtain ⟨before, line, after, fault, rfl, hbefore, hfault, rfl⟩ :=
      value_ofLines_eq_error_iff.mp hmore
    refine value_ofLines_eq_error_iff.mpr
      ⟨lines ++ before, line, after, fault, by simp, ?_, hfault, ?_⟩
    · exact List.forall_mem_append.mpr ⟨hgood, hbefore⟩
    · rw [LegendError.shift, List.length_append, Nat.add_right_comm, Nat.add_comm before.length]
  · intro cause hlines
    obtain ⟨before, line, after, fault, rfl, hbefore, hfault, hcause⟩ :=
      value_ofLines_eq_error_iff.mp hlines
    exact value_ofLines_eq_error_iff.mpr
      ⟨before, line, after ++ more, fault, by simp, hbefore, hfault, hcause⟩

/-- Blank lines are counted, empty tokens are segments, and the first of two bad tokens on the first
of two bad lines is the one in the error. -/
theorem ofLines_positional_of_bad_tokens :
    let lines := ["Age :Person<1>  Birth<2> ", " \t", "Notes"]
    let more := ["", "City A B<0> C>", "D<x>"]
    ∃ legend,
      (ofLines lines).value = .ok legend ∧
        legend.columns.map (fun column => (column.header, column.path.map Segment.name)) =
          [("Age", ["Person", "", "Birth", ""]), ("", []), ("Notes", [])] ∧
        (ofLines (lines ++ more)).value = .error (.line 5 (.zeroIndex "B<0>")) := by
  intro lines more
  obtain ⟨legend, hlegend, hcolumns⟩ :
      ∃ legend : Legend,
        (ofLines lines).value = .ok legend ∧
          legend.columns.map (fun column => (column.header, column.path.map Segment.name)) =
            [("Age", ["Person", "", "Birth", ""]), ("", []), ("Notes", [])] := by
    exact ⟨_, rfl, by decide +kernel⟩
  have hmore : (ofLines more).value = .error (.line 2 (.zeroIndex "B<0>")) := by
    rfl
  obtain ⟨_, _, _, _, hcounted, _⟩ := ofLines_positional lines more
  exact ⟨legend, hlegend, hcolumns, hcounted legend _ hlegend hmore⟩

end Positions

end Legend

end LegendReport
