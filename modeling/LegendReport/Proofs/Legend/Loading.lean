import LegendReport.Legend.Reading

/-!
# Legends that load

A legend loads exactly if each of its lines is blank or has nothing but tokens
after its header.  One bad token on one line is enough for the whole legend to
fail.
-/

namespace LegendReport

section Traversals

variable {α β ε : Type}

/-- A traversal succeeds exactly if every step of it does. -/
theorem exists_mapM_eq_ok_iff
    (f : α → Except ε β)
    (xs : List α) :
    (∃ ys, xs.mapM f = .ok ys) ↔ ∀ x ∈ xs, ∃ y, f x = .ok y := by
  induction xs with
  | nil => simp [pure, Except.pure]
  | cons x xs ih =>
      rw [List.forall_mem_cons, ← ih, List.mapM_cons]
      cases f x with
      | error cause => simp [bind, Except.bind]
      | ok y =>
          cases xs.mapM f with
          | error cause => simp [bind, Except.bind]
          | ok ys => simp [bind, Except.bind, pure, Except.pure]

end Traversals

namespace Column

/-- Whether a line describes a column: it is blank, or all that follows its header are tokens. -/
def IsLine (line : String) : Prop :=
  Text.isBlank line = true ∨
    ∀ token ∈ (Text.pieces ' ' line).tail, ∃ segment, Segment.ofToken token = .ok segment

theorem exists_ofLine_eq_ok_iff
    (line : String) :
    (∃ column, ofLine line = .ok column) ↔ IsLine line := by
  unfold ofLine IsLine
  by_cases hblank : Text.isBlank line = true
  · simp [hblank]
  · cases hpieces : Text.pieces ' ' line with
    | nil => simp [hblank]
    | cons header tokens =>
        rw [List.tail_cons, ← exists_mapM_eq_ok_iff]
        cases htokens : tokens.mapM Segment.ofToken with
        | error cause => simp [hblank, htokens, Except.map]
        | ok path => simp [hblank, htokens, Except.map]

end Column

namespace Legend

/-- Whether a text describes a legend: all of its lines describe columns. -/
def IsText (text : String) : Prop :=
  ∀ line ∈ Text.lines text, Column.IsLine line

/-- The first line decides whether the other lines are looked at. -/
theorem value_columnsFrom_cons
    (number : Nat)
    (line : String)
    (rest : List String) :
    (columnsFrom number (line :: rest)).value =
      match Column.ofLine line with
      | .error cause => .error (.line number cause)
      | .ok column => (columnsFrom (number + 1) rest).value.map (column :: ·) := by
  rw [columnsFrom]
  cases Column.ofLine line with
  | error cause => rfl
  | ok column => rfl

theorem exists_columnsFrom_eq_ok_iff
    (number : Nat)
    (lines : List String) :
    (∃ columns, (columnsFrom number lines).value = .ok columns) ↔
      ∀ line ∈ lines, Column.IsLine line := by
  induction lines generalizing number with
  | nil => simp [Logged.silent]
  | cons line rest ih =>
      rw [List.forall_mem_cons, ← ih (number + 1), ← Column.exists_ofLine_eq_ok_iff,
        value_columnsFrom_cons]
      cases Column.ofLine line with
      | error cause => simp
      | ok column =>
          cases (columnsFrom (number + 1) rest).value with
          | error cause => simp [Except.map]
          | ok columns => simp [Except.map]

theorem exists_ofLines_eq_ok_iff
    (lines : List String) :
    (∃ legend, (ofLines lines).value = .ok legend) ↔ ∀ line ∈ lines, Column.IsLine line := by
  unfold ofLines
  rw [← exists_columnsFrom_eq_ok_iff 1]
  cases hcolumns : (columnsFrom 1 lines).value with
  | error cause => simp [Logged.map, hcolumns, Except.map]
  | ok columns => simp [Logged.map, hcolumns, Except.map]

theorem exists_ofText_eq_ok_iff
    (text : String) :
    (∃ legend, (ofText text).value = .ok legend) ↔ IsText text :=
  exists_ofLines_eq_ok_iff (Text.lines text)

end Legend

end LegendReport
