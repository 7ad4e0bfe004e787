import LegendReport.Command.Table

/-!
# What a table shows

Nothing in a table is cut off.  A table has a width for each of its columns, and a row as
many lines as its highest cell, so each line of each cell stands in the text of the table.
-/

namespace LegendReport

namespace Text

/-- The text between separators stands in the whole. -/
theorem infix_intercalate
    {separator part : String}
    {parts : List String}
    (h : part ∈ parts) :
    part.toList <:+: (String.intercalate separator parts).toList := by
  induction parts with
  | nil => cases h
  | cons first rest ih =>
      by_cases hrest : rest = []
      · subst hrest
        obtain rfl := List.mem_singleton.mp h
        exact ⟨[], [], by simp⟩
      · rw [String.intercalate_cons_of_ne_nil hrest, String.toList_append, String.toList_append]
        rcases List.mem_cons.mp h with rfl | hmem
        · rw [List.append_assoc]
          exact (List.prefix_append _ _).isInfix
        · exact (ih hmem).trans (List.suffix_append _ _).isInfix

theorem infix_join
    {part : String}
    {parts : List String}
    (h : part ∈ parts) :
    part.toList <:+: (String.join parts).toList := by
  rw [String.toList_join, List.flatMap_def]
  exact List.infix_of_mem_flatten (List.mem_map_of_mem h)

end Text

namespace Cell

theorem infix_pad
    (alignment : Alignment)
    (width : Nat)
    (line : String) :
    line.toList <:+: (pad alignment width line).toList := by
  unfold pad
  cases alignment with
  | left =>
      dsimp only
      rw [String.toList_append]
      exact (List.prefix_append _ _).isInfix
  | right =>
      dsimp only
      rw [String.toList_append]
      exact (List.suffix_append _ _).isInfix

end Cell

namespace Table

section Sizes

/-- What grows with each item of a list is in the end no less than it was, and no less than any item
needs. -/
theorem le_foldl
    {α β : Type}
    (f : β → α → β)
    (size : β → Nat)
    (part : α → Nat)
    (hstep : ∀ whole item, max (size whole) (part item) ≤ size (f whole item))
    (items : List α)
    (whole : β) :
    size whole ≤ size (items.foldl f whole) ∧
      ∀ item ∈ items, part item ≤ size (items.foldl f whole) := by
  induction items generalizing whole with
  | nil => simp
  | cons first rest ih =>
      obtain ⟨hwhole, hrest⟩ := ih (f whole first)
      have hfirst := hstep whole first
      rw [List.foldl_cons, List.forall_mem_cons]
      exact ⟨by omega, by omega, hrest⟩

theorem length_maxWidths
    (widths widths' : List Nat) :
    (maxWidths widths widths').length = max widths.length widths'.length := by
  induction widths, widths' using maxWidths.induct with
  | case1 widths => simp [maxWidths]
  | case2 widths hne => simp [maxWidths]
  | case3 w rest w' rest' ih => simp [maxWidths, ih]

/-- There is a width for each cell of each row. -/
theorem length_le_length_widths
    {table : Table}
    {row : List Cell}
    (h : row ∈ table.grid) :
    row.length ≤ table.widths.length := by
  have hstep : ∀ (widths : List Nat) (row : List Cell),
      max widths.length row.length ≤ (maxWidths widths (row.map Cell.width)).length := by
    intro widths row
    exact Nat.le_of_eq (by rw [length_maxWidths, List.length_map])
  exact (le_foldl _ List.length List.length hstep table.grid []).2 row h

theorem length_lines_le
    {row : List Cell}
    {cell : Cell}
    (h : cell ∈ row) :
    cell.lines.length ≤ (row.map (·.lines.length)).foldl max 0 := by
  have hheights := (le_foldl max id id (fun _ _ => Nat.le_refl _) (row.map (·.lines.length)) 0).2
  exact hheights _ (List.mem_map_of_mem h)

end Sizes

section Lines

variable {row : List Cell} {cell : Cell}

theorem infix_textLine
    {widths : List Nat}
    (hlength : row.length ≤ widths.length)
    (hcell : cell ∈ row)
    (index : Nat) :
    (cell.lines.getD index "").toList <:+: (textLine widths row index).toList := by
  obtain ⟨k, hk, rfl⟩ := List.getElem_of_mem hcell
  have hwidth : k < widths.length := Nat.lt_of_lt_of_le hk hlength
  have hpart :
      " " ++ Cell.pad row[k].alignment widths[k] (row[k].lines.getD index "") ++ " " ∈
        List.zipWith
          (fun width (cell : Cell) =>
            " " ++ Cell.pad cell.alignment width (cell.lines.getD index "") ++ " ")
          widths row := by
    rw [List.mem_iff_getElem]
    refine ⟨k, ?_, by simp⟩
    rw [List.length_zipWith]
    omega
  have hpadded :
      (row[k].lines.getD index "").toList <:+:
        (" " ++ Cell.pad row[k].alignment widths[k] (row[k].lines.getD index "") ++
          " ").toList := by
    rw [String.toList_append, String.toList_append]
    exact (Cell.infix_pad _ _ _).trans (List.infix_append _ _ _)
  unfold textLine
  dsimp only
  rw [String.toList_append, String.toList_append]
  exact (hpadded.trans (Text.infix_intercalate hpart)).trans (List.infix_append _ _ _)

theorem exists_infix_rowLines
    {widths : List Nat}
    (hlength : row.length ≤ widths.length)
    (hcell : cell ∈ row)
    {line : String}
    (hline : line ∈ cell.lines) :
    ∃ text ∈ rowLines widths row, line.toList <:+: text.toList := by
  obtain ⟨index, hindex, rfl⟩ := List.getElem_of_mem hline
  have hshown := infix_textLine hlength hcell index
  rw [List.getD_eq_getElem?_getD, List.getElem?_eq_getElem hindex, Option.getD_some] at hshown
  refine ⟨textLine widths row index, List.mem_map.mpr ⟨index, ?_, rfl⟩, hshown⟩
  rw [List.mem_range]
  exact Nat.lt_of_lt_of_le hindex (length_lines_le hcell)

/-- Each line of each cell stands in the text of the table. -/
theorem infix_render
    {table : Table}
    (hrow : row ∈ table.grid)
    (hcell : cell ∈ row)
    {line : String}
    (hline : line ∈ cell.lines) :
    line.toList <:+: table.render.toList := by
  obtain ⟨text, htext, hshown⟩ :=
    exists_infix_rowLines (length_le_length_widths hrow) hcell hline
  have hmem : text ∈ table.lines := by
    unfold lines
    rcases List.mem_cons.mp hrow with rfl | hrow
    · simp [htext]
    · have hrows : text ∈ table.rows.flatMap (rowLines table.widths) :=
        List.mem_flatMap.mpr ⟨row, hrow, htext⟩
      simp [hrows]
  have hended : text.toList <:+: (text ++ "\n").toList := by
    rw [String.toList_append]
    exact (List.prefix_append _ _).isInfix
  exact (hshown.trans hended).trans (Text.infix_join (List.mem_map_of_mem hmem))

end Lines

end Table

end LegendReport
