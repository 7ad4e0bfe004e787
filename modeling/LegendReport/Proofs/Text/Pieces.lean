import LegendReport.Text.Lines
import Mathlib.Data.List.DropRight

/-!
# Pieces of a text

The pieces of a text are what stands between single occurrences of a separator.  They
are the only texts that hold no separator and give the text when separators are put
between them.
-/

namespace LegendReport
namespace Text

section Splitting

theorem not_mem_of_mem_splitOn
    {c : Char}
    {cs part : List Char}
    (h : part ∈ cs.splitOn c) :
    c ∉ part := by
  induction cs generalizing part with
  | nil =>
      obtain rfl : part = [] := by simpa using h
      exact List.not_mem_nil
  | cons first rest ih =>
      obtain ⟨head, tail, hrest⟩ := List.exists_cons_of_ne_nil (List.splitOn_ne_nil c rest)
      rw [List.splitOn_cons_eq_if_modifyHead] at h
      split at h
      · rcases List.mem_cons.mp h with rfl | h
        · exact List.not_mem_nil
        · exact ih h
      · next hfirst =>
          rw [hrest, List.modifyHead_cons] at h
          rcases List.mem_cons.mp h with rfl | h
          · have hhead : c ∉ head := ih (by simp [hrest])
            have hne : c ≠ first := fun heq => hfirst (by simp [heq])
            simp [hne, hhead]
          · exact ih (by simp [hrest, h])

/-- Text without a separator goes to the last piece. -/
theorem splitOn_append_of_not_mem
    {c : Char}
    {suffix : List Char}
    (h : c ∉ suffix)
    (cs : List Char) :
    ∃ before last,
      cs.splitOn c = before ++ [last] ∧
        (cs ++ suffix).splitOn c = before ++ [last ++ suffix] := by
  induction cs with
  | nil => exact ⟨[], [], by simp, by simp [List.splitOn_eq_singleton h]⟩
  | cons first rest ih =>
      obtain ⟨before, last, hrest, happend⟩ := ih
      rw [List.cons_append, List.splitOn_cons_eq_if_modifyHead,
        List.splitOn_cons_eq_if_modifyHead, hrest, happend]
      split
      · exact ⟨[] :: before, last, rfl, rfl⟩
      · cases before with
        | nil => exact ⟨[], first :: last, rfl, rfl⟩
        | cons head before => exact ⟨(first :: head) :: before, last, rfl, rfl⟩

/-- A separator ends the pieces before it and begins those behind it. -/
theorem splitOn_append_separator
    (c : Char)
    (cs rest : List Char) :
    (cs ++ c :: rest).splitOn c = cs.splitOn c ++ rest.splitOn c := by
  induction cs with
  | nil => simp [List.splitOn_cons_eq_if_modifyHead]
  | cons first others ih =>
      rw [List.cons_append, List.splitOn_cons_eq_if_modifyHead,
        List.splitOn_cons_eq_if_modifyHead, ih]
      split
      · rfl
      · obtain ⟨head, tail, hothers⟩ := List.exists_cons_of_ne_nil (List.splitOn_ne_nil c others)
        rw [hothers]
        rfl

end Splitting

section Pieces

theorem pieces_eq_iff
    {separator : Char}
    {s : String}
    {found : List String} :
    pieces separator s = found ↔
      found ≠ [] ∧ s.toList = [separator].intercalate (found.map String.toList) ∧
        ∀ piece ∈ found, separator ∉ piece.toList := by
  unfold pieces
  constructor
  · rintro rfl
    refine ⟨by simp [List.splitOn_ne_nil], ?_, ?_⟩
    · rw [List.map_map]
      simp [Function.comp_def, List.intercalate_splitOn]
    · intro piece hmem
      obtain ⟨part, hpart, rfl⟩ := List.mem_map.mp hmem
      rw [String.toList_ofList]
      exact not_mem_of_mem_splitOn hpart
  · rintro ⟨hne, htext, hfree⟩
    have hsplit : s.toList.splitOn separator = found.map String.toList := by
      rw [htext]
      exact List.splitOn_intercalate separator (by simpa using hfree) (by simpa using hne)
    rw [hsplit, List.map_map]
    simp [Function.comp_def]

end Pieces

end Text
end LegendReport
