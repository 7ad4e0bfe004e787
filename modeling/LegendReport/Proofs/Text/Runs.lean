import LegendReport.Text.Blank
import Mathlib.Data.List.DropRight

/-!
# Runs of characters

A text begins and ends with a run of any given character, which may be empty.  To drop
the run is to keep the rest, and the first character that does not belong to a run ends
it.
-/

namespace LegendReport
namespace Text

section Edges

variable {c : Char} {rest : List Char}

/-- What stands behind the run of a character at the beginning does not begin with it. -/
theorem exists_replicate_append
    (c : Char)
    (cs : List Char) :
    ∃ count rest, cs = List.replicate count c ++ rest ∧ rest.head? ≠ some c := by
  induction cs with
  | nil => exact ⟨0, [], rfl, by simp⟩
  | cons first cs ih =>
      by_cases hfirst : first = c
      · obtain ⟨count, rest, rfl, hrest⟩ := ih
        exact ⟨count + 1, rest, by rw [hfirst, List.replicate_succ, List.cons_append], hrest⟩
      · exact ⟨0, first :: cs, rfl, by simpa using hfirst⟩

/-- What stands before the run of a character at the end does not end with it. -/
theorem exists_append_replicate
    (c : Char)
    (cs : List Char) :
    ∃ rest count, cs = rest ++ List.replicate count c ∧ rest.getLast? ≠ some c := by
  obtain ⟨count, rest, hreverse, hrest⟩ := exists_replicate_append c cs.reverse
  refine ⟨rest.reverse, count, ?_, by simpa using hrest⟩
  rw [← List.reverse_reverse cs, hreverse, List.reverse_append, List.reverse_replicate]

theorem dropWhile_replicate_append
    (h : rest.head? ≠ some c)
    (count : Nat) :
    (List.replicate count c ++ rest).dropWhile (· == c) = rest := by
  rw [List.dropWhile_append_of_pos (by simp [List.mem_replicate])]
  cases rest with
  | nil => rfl
  | cons first rest =>
      have hfirst : first ≠ c := by
        simpa using h
      rw [List.dropWhile_cons_of_neg (by simpa using hfirst)]

theorem trimEnd_append_replicate
    (h : rest.getLast? ≠ some c)
    (count : Nat) :
    trimEnd (· == c) (rest ++ List.replicate count c) = rest := by
  rw [trimEnd, List.reverse_append, List.reverse_replicate,
    dropWhile_replicate_append (by simpa using h), List.reverse_reverse]

end Edges

section Ends

/-- A run of characters is taken up to the first that does not belong to it. -/
theorem takeWhile_dropWhile_append
    {keep : Char → Bool}
    {run : List Char}
    (hrun : ∀ c ∈ run, keep c = true)
    {c : Char}
    (hc : keep c = false)
    (rest : List Char) :
    (run ++ c :: rest).takeWhile keep = run ∧ (run ++ c :: rest).dropWhile keep = c :: rest := by
  rw [List.takeWhile_append_of_pos hrun, List.dropWhile_append_of_pos hrun,
    List.takeWhile_cons_of_neg (by simp [hc]), List.dropWhile_cons_of_neg (by simp [hc])]
  simp

theorem bne_of_not_mem
    {c : Char}
    {cs : List Char}
    (h : c ∉ cs) :
    ∀ d ∈ cs, (d != c) = true := by
  intro d hd
  rw [bne_iff_ne]
  rintro rfl
  exact h hd

/-- The same for a run up to a character that ends it. -/
theorem takeWhile_dropWhile_of_not_mem
    {c : Char}
    {run : List Char}
    (h : c ∉ run)
    (rest : List Char) :
    (run ++ c :: rest).takeWhile (· != c) = run ∧
      (run ++ c :: rest).dropWhile (· != c) = c :: rest :=
  takeWhile_dropWhile_append (bne_of_not_mem h) (by simp) rest

end Ends

section Pairs

variable {c : Char} {rest : List Char}

/-- A text begins with a character twice if the run it begins with is that long. -/
theorem pair_prefix_iff
    (h : rest.head? ≠ some c)
    (count : Nat) :
    [c, c] <+: List.replicate count c ++ rest ↔ 1 < count := by
  match count with
  | 0 =>
    have hrest : ¬ [c, c] <+: rest := by
      rintro ⟨behind, rfl⟩
      exact h rfl
    simpa using hrest
  | 1 =>
    have hrest : ¬ [c] <+: rest := by
      rintro ⟨behind, rfl⟩
      exact h rfl
    simpa using hrest
  | count + 2 => simp [List.replicate_succ]

theorem pair_suffix_iff
    (h : rest.getLast? ≠ some c)
    (count : Nat) :
    [c, c] <:+ rest ++ List.replicate count c ↔ 1 < count := by
  rw [← List.reverse_prefix, List.reverse_append, List.reverse_replicate]
  exact pair_prefix_iff (by simpa using h) count

/-- A text has a character twice in a row if the only run of it is that long. -/
theorem pair_infix_iff
    {start : List Char}
    (hstart : c ∉ start)
    (hrest : c ∉ rest)
    (count : Nat) :
    [c, c] <:+: start ++ List.replicate count c ++ rest ↔ 1 < count := by
  constructor
  · intro h
    have hcount := h.sublist.count_le c
    rw [List.count_append, List.count_append, List.count_eq_zero.mpr hstart,
      List.count_eq_zero.mpr hrest, List.count_replicate_self] at hcount
    have hpair : [c, c].count c = 2 := by
      simp
    omega
  · intro h
    obtain ⟨more, rfl⟩ := Nat.exists_eq_add_of_le h
    refine ⟨start, List.replicate more c ++ rest, ?_⟩
    rw [List.replicate_add]
    simp [List.replicate_succ]

end Pairs

end Text
end LegendReport
