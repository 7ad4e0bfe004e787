import LegendReport.Proofs.Path.Joining

/-!
# Paths below a folder

A path lies in a folder if it starts where the folder starts and goes through the folder
to a single name.  A name without a slash that is joined to a folder lies in it.  A name
with slashes is itself a path: if it is relative it leads on from the folder, through
other folders or upwards, and if it is absolute the folder is forgotten.

A report file lies in its folder exactly if its name goes through no folder of its own,
or is absolute and spells the folder out.
-/

namespace LegendReport

namespace Text

theorem mem_of_mem_trim
    {c : Char}
    {s : String}
    (h : c ∈ (trim s).toList) :
    c ∈ s.toList := by
  rw [trim, String.toList_ofList] at h
  obtain ⟨tail, hsplit, _⟩ :=
    trimEnd_append_of_all whiteSpace.contains (s.toList.dropWhile whiteSpace.contains)
  have hmem : c ∈ s.toList.dropWhile whiteSpace.contains := by
    rw [hsplit]
    exact List.mem_append_left tail h
  exact (List.dropWhile_sublist _).mem hmem

end Text

/-- The name of a report file has no slash if the chosen name has none. -/
theorem slash_not_mem_outputName
    {chosen : Option String}
    (h : ∀ name ∈ chosen, '/' ∉ name.toList) :
    '/' ∉ (outputName chosen).toList := by
  cases chosen with
  | none => decide
  | some name =>
      have htrimmed : '/' ∉ (Text.trim name).toList := by
        intro hmem
        exact h name rfl (Text.mem_of_mem_trim hmem)
      unfold outputName
      dsimp only
      split
      · decide
      · split
        · exact htrimmed
        · rw [String.toList_append, List.mem_append]
          rintro (hmem | hmem)
          · exact htrimmed hmem
          · exact absurd hmem (by decide)

namespace Path

section Containment

/-- A path that goes through a folder to a single name in it. -/
structure LiesIn (p folder : Path) (name : String) : Prop where
  isAbsolute_eq : p.isAbsolute = folder.isAbsolute
  moves_eq : moves p.parts = moves folder.parts ++ [name]
  ne_dots : name ≠ ".."

theorem EndsInName.exists_moves_eq
    {p : Path}
    {name : String}
    (h : p.EndsInName name) :
    ∃ lead, moves p.parts = lead ++ [name] := by
  obtain ⟨before, hparts⟩ := h.exists_parts_eq
  refine ⟨moves before, ?_⟩
  rw [hparts, moves_append]
  simp [moves, h.not_isIdle]

/-- A path that ends in a name lies in its own folder. -/
theorem EndsInName.liesIn_folder
    {p : Path}
    {name : String}
    (h : p.EndsInName name) :
    p.LiesIn p.folder name where
  isAbsolute_eq := by
    obtain ⟨before, hparts⟩ := h.exists_parts_eq
    exact (h.folder_moves hparts).1.symm
  moves_eq := by
    obtain ⟨before, hparts⟩ := h.exists_parts_eq
    rw [(h.folder_moves hparts).2, hparts, moves_append]
    simp [moves, h.not_isIdle]
  ne_dots := h.ne_dots

/-- Where a joined path lies: a relative name lies in the folder if it goes through nothing else,
an absolute one if it goes through the folder. -/
theorem liesIn_join_iff
    {name last : String}
    {lead : List String}
    (hmoves : moves (Path.mk name).parts = lead ++ [last])
    (hdots : last ≠ "..")
    (folder : Path)
    (single : String) :
    (folder.join name).LiesIn folder single ↔
      single = last ∧
        if (Path.mk name).isAbsolute then
          folder.isAbsolute = true ∧ lead = moves folder.parts
        else lead = [] := by
  constructor
  · intro h
    have hjoined := h.moves_eq
    have hstart := h.isAbsolute_eq
    rw [moves_parts_join, hmoves] at hjoined
    rw [isAbsolute_join_eq] at hstart
    by_cases habsolute : (Path.mk name).isAbsolute = true
    · rw [if_pos habsolute] at hjoined
      obtain ⟨hlead, hlast⟩ := List.append_singleton_inj.mp hjoined
      rw [habsolute, Bool.true_or] at hstart
      rw [if_pos habsolute]
      exact ⟨hlast.symm, hstart.symm, hlead⟩
    · rw [if_neg habsolute] at hjoined
      have hsingle : lead ++ [last] = [] ++ [single] := List.append_cancel_left hjoined
      obtain ⟨hlead, hlast⟩ := List.append_singleton_inj.mp hsingle
      rw [if_neg habsolute]
      exact ⟨hlast.symm, hlead⟩
  · rintro ⟨rfl, hlead⟩
    by_cases habsolute : (Path.mk name).isAbsolute = true
    · rw [if_pos habsolute] at hlead
      refine ⟨?_, ?_, hdots⟩
      · rw [isAbsolute_join_eq, habsolute, hlead.1]
        rfl
      · rw [moves_parts_join, if_pos habsolute, hmoves, hlead.2]
    · rw [if_neg habsolute] at hlead
      refine ⟨?_, ?_, hdots⟩
      · rw [isAbsolute_join_eq, eq_false_of_ne_true habsolute, Bool.false_or]
      · rw [moves_parts_join, if_neg habsolute, hmoves, hlead, List.nil_append]

/-- The name of a report file ends in a name with the ending. -/
theorem exists_endsInName_outputName
    (chosen : Option String) :
    ∃ last, (Path.mk (outputName chosen)).EndsInName last ∧ ".csv".toList <:+ last.toList :=
  exists_endsInName_of_suffix (by decide) (by decide)
    (List.isSuffixOf_iff_suffix.mp (outputName_endsWith chosen))

/-- A name without a slash goes through nothing. -/
theorem EndsInName.eq_of_slash_not_mem
    {name last : String}
    (h : (Path.mk name).EndsInName last)
    (hslash : '/' ∉ name.toList) :
    (Path.mk name).isAbsolute = false ∧ moves (Path.mk name).parts = [last] ∧ last = name := by
  have hparts := parts_of_slash_not_mem hslash
  have hlast : last = name := by
    have hgetLast := h.getLast?_parts
    rw [hparts, List.getLast?_singleton, Option.some.injEq] at hgetLast
    exact String.toList_inj.mp hgetLast.symm
  have hidle := h.not_isIdle
  rw [hlast] at hidle ⊢
  exact ⟨isAbsolute_of_slash_not_mem hslash, by simp [hparts, moves, hidle], rfl⟩

end Containment

end Path

end LegendReport
