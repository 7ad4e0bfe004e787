import LegendReport.Proofs.Path.Parts

/-!
# Joined paths

A path that is joined from a folder and a relative name goes through the folder first and
then on as the name says.  An absolute name replaces the folder.

The name of an item of a folder is a single part.  A path that is joined from the folder
and such a name ends in it and is known by it in a report, so the items of a folder are
known by different names.
-/

namespace LegendReport

namespace Path

section Joins

variable {name : String}

theorem isAbsolute_mk
    (name : String) :
    (Path.mk name).isAbsolute = true ↔ name.toList.head? = some '/' := by
  simp [isAbsolute]

theorem isAbsolute_join_eq
    (folder : Path)
    (name : String) :
    (folder.join name).isAbsolute = ((Path.mk name).isAbsolute || folder.isAbsolute) := by
  unfold join
  by_cases hname : name.toList.head? = some '/'
  · rw [if_pos hname, (isAbsolute_mk name).mpr hname]
    rfl
  · have hrelative : (Path.mk name).isAbsolute = false := by
      rw [← Bool.not_eq_true, isAbsolute_mk]
      exact hname
    rw [if_neg hname, hrelative, Bool.false_or]
    by_cases hempty : folder.text = ""
    · have hfolder : folder.isAbsolute = false := by
        simp [isAbsolute, hempty]
      rw [if_pos (Or.inl hempty), hempty, String.empty_append, hrelative, hfolder]
    · obtain ⟨first, rest, htext⟩ :=
        List.exists_cons_of_ne_nil (l := folder.text.toList) (by simpa)
      split <;> simp [isAbsolute, htext]

/-- The parts of a relative name come behind those of the folder, empty ones apart. -/
theorem exists_parts_join_eq
    (hname : (Path.mk name).isAbsolute = false)
    (folder : Path) :
    ∃ before,
      (folder.join name).parts = before ++ (Path.mk name).parts ∧
        before.filter (· ≠ []) = folder.parts.filter (· ≠ []) := by
  have hhead : name.toList.head? ≠ some '/' := by
    rw [Ne, ← isAbsolute_mk, hname]
    decide
  unfold join
  rw [if_neg hhead]
  by_cases hempty : folder.text = ""
  · refine ⟨[], ?_, by simp [parts, hempty]⟩
    rw [if_pos (Or.inl hempty), hempty, String.empty_append, List.nil_append]
  · by_cases hslash : folder.endsWithSlash = true
    · have hlast : folder.text.toList.getLast? = some '/' := by
        simpa [endsWithSlash] using hslash
      obtain ⟨lead, hlead⟩ := List.getLast?_eq_some_iff.mp hlast
      have hfolder : folder.parts = lead.splitOn '/' ++ [[]] := by
        rw [parts, hlead, Text.splitOn_append_separator, List.splitOn_nil]
      refine ⟨lead.splitOn '/', ?_, by simp [hfolder]⟩
      rw [if_pos (Or.inr hslash), parts, String.toList_append, hlead, List.append_assoc,
        List.singleton_append, Text.splitOn_append_separator, parts]
    · refine ⟨folder.parts, ?_, rfl⟩
      rw [if_neg (by simp [hempty, hslash]), parts, String.toList_append, String.toList_append,
        List.append_assoc]
      exact Text.splitOn_append_separator '/' folder.text.toList name.toList

theorem steps_join
    (hname : (Path.mk name).isAbsolute = false)
    (folder : Path) :
    (folder.join name).steps = folder.steps ++ (Path.mk name).steps := by
  obtain ⟨before, hparts, hbefore⟩ := exists_parts_join_eq hname folder
  rw [steps, hparts, List.filter_append, hbefore, List.map_append, steps, steps]

/-- A joined path goes through the folder and then on as the name says, unless the name is
absolute. -/
theorem moves_parts_join
    (folder : Path)
    (name : String) :
    moves (folder.join name).parts =
      if (Path.mk name).isAbsolute then moves (Path.mk name).parts
      else moves folder.parts ++ moves (Path.mk name).parts := by
  cases hname : (Path.mk name).isAbsolute with
  | true => rw [join_of_absolute folder name ((isAbsolute_mk name).mp hname), if_pos rfl]
  | false =>
      rw [if_neg Bool.false_ne_true, ← filter_steps, ← filter_steps, ← filter_steps,
        steps_join hname, List.filter_append]

end Joins

section ItemNames

/-- Whether a text is the name of something in a path: a single part that stays at no place and does
not lead upwards. -/
structure IsName (name : String) : Prop where
  ne_empty : name ≠ ""
  ne_dot : name ≠ "."
  ne_dots : name ≠ ".."
  slash_not_mem : '/' ∉ name.toList

/-- Whether a folder can have an item of that name. -/
structure IsItemName (name : String) : Prop where
  ne_empty : name ≠ ""
  ne_dot : name ≠ "."
  ne_dots : name ≠ ".."
  slash_not_mem : '/' ∉ name.toList
  short : name.utf8ByteSize ≤ nameLimit

instance (name : String) : Decidable (IsItemName name) :=
  decidable_of_iff
    (name ≠ "" ∧ name ≠ "." ∧ name ≠ ".." ∧ '/' ∉ name.toList ∧ name.utf8ByteSize ≤ nameLimit)
    ⟨fun ⟨hempty, hdot, hdots, hslash, hshort⟩ => ⟨hempty, hdot, hdots, hslash, hshort⟩,
      fun h => ⟨h.ne_empty, h.ne_dot, h.ne_dots, h.slash_not_mem, h.short⟩⟩

variable {name : String}

theorem isAbsolute_of_slash_not_mem
    (h : '/' ∉ name.toList) :
    (Path.mk name).isAbsolute = false := by
  rw [← Bool.not_eq_true, isAbsolute_mk]
  exact fun hhead => h (List.mem_of_head? hhead)

theorem parts_of_slash_not_mem
    (h : '/' ∉ name.toList) :
    (Path.mk name).parts = [name.toList] :=
  List.splitOn_eq_singleton h

theorem IsItemName.isName
    (h : IsItemName name) :
    IsName name :=
  ⟨h.ne_empty, h.ne_dot, h.ne_dots, h.slash_not_mem⟩

theorem IsName.endsInName_join
    (h : IsName name)
    (folder : Path) :
    (folder.join name).EndsInName name := by
  obtain ⟨before, hparts, _⟩ :=
    exists_parts_join_eq (isAbsolute_of_slash_not_mem h.slash_not_mem) folder
  rw [parts_of_slash_not_mem h.slash_not_mem] at hparts
  exact ⟨by rw [hparts, List.getLast?_concat], h.ne_empty, h.ne_dot, h.ne_dots⟩

theorem endsInName_join
    (h : IsItemName name)
    (folder : Path) :
    (folder.join name).EndsInName name :=
  h.isName.endsInName_join folder

/-- A path to an item of a folder takes one step more than the path to the folder. -/
theorem IsItemName.steps_join
    (h : IsItemName name)
    (folder : Path) :
    (folder.join name).steps = folder.steps ++ [name] := by
  have hstep : (Path.mk name).steps = [name] := by
    rw [steps, parts_of_slash_not_mem h.slash_not_mem]
    simp [h.ne_empty]
  rw [Path.steps_join (isAbsolute_of_slash_not_mem h.slash_not_mem), hstep]

theorem IsItemName.isAbsolute_join
    (h : IsItemName name)
    (folder : Path) :
    (folder.join name).isAbsolute = folder.isAbsolute := by
  rw [isAbsolute_join_eq, isAbsolute_of_slash_not_mem h.slash_not_mem, Bool.false_or]

/-- The name that a path ends in is its file name. -/
theorem EndsInName.fileName?_eq
    {p : Path}
    (h : p.EndsInName name) :
    p.fileName? = some name := by
  obtain ⟨before, hparts⟩ := h.exists_parts_eq
  have hdots : name.toList ≠ ['.', '.'] := by
    intro heq
    exact h.ne_dots (String.toList_inj.mp heq)
  rw [fileName?, hparts, List.reverse_append, List.reverse_singleton, List.singleton_append,
    List.dropWhile_cons_of_neg (by simp [h.not_isIdle])]
  simp [hdots]

/-- In a report a path that ends in a name is known by it. -/
theorem EndsInName.identifier_eq
    {p : Path}
    (h : p.EndsInName name) :
    p.identifier = name :=
  identifier_of_fileName h.fileName?_eq

end ItemNames

end Path

end LegendReport
