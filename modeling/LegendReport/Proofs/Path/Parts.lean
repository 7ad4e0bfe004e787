import LegendReport.Proofs.Text.Pieces
import LegendReport.Report.OutputName
import LegendReport.Store.Basic
import Mathlib.Data.List.DropRight

/-!
# Parts of paths

A path is the sequence of its parts, and none of them holds a slash.  Idle parts
lead nowhere, so what a path goes through are its other parts (`moves`).

A path that ends in a name goes through its folder first: the folder starts where
the path starts and has all moves of the path but the last.  Every path of a report
file ends in a name.
-/

namespace LegendReport

namespace Path

section Parts

variable {p : Path}

theorem parts_ne_nil :
    p.parts ≠ [] :=
  List.splitOn_ne_nil _ _

theorem slash_not_mem_of_mem_parts
    {part : List Char}
    (h : part ∈ p.parts) :
    '/' ∉ part :=
  Text.not_mem_of_mem_splitOn h

theorem toList_text_eq_intercalate :
    p.text.toList = ['/'].intercalate p.parts :=
  (List.intercalate_splitOn '/').symm

theorem exists_intercalate_concat_eq
    (before : List (List Char))
    (last : List Char) :
    ∃ lead, ['/'].intercalate (before ++ [last]) = lead ++ last := by
  induction before with
  | nil => exact ⟨[], by simp⟩
  | cons first rest ih =>
      obtain ⟨lead, hrest⟩ := ih
      refine ⟨first ++ '/' :: lead, ?_⟩
      rw [List.cons_append, List.intercalate_cons_of_ne_nil (by simp), hrest]
      simp

theorem parts_ofParts
    {parts : List (List Char)}
    (hslash : ∀ part ∈ parts, '/' ∉ part)
    (hne : parts ≠ []) :
    (Path.mk (ofParts parts)).parts = parts := by
  rw [Path.parts, ofParts, String.toList_ofList]
  exact List.splitOn_intercalate '/' hslash hne

/-- An absolute path begins with an empty part that others follow. -/
theorem isAbsolute_of_parts
    {first : List Char}
    {rest : List (List Char)}
    (h : p.parts = first :: rest) :
    p.isAbsolute = true ↔ first = [] ∧ rest ≠ [] := by
  have hmem : first ∈ p.parts := by
    simp [h]
  have hfirst : '/' ∉ first := slash_not_mem_of_mem_parts hmem
  rw [isAbsolute, toList_text_eq_intercalate, h]
  cases first with
  | nil => cases rest <;> simp [List.intercalate]
  | cons c cs =>
      have hc : c ≠ '/' := by
        rintro rfl
        simp at hfirst
      cases rest <;> simp [List.intercalate, hc]

end Parts

section Moves

/-- The steps that are not idle among those that parts stand for. -/
def moves (parts : List (List Char)) : List String :=
  (parts.filter fun part => !isIdle part).map String.ofList

theorem moves_append
    (parts parts' : List (List Char)) :
    moves (parts ++ parts') = moves parts ++ moves parts' := by
  simp [moves]

theorem moves_cons_of_isIdle
    {part : List Char}
    (h : isIdle part = true)
    (parts : List (List Char)) :
    moves (part :: parts) = moves parts := by
  simp [moves, h]

/-- Idle parts at the end are no moves. -/
theorem moves_dropIdleEnd
    (parts : List (List Char)) :
    moves (dropIdleEnd parts) = moves parts := by
  have hidle :
      (parts.reverse.takeWhile isIdle).filter (fun part => !isIdle part) = [] := by
    rw [List.filter_eq_nil_iff]
    intro part hmem
    simpa using List.mem_takeWhile_imp hmem
  have hsplit :
      (parts.reverse.dropWhile isIdle).filter (fun part => !isIdle part) =
        parts.reverse.filter fun part => !isIdle part := by
    conv_rhs => rw [← List.takeWhile_append_dropWhile (p := isIdle) (l := parts.reverse)]
    rw [List.filter_append, hidle, List.nil_append]
  rw [moves, dropIdleEnd, List.filter_reverse, hsplit, List.filter_reverse,
    List.reverse_reverse, moves]

theorem ofList_eq_dot_iff
    {part : List Char} :
    String.ofList part = "." ↔ part = ['.'] := by
  rw [← String.toList_inj, String.toList_ofList]
  rfl

/-- The single dot is the only idle step. -/
theorem filter_steps
    (p : Path) :
    p.steps.filter (· ≠ ".") = moves p.parts := by
  rw [steps, moves, List.filter_map, List.filter_filter]
  congr 2
  funext part
  by_cases hempty : part = []
  · simp [isIdle, hempty]
  · by_cases hdot : part = ['.']
    · simp [isIdle, hdot]
    · simp [isIdle, hempty, hdot, ofList_eq_dot_iff]

end Moves

section Names

/-- A path whose last part is the name of an item. -/
structure EndsInName (p : Path) (name : String) : Prop where
  getLast?_parts : p.parts.getLast? = some name.toList
  ne_empty : name ≠ ""
  ne_dot : name ≠ "."
  ne_dots : name ≠ ".."

variable {p : Path} {name : String}

theorem EndsInName.exists_parts_eq
    (h : p.EndsInName name) :
    ∃ before, p.parts = before ++ [name.toList] :=
  List.getLast?_eq_some_iff.mp h.getLast?_parts

theorem EndsInName.not_isIdle
    (h : p.EndsInName name) :
    isIdle name.toList = false := by
  have hempty : name.toList ≠ [] := by
    simpa using h.ne_empty
  have hdot : name.toList ≠ ['.'] := by
    intro heq
    exact h.ne_dot (String.toList_inj.mp heq)
  simp [isIdle, hempty, hdot]

theorem EndsInName.steps_eq
    (h : p.EndsInName name) :
    p.steps = p.steps.dropLast ++ [name] := by
  obtain ⟨before, hparts⟩ := h.exists_parts_eq
  have hempty : name.toList ≠ [] := by
    simpa using h.ne_empty
  simp [steps, hparts, hempty]

theorem EndsInName.endsWithSlash_eq
    (h : p.EndsInName name) :
    p.endsWithSlash = false := by
  obtain ⟨before, hparts⟩ := h.exists_parts_eq
  obtain ⟨lead, htext⟩ := exists_intercalate_concat_eq before name.toList
  have hslash : '/' ∉ name.toList := by
    apply slash_not_mem_of_mem_parts (p := p)
    simp [hparts]
  have hempty : name.toList ≠ [] := by
    simpa using h.ne_empty
  rw [endsWithSlash, toList_text_eq_intercalate, hparts, htext,
    List.getLast?_append_of_ne_nil _ hempty, beq_eq_false_iff_ne]
  intro hlast
  exact hslash (List.mem_of_getLast? hlast)

theorem mem_of_mem_dropIdleEnd
    {part : List Char}
    {parts : List (List Char)}
    (h : part ∈ dropIdleEnd parts) :
    part ∈ parts := by
  rw [dropIdleEnd, List.mem_reverse] at h
  exact List.mem_reverse.mp ((List.dropWhile_sublist isIdle).mem h)

theorem dropIdleEnd_append_of_not_isIdle
    {last : List Char}
    (h : isIdle last = false)
    (before : List (List Char)) :
    dropIdleEnd (before ++ [last]) = before ++ [last] := by
  simp [dropIdleEnd, h]

theorem dropIdleEnd_cons_of_not_isIdle
    {first : List Char}
    (h : isIdle first = false)
    (rest : List (List Char)) :
    dropIdleEnd (first :: rest) = first :: dropIdleEnd rest := by
  rw [dropIdleEnd, List.reverse_cons, List.dropWhile_append]
  split
  · next hempty =>
      have hrest : dropIdleEnd rest = [] := by
        simpa [dropIdleEnd] using hempty
      simp [h, hrest]
  · simp [dropIdleEnd]

/-- The folder of a name behind a part that is not empty. -/
theorem folder_of_parts_of_ne_nil
    (h : isIdle name.toList = false)
    {first : List Char}
    {rest : List (List Char)}
    (hparts : p.parts = first :: (rest ++ [name.toList]))
    (hfirst : first ≠ []) :
    p.folder.parts = first :: dropIdleEnd rest := by
  have hparent : p.parent = ⟨ofParts (first :: dropIdleEnd rest)⟩ := by
    unfold parent
    rw [hparts]
    dsimp only
    rw [if_neg hfirst, dropIdleEnd_append_of_not_isIdle h rest]
    split
    · next hdot => simp [hdot]
    · next hdot =>
        have hidle : isIdle first = false := by
          simp [isIdle, hfirst, hdot]
        rw [dropIdleEnd_cons_of_not_isIdle hidle, dropIdleEnd_append_of_not_isIdle h rest,
          ← List.cons_append, List.dropLast_concat, dropIdleEnd_cons_of_not_isIdle hidle]
  have hparts' : p.parent.parts = first :: dropIdleEnd rest := by
    rw [hparent]
    refine parts_ofParts ?_ (List.cons_ne_nil _ _)
    intro part hmem
    apply slash_not_mem_of_mem_parts (p := p)
    rw [hparts]
    rcases List.mem_cons.mp hmem with rfl | hmem
    · simp
    · simp [mem_of_mem_dropIdleEnd hmem]
  have htext : p.parent.text ≠ "" := by
    intro hempty
    have hsingle : p.parent.parts = [[]] := by
      rw [parts, hempty]
      rfl
    rw [hparts'] at hsingle
    exact hfirst (List.cons.inj hsingle).1
  rw [folder, if_neg htext, hparts']

theorem moves_parts_ofParts
    {parts : List (List Char)}
    (hslash : ∀ part ∈ parts, '/' ∉ part) :
    moves (Path.mk (ofParts parts)).parts = moves parts := by
  cases parts with
  | nil => rfl
  | cons first rest => rw [parts_ofParts hslash (List.cons_ne_nil _ _)]

theorem parts_slash_append
    (text : String) :
    (Path.mk ("/" ++ text)).parts = [] :: (Path.mk text).parts := by
  simp [Path.parts, List.splitOn_cons_eq_if_modifyHead]

/-- The folder of a name behind the root. -/
theorem folder_of_parts_of_nil
    (h : isIdle name.toList = false)
    {rest : List (List Char)}
    (hparts : p.parts = [] :: (rest ++ [name.toList])) :
    p.folder = ⟨"/" ++ ofParts (dropIdleEnd rest)⟩ := by
  have habsolute : p.isAbsolute = true :=
    (isAbsolute_of_parts hparts).mpr ⟨rfl, by simp⟩
  have hparent : p.parent = ⟨"/" ++ ofParts (dropIdleEnd rest)⟩ := by
    unfold parent
    rw [hparts]
    dsimp only
    rw [if_pos rfl, if_pos habsolute, dropIdleEnd_append_of_not_isIdle h rest,
      List.dropLast_concat]
  rw [folder, hparent, if_neg (by simp)]

/-- The folder of a lone name is the working folder. -/
theorem folder_of_parts_of_singleton
    (h : isIdle name.toList = false)
    (hparts : p.parts = [name.toList]) :
    p.folder = ⟨"."⟩ := by
  have hempty : name.toList ≠ [] := by
    intro hnil
    simp [hnil, isIdle] at h
  have hdot : name.toList ≠ ['.'] := by
    intro hdot
    simp [hdot, isIdle] at h
  have hidle : dropIdleEnd [name.toList] = [name.toList] :=
    dropIdleEnd_append_of_not_isIdle h []
  have hparent : p.parent = ⟨""⟩ := by
    unfold parent
    rw [hparts]
    dsimp only
    rw [if_neg hempty, if_neg hdot, hidle]
    rfl
  rw [folder, hparent, if_pos rfl]

/-- The folder of a path starts where the path starts and has all its moves but the last. -/
theorem EndsInName.folder_moves
    (h : p.EndsInName name)
    {before : List (List Char)}
    (hparts : p.parts = before ++ [name.toList]) :
    p.folder.isAbsolute = p.isAbsolute ∧ moves p.folder.parts = moves before := by
  cases before with
  | nil =>
      have habsolute : p.isAbsolute = false := by
        rw [← Bool.not_eq_true, isAbsolute_of_parts hparts]
        simp
      rw [folder_of_parts_of_singleton h.not_isIdle hparts, habsolute]
      exact ⟨rfl, rfl⟩
  | cons first rest =>
      by_cases hfirst : first = []
      · subst hfirst
        have habsolute : p.isAbsolute = true :=
          (isAbsolute_of_parts hparts).mpr ⟨rfl, by simp⟩
        have hslash : ∀ part ∈ dropIdleEnd rest, '/' ∉ part := by
          intro part hmem
          have hpart : part ∈ p.parts := by
            simp [hparts, mem_of_mem_dropIdleEnd hmem]
          exact slash_not_mem_of_mem_parts hpart
        rw [folder_of_parts_of_nil h.not_isIdle hparts, habsolute]
        refine ⟨by simp [isAbsolute], ?_⟩
        rw [parts_slash_append, moves_cons_of_isIdle rfl, moves_cons_of_isIdle rfl,
          moves_parts_ofParts hslash, moves_dropIdleEnd]
      · have hfolder := folder_of_parts_of_ne_nil h.not_isIdle hparts hfirst
        have habsolute : p.folder.isAbsolute = p.isAbsolute := by
          rw [Bool.eq_iff_iff, isAbsolute_of_parts hfolder, isAbsolute_of_parts hparts]
          simp [hfirst]
        refine ⟨habsolute, ?_⟩
        rw [hfolder, ← List.singleton_append, moves_append, moves_dropIdleEnd, ← moves_append,
          List.singleton_append]

/-- The steps of the folder of a path are those of the path without its name, dots apart. -/
theorem EndsInName.filter_steps_folder
    (h : p.EndsInName name) :
    p.folder.steps.filter (· ≠ ".") = p.steps.dropLast.filter (· ≠ ".") := by
  obtain ⟨before, hparts⟩ := h.exists_parts_eq
  have hname : String.ofList name.toList ≠ "." := by
    simpa using h.ne_dot
  have hmoves : p.steps.filter (· ≠ ".") = moves before ++ [name] := by
    rw [filter_steps, hparts, moves_append]
    simp [moves, h.not_isIdle]
  rw [h.steps_eq, List.filter_append] at hmoves
  have hlast : [name].filter (· ≠ ".") = [name] := by
    simp [h.ne_dot]
  rw [hlast] at hmoves
  rw [filter_steps, (h.folder_moves hparts).2, List.append_cancel_right hmoves]

end Names

section Endings

theorem exists_text_join_eq
    (folder : Path)
    (name : String) :
    ∃ before, (folder.join name).text = before ++ name := by
  unfold join
  split
  · exact ⟨"", by simp⟩
  · split
    · exact ⟨folder.text, rfl⟩
    · exact ⟨folder.text ++ "/", rfl⟩

/-- A path that ends in more than two characters without a slash ends in a name that does so. -/
theorem exists_endsInName_of_suffix
    {p : Path}
    {ending : List Char}
    (hslash : '/' ∉ ending)
    (hlength : 2 < ending.length)
    (h : ending <:+ p.text.toList) :
    ∃ name, p.EndsInName name ∧ ending <:+ name.toList := by
  obtain ⟨lead, hlead⟩ := h
  obtain ⟨before, last, _, hparts⟩ := Text.splitOn_append_of_not_mem hslash lead
  rw [hlead] at hparts
  have hlast : (String.ofList (last ++ ending)).toList.length = last.length + ending.length := by
    simp
  have hne : ∀ short : String,
      short.toList.length ≤ 2 → String.ofList (last ++ ending) ≠ short := by
    rintro short hshort rfl
    omega
  refine ⟨String.ofList (last ++ ending), ⟨?_, ?_, ?_, ?_⟩, by simp⟩
  · rw [Path.parts, hparts, List.getLast?_concat, String.toList_ofList]
  · exact hne "" (by decide)
  · exact hne "." (by decide)
  · exact hne ".." (by decide)

/-- Whatever name and folders are chosen, a report goes to a path that ends in a name with the
ending. -/
theorem exists_endsInName_outputPath
    (folder : Path)
    (chosenFolder : Option Path)
    (chosenName : Option String) :
    ∃ name,
      (outputPath folder chosenFolder chosenName).EndsInName name ∧
        ".csv".toList <:+ name.toList := by
  obtain ⟨before, htext⟩ :=
    exists_text_join_eq (chosenFolder.getD folder) (outputName chosenName)
  apply exists_endsInName_of_suffix (by decide) (by decide)
  rw [outputPath, htext, String.toList_append]
  have hending := List.isSuffixOf_iff_suffix.mp (outputName_endsWith chosenName)
  exact hending.trans (List.suffix_append _ _)

end Endings

end Path

end LegendReport
