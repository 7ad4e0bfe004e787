import LegendReport.Intake
import LegendReport.Proofs.Path.Joining
import Mathlib.Data.List.TakeWhile

/-!
# Names of documents

A document is known by the last move of its path.  If there is no move, or if the last one
leads upwards, it is known by the whole path.

In the text of the path that name begins the path or follows a slash, and behind it come only
slashes and single dots.  The name of a name is the name itself, so nothing changes if it is
taken twice.  A file of a folder is known by its name there, so the documents of one folder
are known by different names.
-/

namespace LegendReport

namespace Path

section Meaning

/-- The text of a path has the name behind nothing or a slash, and behind the name there is nothing or
a slash and parts that lead nowhere. -/
structure HasLastName (p : Path) (name : String) : Prop where
  isName : IsName name
  exists_text_eq :
    ∃ before after,
      p.text = before ++ name ++ after ∧
        (before = "" ∨ before.toList.getLast? = some '/') ∧
        (after = "" ∨ after.toList.head? = some '/') ∧ moves (Path.mk after).parts = []

end Meaning

section Moves

variable {parts : List (List Char)} {name : String}

theorem ofList_eq_dots_iff
    {part : List Char} :
    String.ofList part = ".." ↔ part = ['.', '.'] := by
  rw [← String.toList_inj, String.toList_ofList]
  rfl

/-- The last move is the first part that is not idle, seen from the end. -/
theorem getLast?_moves
    (parts : List (List Char)) :
    (moves parts).getLast? =
      (parts.reverse.dropWhile isIdle).head?.map String.ofList := by
  rw [moves, List.getLast?_map, List.getLast?_filter, List.find?_not_eq_head?_dropWhile]

/-- Behind the last move there are idle parts only. -/
theorem exists_parts_eq_of_getLast?_moves
    (h : (moves parts).getLast? = some name) :
    ∃ before after,
      parts = before ++ name.toList :: after ∧ isIdle name.toList = false ∧
        ∀ part ∈ after, isIdle part = true := by
  rw [moves, List.getLast?_map, Option.map_eq_some_iff] at h
  obtain ⟨last, hlast, rfl⟩ := h
  rw [List.getLast?_filter, List.find?_eq_some_iff_append] at hlast
  obtain ⟨hmove, after, before, hreverse, hafter⟩ := hlast
  rw [String.toList_ofList]
  refine ⟨before.reverse, after.reverse, ?_, by simpa using hmove, by simpa using hafter⟩
  rw [← List.reverse_reverse parts, hreverse]
  simp

theorem moves_eq_nil_of_isIdle
    (h : ∀ part ∈ parts, isIdle part = true) :
    moves parts = [] := by
  rw [moves, List.map_eq_nil_iff, List.filter_eq_nil_iff]
  simpa using h

end Moves

section FileNames

variable {p : Path} {name : String}

/-- The file name of a path is its last move, if that does not lead upwards. -/
theorem fileName?_eq_some_iff :
    p.fileName? = some name ↔ (moves p.parts).getLast? = some name ∧ name ≠ ".." := by
  rw [getLast?_moves, fileName?]
  cases p.parts.reverse.dropWhile isIdle with
  | nil => simp
  | cons last rest =>
      dsimp only
      split
      · next hdots => simp [hdots, eq_comm]
      · next hdots =>
          rw [← ofList_eq_dots_iff] at hdots
          simp only [List.head?_cons, Option.map_some, Option.some.injEq]
          constructor
          · rintro rfl
            exact ⟨rfl, hdots⟩
          · exact And.left

theorem fileName?_eq_none_iff :
    p.fileName? = none ↔ moves p.parts = [] ∨ (moves p.parts).getLast? = some ".." := by
  rw [← List.getLast?_eq_none_iff, Option.eq_none_iff_forall_ne_some]
  simp only [Ne, fileName?_eq_some_iff]
  cases (moves p.parts).getLast? with
  | none => simp
  | some last => simp

end FileNames

section Texts

variable {p : Path} {name : String}

/-- Slashes stand behind the parts before a part and before the parts behind it. -/
theorem intercalate_slash_append
    (before : List (List Char))
    (part : List Char)
    (after : List (List Char)) :
    ['/'].intercalate (before ++ part :: after) =
      before.flatMap (· ++ ['/']) ++ part ++ after.flatMap ('/' :: ·) := by
  induction before with
  | nil =>
      induction after generalizing part with
      | nil => simp
      | cons next after ih =>
          have hnext := ih next
          rw [List.nil_append] at hnext ⊢
          rw [List.intercalate_cons_of_ne_nil (List.cons_ne_nil _ _), hnext]
          simp
  | cons first before ih =>
      rw [List.cons_append, List.intercalate_cons_of_ne_nil (by simp), ih]
      simp

theorem isName_of_mem_parts
    (h : name.toList ∈ p.parts)
    (hidle : isIdle name.toList = false)
    (hdots : name ≠ "..") :
    IsName name where
  ne_empty := by
    rintro rfl
    simp [isIdle] at hidle
  ne_dot := by
    rintro rfl
    simp [isIdle] at hidle
  ne_dots := hdots
  slash_not_mem := slash_not_mem_of_mem_parts h

theorem hasLastName_of_getLast?_moves
    (h : (moves p.parts).getLast? = some name)
    (hdots : name ≠ "..") :
    p.HasLastName name := by
  obtain ⟨before, after, hparts, hidle, hafter⟩ := exists_parts_eq_of_getLast?_moves h
  refine ⟨isName_of_mem_parts (p := p) (by simp [hparts]) hidle hdots, ?_⟩
  refine ⟨String.ofList (before.flatMap (· ++ ['/'])), ofParts ([] :: after), ?_, ?_, ?_, ?_⟩
  · rw [← String.toList_inj, toList_text_eq_intercalate, hparts, intercalate_slash_append, ofParts,
      ← List.nil_append ([] :: after), intercalate_slash_append]
    simp
  · rcases List.eq_nil_or_concat before with rfl | ⟨rest, last, rfl⟩
    · exact Or.inl rfl
    · exact Or.inr (by simp)
  · cases after with
    | nil => exact Or.inl rfl
    | cons next after =>
        refine Or.inr ?_
        rw [ofParts, List.intercalate_cons_of_ne_nil (List.cons_ne_nil _ _)]
        simp
  · have hslash : ∀ part ∈ [] :: after, '/' ∉ part := by
      intro part hmem
      rcases List.mem_cons.mp hmem with rfl | hmem
      · exact List.not_mem_nil
      · apply slash_not_mem_of_mem_parts (p := p)
        simp [hparts, hmem]
    rw [moves_parts_ofParts hslash, moves_cons_of_isIdle rfl, moves_eq_nil_of_isIdle hafter]

end Texts

section Identifiers

variable {p : Path} {name : String}

theorem IsName.identifier_join
    (h : IsName name)
    (folder : Path) :
    (folder.join name).identifier = name :=
  (h.endsInName_join folder).identifier_eq

theorem IsName.endsInName_mk
    (h : IsName name) :
    (Path.mk name).EndsInName name where
  getLast?_parts := by
    rw [parts_of_slash_not_mem h.slash_not_mem]
    rfl
  ne_empty := h.ne_empty
  ne_dot := h.ne_dot
  ne_dots := h.ne_dots

/-- A name is known by itself. -/
theorem IsName.identifier_mk
    (h : IsName name) :
    (Path.mk name).identifier = name :=
  h.endsInName_mk.identifier_eq

theorem IsName.moves_parts
    (h : IsName name) :
    moves (Path.mk name).parts = [name] := by
  rw [parts_of_slash_not_mem h.slash_not_mem]
  simp [moves, h.endsInName_mk.not_isIdle]

theorem identifier_of_fileName?_eq_none
    (h : p.fileName? = none) :
    p.identifier = p.text := by
  rw [identifier, h, Option.getD_none]

theorem identifier_identifier
    (p : Path) :
    (Path.mk p.identifier).identifier = p.identifier := by
  cases hname : p.fileName? with
  | none =>
      have hsame : Path.mk p.identifier = p := by
        rw [identifier_of_fileName?_eq_none hname]
      rw [hsame]
  | some name =>
      obtain ⟨hlast, hdots⟩ := fileName?_eq_some_iff.mp hname
      rw [identifier_of_fileName hname]
      exact (hasLastName_of_getLast?_moves hlast hdots).isName.identifier_mk

/-- The whole path is the name of a document only if the path has no other name. -/
theorem identifier_eq_text_iff :
    p.identifier = p.text ↔
      moves p.parts = [] ∨ (moves p.parts).getLast? = some ".." ∨ moves p.parts = [p.text] := by
  cases hname : p.fileName? with
  | none =>
      have hwhole := fileName?_eq_none_iff.mp hname
      rw [identifier_of_fileName?_eq_none hname, ← or_assoc]
      exact iff_of_true rfl (Or.inl hwhole)
  | some name =>
      obtain ⟨hlast, hdots⟩ := fileName?_eq_some_iff.mp hname
      have hlastName := hasLastName_of_getLast?_moves hlast hdots
      rw [identifier_of_fileName hname]
      constructor
      · rintro rfl
        exact Or.inr (Or.inr hlastName.isName.moves_parts)
      · rintro (hmoves | hmoves | hmoves)
        · simp [hmoves] at hlast
        · rw [hmoves] at hlast
          exact absurd (Option.some.inj hlast).symm hdots
        · rw [hmoves] at hlast
          exact (Option.some.inj hlast).symm

end Identifiers

end Path

namespace Intake

/-- Files of a folder are read as documents that are known by the names of the files. -/
theorem exists_loadDocuments_eq
    (folder : Path)
    (store : Store)
    {names : List String}
    (hne : names ≠ [])
    (hnames : ∀ name ∈ names, Path.IsName name) :
    ∃ documents,
      ((loadDocuments (names.map folder.join)).run store).value = some documents ∧
        documents.documents.map SourceDocument.identifier = names := by
  have hloaded :
      (names.map folder.join).map (fun path => document path (store.readText path)) ≠ [] := by
    simpa using hne
  refine ⟨⟨_, hloaded⟩, ?_, ?_⟩
  · rw [loadDocuments, Script.value_run_map, run_loadFiles, DocumentSet.ofList?, dif_pos hloaded]
  · rw [List.map_map, List.map_map]
    conv_rhs => rw [← List.map_id names]
    exact List.map_congr_left fun name hname => (hnames name hname).identifier_join folder

end Intake

/--
A document is known by its whole path exactly if the path has no move, or its last move leads
upwards, or the path is nothing but its one move.  If the last move does not lead upwards, the
document is known by it, and it is the last name in the text of the path.  The name of that
name is the same.  A name that is looked up in a folder is known by itself, so the files of a
folder are read as documents with different names.
-/
theorem Path.identifier_is_last_name :
    (∀ p : Path,
      (p.identifier = p.text ↔
        moves p.parts = [] ∨ (moves p.parts).getLast? = some ".." ∨ moves p.parts = [p.text]) ∧
      (moves p.parts ≠ [] → (moves p.parts).getLast? ≠ some ".." →
        p.HasLastName p.identifier) ∧
      (Path.mk p.identifier).identifier = p.identifier) ∧
    (∀ (folder : Path) (name : String),
      IsName name → (folder.join name).identifier = name) ∧
    (∀ (folder : Path) (store : Store) (names : List String),
      names ≠ [] → names.Nodup → (∀ name ∈ names, IsName name) →
        ∃ documents,
          ((Intake.loadDocuments (names.map folder.join)).run store).value = some documents ∧
            documents.documents.map SourceDocument.identifier = names ∧
            (documents.documents.map SourceDocument.identifier).Nodup) := by
  refine ⟨?_, ?_, ?_⟩
  · intro p
    refine ⟨identifier_eq_text_iff, ?_, identifier_identifier p⟩
    intro hmoves hdots
    obtain ⟨name, hlast⟩ := Option.ne_none_iff_exists'.mp (mt List.getLast?_eq_none_iff.mp hmoves)
    have hname : name ≠ ".." := by
      rintro rfl
      exact hdots hlast
    rw [identifier_of_fileName (fileName?_eq_some_iff.mpr ⟨hlast, hname⟩)]
    exact hasLastName_of_getLast?_moves hlast hname
  · intro folder name h
    exact h.identifier_join folder
  · intro folder store names hne hdistinct hnames
    obtain ⟨documents, hvalue, hidentifiers⟩ :=
      Intake.exists_loadDocuments_eq folder store hne hnames
    exact ⟨documents, hvalue, hidentifiers, hidentifiers ▸ hdistinct⟩

/-- Dots and slashes behind a name are not part of it, two dots behind it take it away, and a name with
dots in it is a name. -/
theorem Path.identifier_is_last_name_of_dots :
    let p : Path := ⟨"/in/..//./b.xml/.//"⟩
    let upwards : Path := ⟨"in/b.xml/../."⟩
    p.identifier = "b.xml" ∧ p.HasLastName "b.xml" ∧
      upwards.identifier = upwards.text ∧
      (Path.join ⟨"in/.."⟩ "...").identifier = "..." ∧
      ∃ documents,
        ((Intake.loadDocuments [⟨"in/.xml"⟩, ⟨"in/a.xml"⟩]).run (Store.empty [])).value =
            some documents ∧
          documents.documents.map SourceDocument.identifier = [".xml", "a.xml"] := by
  intro p upwards
  obtain ⟨hpaths, hjoined, hdocuments⟩ := identifier_is_last_name
  have hp : p.identifier = "b.xml" := by
    decide +kernel
  have hlast := (hpaths p).2.1 (by decide +kernel) (by decide +kernel)
  rw [hp] at hlast
  have hdots : IsName "..." := ⟨by decide, by decide, by decide, by decide⟩
  have hnames : ∀ name ∈ [".xml", "a.xml"], IsName name := by
    intro name hmem
    rcases List.mem_pair.mp hmem with rfl | rfl
    · exact ⟨by decide, by decide, by decide, by decide⟩
    · exact ⟨by decide, by decide, by decide, by decide⟩
  obtain ⟨documents, hvalue, hidentifiers, _⟩ :=
    hdocuments ⟨"in"⟩ (Store.empty []) [".xml", "a.xml"] (by decide) (by decide) hnames
  refine ⟨hp, hlast, ?_, hjoined ⟨"in/.."⟩ "..." hdots, documents, ?_, hidentifiers⟩
  · exact (hpaths upwards).1.mpr (Or.inr (Or.inl (by decide +kernel)))
  · rw [← hvalue]
    rfl

end LegendReport
