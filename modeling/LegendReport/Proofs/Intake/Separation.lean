import LegendReport.Proofs.Intake.Discovery
import LegendReport.Proofs.Store.Frame

/-!
# Reports are no documents

Every report file has the ending `.csv` and every document the ending `.xml` in some
letter case.  A report that is put anywhere therefore changes neither which
documents a folder has nor what is read of them.
-/

namespace LegendReport

namespace Store

variable {store : Store} {p : Path}

theorem readBytes_eq_ok_iff
    {bytes : ByteArray} :
    store.readBytes p = .ok bytes ↔ ∃ location, store.find p = .ok (location, .file bytes) := by
  unfold readBytes
  cases hfind : store.find p with
  | error fault => simp
  | ok found =>
      obtain ⟨location, item⟩ := found
      cases item with
      | folder => simp
      | file content => simp

theorem readText_eq_ok_iff
    {text : String} :
    store.readText p = .ok text ↔ ∃ location, store.find p = .ok (location, .file text.toUTF8) := by
  rw [← readBytes_eq_ok_iff, readText]
  cases hread : store.readBytes p with
  | error fault => simp
  | ok content =>
      dsimp only
      rw [Except.ok.injEq, eq_comm (a := content), ← Intake.fromUTF8?_eq_some_iff]
      cases hdecoded : String.fromUTF8? content with
      | none => simp
      | some found => simp

end Store

namespace Intake

section Endings

theorem exists_ending_of_isXmlName
    {name : String}
    (h : isXmlName name = true) :
    ∃ ending, ending <:+ name.toList ∧ ending.map Char.toLower = ".xml".toList := by
  obtain ⟨stem, ending, hname, _, _, hletters⟩ := isXmlName_iff.mp h
  have hdot : Char.toLower '.' = '.' := by
    decide
  refine ⟨'.' :: ending, ⟨stem, hname.symm⟩, ?_⟩
  rw [List.map_cons, hletters, hdot]
  rfl

/-- No text has the ending of a document and that of a report. -/
theorem not_csv_suffix
    {ending cs : List Char}
    (hletters : ending.map Char.toLower = ".xml".toList)
    (hending : ending <:+ cs) :
    ¬ ".csv".toList <:+ cs := by
  intro hcsv
  have hlength : ending.length = ".csv".toList.length := by
    rw [← List.length_map (f := Char.toLower), hletters]
    decide
  have hsame : ending = ".csv".toList :=
    (List.suffix_of_suffix_length_le hending hcsv hlength.le).eq_of_length hlength
  rw [hsame] at hletters
  exact absurd hletters (by decide)

/-- The name of a report is not the name of a document. -/
theorem not_isXmlFileName_of_suffix
    {name : String}
    (h : ".csv".toList <:+ name.toList) :
    ¬ IsXmlFileName name := by
  intro hxml
  obtain ⟨ending, hending, hletters⟩ := exists_ending_of_isXmlName (isXmlName_iff.mpr hxml)
  exact not_csv_suffix hletters hending h

/-- The path of a document ends in a name with the ending of documents. -/
theorem exists_endsInName_of_mem_xmlPaths
    {folder p : Path}
    {children : List Child}
    (h : p ∈ xmlPaths folder children) :
    ∃ name ending,
      p.EndsInName name ∧ ending <:+ name.toList ∧ ending.map Char.toLower = ".xml".toList := by
  obtain ⟨childName, hmem, rfl⟩ := List.mem_map.mp h
  rw [mem_xmlNames_iff, ← isXmlName_iff] at hmem
  obtain ⟨ending, hending, hletters⟩ := exists_ending_of_isXmlName hmem.2
  obtain ⟨before, htext⟩ := Path.exists_text_join_eq folder childName
  have hslash : '/' ∉ ending := by
    intro hslash
    have hlower : '/' ∈ ending.map Char.toLower := List.mem_map.mpr ⟨'/', hslash, rfl⟩
    rw [hletters] at hlower
    exact absurd hlower (by decide)
  have hlength : ending.length = 4 := by
    rw [← List.length_map (f := Char.toLower), hletters]
    rfl
  have hsuffix : ending <:+ (folder.join childName).text.toList := by
    rw [htext, String.toList_append]
    exact hending.trans (List.suffix_append _ _)
  obtain ⟨name, hname, hnameEnding⟩ :=
    Path.exists_endsInName_of_suffix hslash (by omega) hsuffix
  exact ⟨name, ending, hname, hnameEnding, hletters⟩

end Endings

section Placed

variable {store : Store} {place : Location} {name : String}

/-- What is in the file of a document does not depend on a report. -/
theorem readBytes_put_eq_ok_iff
    (hname : ".csv".toList <:+ name.toList)
    (hgoal : store.item? (place ++ [name]) ≠ some .folder)
    {folder p : Path}
    {children : List Child}
    (hp : p ∈ xmlPaths folder children)
    {bytes found : ByteArray} :
    (store.put (place ++ [name]) (.file bytes)).readBytes p = .ok found ↔
      store.readBytes p = .ok found := by
  obtain ⟨last, ending, hlast, hending, hletters⟩ := exists_endsInName_of_mem_xmlPaths hp
  have hne : ∀ reached : Location, reached ++ [last] ≠ place ++ [name] := by
    intro reached heq
    obtain rfl := (List.append_singleton_inj.mp heq).2
    exact not_csv_suffix hletters hending hname
  rw [Store.readBytes_eq_ok_iff, Store.readBytes_eq_ok_iff]
  constructor
  · rintro ⟨location, hfind⟩
    obtain ⟨reached, rfl⟩ := Store.exists_concat_of_find hlast hfind
    exact ⟨_, (Store.find_put_eq_file_iff hgoal (hne reached)).mp hfind⟩
  · rintro ⟨location, hfind⟩
    obtain ⟨reached, rfl⟩ := Store.exists_concat_of_find hlast hfind
    exact ⟨_, (Store.find_put_eq_file_iff hgoal (hne reached)).mpr hfind⟩

/-- What is read of a document does not depend on a report. -/
theorem readText_put_eq_ok_iff
    (hname : ".csv".toList <:+ name.toList)
    (hgoal : store.item? (place ++ [name]) ≠ some .folder)
    {folder p : Path}
    {children : List Child}
    (hp : p ∈ xmlPaths folder children)
    {bytes : ByteArray}
    {text : String} :
    (store.put (place ++ [name]) (.file bytes)).readText p = .ok text ↔
      store.readText p = .ok text := by
  rw [Store.readText_eq_ok_iff, Store.readText_eq_ok_iff, ← Store.readBytes_eq_ok_iff,
    ← Store.readBytes_eq_ok_iff]
  exact readBytes_put_eq_ok_iff hname hgoal hp

/-- The documents of a folder are the same files, whatever report is put there or elsewhere. -/
theorem exists_list?_put
    (hname : ".csv".toList <:+ name.toList)
    (hgoal : store.item? (place ++ [name]) ≠ some .folder)
    {folder : Path}
    {children : List Child}
    (hlist : store.list? folder = some children)
    (bytes : ByteArray) :
    ∃ children',
      (store.put (place ++ [name]) (.file bytes)).list? folder = some children' ∧
        xmlPaths folder children' = xmlPaths folder children := by
  obtain ⟨reached, hfolder, rfl⟩ := Store.list?_eq_some_iff.mp hlist
  refine ⟨_, Store.list?_eq_some_iff.mpr
    ⟨reached, (Store.find_put_eq_folder_iff hgoal).mpr hfolder, rfl⟩, ?_⟩
  have hkeep :
      ∀ child : Child,
        ((child.seenFrom folder).isFile && isXmlName child.name) = true →
          place ++ [name] ≠ reached ++ [child.name] := by
    intro child hchild heq
    obtain rfl := (List.append_singleton_inj.mp heq).2
    rw [Bool.and_eq_true] at hchild
    obtain ⟨ending, hending, hletters⟩ := exists_ending_of_isXmlName hchild.2
    exact not_csv_suffix hletters hending hname
  have hchildren :
      ((store.put (place ++ [name]) (.file bytes)).children reached).filter
          ((fun child => child.isFile && isXmlName child.name) ∘ Child.seenFrom folder) =
        (store.children reached).filter
          ((fun child => child.isFile && isXmlName child.name) ∘ Child.seenFrom folder) :=
    Store.filter_children_put (.file bytes) hkeep
  rw [xmlPaths, xmlPaths, xmlNames, xmlNames, List.filter_map, List.filter_map, hchildren]

/-- The paths of documents that are listed do not depend on a report. -/
theorem value_run_listXml_put
    (hname : ".csv".toList <:+ name.toList)
    (hgoal : store.item? (place ++ [name]) ≠ some .folder)
    (folder : Path)
    (bytes : ByteArray) :
    ((listXml folder).run (store.put (place ++ [name]) (.file bytes))).value =
      ((listXml folder).run store).value := by
  rw [run_listXml, run_listXml]
  cases hlist : store.list? folder with
  | some children =>
      obtain ⟨children', hlist', hpaths⟩ := exists_list?_put hname hgoal hlist bytes
      rw [hlist']
      exact congrArg Except.ok hpaths
  | none =>
      have hlist' : (store.put (place ++ [name]) (.file bytes)).list? folder = none := by
        rw [Option.eq_none_iff_forall_ne_some]
        intro children' hsome
        obtain ⟨reached, hfolder, _⟩ := Store.list?_eq_some_iff.mp hsome
        have hfound := (Store.find_put_eq_folder_iff hgoal).mp hfolder
        obtain ⟨children, hchildren⟩ := Store.exists_list?_eq_some_iff.mpr ⟨reached, hfound⟩
        rw [hlist] at hchildren
        cases hchildren
      rw [hlist']

end Placed

end Intake

end LegendReport
