import LegendReport.Intake
import LegendReport.Proofs.Legend.Loading
import LegendReport.Proofs.Store.Lookup

/-!
# What an intake finds

Reading the documents of a folder and a legend changes nothing.  There are
documents exactly if the folder exists and has an XML file directly in it, and
there is a legend exactly if its file is text of which every line describes a
column.  A document that cannot be read is among the documents all the same.
-/

namespace LegendReport

namespace Store

/-- Whether the folder at a path has an XML file directly in it. -/
def HasDocument (store : Store) (folder : Path) : Prop :=
  ∃ children,
    store.list? folder = some children ∧
      ∃ child ∈ children, child.isFile = true ∧ Intake.isXmlName child.name = true

/-- Whether a legend can be read at a path. -/
def HasLegend (store : Store) (p : Path) : Prop :=
  ∃ text, store.readText p = .ok text ∧ Legend.IsText text

variable {store : Store}

theorem HasDocument.hasFolder
    {folder : Path}
    (h : store.HasDocument folder) :
    store.HasFolder folder := by
  obtain ⟨children, hlist, _⟩ := h
  exact exists_list?_eq_some_iff.mp ⟨children, hlist⟩

end Store

namespace Intake

theorem xmlPaths_eq_nil_iff
    (folder : Path)
    (children : List Child) :
    xmlPaths folder children = [] ↔
      ∀ child ∈ children, child.isFile = true → isXmlName child.name ≠ true := by
  have hlength :
      (xmlPaths folder children).length =
        (children.filter fun child => child.isFile && isXmlName child.name).length := by
    simp [xmlPaths, xmlNames]
  rw [← List.length_eq_zero_iff, hlength, List.length_eq_zero_iff]
  simp

/-- The documents of a folder with the given items, as a store has them. -/
def documentsOf (store : Store) (folder : Path) (children : List Child) : List SourceDocument :=
  (xmlPaths folder children).map fun path => document path (store.readText path)

variable {store : Store}

theorem run_listXml
    (folder : Path) :
    (listXml folder).run store =
      ⟨match store.list? folder with
        | none => .error (.folderNotFound folder)
        | some children => .ok (xmlPaths folder children),
        [], store⟩ := by
  rw [listXml, Script.run]
  cases store.list? folder with
  | none => rfl
  | some children => rfl

/-- The paths that are listed are those of the XML files among the items of the folder. -/
theorem exists_xmlPaths_of_listXml
    {folder : Path}
    {files : List Path}
    (h : ((listXml folder).run store).value = .ok files) :
    ∃ children, files = xmlPaths folder children := by
  rw [run_listXml] at h
  cases hlist : store.list? folder with
  | none => simp [hlist] at h
  | some children =>
      rw [hlist] at h
      exact ⟨children, (Except.ok.inj h).symm⟩

@[simp] theorem store_run_loadFolder
    (folder : Path) :
    ((loadFolder folder).run store).store = store := by
  rw [loadFolder, Script.store_run_bind, run_listXml]
  cases store.list? folder with
  | none => rfl
  | some children =>
      dsimp only
      rw [Script.store_run_report, Script.store_run_map, loadDocuments, Script.store_run_map,
        run_loadFiles]

theorem value_run_loadFolder
    (folder : Path) :
    ((loadFolder folder).run store).value =
      match store.list? folder with
      | none => .error (.folderNotFound folder)
      | some children =>
        match DocumentSet.ofList? (documentsOf store folder children) with
        | none => .error (.noDocuments folder)
        | some documents => .ok documents := by
  rw [loadFolder, Script.value_run_bind, run_listXml]
  cases store.list? folder with
  | none => rfl
  | some children =>
      dsimp only
      rw [Script.value_run_report, Script.value_run_map, loadDocuments, Script.value_run_map,
        run_loadFiles]
      rfl

theorem run_loadLegend
    (p : Path) :
    ((loadLegend p).run store).value =
        (match store.readText p with
        | .error cause => .error (.unreadable p cause)
        | .ok text => (Legend.ofText text).value) ∧
      ((loadLegend p).run store).store = store := by
  rw [loadLegend, Script.run]
  cases store.readText p with
  | error cause => exact ⟨rfl, rfl⟩
  | ok text =>
      dsimp only
      rw [Script.value_run_bind, Script.store_run_bind, Script.run_ofLogged]
      cases (Legend.ofText text).value with
      | error cause => exact ⟨rfl, rfl⟩
      | ok legend => exact ⟨rfl, rfl⟩

theorem loadFolder_of_not_hasFolder
    {folder : Path}
    (h : ¬ store.HasFolder folder) :
    ((loadFolder folder).run store).value = .error (.folderNotFound folder) := by
  have hlist : store.list? folder = none := by
    rw [Option.eq_none_iff_forall_ne_some]
    intro children hsome
    exact h (Store.exists_list?_eq_some_iff.mp ⟨children, hsome⟩)
  rw [value_run_loadFolder, hlist]

theorem loadFolder_of_not_hasDocument
    {folder : Path}
    (hfolder : store.HasFolder folder)
    (h : ¬ store.HasDocument folder) :
    ((loadFolder folder).run store).value = .error (.noDocuments folder) := by
  obtain ⟨children, hlist⟩ := Store.exists_list?_eq_some_iff.mpr hfolder
  have hpaths : xmlPaths folder children = [] := by
    rw [xmlPaths_eq_nil_iff]
    intro child hmem hfile hname
    exact h ⟨children, hlist, child, hmem, hfile, hname⟩
  have hnone : DocumentSet.ofList? (documentsOf store folder children) = none := by
    rw [DocumentSet.ofList?_eq_none_iff, documentsOf, hpaths, List.map_nil]
  rw [value_run_loadFolder, hlist]
  dsimp only
  rw [hnone]

theorem loadFolder_of_hasDocument
    {folder : Path}
    (h : store.HasDocument folder) :
    ∃ children documents,
      store.list? folder = some children ∧
        documents.documents = documentsOf store folder children ∧
          ((loadFolder folder).run store).value = .ok documents := by
  obtain ⟨children, hlist, child, hmem, hfile, hname⟩ := h
  have hdocuments : documentsOf store folder children ≠ [] := by
    intro hnil
    have hpaths : xmlPaths folder children = [] := List.map_eq_nil_iff.mp hnil
    exact (xmlPaths_eq_nil_iff folder children).mp hpaths child hmem hfile hname
  refine ⟨children, ⟨documentsOf store folder children, hdocuments⟩, hlist, rfl, ?_⟩
  rw [value_run_loadFolder, hlist]
  dsimp only
  rw [DocumentSet.ofList?, dif_pos hdocuments]

theorem loadLegend_of_not_hasLegend
    {p : Path}
    (h : ¬ store.HasLegend p) :
    ∃ cause, ((loadLegend p).run store).value = .error cause := by
  rw [(run_loadLegend p).1]
  cases hread : store.readText p with
  | error cause => exact ⟨_, rfl⟩
  | ok text =>
      dsimp only
      cases hparsed : (Legend.ofText text).value with
      | error cause => exact ⟨cause, rfl⟩
      | ok legend =>
          have htext : Legend.IsText text :=
            (Legend.exists_ofText_eq_ok_iff text).mp ⟨legend, hparsed⟩
          exact absurd ⟨text, hread, htext⟩ h

theorem loadLegend_of_hasLegend
    {p : Path}
    (h : store.HasLegend p) :
    ∃ text legend,
      store.readText p = .ok text ∧ (Legend.ofText text).value = .ok legend ∧
        ((loadLegend p).run store).value = .ok legend := by
  obtain ⟨text, hread, htext⟩ := h
  obtain ⟨legend, hparsed⟩ := (Legend.exists_ofText_eq_ok_iff text).mpr htext
  refine ⟨text, legend, hread, hparsed, ?_⟩
  rw [(run_loadLegend p).1, hread]
  exact hparsed

end Intake

end LegendReport
