import LegendReport.Proofs.Intake.Findings
import LegendReport.Proofs.Report.Alignment
import LegendReport.Proofs.Store.Listing
import LegendReport.Proofs.Text.ByteOrder
import Mathlib.Data.List.Sort

/-!
# Discovery of documents

The documents of a folder are its files with the extension `xml`, each once, in the
order of the bytes of their names.  That list is a function of what is in the
folder: in whatever order the folder is listed, the same documents are found.

A report of them shows these names in its first column, those of unreadable
documents included.
-/

namespace LegendReport

/-- The rows of a report are known by the names of its documents. -/
theorem Report.identifiers_assemble
    (documents : DocumentSet)
    (legend : Legend)
    (uri : String) :
    (Report.assemble documents legend uri).value.rows.map Row.identifier =
      documents.documents.map SourceDocument.identifier := by
  rw [Report.rows_assemble, List.map_map]
  rfl

namespace Intake

section Names

/-- Whether a file name is a stem, a dot and the ending `xml` in any letter case. -/
def IsXmlFileName (name : String) : Prop :=
  ∃ stem ending : List Char,
    name.toList = stem ++ '.' :: ending ∧ stem ≠ [] ∧ '.' ∉ ending ∧
      ending.map Char.toLower = "xml".toList

/-- The extension of a name is what stands behind its last dot. -/
theorem extension?_eq_some_iff
    {name extension : String} :
    Path.extension? name = some extension ↔
      ∃ stem,
        name.toList = stem ++ '.' :: extension.toList ∧ stem ≠ [] ∧ '.' ∉ extension.toList := by
  unfold Path.extension?
  dsimp only
  constructor
  · intro h
    have hsplit := List.takeWhile_append_dropWhile (p := (· ≠ '.')) (l := name.toList.reverse)
    have hbefore : ∀ c ∈ name.toList.reverse.takeWhile (· ≠ '.'), c ≠ '.' := by
      intro c hmem
      simpa using List.mem_takeWhile_imp hmem
    have hdot := List.head?_dropWhile_not (· ≠ '.') name.toList.reverse
    generalize name.toList.reverse.takeWhile (· ≠ '.') = ending at h hsplit hbefore
    generalize name.toList.reverse.dropWhile (· ≠ '.') = tail at h hsplit hdot
    match tail, h with
    | dot :: last :: rest, h =>
      obtain rfl : String.ofList ending.reverse = extension := by
        simpa using h
      obtain rfl : dot = '.' := by
        simpa using hdot
      refine ⟨(last :: rest).reverse, ?_, by simp, ?_⟩
      · rw [← List.reverse_reverse name.toList, ← hsplit]
        simp
      · simpa using fun hmem => hbefore '.' hmem rfl
  · rintro ⟨stem, hname, hstem, hdot⟩
    have hbefore : ∀ c ∈ extension.toList.reverse, decide (c ≠ '.') = true := by
      intro c hmem
      rw [List.mem_reverse] at hmem
      simpa using fun heq : c = '.' => hdot (heq ▸ hmem)
    have hreverse : name.toList.reverse = extension.toList.reverse ++ '.' :: stem.reverse := by
      rw [hname]
      simp
    rw [hreverse, List.dropWhile_append_of_pos hbefore, List.takeWhile_append_of_pos hbefore]
    obtain ⟨last, rest, hrest⟩ := List.exists_cons_of_ne_nil (l := stem.reverse) (by simpa)
    simp [hrest]

theorem isXmlName_iff
    {name : String} :
    isXmlName name = true ↔ IsXmlFileName name := by
  rw [isXmlName, Option.any_eq_true]
  constructor
  · rintro ⟨extension, hextension, hletters⟩
    obtain ⟨stem, hname, hstem, hdot⟩ := extension?_eq_some_iff.mp hextension
    exact ⟨stem, extension.toList, hname, hstem, hdot, by simpa using hletters⟩
  · rintro ⟨stem, ending, hname, hstem, hdot, hletters⟩
    refine ⟨String.ofList ending, extension?_eq_some_iff.mpr ⟨stem, ?_, hstem, ?_⟩, ?_⟩
    · rwa [String.toList_ofList]
    · rwa [String.toList_ofList]
    · rw [String.toList_ofList, hletters]
      exact beq_self_eq_true _

end Names

section Order

variable {children children' : List Child}

theorem mem_xmlNames_iff
    {name : String} :
    name ∈ xmlNames children ↔ ⟨name, true⟩ ∈ children ∧ IsXmlFileName name := by
  rw [xmlNames, List.mem_mergeSort, List.mem_map]
  simp only [List.mem_filter, Bool.and_eq_true, isXmlName_iff]
  constructor
  · rintro ⟨⟨childName, isFile⟩, ⟨hmem, hfile, hxml⟩, rfl⟩
    obtain rfl : isFile = true := hfile
    exact ⟨hmem, hxml⟩
  · rintro ⟨hmem, hxml⟩
    exact ⟨⟨name, true⟩, ⟨hmem, rfl, hxml⟩, rfl⟩

theorem sorted_xmlNames
    (children : List Child) :
    (xmlNames children).Pairwise (· ≤ ·) :=
  List.pairwise_mergeSort' (· ≤ ·) _

/-- The order in which a folder is listed does not matter. -/
theorem xmlNames_perm
    (h : children.Perm children') :
    xmlNames children = xmlNames children' := by
  have hnames : (xmlNames children).Perm (xmlNames children') :=
    calc
      (xmlNames children).Perm _ := List.mergeSort_perm _ _
      List.Perm _ _ := (h.filter _).map _
      List.Perm _ (xmlNames children') := (List.mergeSort_perm _ _).symm
  exact hnames.eq_of_pairwise (fun _ _ _ _ => le_antisymm) (sorted_xmlNames children)
    (sorted_xmlNames children')

/-- If no two items have the same name, no name comes twice, and the bytes of the names ascend. -/
theorem ascending_xmlNames
    (hdistinct : (children.map Child.name).Nodup) :
    ((xmlNames children).map Text.bytes).Pairwise (· < ·) := by
  have hnodup : (xmlNames children).Nodup := by
    rw [xmlNames, (List.mergeSort_perm _ _).nodup_iff]
    exact hdistinct.sublist (List.filter_sublist.map _)
  have hstrict : (xmlNames children).Pairwise (· < ·) :=
    (sorted_xmlNames children).imp₂ (fun _ _ hle hne => lt_of_le_of_ne hle hne) hnodup
  rw [List.pairwise_map]
  exact hstrict.imp Text.lt_iff_bytes_lt.mp

end Order

section Documents

/-- The document of the file with a name in a folder, whose text is what the file holds, if that
is text at all. -/
structure IsDocumentOf
    (store : Store)
    (folder : Path)
    (name : String)
    (document : SourceDocument) : Prop where
  identifier_eq : document.identifier = name
  path_eq : document.path = folder.join name
  content :
    ∃ place bytes,
      store.find (folder.join name) = .ok (place, .file bytes) ∧
        ∀ text, document.content = .loaded text ↔ text.toUTF8 = bytes

/-- The documents of the XML files in a folder: one for each name of such a file, in the order of
the bytes of these names. -/
structure AreDocumentsOf
    (store : Store)
    (folder : Path)
    (names : List String)
    (documents : List SourceDocument) : Prop where
  mem_names_iff :
    ∀ name,
      name ∈ names ↔
        Path.IsItemName name ∧ IsXmlFileName name ∧ store.HasFile (folder.join name)
  ascending : (names.map Text.bytes).Pairwise (· < ·)
  documents : List.Forall₂ (IsDocumentOf store folder) names documents

variable {store : Store} {folder : Path} {children : List Child}

theorem fromUTF8?_eq_some_iff
    {bytes : ByteArray}
    {text : String} :
    String.fromUTF8? bytes = some text ↔ text.toUTF8 = bytes := by
  unfold String.fromUTF8?
  constructor
  · intro h
    split at h
    · next hvalid =>
        obtain rfl : String.fromUTF8 bytes hvalid = text := by
          simpa using h
        rfl
    · cases h
  · rintro rfl
    exact dif_pos text.isValidUTF8

theorem isDocumentOf_document
    {name : String}
    (hname : Path.IsItemName name)
    (hfile : store.HasFile (folder.join name)) :
    IsDocumentOf store folder name
      (document (folder.join name) (store.readText (folder.join name))) := by
  obtain ⟨place, bytes, hfind⟩ := hfile
  refine ⟨(Path.endsInName_join hname folder).identifier_eq, rfl, place, bytes, hfind, ?_⟩
  intro text
  rw [← fromUTF8?_eq_some_iff, Store.readText, Store.readBytes, hfind]
  cases hdecoded : String.fromUTF8? bytes with
  | none => simp [document, hdecoded]
  | some found => simp [document, hdecoded]

theorem documentsOf_eq_map_xmlNames
    (store : Store)
    (folder : Path)
    (children : List Child) :
    documentsOf store folder children =
      (xmlNames children).map fun name =>
        document (folder.join name) (store.readText (folder.join name)) := by
  rw [documentsOf, xmlPaths, List.map_map]
  rfl

/-- If no two items of a folder have the same name, what is gathered from it are its documents. -/
theorem areDocumentsOf_documentsOf
    (hlist : store.list? folder = some children)
    (hdistinct : (children.map Child.name).Nodup)
    (hnames : ∀ child ∈ children, Path.IsItemName child.name) :
    AreDocumentsOf store folder (xmlNames children) (documentsOf store folder children) := by
  have hmem : ∀ name,
      name ∈ xmlNames children ↔
        Path.IsItemName name ∧ IsXmlFileName name ∧ store.HasFile (folder.join name) := by
    intro name
    rw [mem_xmlNames_iff]
    constructor
    · rintro ⟨hchild, hxml⟩
      have hname := hnames _ hchild
      exact ⟨hname, hxml, (Store.mem_list?_iff hlist hdistinct hname).mp hchild⟩
    · rintro ⟨hname, hxml, hfile⟩
      exact ⟨(Store.mem_list?_iff hlist hdistinct hname).mpr hfile, hxml⟩
  refine ⟨hmem, ascending_xmlNames hdistinct, ?_⟩
  rw [documentsOf_eq_map_xmlNames, List.forall₂_map_right_iff, List.forall₂_same]
  intro name hname
  obtain ⟨hitem, _, hfile⟩ := (hmem name).mp hname
  exact isDocumentOf_document hitem hfile

theorem value_run_loadFolder_of_nil
    (hlist : store.list? folder = some children)
    (h : documentsOf store folder children = []) :
    ((loadFolder folder).run store).value = .error (.noDocuments folder) := by
  rw [value_run_loadFolder, hlist]
  simp [DocumentSet.ofList?, h]

theorem value_run_loadFolder_of_ne_nil
    (hlist : store.list? folder = some children)
    (h : documentsOf store folder children ≠ []) :
    ((loadFolder folder).run store).value = .ok ⟨documentsOf store folder children, h⟩ := by
  rw [value_run_loadFolder, hlist]
  simp [DocumentSet.ofList?, h]

/--
What is found in a folder does not depend on the order in which it is listed: the
files with the extension, by the bytes of their names.  Each of them is a document
of the run and has a row in every report, in this order.
-/
theorem loadFolder_canonical
    (hlist : store.list? folder = some children)
    (hdistinct : (children.map Child.name).Nodup)
    (hnames : ∀ child ∈ children, Path.IsItemName child.name) :
    ∃ names : List String,
      (∀ name,
        name ∈ names ↔
          Path.IsItemName name ∧ IsXmlFileName name ∧ store.HasFile (folder.join name)) ∧
      (names.map Text.bytes).Pairwise (· < ·) ∧
      (∀ (store' : Store) (children' : List Child),
        store'.list? folder = some children' → children'.Perm children →
          ((listXml folder).run store').value = .ok (names.map folder.join)) ∧
      (((loadFolder folder).run store).value = .error (.noDocuments folder) ↔ names = []) ∧
      (names ≠ [] →
        ∃ documents,
          ((loadFolder folder).run store).value = .ok documents ∧
            List.Forall₂ (IsDocumentOf store folder) names documents.documents ∧
              ∀ (legend : Legend) (uri : String),
                (Report.assemble documents legend uri).value.rows.map Row.identifier = names) := by
  have hdocuments := areDocumentsOf_documentsOf hlist hdistinct hnames
  have hnil : documentsOf store folder children = [] ↔ xmlNames children = [] := by
    rw [documentsOf_eq_map_xmlNames, List.map_eq_nil_iff]
  refine ⟨xmlNames children, hdocuments.mem_names_iff, hdocuments.ascending, ?_, ?_, ?_⟩
  · intro store' children' hlist' hperm
    rw [run_listXml, hlist']
    dsimp only
    rw [xmlPaths, xmlNames_perm hperm]
  · rw [← hnil]
    constructor
    · intro herror
      by_contra hne
      rw [value_run_loadFolder_of_ne_nil hlist hne] at herror
      cases herror
    · intro hempty
      exact value_run_loadFolder_of_nil hlist hempty
  · intro hne
    have hsome : documentsOf store folder children ≠ [] := mt hnil.mp hne
    refine ⟨⟨documentsOf store folder children, hsome⟩,
      value_run_loadFolder_of_ne_nil hlist hsome, hdocuments.documents, ?_⟩
    intro legend uri
    rw [Report.identifiers_assemble]
    have hidentifiers :=
      hdocuments.documents.imp fun _ _ hdocument => hdocument.identifier_eq.symm
    rw [← List.forall₂_map_right_iff, List.forall₂_eq_eq_eq] at hidentifiers
    exact hidentifiers.symm

/-- A folder that is listed out of order, with a hidden file, a folder with the ending and a file
that is not text. -/
theorem loadFolder_canonical_of_shuffled :
    let store : Store :=
      { items :=
          [(["in", "b.tar.xml"], .file "<r/>".toUTF8), (["in", ".xml"], .file "<r/>".toUTF8),
            (["in", "a.XML"], .file ⟨#[255]⟩), (["in", "c.xml"], .folder), (["in"], .folder),
            (["in", "Z.xml"], .file "<r/>".toUTF8), (["in", "xml"], .file "<r/>".toUTF8)]
        home := [] }
    ∃ names documents,
      ((loadFolder ⟨"in"⟩).run store).value = .ok documents ∧
        (∀ (legend : Legend) (uri : String),
          (Report.assemble documents legend uri).value.rows.map Row.identifier = names) ∧
        (names.map Text.bytes).Pairwise (· < ·) ∧
        "Z.xml" ∈ names ∧ "a.XML" ∈ names ∧ "b.tar.xml" ∈ names ∧
        ".xml" ∉ names ∧ "c.xml" ∉ names ∧ "xml" ∉ names := by
  intro store
  have hlist :
      store.list? ⟨"in"⟩ =
        some [⟨"b.tar.xml", true⟩, ⟨".xml", true⟩, ⟨"a.XML", true⟩, ⟨"c.xml", false⟩,
          ⟨"Z.xml", true⟩, ⟨"xml", true⟩] := by
    decide +kernel
  obtain ⟨names, hmem, hascending, _, _, hloaded⟩ :=
    loadFolder_canonical hlist (by decide) (by decide +kernel)
  have hfound : ∀ name bytes,
      Path.IsItemName name → isXmlName name = true →
        store.find (Path.join ⟨"in"⟩ name) = .ok (["in", name], .file bytes) → name ∈ names := by
    intro name bytes hitem hxml hfind
    exact (hmem name).mpr ⟨hitem, isXmlName_iff.mp hxml, _, bytes, hfind⟩
  have hbytes : "a.XML" ∈ names :=
    hfound _ ⟨#[255]⟩ (by decide +kernel) (by decide +kernel) (by decide +kernel)
  obtain ⟨documents, hvalue, _, hrows⟩ := hloaded (List.ne_nil_of_mem hbytes)
  refine ⟨names, documents, hvalue, hrows, hascending, ?_, hbytes, ?_, ?_, ?_, ?_⟩
  · exact hfound _ "<r/>".toUTF8 (by decide +kernel) (by decide +kernel) (by decide +kernel)
  · exact hfound _ "<r/>".toUTF8 (by decide +kernel) (by decide +kernel) (by decide +kernel)
  · intro h
    exact absurd (isXmlName_iff.mpr ((hmem _).mp h).2.1) (by decide +kernel)
  · intro h
    obtain ⟨_, _, place, bytes, hfile⟩ := (hmem _).mp h
    have hfolder : store.find (Path.join ⟨"in"⟩ "c.xml") = .ok (["in", "c.xml"], .folder) := by
      decide +kernel
    rw [hfolder] at hfile
    cases hfile
  · intro h
    exact absurd (isXmlName_iff.mpr ((hmem _).mp h).2.1) (by decide +kernel)

end Documents

end Intake

end LegendReport
