import LegendReport.Proofs.Report.Content
import LegendReport.Proofs.Resolution.Failing

/-!
# Rows in which every column failed

The row of a tree is built column by column, the row of a document without a tree all at
once.  They are the same row exactly if no path can be resolved in the tree.

If the root has no element below it, nothing can be resolved: a path never selects the root
itself.  Any other tree has an element that some column leads to.  So a document without
data is shown like one that could not be read, and no other document is, whatever the
columns are.
-/

namespace LegendReport

namespace Xml.Node

/-- There is no element below the node. -/
def IsBare (node : Node) : Prop :=
  ∀ other ∈ node.descendants, other.tag? = none

end Xml.Node

namespace Resolution

open Xml

variable {root : Node} {uri : String}

theorem exists_resolve_eq_error_of_isBare
    (h : root.IsBare)
    (path : List Segment)
    (uri : String) :
    ∃ cause, resolve root path uri = .error cause := by
  cases hresolve : resolve root path uri with
  | error cause => exact ⟨cause, rfl⟩
  | ok value =>
      obtain ⟨goal, hreaches, -⟩ := resolve_eq_ok_iff.mp hresolve
      cases hreaches with
      | @descendant next goal before after segment rest hdescendants hname hbefore hrest =>
          have hbare : next.tag? = none := h next (by simp [hdescendants])
          rw [Node.hasName_iff, hbare] at hname
          cases hname

/-- The segment for elements of a name, if the run's namespace is that of the name or the name has
none. -/
def segmentFor (name : ExpandedName) : Segment :=
  { name := name.localName, qualified := name.uri.isSome, occurrence := 0, token := "" }

theorem nameIn_segmentFor
    (name : ExpandedName) :
    (segmentFor name).nameIn (name.uri.getD "") = name := by
  obtain ⟨uri, localName⟩ := name
  cases uri <;> rfl

/-- An element below the root is of a name that some path of one segment leads to. -/
theorem exists_resolve_eq_ok_of_not_isBare
    (h : ¬ root.IsBare) :
    ∃ segment uri value, resolve root [segment] uri = .ok value := by
  simp only [Node.IsBare, not_forall] at h
  obtain ⟨element, helement, htag⟩ := h
  obtain ⟨name, hname⟩ := Option.ne_none_iff_exists'.mp htag
  have hfound : (root.descendants.find? (Node.hasName name)).isSome = true :=
    List.find?_isSome.mpr ⟨element, helement, (Node.hasName_iff name element).mpr hname⟩
  obtain ⟨first, hfirst⟩ := Option.isSome_iff_exists.mp hfound
  have hlocate :
      locate root [segmentFor name] (name.uri.getD "") = .ok first := by
    refine (locate_of_isFirst ?_).trans rfl
    rw [nameIn_segmentFor]
    exact isFirst_iff.mpr hfirst
  exact ⟨segmentFor name, name.uri.getD "", first.textContent, by rw [resolve, hlocate]; rfl⟩

end Resolution

namespace Row

variable {legend : Legend} {k : Nat} {column : Column}

section Positions

/-- The failed columns of a tree are those whose paths cannot be resolved in it. -/
theorem mem_failedColumns_ofTree_iff
    (hcolumn : legend.columns[k]? = some column)
    (root : Xml.Node)
    (identifier uri : String) :
    k ∈ (ofTree root legend identifier uri).value.failedColumns ↔
      ∃ cause, Resolution.resolve root column.path uri = .error cause := by
  rw [value_ofTree, ofOutcomes, mem_failuresFrom]
  simp [hcolumn, isFailure_iff, Column.outcome]

theorem mem_failedColumns_failed
    (hcolumn : legend.columns[k]? = some column)
    (identifier : String) :
    k ∈ (failed legend identifier).failedColumns := by
  obtain ⟨hk, -⟩ := List.getElem?_eq_some_iff.mp hcolumn
  exact List.mem_range.mpr hk

end Positions

theorem ofTree_eq_failed_iff
    (root : Xml.Node)
    (legend : Legend)
    (identifier uri : String) :
    (ofTree root legend identifier uri).value = failed legend identifier ↔
      ∀ column ∈ legend.columns,
        ∃ cause, Resolution.resolve root column.path uri = .error cause := by
  constructor
  · intro h column hmem
    obtain ⟨k, hcolumn⟩ := List.mem_iff_getElem?.mp hmem
    rw [← mem_failedColumns_ofTree_iff hcolumn root identifier uri, h]
    exact mem_failedColumns_failed hcolumn identifier
  · intro h
    rw [value_ofTree]
    refine (failed_eq_ofOutcomes legend identifier (by simp [Legend.size]) ?_).symm
    intro outcome hmem
    obtain ⟨column, hcolumn, rfl⟩ := List.mem_map.mp hmem
    exact isFailure_iff.mpr (h column hcolumn)

theorem forall_ofTree_eq_failed_iff
    (root : Xml.Node)
    (identifier : String) :
    (∀ legend uri, (ofTree root legend identifier uri).value = failed legend identifier) ↔
      root.IsBare := by
  constructor
  · intro h
    by_contra hbare
    obtain ⟨segment, uri, value, hvalue⟩ := Resolution.exists_resolve_eq_ok_of_not_isBare hbare
    let column : Column := ⟨"", [segment]⟩
    obtain ⟨cause, hcause⟩ :=
      (ofTree_eq_failed_iff root ⟨[column]⟩ identifier uri).mp (h ⟨[column]⟩ uri) column (by simp)
    rw [hvalue] at hcause
    cases hcause
  · intro hbare legend uri
    rw [ofTree_eq_failed_iff]
    intro column _
    exact Resolution.exists_resolve_eq_error_of_isBare hbare column.path uri

end Row

/-- The same document; or a well-formed document whose root is bare, and the same document had it
not been readable. -/
inductive SourceDocument.SameData (document : SourceDocument) : SourceDocument → Prop where
  | same :
      SameData document document
  | unread
      {root : Xml.Node}
      (hroot : document.root? = some root)
      (hbare : root.IsBare)
      (reason : String) :
      SameData document { document with content := .unreadable reason }

theorem SourceDocument.SameData.value_ofDocument_eq
    {document document' : SourceDocument}
    (h : document.SameData document')
    (legend : Legend)
    (uri : String) :
    (Row.ofDocument document legend uri).value = (Row.ofDocument document' legend uri).value := by
  cases h with
  | same => rfl
  | @unread root hroot hbare reason =>
      rw [Row.value_ofDocument_eq, hroot]
      exact (Row.forall_ofTree_eq_failed_iff root document.identifier).mpr hbare legend uri

/--
The row of a tree is the row of a document without a tree exactly if every column fails in
the tree.  That is so for all legends and namespaces exactly if the root is bare.  So in a
report a well-formed document with a bare root can stand for one that could not be read.
-/
theorem Row.ofTree_agrees_with_failed :
    (∀ root legend identifier uri,
      (ofTree root legend identifier uri).value = failed legend identifier ↔
        ∀ column ∈ legend.columns,
          ∃ cause, Resolution.resolve root column.path uri = .error cause) ∧
    (∀ root identifier,
      (∀ legend uri, (ofTree root legend identifier uri).value = failed legend identifier) ↔
        root.IsBare) ∧
    (∀ documents documents' : DocumentSet,
      List.Forall₂ SourceDocument.SameData documents.documents documents'.documents →
        ∀ legend uri,
          (Report.assemble documents legend uri).value =
            (Report.assemble documents' legend uri).value) := by
  refine ⟨ofTree_eq_failed_iff, forall_ofTree_eq_failed_iff, ?_⟩
  intro documents documents' h legend uri
  have hrows :
      documents.documents.map (fun document => (ofDocument document legend uri).value) =
        documents'.documents.map fun document => (ofDocument document legend uri).value := by
    rw [← List.forall₂_eq_eq_eq, List.forall₂_map_left_iff, List.forall₂_map_right_iff]
    exact h.imp fun _ _ hsame => hsame.value_ofDocument_eq legend uri
  rw [Report.value_assemble_eq_map, Report.value_assemble_eq_map, hrows]

/-- Text, a comment and the name of the root itself are no data; a document with an element that no
column leads to has the same row, but not for every legend. -/
theorem Row.ofTree_agrees_with_failed_of_text_only :
    let legend : Legend := ⟨[⟨"R", [.plain "r"]⟩, ⟨"None", []⟩]⟩
    let document := SourceDocument.ofText "a.xml" "<r>1<!--r--> 2</r>"
    let document' := SourceDocument.ofText "b.xml" "<r><r>3</r></r>"
    let root : Xml.Node := .element ⟨none, "r"⟩ [.text "1", .comment "r", .text " 2"]
    let root' : Xml.Node := .element ⟨none, "r"⟩ [.element ⟨none, "x"⟩ []]
    (Report.assemble ⟨[document, document'], by simp⟩ legend "").value =
        (Report.assemble
          ⟨[{ document with content := .unreadable "gone" }, document'], by simp⟩ legend "").value ∧
      (ofTree root legend "a.xml" "").value = failed legend "a.xml" ∧
      (ofTree root' legend "a.xml" "").value = failed legend "a.xml" ∧ ¬ root'.IsBare := by
  intro legend document document' root root'
  obtain ⟨hrow, hbare, hreport⟩ := ofTree_agrees_with_failed
  have hroot : document.root? = some root := by
    decide +kernel
  have hroot' : ∀ column ∈ legend.columns,
      ∃ cause, Resolution.resolve root' column.path "" = .error cause := by
    rw [List.forall_mem_cons, List.forall_mem_singleton]
    exact ⟨⟨_, rfl⟩, ⟨_, rfl⟩⟩
  have hrootBare : root.IsBare := by
    unfold Xml.Node.IsBare
    decide +kernel
  refine ⟨?_, (hbare root "a.xml").mpr hrootBare legend "",
    (hrow root' legend "a.xml" "").mpr hroot', ?_⟩
  · exact hreport ⟨[document, document'], by simp⟩ ⟨[_, document'], by simp⟩
      (.cons (.unread hroot hrootBare "gone") (.cons .same .nil)) legend ""
  · intro hbare'
    cases hbare' (.element ⟨none, "x"⟩ []) (by simp [root', Xml.Node.descendants,
      Xml.Node.children, Xml.Node.preorderAll, Xml.Node.preorder])

end LegendReport
