import LegendReport.Proofs.Report.Alignment
import LegendReport.Proofs.Resolution.PlainTrees

/-!
# What of a document shows in a report

Nodes side by side have the same content if comments, processing instructions and
empty texts can be taken out of them or put in, and texts be divided or joined, until
they are equal.  They do exactly if their plain forms are equal (`sameContent_iff`).

Only the content of a document shows in a report.  A path is resolved in the same way
in all trees with one plain form, and documents whose root elements have one plain form
give the same rows.
-/

namespace LegendReport

namespace Xml

namespace Node

section Content

/-- The changes in nodes side by side that keep their elements and their characters. -/
inductive SameContent : List Node → List Node → Prop
  | refl
      (nodes : List Node) :
      SameContent nodes nodes
  | symm
      {nodes nodes' : List Node}
      (h : SameContent nodes nodes') :
      SameContent nodes' nodes
  | trans
      {nodes nodes' nodes'' : List Node}
      (h : SameContent nodes nodes')
      (h' : SameContent nodes' nodes'') :
      SameContent nodes nodes''
  | comment
      (content : String)
      (nodes : List Node) :
      SameContent (.comment content :: nodes) nodes
  | instruction
      (target content : String)
      (nodes : List Node) :
      SameContent (.instruction target content :: nodes) nodes
  | emptyText
      (nodes : List Node) :
      SameContent (.text "" :: nodes) nodes
  | joined
      (first second : String)
      (nodes : List Node) :
      SameContent (.text first :: .text second :: nodes) (.text (first ++ second) :: nodes)
  | inside
      (tag : ExpandedName)
      {children children' : List Node}
      (nodes : List Node)
      (h : SameContent children children') :
      SameContent (.element tag children :: nodes) (.element tag children' :: nodes)
  | after
      (node : Node)
      {nodes nodes' : List Node}
      (h : SameContent nodes nodes') :
      SameContent (node :: nodes) (node :: nodes')

@[simp] theorem joinText_empty
    (after : List Node) :
    joinText "" after = after := by
  rfl

/-- Two texts in front of plain nodes are joined to one. -/
theorem joinText_joinText
    (first second : String)
    (after : List Node) :
    joinText first (joinText second after) = joinText (first ++ second) after := by
  by_cases hfirst : first = ""
  · simp [hfirst]
  · by_cases hsecond : second = ""
    · simp [hsecond]
    · cases after with
      | nil => simp [joinText, hfirst, hsecond]
      | cons node rest =>
          cases node <;> simp [joinText, hfirst, hsecond, String.append_assoc]

theorem plainAll_eq_of_sameContent
    {nodes nodes' : List Node}
    (h : SameContent nodes nodes') :
    plainAll nodes = plainAll nodes' := by
  induction h with
  | refl nodes => rfl
  | symm _ ih => exact ih.symm
  | trans _ _ ih ih' => exact ih.trans ih'
  | comment content nodes => rfl
  | instruction target content nodes => rfl
  | emptyText nodes => rfl
  | joined first second nodes =>
      simp only [plainAll, plainBefore, joinText_joinText]
  | inside tag nodes _ ih => simp only [plainAll, plainBefore, ih]
  | after node _ ih => simp only [plainAll, ih]

theorem sameContent_joinText
    (content : String)
    (after : List Node) :
    SameContent (.text content :: after) (joinText content after) := by
  unfold joinText
  split
  · next hempty =>
      rw [hempty]
      exact .emptyText after
  · split
    · exact .joined _ _ _
    · exact .refl _

mutual

theorem sameContent_plainBefore :
    ∀ (node : Node) (after : List Node), SameContent (node :: after) (plainBefore node after)
  | element tag children, after => .inside tag after (sameContent_plainAll children)
  | text content, after => sameContent_joinText content after
  | comment content, after => .comment content after
  | instruction target content, after => .instruction target content after

/-- Nodes can be changed into their plain form. -/
theorem sameContent_plainAll :
    ∀ nodes : List Node, SameContent nodes (plainAll nodes)
  | [] => .refl []
  | node :: rest =>
      .trans (.after node (sameContent_plainAll rest)) (sameContent_plainBefore node _)

end

/-- Nodes can be changed into each other exactly if they have the same plain form. -/
theorem sameContent_iff
    {nodes nodes' : List Node} :
    SameContent nodes nodes' ↔ plainAll nodes = plainAll nodes' := by
  constructor
  · exact plainAll_eq_of_sameContent
  · intro h
    have hplain : SameContent nodes (plainAll nodes') := h ▸ sameContent_plainAll nodes
    exact .trans hplain (.symm (sameContent_plainAll nodes'))

end Content

end Node

end Xml

namespace Resolution

open Xml

theorem resolve_eq_of_plain_eq
    {start start' : Node}
    (h : start.plain = start'.plain)
    (path : List Segment)
    (uri : String) :
    resolve start path uri = resolve start' path uri := by
  rw [← resolve_plain start, h, resolve_plain start']

end Resolution

namespace SourceDocument

/-- The root element of a document that can be read and is well-formed. -/
def root? (document : SourceDocument) : Option Xml.Node :=
  match document.content with
  | .unreadable _ => none
  | .loaded text => (Xml.Document.read? text).map Xml.Document.root

/-- Two documents that are known by the same name and whose root elements have the same plain
form, or which both have none. -/
structure SameContent (document document' : SourceDocument) : Prop where
  identifier_eq : document.identifier = document'.identifier
  plain_eq : document.root?.map Xml.Node.plain = document'.root?.map Xml.Node.plain

end SourceDocument

section Reports

/-- The row of a document shows what its columns come to in its root element. -/
theorem Row.value_ofDocument_eq
    (document : SourceDocument)
    (legend : Legend)
    (uri : String) :
    (Row.ofDocument document legend uri).value =
      match document.root? with
      | none => Row.failed legend document.identifier
      | some root =>
        Row.ofOutcomes document.identifier (legend.columns.map (·.outcome root uri)) := by
  unfold Row.ofDocument SourceDocument.root?
  cases document.content with
  | unreadable reason => rfl
  | loaded text =>
      dsimp only
      cases Xml.Document.read? text with
      | none => rfl
      | some tree => rfl

theorem SourceDocument.SameContent.value_ofDocument_eq
    {document document' : SourceDocument}
    (h : document.SameContent document')
    (legend : Legend)
    (uri : String) :
    (Row.ofDocument document legend uri).value = (Row.ofDocument document' legend uri).value := by
  have hplain := h.plain_eq
  rw [Row.value_ofDocument_eq, Row.value_ofDocument_eq, h.identifier_eq]
  cases hroot : document.root? with
  | none =>
      have hroot' : document'.root? = none := by
        simpa [hroot] using hplain.symm
      rw [hroot']
  | some root =>
      rw [hroot, Option.map_some] at hplain
      obtain ⟨root', hroot', hroots⟩ := Option.map_eq_some_iff.mp hplain.symm
      rw [hroot']
      dsimp only
      congr 2
      funext column
      exact Resolution.resolve_eq_of_plain_eq hroots.symm column.path uri

/--
Comments, processing instructions and the way in which a text is divided do not show.
Trees with the same plain form resolve every path alike, to the same text or with the
same error.  Elements of one name have the same plain form exactly if one can be changed
into the other by putting in or taking out comments, processing instructions and empty
texts, and by dividing and joining texts, at any place below it.  Documents that are
alike in this give the same reports.
-/
theorem Report.only_content_shows :
    (∀ start start' : Xml.Node,
      start.plain = start'.plain →
        ∀ path uri, Resolution.resolve start path uri = Resolution.resolve start' path uri) ∧
    (∀ tag children children',
      Xml.Node.SameContent children children' ↔
        (Xml.Node.element tag children).plain = (Xml.Node.element tag children').plain) ∧
    (∀ documents documents' : DocumentSet,
      List.Forall₂ SourceDocument.SameContent documents.documents documents'.documents →
        ∀ legend uri,
          (assemble documents legend uri).value = (assemble documents' legend uri).value) := by
  refine ⟨fun _ _ => Resolution.resolve_eq_of_plain_eq, ?_, ?_⟩
  · intro tag children children'
    simp [Xml.Node.plain, Xml.Node.sameContent_iff]
  · intro documents documents' h legend uri
    have hrows :
        documents.documents.map (fun document => (Row.ofDocument document legend uri).value) =
          documents'.documents.map fun document => (Row.ofDocument document legend uri).value := by
      rw [← List.forall₂_eq_eq_eq, List.forall₂_map_left_iff, List.forall₂_map_right_iff]
      exact h.imp fun _ _ hsame => hsame.value_ofDocument_eq legend uri
    rw [value_assemble_eq_map, value_assemble_eq_map, hrows]

/-- A comment in the middle of a text and an instruction between children that are counted do not
show. -/
theorem Report.only_content_shows_of_comments :
    let path : List Segment := [.plain "P", ⟨"A", false, 1, "A<2>"⟩]
    let child (children : List Xml.Node) : Xml.Node := .element ⟨none, "A"⟩ children
    let start : Xml.Node :=
      .element ⟨none, "r"⟩ [.element ⟨none, "P"⟩ [child [], child [.text "23"]]]
    let start' : Xml.Node :=
      .element ⟨none, "r"⟩
        [.comment "A", .element ⟨none, "P"⟩
          [child [.text ""], .instruction "A" "", child [.text "2", .comment "A", .text "3"]]]
    let document := SourceDocument.ofText "a.xml" "<r><P><A/><A>23</A></P></r>"
    let document' :=
      SourceDocument.ofText "a.xml" "<r><!--A--><P><A></A><?A?><A>2<!--A-->3</A></P></r>"
    let legend : Legend := ⟨[⟨"A", path⟩]⟩
    Resolution.resolve start path "" = Resolution.resolve start' path "" ∧
      Resolution.resolve start' path "" = .ok "23" ∧
      document.SameContent document' ∧
      (assemble ⟨[document], by simp⟩ legend "").value =
        (assemble ⟨[document'], by simp⟩ legend "").value := by
  intro path child start start' document document' legend
  have hstart : start.plain = start'.plain := by rfl
  have hdocument : document.SameContent document' := ⟨rfl, by decide +kernel⟩
  refine ⟨only_content_shows.1 start start' hstart path "", by rfl, hdocument, ?_⟩
  exact only_content_shows.2.2 ⟨[document], by simp⟩ ⟨[document'], by simp⟩
    (.cons hdocument .nil) legend ""

end Reports

end LegendReport
