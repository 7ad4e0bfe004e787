import LegendReport.Proofs.Report.Alignment
import LegendReport.Proofs.Resolution.Reaching
import LegendReport.Proofs.Xml.RoundTrip

/-!
# Faithful extraction

A cell shows what its path reaches in the tree that the text of the document was
written from: all character data of the element, without the loss or the change of a
character.  It fails exactly if the path reaches nothing there.
-/

namespace LegendReport

open Xml Resolution

variable {uri : String} {tag : ExpandedName} {children : List Node}

/-- A column comes to the same in the text of a document as in its tree. -/
theorem Column.outcomeIn_of_written
    (huri : IsNamespace uri)
    (htree : (Node.element tag children).isWritable uri = true)
    {document : SourceDocument}
    (hcontent : document.content = .loaded (writeDocument uri tag children))
    (column : Column) :
    column.outcomeIn uri document =
      (resolve (.element tag children) column.path uri).mapError .unresolved := by
  rw [Node.isWritable, Bool.and_eq_true] at htree
  have hplain : (Document.root ⟨[], tag, Node.plainAll children, []⟩) =
      (Node.element tag children).plain := by
    rfl
  rw [Column.outcomeIn, hcontent]
  dsimp only
  rw [Document.read?_writeDocument huri htree.1 htree.2]
  dsimp only
  rw [Column.outcome, hplain, resolve_plain]

namespace Report

/--
The cells of a document that was written from a tree show what the paths of their
columns reach in that tree, and they fail exactly where a path reaches nothing.
-/
theorem assemble_faithful
    (huri : IsNamespace uri)
    (htree : (Node.element tag children).isWritable uri = true)
    {documents : DocumentSet}
    {i : Nat}
    {document : SourceDocument}
    (hdocument : documents.documents[i]? = some document)
    (hcontent : document.content = .loaded (writeDocument uri tag children))
    {legend : Legend}
    {k : Nat}
    {column : Column}
    (hcolumn : legend.columns[k]? = some column) :
    let root := Node.element tag children
    let report := (assemble documents legend uri).value
    (∀ goal,
      Reaches uri root column.path goal → report.cell? i k = some (goal.textContent, false)) ∧
    ((∀ goal, ¬ Reaches uri root column.path goal) → report.cell? i k = some ("Error!", true)) := by
  intro root report
  have houtcome := column.outcomeIn_of_written huri htree hcontent
  have hcell : report.cell? i k = some (cellOf document column uri) := by
    rw [cell?_assemble, hdocument, hcolumn]
    rfl
  rw [hcell, cellOf, houtcome]
  constructor
  · intro goal hreaches
    rw [resolve_eq_ok_iff.mpr ⟨goal, hreaches, rfl⟩]
    rfl
  · intro hnone
    cases hresolve : resolve root column.path uri with
    | error cause => rfl
    | ok value =>
        obtain ⟨goal, hreaches, _⟩ := resolve_eq_ok_iff.mp hresolve
        exact absurd hreaches (hnone goal)

/-- A namespace with quotes and line ends, a text with the end of a literal section and carriage
returns, and an element with the name of the root below it. -/
theorem assemble_faithful_of_special_characters :
    let uri := "urn:\t\"<&>\"\r\n"
    let name : ExpandedName := ⟨some uri, "Name"⟩
    let inner : Node := .element ⟨none, "r"⟩ [.text "in", .text "ner"]
    let children : List Node :=
      [.text "\r", .element name [.text "]]>", .text "\r\n&amp;", inner, .text "\r"], .text ""]
    let document := SourceDocument.ofText "a.xml" (writeDocument uri ⟨none, "r"⟩ children)
    let legend : Legend :=
      ⟨[⟨"Name", [⟨"Name", true, 7, ":Name<8>"⟩]⟩, ⟨"Inner", [⟨"r", false, 0, "r"⟩]⟩,
        ⟨"Second", [⟨"Name", true, 0, ":Name"⟩, ⟨"r", false, 1, "r<2>"⟩]⟩]⟩
    let report := (assemble ⟨[document], by simp⟩ legend uri).value
    report.cell? 0 0 = some ("]]>\r\n&amp;inner\r", false) ∧
      report.cell? 0 1 = some ("inner", false) ∧
      report.cell? 0 2 = some ("Error!", true) := by
  intro uri name inner children document legend report
  have huri : IsNamespace uri :=
    ⟨by decide +kernel, by decide +kernel, by decide +kernel⟩
  have htree : (Node.element ⟨none, "r"⟩ children).isWritable uri = true := by
    decide +kernel
  have hdocument : (DocumentSet.mk [document] (by simp)).documents[0]? = some document := by
    rfl
  have hcells {k : Nat} {column : Column} (hcolumn : legend.columns[k]? = some column) :=
    assemble_faithful huri htree hdocument rfl hcolumn
  have hreached :
      Reaches uri (.element ⟨none, "r"⟩ children) [⟨"Name", true, 7, ":Name<8>"⟩]
        (.element name [.text "]]>", .text "\r\n&amp;", inner, .text "\r"]) :=
    locate_eq_ok_iff.mp rfl
  have hinner : Reaches uri (.element ⟨none, "r"⟩ children) [⟨"r", false, 0, "r"⟩] inner :=
    locate_eq_ok_iff.mp rfl
  have hmissing :
      ∀ goal,
        ¬ Reaches uri (.element ⟨none, "r"⟩ children)
          [⟨"Name", true, 0, ":Name"⟩, ⟨"r", false, 1, "r<2>"⟩] goal := by
    intro goal hreaches
    cases locate_eq_ok_iff.mpr hreaches
  have hnameCell := (hcells (k := 0) rfl).1 _ hreached
  have hinnerCell := (hcells (k := 1) rfl).1 _ hinner
  have hmissingCell := (hcells (k := 2) rfl).2 hmissing
  exact ⟨hnameCell, hinnerCell, hmissingCell⟩

end Report

end LegendReport
