import LegendReport.Proofs.Xml.Scanning
import LegendReport.Xml.Reading

/-!
# Names of elements

The name of a tag is checked when the tag is scanned, and elements come into a tree by
their start tags only.  So every element of a document that is read has a proper name:
it has at least one character, and no colon, bracket or white space.

While a document is read, this holds of the nodes of the elements that are still open.
-/

namespace LegendReport

namespace Xml

section Meaning

/-- All elements of a tree have proper names. -/
inductive Node.IsNamed : Node → Prop where
  | element
      {tag : ExpandedName}
      {children : List Node}
      (htag : isPlainName tag.localName.toList = true)
      (hchildren : ∀ child ∈ children, IsNamed child) :
      IsNamed (element tag children)
  | text
      (content : String) :
      IsNamed (text content)
  | comment
      (content : String) :
      IsNamed (comment content)
  | instruction
      (target content : String) :
      IsNamed (instruction target content)

/-- A piece of markup opens no element without a proper name. -/
def Markup.IsNamed : Markup → Prop
  | startTag name _ _ => isPlainName name.localPart = true
  | endTag _ => True
  | text _ => True
  | cdata _ => True
  | comment _ => True
  | instruction _ _ => True

/-- An open element has a proper name, and so have all elements in it. -/
structure OpenElement.IsNamed (element : OpenElement) : Prop where
  tag : isPlainName element.tag.localName.toList = true
  nodes : ∀ node ∈ element.nodes, node.IsNamed

end Meaning

section Trees

namespace Node

variable {node : Node}

theorem IsNamed.of_mem_children
    (h : node.IsNamed)
    {child : Node}
    (hchild : child ∈ node.children) :
    child.IsNamed := by
  cases h with
  | element htag hchildren => exact hchildren child hchild
  | text content => simp [children] at hchild
  | comment content => simp [children] at hchild
  | instruction target content => simp [children] at hchild

theorem IsNamed.of_mem_preorder
    (h : node.IsNamed)
    {other : Node}
    (hother : other ∈ node.preorder) :
    other.IsNamed := by
  induction h with
  | @element tag children htag hchildren ih =>
      rw [preorder, preorderAll_eq_flatMap, List.mem_cons, List.mem_flatMap] at hother
      rcases hother with rfl | ⟨child, hchild, hmem⟩
      · exact .element htag hchildren
      · exact ih child hchild hmem
  | text content =>
      obtain rfl : other = .text content := by simpa [preorder] using hother
      exact .text content
  | comment content =>
      obtain rfl : other = .comment content := by simpa [preorder] using hother
      exact .comment content
  | instruction target content =>
      obtain rfl : other = .instruction target content := by simpa [preorder] using hother
      exact .instruction target content

theorem IsNamed.of_mem_descendants
    (h : node.IsNamed)
    {other : Node}
    (hother : other ∈ node.descendants) :
    other.IsNamed := by
  refine h.of_mem_preorder ?_
  rw [preorder_eq_cons]
  exact List.mem_cons_of_mem node hother

/-- A name that a node of the tree has is a proper one. -/
theorem IsNamed.isPlainName_of_hasName
    (h : node.IsNamed)
    {name : ExpandedName}
    (hname : node.hasName name = true) :
    isPlainName name.localName.toList = true := by
  rw [hasName_iff] at hname
  cases h with
  | element htag hchildren =>
      obtain rfl := Option.some.inj hname
      exact htag
  | text content => cases hname
  | comment content => cases hname
  | instruction target content => cases hname

end Node

end Trees

section Scans

namespace Markup

variable {cs rest : List Char} {piece : Markup} {name : TagName}

theorem isPlainName_of_tagName?
    (h : tagName? cs = some (name, rest)) :
    isPlainName name.localPart = true := by
  unfold tagName? at h
  dsimp only at h
  split at h
  · split at h
    · next hlocal => cases h; exact hlocal
    · cases h
  · split at h
    · next hproper =>
        cases h
        rw [Bool.and_eq_true] at hproper
        exact hproper.2
    · cases h
  · cases h

theorem isNamed_of_startTag?
    (h : startTag? cs = some (piece, rest)) :
    piece.IsNamed := by
  simp only [startTag?, Option.bind_eq_bind, Option.bind_eq_some_iff, Prod.exists,
    Option.pure_def, Option.some.injEq, Prod.mk.injEq] at h
  obtain ⟨name, afterName, hname, attributes, empty, after, -, rfl, -⟩ := h
  exact isPlainName_of_tagName? hname

theorem isNamed_of_endTag?
    (h : endTag? cs = some (piece, rest)) :
    piece.IsNamed := by
  simp only [endTag?, Option.bind_eq_bind, Option.bind_eq_some_iff, Prod.exists,
    Option.pure_def, Option.some.injEq, Prod.mk.injEq] at h
  obtain ⟨name, afterName, -, after, -, rfl, -⟩ := h
  exact trivial

theorem isNamed_of_comment?
    (h : comment? cs = some (piece, rest)) :
    piece.IsNamed := by
  simp only [comment?, Option.bind_eq_bind, Option.bind_eq_some_iff, Prod.exists,
    Option.pure_def, Option.ite_none_right_eq_some, Option.some.injEq, Prod.mk.injEq] at h
  obtain ⟨chars, after, -, -, rfl, -⟩ := h
  exact trivial

theorem isNamed_of_cdata?
    (h : cdata? cs = some (piece, rest)) :
    piece.IsNamed := by
  simp only [cdata?, Option.bind_eq_bind, Option.bind_eq_some_iff, Prod.exists,
    Option.pure_def, Option.ite_none_right_eq_some, Option.some.injEq, Prod.mk.injEq] at h
  obtain ⟨chars, after, -, -, rfl, -⟩ := h
  exact trivial

theorem isNamed_of_instruction?
    (h : instruction? cs = some (piece, rest)) :
    piece.IsNamed := by
  simp only [instruction?, Option.bind_eq_bind, Option.bind_none, Option.bind_eq_some_iff,
    Prod.exists, Option.pure_def, Option.ite_none_left_eq_some, Option.ite_none_right_eq_some,
    Option.some.injEq, Prod.mk.injEq] at h
  obtain ⟨-, target, afterTarget, -, chars, after, -, -, rfl, -⟩ := h
  exact trivial

theorem isNamed_of_text?
    (h : text? cs = some piece) :
    piece.IsNamed := by
  simp only [text?, Option.ite_none_right_eq_some, Option.some.injEq] at h
  obtain ⟨-, rfl⟩ := h
  exact trivial

/-- Of the pieces only start tags open elements, and their names are checked. -/
theorem isNamed_of_next?
    (h : next? cs = some (piece, rest)) :
    piece.IsNamed := by
  unfold next? at h
  split at h
  · exact isNamed_of_comment? h
  · exact isNamed_of_cdata? h
  · cases h
  · exact isNamed_of_instruction? h
  · exact isNamed_of_endTag? h
  · exact isNamed_of_startTag? h
  · simp only [Option.map_eq_some_iff, Prod.mk.injEq] at h
    obtain ⟨text, htext, rfl, -⟩ := h
    exact isNamed_of_text? htext

theorem isNamed_of_mem_scan?
    {bound : Nat}
    {pieces : List Markup}
    (h : scan? bound cs = some pieces) :
    ∀ piece ∈ pieces, piece.IsNamed := by
  induction bound generalizing cs pieces with
  | zero =>
      cases cs with
      | nil => cases h; simp
      | cons c cs => cases h
  | succ bound ih =>
      cases cs with
      | nil => cases h; simp
      | cons c cs =>
          rw [scan?] at h
          cases hnext : next? (c :: cs) with
          | none => simp [hnext] at h
          | some found =>
              obtain ⟨first, after⟩ := found
              rw [hnext, Option.map_eq_some_iff] at h
              obtain ⟨others, hothers, rfl⟩ := h
              exact List.forall_mem_cons.mpr ⟨isNamed_of_next? hnext, ih hothers⟩

end Markup

end Scans

section Content

variable {element closed : OpenElement} {around : List OpenElement} {pieces rest : List Markup}

/-- The name of an element is that of its tag without the prefix. -/
theorem localName_of_openTag?
    {scope inner : Scope}
    {name : TagName}
    {attributes : List Attribute}
    {tag : ExpandedName}
    (h : openTag? scope name attributes = some (tag, inner)) :
    tag.localName = String.ofList name.localPart := by
  simp only [openTag?, Option.bind_eq_bind, Option.bind_none, Option.bind_eq_some_iff,
    Option.pure_def, Option.ite_none_left_eq_some, Option.some.injEq, Prod.mk.injEq] at h
  obtain ⟨-, roles, -, -, keys, -, -, uri, -, rfl, -⟩ := h
  rfl

theorem OpenElement.IsNamed.opened
    {scope inner : Scope}
    {name : TagName}
    {attributes : List Attribute}
    {tag : ExpandedName}
    (hopen : openTag? scope name attributes = some (tag, inner))
    (hname : isPlainName name.localPart = true) :
    OpenElement.IsNamed ⟨name, tag, inner, []⟩ := by
  refine ⟨?_, by simp⟩
  rw [localName_of_openTag? hopen, String.toList_ofList]
  exact hname

theorem OpenElement.IsNamed.add
    (h : element.IsNamed)
    {node : Node}
    (hnode : node.IsNamed) :
    (element.add node).IsNamed :=
  ⟨h.tag, List.forall_mem_cons.mpr ⟨hnode, h.nodes⟩⟩

theorem OpenElement.IsNamed.addText
    (h : element.IsNamed)
    (chars : List Char) :
    (element.addText chars).IsNamed := by
  unfold OpenElement.addText
  split
  · next before earlier hnodes =>
      have hall := h.nodes
      rw [hnodes, List.forall_mem_cons] at hall
      exact ⟨h.tag, List.forall_mem_cons.mpr ⟨.text _, hall.2⟩⟩
  · exact h.add (.text _)

theorem OpenElement.IsNamed.close
    (h : element.IsNamed) :
    element.close.IsNamed := by
  refine .element h.tag ?_
  intro child hchild
  exact h.nodes child (List.mem_reverse.mp hchild)

/-- What is read into the open elements keeps their names proper, and those of what they hold. -/
theorem OpenElement.IsNamed.of_content?
    (helement : element.IsNamed)
    (haround : ∀ outer ∈ around, outer.IsNamed)
    (hpieces : ∀ piece ∈ pieces, piece.IsNamed)
    (h : content? element around pieces = some (closed, rest)) :
    closed.IsNamed := by
  induction pieces generalizing element around with
  | nil => cases h
  | cons piece pieces ih =>
      rw [List.forall_mem_cons] at hpieces
      cases piece with
      | startTag name attributes empty =>
          have hname : isPlainName name.localPart = true := hpieces.1
          rw [content?] at h
          cases hopen : openTag? element.scope name attributes with
          | none => simp [hopen] at h
          | some opened =>
              obtain ⟨tag, scope⟩ := opened
              have hopened := OpenElement.IsNamed.opened hopen hname
              rw [hopen] at h
              dsimp only at h
              split at h
              · exact ih (helement.add hopened.close) haround hpieces.2 h
              · exact ih hopened (List.forall_mem_cons.mpr ⟨helement, haround⟩) hpieces.2 h
      | endTag name =>
          unfold content? at h
          split at h
          · cases around with
            | nil => cases h; exact helement
            | cons outer farther =>
                rw [List.forall_mem_cons] at haround
                exact ih (haround.1.add helement.close) haround.2 hpieces.2 h
          · cases h
      | text chars =>
          rw [content?] at h
          cases hplain : textChars? chars with
          | none => simp [hplain] at h
          | some plain =>
              rw [hplain] at h
              exact ih (helement.addText plain) haround hpieces.2 h
      | cdata chars =>
          rw [content?] at h
          exact ih (helement.addText _) haround hpieces.2 h
      | comment chars =>
          rw [content?] at h
          exact ih (helement.add (.comment _)) haround hpieces.2 h
      | instruction target chars =>
          rw [content?] at h
          exact ih (helement.add (.instruction _ _)) haround hpieces.2 h

theorem OpenElement.IsNamed.of_rootElement?
    (hpieces : ∀ piece ∈ pieces, piece.IsNamed)
    (h : rootElement? pieces = some (closed, rest)) :
    closed.IsNamed := by
  unfold rootElement? at h
  split at h
  · next name attributes empty after =>
      rw [List.forall_mem_cons] at hpieces
      have hname : isPlainName name.localPart = true := hpieces.1
      cases hopen : openTag? [] name attributes with
      | none => simp [hopen] at h
      | some opened =>
          obtain ⟨tag, scope⟩ := opened
          have hopened := OpenElement.IsNamed.opened hopen hname
          rw [hopen] at h
          dsimp only at h
          split at h
          · cases h; exact hopened
          · exact hopened.of_content? (by simp) hpieces.2 h
  · cases h

end Content

namespace Document

variable {pieces : List Markup} {document : Document}

/-- What is left behind a margin belongs to the pieces. -/
theorem mem_of_mem_margin
    {piece : Markup}
    (h : piece ∈ (margin pieces).2) :
    piece ∈ pieces := by
  induction pieces with
  | nil => exact h
  | cons first pieces ih =>
      cases first with
      | startTag name attributes empty => exact h
      | endTag name => exact h
      | text chars =>
          rw [margin] at h
          split at h
          · exact List.mem_cons_of_mem _ (ih h)
          · exact h
      | cdata chars => exact h
      | comment chars => exact List.mem_cons_of_mem _ (ih h)
      | instruction target chars => exact List.mem_cons_of_mem _ (ih h)

theorem isNamed_root_of_ofMarkup?
    (hpieces : ∀ piece ∈ pieces, piece.IsNamed)
    (h : ofMarkup? pieces = some document) :
    document.root.IsNamed := by
  unfold ofMarkup? at h
  dsimp only at h
  cases hroot : rootElement? (margin pieces).2 with
  | none => simp [hroot] at h
  | some found =>
      obtain ⟨root, after⟩ := found
      have hnamed : root.IsNamed :=
        .of_rootElement? (fun piece hmem => hpieces piece (mem_of_mem_margin hmem)) hroot
      rw [hroot] at h
      dsimp only at h
      split at h
      · cases h; exact hnamed.close
      · cases h

/-- All elements of a document that is read have proper names. -/
theorem isNamed_root_of_read?
    {text : String}
    (h : read? text = some document) :
    document.root.IsNamed := by
  have hmarkup {cs : List Char} (h : (Markup.ofChars? cs).bind ofMarkup? = some document) :
      document.root.IsNamed := by
    obtain ⟨pieces, hpieces, h⟩ := Option.bind_eq_some_iff.mp h
    exact isNamed_root_of_ofMarkup? (Markup.isNamed_of_mem_scan? hpieces) h
  unfold read? at h
  dsimp only at h
  split at h
  · obtain ⟨body, -, h⟩ := Option.bind_eq_some_iff.mp h
    exact hmarkup h
  · exact hmarkup h

end Document

end Xml

end LegendReport
