import LegendReport.Proofs.Xml.Scanning
import LegendReport.Xml.Reading

/-!
# Reading written documents

A written document is read as its tree in plain form.  The namespace that the prefix
of the root stands for is in force in the whole tree, each element is closed by its
own end tag, and each text comes back character by character.
-/

namespace LegendReport

namespace Xml

section Scope

/-- The scope in a written document: the prefix stands for the namespace of the run. -/
def rootScope (uri : String) : Scope :=
  [(some ['p'], uri.toList)]

variable {uri : String} {tag : ExpandedName}

/-- The prefix of a written name is in no conflict with the reserved ones. -/
theorem space_writtenName
    (htag : isWritableName uri tag = true) :
    (tag.uri = none ∧ (writtenName tag).space = []) ∨
      (tag.uri = some uri ∧ (writtenName tag).space = ['p']) := by
  rw [isWritableName, Bool.and_eq_true, Bool.or_eq_true, beq_iff_eq, beq_iff_eq] at htag
  rcases htag.1 with hnone | hsome
  · exact Or.inl ⟨hnone, by simp [writtenName, hnone]⟩
  · exact Or.inr ⟨hsome, by simp [writtenName, hsome]⟩

theorem uri?_rootScope
    (htag : isWritableName uri tag = true) :
    (rootScope uri).uri? (writtenName tag).space = some (tag.uri.map String.toList) := by
  rcases space_writtenName htag with ⟨huri, hspace⟩ | ⟨huri, hspace⟩
  · rw [hspace, huri]
    rfl
  · rw [hspace, huri]
    rfl

theorem not_reserved_writtenName
    (htag : isWritableName uri tag = true) :
    ¬ ((writtenName tag).space = "xmlns".toList ∨ (writtenName tag).space = "xml".toList) := by
  rcases space_writtenName htag with ⟨_, hspace⟩ | ⟨_, hspace⟩
  · rw [hspace]
    decide
  · rw [hspace]
    decide

theorem expandedName_writtenName
    (tag : ExpandedName) :
    (⟨(tag.uri.map String.toList).map String.ofList,
      String.ofList (writtenName tag).localPart⟩ : ExpandedName) = tag := by
  obtain ⟨uri, localName⟩ := tag
  cases uri <;> simp [writtenName]

/-- A start tag without proper attributes opens an element in the scope of its declarations. -/
theorem openTag?_of_declarations
    (scope inner : Scope)
    (roles : List AttributeRole)
    {name : TagName}
    {attributes : List Attribute}
    (hreserved : ¬ (name.space = "xmlns".toList ∨ name.space = "xml".toList))
    (hroles : attributes.mapM Attribute.role? = some roles)
    (hdistinct : allDistinct ((AttributeRole.declarations roles).filterMap Prod.fst) = true)
    (hproper : AttributeRole.properNames roles = [])
    (hinner : AttributeRole.declarations roles ++ scope = inner) :
    openTag? scope name attributes =
      (inner.uri? name.space).map fun uri =>
        (⟨uri.map String.ofList, String.ofList name.localPart⟩, inner) := by
  rw [openTag?, if_neg hreserved, hroles]
  simp only [Option.bind_eq_bind, Option.bind_some, hdistinct, hproper, hinner, List.mapM_nil,
    Option.pure_def, Bool.not_true, Bool.false_eq_true, if_false, allDistinct]
  cases inner.uri? name.space <;> rfl

/-- Below the root a start tag opens an element of its own name in the scope of the root. -/
theorem openTag?_rootScope
    (htag : isWritableName uri tag = true) :
    openTag? (rootScope uri) (writtenName tag) [] = some (tag, rootScope uri) := by
  rw [openTag?_of_declarations (rootScope uri) (rootScope uri) []
    (not_reserved_writtenName htag) rfl rfl rfl rfl, uri?_rootScope htag, Option.map_some,
    expandedName_writtenName]

/-- The attribute of the root declares its prefix. -/
theorem role?_rootAttribute
    (huri : IsNamespace uri) :
    (rootAttribute uri.toList).role? = some (.declaration (some ['p']) uri.toList) := by
  have hprefix : ['p'] ≠ "xml".toList := by
    decide
  rw [Attribute.role?, rootAttribute, attributeValue?_write, Option.bind_some, if_pos rfl,
    if_neg huri.ne_xmlnsUri, if_neg hprefix, if_neg huri.ne_xmlUri]

/-- The start tag of the root declares the scope that it is in itself. -/
theorem openTag?_root
    (huri : IsNamespace uri)
    (htag : isWritableName uri tag = true) :
    openTag? [] (writtenName tag) [rootAttribute uri.toList] = some (tag, rootScope uri) := by
  have hroles :
      [rootAttribute uri.toList].mapM Attribute.role? =
        some [.declaration (some ['p']) uri.toList] := by
    simp [role?_rootAttribute huri]
  rw [openTag?_of_declarations [] (rootScope uri) _
    (not_reserved_writtenName htag) hroles rfl rfl rfl, uri?_rootScope htag, Option.map_some,
    expandedName_writtenName]

end Scope

section Content

/-- A text that follows no text is a node of its own. -/
theorem addText_of_leadsText_eq_false
    {element : OpenElement}
    (h : Node.leadsText element.nodes = false)
    (content : String) :
    element.addText content.toList = element.add (.text content) := by
  unfold OpenElement.addText
  split
  · next hnodes =>
      rw [hnodes] at h
      cases h
  · rw [String.ofList_toList]

open Node

/-- Settled nodes are read into the innermost open element. -/
theorem content?_piecesAll
    {uri : String}
    {nodes : List Node}
    (h : Settled uri nodes)
    (element : OpenElement)
    (hscope : element.scope = rootScope uri)
    (hjoin : leadsText nodes = true → leadsText element.nodes = false)
    (around : List OpenElement)
    (rest : List Markup) :
    content? element around (piecesAll nodes ++ rest) =
      content? { element with nodes := nodes.reverse ++ element.nodes } around rest := by
  induction h generalizing element around rest with
  | nil => rfl
  | @element tag children nodes htag hchildren hnodes ihChildren ihNodes =>
      have hopen : openTag? element.scope (writtenName tag) [] = some (tag, rootScope uri) := by
        rw [hscope, openTag?_rootScope htag]
      calc
        content? element around (piecesAll (.element tag children :: nodes) ++ rest) =
            content? ⟨writtenName tag, tag, rootScope uri, []⟩ (element :: around)
              (piecesAll children ++ .endTag (writtenName tag) :: (piecesAll nodes ++ rest)) := by
          simp only [piecesAll, pieces, List.cons_append, List.append_assoc, List.nil_append,
            content?, hopen, Bool.false_eq_true, if_false]
        _ = content? ⟨writtenName tag, tag, rootScope uri, children.reverse⟩ (element :: around)
              (.endTag (writtenName tag) :: (piecesAll nodes ++ rest)) := by
          rw [ihChildren _ rfl (fun _ => rfl), List.append_nil]
        _ = content? (element.add (.element tag children)) around (piecesAll nodes ++ rest) := by
          rw [content?, if_pos rfl, OpenElement.close, List.reverse_reverse]
        _ = content?
              { element with nodes := (.element tag children :: nodes).reverse ++ element.nodes }
              around rest := by
          rw [ihNodes (element.add (.element tag children)) hscope (fun _ => rfl),
            OpenElement.add, List.reverse_cons, List.append_assoc, List.singleton_append]
  | @text content nodes hne hallowed hlead hnodes ih =>
      have hadd : element.addText content.toList = element.add (.text content) :=
        addText_of_leadsText_eq_false (hjoin rfl) content
      calc
        content? element around (piecesAll (.text content :: nodes) ++ rest) =
            content? (element.addText content.toList) around (piecesAll nodes ++ rest) := by
          simp only [piecesAll, pieces, List.cons_append, List.nil_append, content?,
            textChars?_write]
        _ = content? { element with nodes := (.text content :: nodes).reverse ++ element.nodes }
              around rest := by
          rw [hadd, ih (element.add (.text content)) hscope (by simp [hlead]), OpenElement.add,
            List.reverse_cons, List.append_assoc, List.singleton_append]

end Content

namespace Document

variable {uri : String} {tag : ExpandedName} {children : List Node}

theorem scans_writeDocument
    (huri : IsNamespace uri)
    (htag : isWritableName uri tag = true)
    (hchildren : Node.Settled uri children) :
    Scans
      (writeRootStart (writtenName tag) uri.toList ++
        (Node.writeAll children ++ writeEnd (writtenName tag)))
      (.startTag (writtenName tag) [rootAttribute uri.toList] false ::
        (Node.piecesAll children ++ [.endTag (writtenName tag)])) := by
  have hproper := isProper_writtenName htag
  have hnext := next?_writeEnd hproper []
  rw [List.append_nil] at hnext
  have hend : Scans (writeEnd (writtenName tag)) [.endTag (writtenName tag)] :=
    .piece hnext (by simp [writeEnd]) .nil
  refine .piece (next?_writeRootStart hproper huri.all_isAllowed _) ?_
    (Node.scans_writeAll hchildren hend)
  simp only [writeRootStart, List.length_append, List.length_cons]
  omega

theorem ofMarkup?_piecesAll
    (huri : IsNamespace uri)
    (htag : isWritableName uri tag = true)
    (hchildren : Node.Settled uri children) :
    ofMarkup?
        (.startTag (writtenName tag) [rootAttribute uri.toList] false ::
          (Node.piecesAll children ++ [.endTag (writtenName tag)])) =
      some ⟨[], tag, children, []⟩ := by
  have hroot :
      rootElement?
          (.startTag (writtenName tag) [rootAttribute uri.toList] false ::
            (Node.piecesAll children ++ [.endTag (writtenName tag)])) =
        some (⟨writtenName tag, tag, rootScope uri, children.reverse⟩, []) := by
    rw [rootElement?, openTag?_root huri htag]
    dsimp only
    rw [if_neg (by simp), content?_piecesAll hchildren _ rfl (fun _ => rfl), List.append_nil,
      content?, if_pos rfl]
  have hmargin (name : TagName) (attributes : List Attribute) (rest : List Markup) :
      margin (.startTag name attributes false :: rest) =
        ([], .startTag name attributes false :: rest) := by
    rfl
  rw [ofMarkup?, hmargin]
  dsimp only
  rw [hroot]
  simp [margin]

/-- Without a byte order mark and a declaration a document is all markup. -/
theorem read?_of_no_declaration
    {text : String}
    (hmark : text.toList.head? ≠ some '\uFEFF')
    (hdeclaration : Markup.after? "<?xml ".toList text.toList = none) :
    read? text = (Markup.ofChars? text.toList).bind ofMarkup? := by
  unfold read?
  extract_lets chars
  have hchars : chars = text.toList := by
    unfold chars
    split
    · next heq => simp [heq] at hmark
    · rfl
  rw [hchars, hdeclaration]

/-- A written document is read as its tree in plain form. -/
theorem read?_writeDocument
    (huri : IsNamespace uri)
    (htag : isWritableName uri tag = true)
    (hchildren : Node.areWritable uri children = true) :
    read? (writeDocument uri tag children) = some ⟨[], tag, Node.plainAll children, []⟩ := by
  have hsettled := Node.settled_plainAll hchildren
  have hscans := scans_writeDocument huri htag hsettled
  rw [Node.writeAll_plainAll, ← List.append_assoc] at hscans
  have hread := ofMarkup?_piecesAll huri htag hsettled
  obtain ⟨c, rest, hname, hc⟩ := (isProper_writtenName htag).exists_nameChars_eq_cons
  have hquestion : c ≠ '?' := by
    rintro rfl
    exact absurd hc (by decide)
  -- The first character is no byte order mark, and the second begins no declaration.
  obtain ⟨tail, htail⟩ :
      ∃ tail, (writeDocument uri tag children).toList = '<' :: c :: tail := by
    refine ⟨rest ++ (" xmlns:p=\"".toList ++ valueEscaping.write uri.toList ++ "\">".toList ++
      (Node.writeAll children ++ writeEnd (writtenName tag))), ?_⟩
    simp [writeDocument, writeRootStart, hname]
  have hscan := hscans.ofChars?
  rw [← String.toList_ofList (l := writeRootStart _ _ ++ _ ++ _), ← writeDocument, htail] at hscan
  have hafter : Markup.after? "<?xml ".toList ('<' :: c :: tail) = none := by
    simp [Markup.after?, Ne.symm hquestion]
  rw [read?_of_no_declaration (by simp [htail]) (by rw [htail, hafter]), htail, hscan,
    Option.bind_some, hread]

end Document

end Xml

end LegendReport
