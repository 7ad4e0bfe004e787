import LegendReport.Proofs.Report.Alignment
import LegendReport.Proofs.Resolution.Correspondence
import LegendReport.Proofs.Resolution.Reaching

/-!
# Namespaces of documents

The namespace of a run counts only in comparisons: a name is in it, in another one or in
none.  Two trees that agree in this, each with its own namespace, resolve every path
alike.  A path without qualified segments does not depend on the namespace at all.

No segment selects across the line between some namespace and none.  An unqualified
segment selects elements in no namespace, and a qualified one elements in that of the
run; the namespace whose URI is empty is a namespace like any other.
-/

namespace LegendReport

namespace ExpandedName

section Names

/-- Two names with the same local part that are both in a namespace or both in none. -/
structure SameLocal (name name' : ExpandedName) : Prop where
  localName_eq : name.localName = name'.localName
  uri_eq_none_iff : name.uri = none ↔ name'.uri = none

/-- Two such names of which the first is in one namespace exactly if the second is in another. -/
structure SameWithin (uri uri' : String) (name name' : ExpandedName) : Prop extends
    SameLocal name name' where
  uri_eq_some_iff : name.uri = some uri ↔ name'.uri = some uri'

variable {segment : Segment} {uri uri' : String} {name name' : ExpandedName}

theorem eq_nameIn_iff :
    name = segment.nameIn uri ↔
      name.localName = segment.name ∧
        name.uri = if segment.qualified then some uri else none := by
  obtain ⟨nameUri, localName⟩ := name
  simp [Segment.nameIn, and_comm]

theorem SameLocal.eq_nameIn_iff_of_not_qualified
    (h : SameLocal name name')
    (hqualified : segment.qualified = false) :
    name = segment.nameIn uri ↔ name' = segment.nameIn uri' := by
  rw [eq_nameIn_iff, eq_nameIn_iff, h.localName_eq, hqualified]
  simp [h.uri_eq_none_iff]

theorem SameWithin.eq_nameIn_iff
    (h : SameWithin uri uri' name name') :
    name = segment.nameIn uri ↔ name' = segment.nameIn uri' := by
  cases hqualified : segment.qualified with
  | false => exact h.toSameLocal.eq_nameIn_iff_of_not_qualified hqualified
  | true =>
      rw [ExpandedName.eq_nameIn_iff, ExpandedName.eq_nameIn_iff, h.localName_eq, hqualified]
      simp [h.uri_eq_some_iff]

end Names

end ExpandedName

namespace Resolution

open Xml

section Namespaces

variable {start start' : Node} {uri uri' : String} {path : List Segment}

/-- Outcomes that are alike are equal if no name they show depends on the namespace. -/
theorem ResolvesAlike.resolve_eq
    (h : ResolvesAlike start uri start' uri' path)
    (hpath : ∀ segment ∈ path, segment.qualified = false) :
    resolve start path uri = resolve start' path uri' := by
  have hname : ∀ segment ∈ path, segment.nameIn uri = segment.nameIn uri' := by
    intro segment hmem
    simp [Segment.nameIn, hpath segment hmem]
  cases h with
  | value h h' => rw [h, h']
  | emptyPath hempty h h' => rw [h, h']
  | elementNotFound hsplit h h' =>
      subst hsplit
      rw [h, h', hname _ List.mem_cons_self]
  | indexOutOfRange hsplit h h' =>
      subst hsplit
      rw [h.fails, h'.fails, hname _ (by simp)]

theorem resolve_eq_of_not_qualified
    (h : Node.Corresponds ExpandedName.SameLocal start start')
    (hpath : ∀ segment ∈ path, segment.qualified = false)
    (uri uri' : String) :
    resolve start path uri = resolve start' path uri' := by
  have hkeeps : KeepsNames ExpandedName.SameLocal uri uri' path := by
    intro segment hmem tag tag' htag
    exact htag.eq_nameIn_iff_of_not_qualified (hpath segment hmem)
  exact (resolvesAlike_of_corresponds h hkeeps).resolve_eq hpath

theorem hasName_of_follows
    {node goal : Node}
    {segment : Segment}
    (h : Follows uri node (path ++ [segment]) goal) :
    goal.hasName (segment.nameIn uri) = true := by
  induction path generalizing node with
  | nil =>
      cases h with
      | child hchildren hname hbefore hrest =>
          cases hrest
          exact hname
  | cons first rest ih =>
      cases h with
      | child hchildren hname hbefore hrest => exact ih hrest

/-- The element that a path leads to has the name of its last segment. -/
theorem hasName_of_locate
    {goal : Node}
    {segment : Segment}
    (h : locate start (path ++ [segment]) uri = .ok goal) :
    goal.hasName (segment.nameIn uri) = true := by
  have hreaches := locate_eq_ok_iff.mp h
  cases path with
  | nil =>
      cases hreaches with
      | descendant hdescendants hname hbefore hrest =>
          cases hrest
          exact hname
  | cons first rest =>
      cases hreaches with
      | descendant hdescendants hname hbefore hrest => exact hasName_of_follows hrest

theorem exists_tag_of_locate
    {goal : Node}
    {segment : Segment}
    (h : locate start (path ++ [segment]) uri = .ok goal) :
    ∃ tag,
      goal.tag? = some tag ∧ tag.localName = segment.name ∧
        tag.uri = if segment.qualified then some uri else none := by
  have htag := (Node.hasName_iff _ goal).mp (hasName_of_locate h)
  exact ⟨_, htag, ExpandedName.eq_nameIn_iff.mp rfl⟩

end Namespaces

end Resolution

section Reports

theorem Column.outcomeIn_eq_of_not_qualified
    {column : Column}
    (hpath : ∀ segment ∈ column.path, segment.qualified = false)
    (document : SourceDocument)
    (uri uri' : String) :
    column.outcomeIn uri document = column.outcomeIn uri' document := by
  have hroot :
      ∀ root : Xml.Node, column.outcome root uri = column.outcome root uri' := by
    intro root
    have hsame : root.Corresponds ExpandedName.SameLocal root :=
      .refl (fun _ => ⟨rfl, Iff.rfl⟩) root
    exact Resolution.resolve_eq_of_not_qualified hsame hpath uri uri'
  simp only [outcomeIn, hroot]

/--
The namespace of a run counts only in comparisons.  Take two trees of one shape with the
same texts and local names, and a namespace for each, such that of two corresponding
elements either both are in that namespace or neither is, and either both are in none or
neither is.  They resolve every path alike: to the same text, or with the same failure at
the same segment.  Without qualified segments the run's namespace does not count at all,
and no cell of such a column depends on it.  A qualified segment selects only elements in
the run's namespace, and an unqualified one only elements in none.
-/
theorem Report.namespace_counts_by_equality :
    (∀ (start start' : Xml.Node) (uri uri' : String),
      start.Corresponds (ExpandedName.SameWithin uri uri') start' →
        ∀ path, Resolution.ResolvesAlike start uri start' uri' path) ∧
    (∀ (start start' : Xml.Node) (path : List Segment),
      start.Corresponds ExpandedName.SameLocal start' →
        (∀ segment ∈ path, segment.qualified = false) →
          ∀ uri uri', Resolution.resolve start path uri = Resolution.resolve start' path uri') ∧
    (∀ (documents : DocumentSet) (legend : Legend) (k : Nat) (column : Column),
      legend.columns[k]? = some column →
        (∀ segment ∈ column.path, segment.qualified = false) →
          ∀ uri uri' i,
            (assemble documents legend uri).value.cell? i k =
              (assemble documents legend uri').value.cell? i k) ∧
    (∀ (start : Xml.Node) (path : List Segment) (segment : Segment) (uri : String)
        (goal : Xml.Node),
      Resolution.locate start (path ++ [segment]) uri = .ok goal →
        ∃ tag,
          goal.tag? = some tag ∧ tag.localName = segment.name ∧
            tag.uri = if segment.qualified then some uri else none) := by
  refine ⟨?_, ?_, ?_, ?_⟩
  · intro start start' uri uri' h path
    apply Resolution.resolvesAlike_of_corresponds h
    intro segment _ tag tag' htag
    exact htag.eq_nameIn_iff
  · intro start start' path h hpath
    exact Resolution.resolve_eq_of_not_qualified h hpath
  · intro documents legend k column hcolumn hpath uri uri' i
    have hcell :
        ∀ document, cellOf document column uri = cellOf document column uri' := by
      intro document
      rw [cellOf, cellOf, column.outcomeIn_eq_of_not_qualified hpath document uri uri']
    simp only [cell?_assemble, hcolumn, Option.map_some, hcell]
  · intro start path segment uri goal h
    exact Resolution.exists_tag_of_locate h

/-- Elements in the run's namespace, in another one, in the empty one and in none are kept apart,
whatever these namespaces are. -/
theorem Report.namespace_counts_by_equality_of_renamed :
    let item (uri : Option String) (content : String) : Xml.Node :=
      .element ⟨uri, "B"⟩ [.text content]
    let start : Xml.Node :=
      .element ⟨none, "r"⟩
        [.element ⟨some "", "A"⟩ [],
          .element ⟨some "u", "A"⟩ [item none "1", item (some "") "2", item none "3"]]
    let start' : Xml.Node :=
      .element ⟨none, "r"⟩
        [.element ⟨some "w", "A"⟩ [],
          .element ⟨some "", "A"⟩ [item none "1", item (some "u") "2", item none "3"]]
    let path (occurrence : Nat) : List Segment :=
      [⟨"A", true, 0, ":A"⟩, ⟨"B", false, occurrence, "B"⟩]
    let legend : Legend := ⟨[⟨"B", [.plain "B"]⟩]⟩
    let documents : DocumentSet := ⟨[.ofText "a.xml" "<r><B xmlns='u'>1</B></r>"], by simp⟩
    start.Corresponds (ExpandedName.SameWithin "u" "") start' ∧
      Resolution.ResolvesAlike start "u" start' "" (path 1) ∧
      Resolution.resolve start (path 1) "u" = .ok "3" ∧
      Resolution.ResolvesAlike start "u" start' "" (path 2) ∧
      Resolution.resolve start (path 2) "u" = .error (.indexOutOfRange ⟨none, "B"⟩ 2 2) ∧
      Resolution.resolve start [.plain "B"] "u" = Resolution.resolve start [.plain "B"] "w" ∧
      (assemble documents legend "u").value.cell? 0 0 =
        (assemble documents legend "").value.cell? 0 0 ∧
      ∃ tag, (item none "3").tag? = some tag ∧ tag.localName = "B" ∧ tag.uri = none := by
  intro item start start' path legend documents
  have hitem : ∀ uri uri' content,
      ExpandedName.SameWithin "u" "" ⟨uri, "B"⟩ ⟨uri', "B"⟩ →
        (item uri content).Corresponds (ExpandedName.SameWithin "u" "") (item uri' content) :=
    fun _ _ content htag => .element htag (.cons (.text content) .nil)
  have hsame : start.Corresponds (ExpandedName.SameWithin "u" "") start' := by
    refine .element ⟨⟨rfl, by decide⟩, by decide⟩ (.cons (.element ⟨⟨rfl, by decide⟩, by decide⟩ .nil)
      (.cons (.element ⟨⟨rfl, by decide⟩, by decide⟩ ?_) .nil))
    exact .cons (hitem none none "1" ⟨⟨rfl, by decide⟩, by decide⟩)
      (.cons (hitem (some "") (some "u") "2" ⟨⟨rfl, by decide⟩, by decide⟩)
        (.cons (hitem none none "3" ⟨⟨rfl, by decide⟩, by decide⟩) .nil))
  have hlocal : start.Corresponds ExpandedName.SameLocal start :=
    .refl (fun _ => ⟨rfl, Iff.rfl⟩) start
  obtain ⟨hwithin, hunqualified, hcells, hselects⟩ := namespace_counts_by_equality
  have halike := hwithin start start' "u" "" hsame
  exact
    ⟨hsame, halike (path 1), rfl, halike (path 2), rfl,
      hunqualified start start [.plain "B"] hlocal (by simp [Segment.plain]) "u" "w",
      hcells documents legend 0 ⟨"B", [.plain "B"]⟩ rfl (by simp [Segment.plain]) "u" "" 0,
      hselects start [⟨"A", true, 0, ":A"⟩] ⟨"B", false, 1, "B"⟩ "u" (item none "3") rfl⟩

end Reports

end LegendReport
