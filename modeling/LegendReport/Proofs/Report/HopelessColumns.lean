import LegendReport.Proofs.Report.Faithfulness
import LegendReport.Proofs.Xml.ElementNames

/-!
# Hopeless columns

A column is hopeless if its path is empty or has a name that no element can have.  Its
cell fails in every document and in every namespace.

No other column fails everywhere.  For each path of proper names there is a document
that it is resolved in: the elements that the path goes through, one inside the other,
each behind as many of its kind as the path passes over.
-/

namespace LegendReport

open Xml

namespace Resolution

variable {uri : String} {node start goal : Node} {path : List Segment}

section ProperNames

theorem Follows.isPlainName
    (h : Follows uri node path goal)
    (hnode : node.IsNamed) :
    ∀ segment ∈ path, isPlainName segment.name.toList = true := by
  induction h with
  | here node => simp
  | @child node next goal before after segment rest hchildren hname hbefore hrest ih =>
      have hnext : next.IsNamed := hnode.of_mem_children (by simp [hchildren])
      exact List.forall_mem_cons.mpr ⟨hnext.isPlainName_of_hasName hname, ih hnext⟩

/-- A path that reaches an element has the names of elements only. -/
theorem Reaches.isPlainName
    (h : Reaches uri start path goal)
    (hstart : start.IsNamed) :
    ∀ segment ∈ path, isPlainName segment.name.toList = true := by
  cases h with
  | @descendant next goal before after segment rest hdescendants hname hbefore hrest =>
      have hnext : next.IsNamed := hstart.of_mem_descendants (by simp [hdescendants])
      exact List.forall_mem_cons.mpr
        ⟨hnext.isPlainName_of_hasName hname, hrest.isPlainName hnext⟩

end ProperNames

section Growing

/-- Elements for a path to go through, each last among as many of its name as the path asks for. -/
def grown (uri : String) : List Segment → List Node
  | [] => []
  | segment :: rest =>
    List.replicate (segment.occurrence + 1) (.element (segment.nameIn uri) (grown uri rest))

theorem hasName_element
    (name : ExpandedName)
    (children : List Node) :
    (Node.element name children).hasName name = true := by
  simp [Node.hasName, Node.tag?]

theorem exists_follows_grown
    (uri : String)
    (tag : ExpandedName)
    (path : List Segment) :
    ∃ goal, Follows uri (.element tag (grown uri path)) path goal := by
  induction path generalizing tag with
  | nil => exact ⟨_, .here _⟩
  | cons segment rest ih =>
      let next := Node.element (segment.nameIn uri) (grown uri rest)
      obtain ⟨goal, hrest⟩ := ih (segment.nameIn uri)
      have hchildren :
          (Node.element tag (grown uri (segment :: rest))).children =
            List.replicate segment.occurrence next ++ next :: [] := by
        rw [Node.children, grown, List.replicate_succ']
      have hname : next.hasName (segment.nameIn uri) = true :=
        hasName_element (segment.nameIn uri) (grown uri rest)
      refine ⟨goal, .child hchildren hname ?_ hrest⟩
      rw [List.countP_replicate, if_pos hname]

theorem exists_reaches_grown
    (uri : String)
    (tag : ExpandedName)
    (hpath : path ≠ []) :
    ∃ goal, Reaches uri (.element tag (grown uri path)) path goal := by
  obtain ⟨first, rest, rfl⟩ := List.exists_cons_of_ne_nil hpath
  let next := Node.element (first.nameIn uri) (grown uri rest)
  obtain ⟨goal, hrest⟩ := exists_follows_grown uri (first.nameIn uri) rest
  have hdescendants :
      (Node.element tag (grown uri (first :: rest))).descendants =
        [] ++ next :: (next.descendants ++
          Node.preorderAll (List.replicate first.occurrence next)) := by
    rw [Node.descendants, Node.children, grown, List.replicate_succ, Node.preorderAll,
      Node.preorder_eq_cons]
    rfl
  exact ⟨goal, .descendant hdescendants (hasName_element _ _) (by simp) hrest⟩

theorem areWritable_replicate
    (h : node.isWritable uri = true)
    (count : Nat) :
    Node.areWritable uri (List.replicate count node) = true := by
  induction count with
  | zero => rfl
  | succ count ih => rw [List.replicate_succ, Node.areWritable, h, ih, Bool.and_self]

theorem areWritable_grown
    (h : ∀ segment ∈ path, isPlainName segment.name.toList = true) :
    Node.areWritable uri (grown uri path) = true := by
  induction path with
  | nil => rfl
  | cons segment rest ih =>
      rw [List.forall_mem_cons] at h
      have htag : isWritableName uri (segment.nameIn uri) = true := by
        rw [isWritableName, Bool.and_eq_true]
        refine ⟨?_, h.1⟩
        cases hqualified : segment.qualified <;> simp [Segment.nameIn, hqualified]
      refine areWritable_replicate ?_ _
      rw [Node.isWritable, htag, ih h.2, Bool.and_self]

end Growing

end Resolution

namespace Column

variable {column : Column} {uri : String}

/-- The path of a column is empty, or has a name that is not the name of an element. -/
def IsHopeless (column : Column) : Prop :=
  column.path = [] ∨ ∃ segment ∈ column.path, isPlainName segment.name.toList = false

theorem isHopeless_of_name_eq_empty
    {segment : Segment}
    (hsegment : segment ∈ column.path)
    (hname : segment.name = "") :
    column.IsHopeless :=
  Or.inr ⟨segment, hsegment, by rw [hname]; rfl⟩

/-- In a document that is read, only elements with proper names are there to be reached. -/
theorem IsHopeless.failsIn
    (h : column.IsHopeless)
    (uri : String)
    (document : SourceDocument) :
    column.FailsIn uri document := by
  rw [← exists_outcomeIn_eq_error_iff]
  cases houtcome : column.outcomeIn uri document with
  | error fault => exact ⟨fault, rfl⟩
  | ok value =>
      obtain ⟨hcontent, hread, hresolve⟩ := outcomeIn_eq_ok_iff.mp houtcome
      obtain ⟨goal, hreaches, -⟩ := Resolution.resolve_eq_ok_iff.mp hresolve
      have hnamed := hreaches.isPlainName (Document.isNamed_root_of_read? hread)
      rcases h with hnil | ⟨segment, hsegment, hname⟩
      · rw [hnil] at hreaches
        cases hreaches
      · rw [hnamed segment hsegment] at hname
        cases hname

/-- A column that is not hopeless has a text in a document grown for it. -/
theorem exists_yields_of_not_isHopeless
    (huri : IsNamespace uri)
    (h : ¬ column.IsHopeless) :
    ∃ document value, column.Yields uri document value := by
  rw [IsHopeless, not_or, not_exists] at h
  obtain ⟨hpath, hnames⟩ := h
  let root : ExpandedName := ⟨none, "r"⟩
  let children := Resolution.grown uri column.path
  have hplain : ∀ segment ∈ column.path, isPlainName segment.name.toList = true := by
    simpa using hnames
  have hroot : isWritableName uri root = true := by
    rw [isWritableName, Bool.and_eq_true]
    exact ⟨rfl, by decide⟩
  have htree : (Node.element root children).isWritable uri = true := by
    rw [Node.isWritable, hroot, Resolution.areWritable_grown hplain]
    rfl
  obtain ⟨goal, hreaches⟩ := Resolution.exists_reaches_grown uri root hpath
  let document := SourceDocument.ofText "grown.xml" (writeDocument uri root children)
  refine ⟨document, goal.textContent, outcomeIn_eq_ok_iff.mp ?_⟩
  rw [outcomeIn_of_written huri htree rfl, Resolution.resolve_eq_ok_iff.mpr ⟨goal, hreaches, rfl⟩]
  rfl

/-- Just the hopeless columns fail in every document. -/
theorem forall_failsIn_iff
    (column : Column)
    (huri : IsNamespace uri) :
    (∀ document, column.FailsIn uri document) ↔ column.IsHopeless := by
  constructor
  · intro hfails
    by_contra hhopeful
    obtain ⟨document, value, hyields⟩ := exists_yields_of_not_isHopeless huri hhopeful
    obtain ⟨fault, hfault⟩ := exists_outcomeIn_eq_error_iff.mpr (hfails document)
    rw [outcomeIn_eq_ok_iff.mpr hyields] at hfault
    cases hfault
  · intro hhopeless document
    exact hhopeless.failsIn uri document

end Column

end LegendReport
