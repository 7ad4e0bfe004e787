import LegendReport.Resolution
import Mathlib.Data.List.Forall2

/-!
# Corresponding trees

Two trees correspond if they have the same shape and the same texts, and the names of
corresponding elements are related.  If the relation cannot tell apart the names that a
path looks for in one tree from those it looks for in the other, the path goes the same
way in both: it leads to corresponding elements, or it stops at the same segment with as
many children to choose from (`resolvesAlike_of_corresponds`).
-/

namespace LegendReport

namespace Xml

namespace Node

/-- Two nodes with the same shape and texts whose elements have related names. -/
inductive Corresponds (related : ExpandedName → ExpandedName → Prop) : Node → Node → Prop
  | element
      {tag tag' : ExpandedName}
      {children children' : List Node}
      (htag : related tag tag')
      (hchildren : List.Forall₂ (Corresponds related) children children') :
      Corresponds related (.element tag children) (.element tag' children')
  | text
      (content : String) :
      Corresponds related (.text content) (.text content)
  | comment
      (content content' : String) :
      Corresponds related (.comment content) (.comment content')
  | instruction
      (target content target' content' : String) :
      Corresponds related (.instruction target content) (.instruction target' content')

section Correspondence

variable {related : ExpandedName → ExpandedName → Prop} {node node' : Node}

mutual

theorem Corresponds.refl
    (hrelated : ∀ tag, related tag tag) :
    ∀ node : Node, Corresponds related node node
  | .element tag children => .element (hrelated tag) (forall₂_corresponds_refl hrelated children)
  | .text content => .text content
  | .comment content => .comment content content
  | .instruction target content => .instruction target content target content

/-- Nodes correspond to themselves if names are related to themselves. -/
theorem forall₂_corresponds_refl
    (hrelated : ∀ tag, related tag tag) :
    ∀ nodes : List Node, List.Forall₂ (Corresponds related) nodes nodes
  | [] => .nil
  | node :: rest =>
      .cons (Corresponds.refl hrelated node) (forall₂_corresponds_refl hrelated rest)

end

theorem Corresponds.children
    (h : Corresponds related node node') :
    List.Forall₂ (Corresponds related) node.children node'.children := by
  cases h with
  | element htag hchildren => exact hchildren
  | text content => exact .nil
  | comment content content' => exact .nil
  | instruction target content target' content' => exact .nil

theorem Corresponds.text?_eq
    (h : Corresponds related node node') :
    node.text? = node'.text? := by
  cases h <;> rfl

/-- Corresponding nodes both have a name, or both have not, if the relation does not tell the two
names from others. -/
theorem Corresponds.hasName_iff
    {name name' : ExpandedName}
    (h : Corresponds related node node')
    (hnames : ∀ tag tag', related tag tag' → (tag = name ↔ tag' = name')) :
    node.hasName name = true ↔ node'.hasName name' = true := by
  rw [Node.hasName_iff, Node.hasName_iff]
  cases h with
  | element htag hchildren => simpa [tag?] using hnames _ _ htag
  | text content => simp [tag?]
  | comment content content' => simp [tag?]
  | instruction target content target' content' => simp [tag?]

mutual

theorem forall₂_preorder :
    ∀ (node : Node) {node' : Node}, Corresponds related node node' →
      List.Forall₂ (Corresponds related) node.preorder node'.preorder
  | element _ children, _, .element htag hchildren =>
      .cons (.element htag hchildren) (forall₂_preorderAll children hchildren)
  | text _, _, .text content => .cons (.text content) .nil
  | comment _, _, .comment content content' => .cons (.comment content content') .nil
  | instruction _ _, _, .instruction target content target' content' =>
      .cons (.instruction target content target' content') .nil

/-- Corresponding nodes come in the same document order. -/
theorem forall₂_preorderAll :
    ∀ (nodes : List Node) {nodes' : List Node}, List.Forall₂ (Corresponds related) nodes nodes' →
      List.Forall₂ (Corresponds related) (preorderAll nodes) (preorderAll nodes')
  | [], _, .nil => .nil
  | node :: rest, _, .cons hnode hrest =>
      List.rel_append (forall₂_preorder node hnode) (forall₂_preorderAll rest hrest)

end

theorem Corresponds.textContent_eq
    (h : Corresponds related node node') :
    node.textContent = node'.textContent := by
  have htexts :
      List.Forall₂ Eq (node.preorder.filterMap text?) (node'.preorder.filterMap text?) := by
    refine List.rel_filterMap ?_ (forall₂_preorder node h)
    intro node node' hnode
    rw [hnode.text?_eq]
    cases node'.text? with
    | none => exact .none
    | some content => exact .some rfl
  rw [List.forall₂_eq_eq_eq] at htexts
  rw [textContent, textContent, htexts]

end Correspondence

end Node

end Xml

namespace Resolution

open Xml

section Stopping

/-- Where a path stops: its first segments lead to something, and the next segment fails. -/
structure StopsAt
    {α : Type}
    (outcome : List Segment → Except ResolveError α)
    (lead : List Segment)
    (segment : Segment)
    (rest : List Segment)
    (cause : ResolveError) : Prop where
  leads : ∃ found, outcome lead = .ok found
  stops : outcome (lead ++ [segment]) = .error cause
  fails : outcome (lead ++ segment :: rest) = .error cause

theorem StopsAt.map
    {α β : Type}
    {outcome : List Segment → Except ResolveError α}
    {lead : List Segment}
    {segment : Segment}
    {rest : List Segment}
    {cause : ResolveError}
    (h : StopsAt outcome lead segment rest cause)
    (f : α → β) :
    StopsAt (fun path => (outcome path).map f) lead segment rest cause where
  leads := by
    obtain ⟨found, hfound⟩ := h.leads
    exact ⟨f found, by rw [hfound]; rfl⟩
  stops := by
    rw [h.stops]
    rfl
  fails := by
    rw [h.fails]
    rfl

/-- Behind a first segment the rest of a path stops where it stops by itself. -/
theorem StopsAt.cons
    {α : Type}
    {outcome outcome' : List Segment → Except ResolveError α}
    {first segment : Segment}
    {lead rest : List Segment}
    {cause : ResolveError}
    (hcons : ∀ path, outcome (first :: path) = outcome' path)
    (h : StopsAt outcome' lead segment rest cause) :
    StopsAt outcome (first :: lead) segment rest cause where
  leads := by
    rw [hcons]
    exact h.leads
  stops := by
    rw [List.cons_append, hcons]
    exact h.stops
  fails := by
    rw [List.cons_append, hcons]
    exact h.fails

/-- A path comes to the same in two trees, each with its namespace: it gives one text, or it fails
in both for the same reason.  If it breaks off, it does so at one segment, of which as many children
are there. -/
inductive ResolvesAlike
    (start : Node)
    (uri : String)
    (start' : Node)
    (uri' : String)
    (path : List Segment) : Prop
  | value
      {text : String}
      (h : resolve start path uri = .ok text)
      (h' : resolve start' path uri' = .ok text)
  | emptyPath
      (hpath : path = [])
      (h : resolve start path uri = .error .emptyPath)
      (h' : resolve start' path uri' = .error .emptyPath)
  | elementNotFound
      {first : Segment}
      {rest : List Segment}
      (hpath : path = first :: rest)
      (h : resolve start path uri = .error (.elementNotFound (first.nameIn uri)))
      (h' : resolve start' path uri' = .error (.elementNotFound (first.nameIn uri')))
  | indexOutOfRange
      {lead : List Segment}
      {segment : Segment}
      {rest : List Segment}
      {available : Nat}
      (hpath : path = lead ++ segment :: rest)
      (h :
        StopsAt (resolve start · uri) lead segment rest
          (.indexOutOfRange (segment.nameIn uri) segment.occurrence available))
      (h' :
        StopsAt (resolve start' · uri') lead segment rest
          (.indexOutOfRange (segment.nameIn uri') segment.occurrence available))

end Stopping

section Correspondence

variable
  {related : ExpandedName → ExpandedName → Prop}
  {uri uri' : String}
  {node node' : Node}
  {path : List Segment}

/-- A relation of names that does not tell what a path looks for in one namespace from what it
looks for in the other. -/
def KeepsNames
    (related : ExpandedName → ExpandedName → Prop)
    (uri uri' : String)
    (path : List Segment) : Prop :=
  ∀ segment ∈ path, ∀ tag tag', related tag tag' →
    (tag = segment.nameIn uri ↔ tag' = segment.nameIn uri')

/-- At each position of related lists there are two related items or none. -/
theorem getElem?_of_forall₂
    {α β : Type}
    {R : α → β → Prop}
    {items : List α}
    {items' : List β}
    (h : List.Forall₂ R items items')
    (position : Nat) :
    (items[position]? = none ∧ items'[position]? = none) ∨
      ∃ item item',
        items[position]? = some item ∧ items'[position]? = some item' ∧ R item item' := by
  induction h generalizing position with
  | nil => exact Or.inl ⟨rfl, rfl⟩
  | cons hitem hrest ih =>
      cases position with
      | zero => exact Or.inr ⟨_, _, rfl, rfl, hitem⟩
      | succ position => exact ih position

theorem forall₂_candidates
    {name name' : ExpandedName}
    (h : Node.Corresponds related node node')
    (hnames : ∀ tag tag', related tag tag' → (tag = name ↔ tag' = name')) :
    List.Forall₂ (Node.Corresponds related) (candidates name node) (candidates name' node') :=
  List.rel_filter (fun _ _ hchild => hchild.hasName_iff hnames) h.children

theorem descend_cons_of_found
    {segment : Segment}
    {child : Node}
    (hfound : (candidates (segment.nameIn uri) node)[segment.occurrence]? = some child)
    (rest : List Segment) :
    descend uri node (segment :: rest) = descend uri child rest := by
  rw [descend, hfound]

/-- A segment that too few children meet is where a path stops. -/
theorem stopsAt_of_not_found
    {segment : Segment}
    (hnone : (candidates (segment.nameIn uri) node)[segment.occurrence]? = none)
    (rest : List Segment) :
    StopsAt (descend uri node) [] segment rest
      (.indexOutOfRange (segment.nameIn uri) segment.occurrence
        (candidates (segment.nameIn uri) node).length) where
  leads := ⟨node, rfl⟩
  stops := by
    rw [List.nil_append, descend, hnone]
  fails := by
    rw [List.nil_append, descend, hnone]

/-- From corresponding elements the segments lead to corresponding elements, or they stop at the
same one. -/
theorem descend_alike
    (h : Node.Corresponds related node node')
    (hpath : KeepsNames related uri uri' path) :
    (∃ goal goal',
      descend uri node path = .ok goal ∧ descend uri' node' path = .ok goal' ∧
        Node.Corresponds related goal goal') ∨
    ∃ lead segment rest available,
      path = lead ++ segment :: rest ∧
        StopsAt (descend uri node) lead segment rest
          (.indexOutOfRange (segment.nameIn uri) segment.occurrence available) ∧
        StopsAt (descend uri' node') lead segment rest
          (.indexOutOfRange (segment.nameIn uri') segment.occurrence available) := by
  induction path generalizing node node' with
  | nil => exact Or.inl ⟨node, node', rfl, rfl, h⟩
  | cons first rest ih =>
      obtain ⟨hfirst, hrest⟩ := List.forall_mem_cons.mp hpath
      have hfound := forall₂_candidates h hfirst
      rcases getElem?_of_forall₂ hfound first.occurrence with
        ⟨hnone, hnone'⟩ | ⟨child, child', hsome, hsome', hchild⟩
      · refine Or.inr ⟨[], first, rest, _, rfl, stopsAt_of_not_found hnone rest, ?_⟩
        rw [hfound.length_eq]
        exact stopsAt_of_not_found hnone' rest
      · rw [descend_cons_of_found hsome, descend_cons_of_found hsome']
        rcases ih hchild hrest with hgoals | ⟨lead, segment, left, available, rfl, hstop, hstop'⟩
        · exact Or.inl hgoals
        · exact Or.inr ⟨first :: lead, segment, left, available, rfl,
            hstop.cons (descend_cons_of_found hsome), hstop'.cons (descend_cons_of_found hsome')⟩

variable {start start' : Node} {first : Segment} {rest : List Segment}

/-- Corresponding elements are the first of their names, or there is none. -/
theorem find?_alike
    (h : Node.Corresponds related start start')
    {name name' : ExpandedName}
    (hnames : ∀ tag tag', related tag tag' → (tag = name ↔ tag' = name')) :
    ((Node.preorderAll start.children).find? (Node.hasName name) = none ∧
      (Node.preorderAll start'.children).find? (Node.hasName name') = none) ∨
    ∃ node node',
      (Node.preorderAll start.children).find? (Node.hasName name) = some node ∧
        (Node.preorderAll start'.children).find? (Node.hasName name') = some node' ∧
        Node.Corresponds related node node' := by
  have hnodes := Node.forall₂_preorderAll start.children h.children
  have hfound :
      List.Forall₂ (Node.Corresponds related)
        ((Node.preorderAll start.children).filter (Node.hasName name))
        ((Node.preorderAll start'.children).filter (Node.hasName name')) :=
    List.rel_filter (fun _ _ hnode => hnode.hasName_iff hnames) hnodes
  rw [← List.head?_filter, ← List.head?_filter, List.head?_eq_getElem?, List.head?_eq_getElem?]
  exact getElem?_of_forall₂ hfound 0

theorem resolve_cons_of_found
    (hfound :
      (Node.preorderAll start.children).find? (Node.hasName (first.nameIn uri)) = some node)
    (rest : List Segment) :
    resolve start (first :: rest) uri = (descend uri node rest).map Node.textContent := by
  rw [resolve, locate, locateAmong, hfound]

theorem resolve_cons_of_not_found
    (hnone : (Node.preorderAll start.children).find? (Node.hasName (first.nameIn uri)) = none)
    (rest : List Segment) :
    resolve start (first :: rest) uri = .error (.elementNotFound (first.nameIn uri)) := by
  rw [resolve, locate, locateAmong, hnone]
  rfl

/-- In corresponding trees a path comes to the same. -/
theorem resolvesAlike_of_corresponds
    (h : Node.Corresponds related start start')
    (hpath : KeepsNames related uri uri' path) :
    ResolvesAlike start uri start' uri' path := by
  cases path with
  | nil => exact .emptyPath rfl rfl rfl
  | cons first rest =>
      obtain ⟨hfirst, hrest⟩ := List.forall_mem_cons.mp hpath
      rcases find?_alike h hfirst with ⟨hnone, hnone'⟩ | ⟨node, node', hsome, hsome', hnode⟩
      · exact .elementNotFound rfl (resolve_cons_of_not_found hnone rest)
          (resolve_cons_of_not_found hnone' rest)
      · rcases descend_alike hnode hrest with
          ⟨goal, goal', hgoal, hgoal', hgoals⟩ |
            ⟨lead, segment, left, available, rfl, hstop, hstop'⟩
        · have hvalue : resolve start (first :: rest) uri = .ok goal.textContent := by
            rw [resolve_cons_of_found hsome, hgoal]
            rfl
          have hvalue' : resolve start' (first :: rest) uri' = .ok goal.textContent := by
            rw [resolve_cons_of_found hsome', hgoal', hgoals.textContent_eq]
            rfl
          exact .value hvalue hvalue'
        · have hsplit :
              first :: (lead ++ segment :: left) = (first :: lead) ++ segment :: left := rfl
          exact .indexOutOfRange hsplit
            ((hstop.map Node.textContent).cons (resolve_cons_of_found hsome))
            ((hstop'.map Node.textContent).cons (resolve_cons_of_found hsome'))

end Correspondence

end Resolution

end LegendReport
