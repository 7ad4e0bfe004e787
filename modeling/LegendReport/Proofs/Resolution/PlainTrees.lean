import LegendReport.Resolution

/-!
# Plain trees

The plain form of a tree has elements and texts only, no text is empty, and no two
texts are next to each other.  Comments and processing instructions and the way in
which a text is divided are lost in it, and nothing else.

A path is resolved in the plain form as in the tree itself: elements are counted
among elements only, and all character data counts for the value.
-/

namespace LegendReport

namespace Xml

namespace Node

section PlainForm

/-- Puts a text before plain nodes. -/
def joinText (content : String) (after : List Node) : List Node :=
  if content = "" then after
  else
    match after with
    | text next :: rest => text (content ++ next) :: rest
    | _ => text content :: after

mutual

/-- Puts the plain form of a node before plain nodes. -/
def plainBefore : Node → List Node → List Node
  | element tag children, after => element tag (plainAll children) :: after
  | text content, after => joinText content after
  | comment _, after => after
  | instruction _ _, after => after

/-- The plain form of nodes side by side. -/
def plainAll : List Node → List Node
  | [] => []
  | node :: rest => plainBefore node (plainAll rest)

end

/-- The plain form of an element; other nodes are kept. -/
def plain : Node → Node
  | element tag children => element tag (plainAll children)
  | text content => text content
  | comment content => comment content
  | instruction target content => instruction target content

@[simp] theorem children_plain
    (node : Node) :
    node.plain.children = plainAll node.children := by
  cases node <;> rfl

end PlainForm

section Elements

variable (name : ExpandedName)

@[simp] theorem filter_joinText
    (content : String)
    (after : List Node) :
    (joinText content after).filter (hasName name) = after.filter (hasName name) := by
  unfold joinText
  split
  · rfl
  · split <;> rfl

/-- The elements of a name among plain nodes are the plain forms of those among the nodes. -/
theorem filter_plainAll
    (nodes : List Node) :
    (plainAll nodes).filter (hasName name) = (nodes.filter (hasName name)).map plain := by
  induction nodes with
  | nil => rfl
  | cons node rest ih =>
      rw [plainAll, List.filter_cons]
      cases node with
      | element tag children =>
          rw [plainBefore, List.filter_cons, ih]
          by_cases htag : tag = name
          · simp [hasName, tag?, htag, plain]
          · simp [hasName, tag?, htag]
      | text content => simpa [plainBefore, hasName, tag?] using ih
      | comment content => simpa [plainBefore, hasName, tag?] using ih
      | instruction target content => simpa [plainBefore, hasName, tag?] using ih

@[simp] theorem filter_preorderAll_joinText
    (content : String)
    (after : List Node) :
    (preorderAll (joinText content after)).filter (hasName name) =
      (preorderAll after).filter (hasName name) := by
  unfold joinText
  split
  · rfl
  · split <;> rfl

mutual

theorem filter_preorder_plainBefore :
    ∀ (node : Node) (after : List Node),
      (preorderAll (plainBefore node after)).filter (hasName name) =
        (node.preorder.filter (hasName name)).map plain ++
          (preorderAll after).filter (hasName name)
  | element tag children, after => by
      have ih := filter_preorder_plainAll children
      rw [plainBefore, preorderAll, preorder, preorder, List.cons_append, List.filter_cons,
        List.filter_cons, List.filter_append, ih]
      by_cases htag : tag = name
      · simp [hasName, tag?, htag, plain]
      · simp [hasName, tag?, htag]
  | text content, after => by
      simp [plainBefore, preorder, hasName, tag?]
  | comment content, after => by
      simp [plainBefore, preorder, hasName, tag?]
  | instruction target content, after => by
      simp [plainBefore, preorder, hasName, tag?]

/-- The same holds of the descendants. -/
theorem filter_preorder_plainAll :
    ∀ nodes : List Node,
      (preorderAll (plainAll nodes)).filter (hasName name) =
        ((preorderAll nodes).filter (hasName name)).map plain
  | [] => rfl
  | node :: rest => by
      rw [plainAll, filter_preorder_plainBefore node, filter_preorder_plainAll rest, preorderAll,
        List.filter_append, List.map_append]

end

end Elements

section Content

/-- All character data in nodes side by side, in document order. -/
def contentOf (nodes : List Node) : String :=
  String.join ((preorderAll nodes).filterMap text?)

theorem contentOf_cons
    (node : Node)
    (rest : List Node) :
    contentOf (node :: rest) = node.textContent ++ contentOf rest := by
  rw [contentOf, preorderAll, List.filterMap_append, String.join_append, contentOf, textContent]

@[simp] theorem textContent_element
    (tag : ExpandedName)
    (children : List Node) :
    (element tag children).textContent = contentOf children := by
  rfl

@[simp] theorem textContent_text
    (content : String) :
    (text content).textContent = content := by
  simp [textContent, preorder, text?]

@[simp] theorem textContent_comment
    (content : String) :
    (comment content).textContent = "" := by
  rfl

@[simp] theorem textContent_instruction
    (target content : String) :
    (instruction target content).textContent = "" := by
  rfl

theorem contentOf_joinText
    (content : String)
    (after : List Node) :
    contentOf (joinText content after) = content ++ contentOf after := by
  unfold joinText
  split
  · next hempty => simp [hempty]
  · split
    · simp [contentOf_cons, String.append_assoc]
    · simp [contentOf_cons]

mutual

theorem contentOf_plainBefore :
    ∀ (node : Node) (after : List Node),
      contentOf (plainBefore node after) = node.textContent ++ contentOf after
  | element tag children, after => by
      rw [plainBefore, contentOf_cons, textContent_element, textContent_element,
        contentOf_plainAll children]
  | text content, after => by
      rw [plainBefore, contentOf_joinText, textContent_text]
  | comment content, after => by
      simp [plainBefore]
  | instruction target content, after => by
      simp [plainBefore]

theorem contentOf_plainAll :
    ∀ nodes : List Node, contentOf (plainAll nodes) = contentOf nodes
  | [] => rfl
  | node :: rest => by
      rw [plainAll, contentOf_plainBefore node, contentOf_plainAll rest, contentOf_cons]

end

@[simp] theorem textContent_plain
    (node : Node) :
    node.plain.textContent = node.textContent := by
  cases node with
  | element tag children =>
      rw [plain, textContent_element, textContent_element, contentOf_plainAll]
  | text content => rfl
  | comment content => rfl
  | instruction target content => rfl

end Content

end Node

end Xml

namespace Resolution

open Xml

theorem candidates_plain
    (name : ExpandedName)
    (node : Node) :
    candidates name node.plain = (candidates name node).map Node.plain := by
  rw [candidates, Node.children_plain, Node.filter_plainAll, candidates]

theorem descend_plain
    (uri : String)
    (node : Node)
    (path : List Segment) :
    descend uri node.plain path = (descend uri node path).map Node.plain := by
  induction path generalizing node with
  | nil => rfl
  | cons segment rest ih =>
      simp only [descend, candidates_plain, List.getElem?_map, List.length_map]
      cases (candidates (segment.nameIn uri) node)[segment.occurrence]? with
      | none => rfl
      | some child => exact ih child

/-- A path leads to the plain form of what it leads to in the tree itself. -/
theorem locate_plain
    (start : Node)
    (path : List Segment)
    (uri : String) :
    locate start.plain path uri = (locate start path uri).map Node.plain := by
  cases path with
  | nil => rfl
  | cons first rest =>
      have hfound :
          (Node.preorderAll (Node.plainAll start.children)).find?
              (Node.hasName (first.nameIn uri)) =
            ((Node.preorderAll start.children).find? (Node.hasName (first.nameIn uri))).map
              Node.plain := by
        rw [← List.head?_filter, Node.filter_preorder_plainAll, List.head?_map, List.head?_filter]
      rw [locate, locate, locateAmong, locateAmong, Node.children_plain, hfound]
      cases (Node.preorderAll start.children).find? (Node.hasName (first.nameIn uri)) with
      | none => rfl
      | some node => exact descend_plain uri node rest

/-- A path is resolved in the plain form of a tree as in the tree itself. -/
theorem resolve_plain
    (start : Node)
    (path : List Segment)
    (uri : String) :
    resolve start.plain path uri = resolve start path uri := by
  rw [resolve, resolve, locate_plain]
  cases locate start path uri with
  | error cause => rfl
  | ok node => simp [Except.map]

end Resolution

end LegendReport
