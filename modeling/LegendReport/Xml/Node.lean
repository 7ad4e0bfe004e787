import LegendReport.Name

/-!
# XML trees

A document is a tree of elements, texts, comments and processing instructions.
Attributes are checked when a document is read and have no place in the tree.

Document order is the order of the start tags: a node stands before its
descendants, and these before the nodes that follow it.
-/

namespace LegendReport
namespace Xml

/-- A node of a document. -/
inductive Node where
  | element (tag : ExpandedName) (children : List Node)
  | text (content : String)
  | comment (content : String)
  | instruction (target : String) (content : String)
  deriving Repr

namespace Node

section Comparison

mutual

/-- Whether two nodes are equal. -/
def decEq : (node node' : Node) → Decidable (node = node')
  | element tag children, element tag' children' =>
    have := decEqAll children children'
    decidable_of_iff (tag = tag' ∧ children = children') (element.injEq ..).to_iff.symm
  | text content, text content' =>
    decidable_of_iff (content = content') (text.injEq ..).to_iff.symm
  | comment content, comment content' =>
    decidable_of_iff (content = content') (comment.injEq ..).to_iff.symm
  | instruction target content, instruction target' content' =>
    decidable_of_iff (target = target' ∧ content = content') (instruction.injEq ..).to_iff.symm
  | element _ _, text _ | element _ _, comment _ | element _ _, instruction _ _ => isFalse nofun
  | text _, element _ _ | text _, comment _ | text _, instruction _ _ => isFalse nofun
  | comment _, element _ _ | comment _, text _ | comment _, instruction _ _ => isFalse nofun
  | instruction _ _, element _ _ | instruction _ _, text _ | instruction _ _, comment _ =>
    isFalse nofun

/-- Whether two lists of nodes are equal. -/
def decEqAll : (nodes nodes' : List Node) → Decidable (nodes = nodes')
  | [], [] => isTrue rfl
  | node :: rest, node' :: rest' =>
    have := decEq node node'
    have := decEqAll rest rest'
    decidable_of_iff (node = node' ∧ rest = rest') (List.cons.injEq ..).to_iff.symm
  | [], _ :: _ | _ :: _, [] => isFalse nofun

end

instance : DecidableEq Node :=
  decEq

end Comparison

/-- The children of an element; other nodes have none. -/
def children : Node → List Node
  | element _ children => children
  | text _ => []
  | comment _ => []
  | instruction _ _ => []

/-- The expanded name of an element. -/
def tag? : Node → Option ExpandedName
  | element tag _ => some tag
  | text _ => none
  | comment _ => none
  | instruction _ _ => none

/-- The characters of a text node. -/
def text? : Node → Option String
  | element _ _ => none
  | text content => some content
  | comment _ => none
  | instruction _ _ => none

/-- Whether the node is an element of that name. -/
def hasName (name : ExpandedName) (node : Node) : Bool :=
  node.tag? == some name

mutual

/-- The node and its descendants in document order. -/
def preorder : Node → List Node
  | element tag children => element tag children :: preorderAll children
  | text content => [text content]
  | comment content => [comment content]
  | instruction target content => [instruction target content]

/-- Nodes side by side and their descendants in document order. -/
def preorderAll : List Node → List Node
  | [] => []
  | node :: rest => preorder node ++ preorderAll rest

end

/-- The proper descendants of a node in document order. -/
def descendants (node : Node) : List Node :=
  preorderAll node.children

/-- All character data in a node, in document order. -/
def textContent (node : Node) : String :=
  String.join (node.preorder.filterMap text?)

theorem preorderAll_eq_flatMap
    (nodes : List Node) :
    preorderAll nodes = nodes.flatMap preorder := by
  induction nodes with
  | nil => rfl
  | cons node rest ih => rw [preorderAll, ih, List.flatMap_cons]

@[simp] theorem preorderAll_append
    (before after : List Node) :
    preorderAll (before ++ after) = preorderAll before ++ preorderAll after := by
  simp [preorderAll_eq_flatMap]

theorem preorder_eq_cons
    (node : Node) :
    node.preorder = node :: node.descendants := by
  cases node <;> simp [preorder, preorderAll, descendants, children]

theorem hasName_iff
    (name : ExpandedName)
    (node : Node) :
    node.hasName name = true ↔ node.tag? = some name := by
  simp [hasName]

end Node

/-- A document: its root element, and the comments and processing instructions around it. -/
structure Document where
  prolog : List Node
  rootTag : ExpandedName
  rootChildren : List Node
  epilog : List Node
  deriving Repr

namespace Document

/-- The root element. -/
def root (document : Document) : Node :=
  .element document.rootTag document.rootChildren

/-- The nodes at the top of the document: its root element and what stands around it. -/
def top (document : Document) : List Node :=
  document.prolog ++ document.root :: document.epilog

/-- The number of nodes of the document, the document itself included. -/
def nodeCount (document : Document) : Nat :=
  (Node.preorderAll document.top).length + 1

end Document

end Xml
end LegendReport
