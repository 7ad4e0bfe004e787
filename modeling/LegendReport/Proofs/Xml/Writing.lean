import LegendReport.Proofs.Resolution.PlainTrees
import LegendReport.Proofs.Xml.Escaping
import LegendReport.Xml.Namespaces

/-!
# Written documents

A tree is written with one start tag and one end tag for each element.  The prefix
`p` stands for the namespace of the run and is declared on the root; elements of no
namespace have no prefix.  Comments and processing instructions are left out.

What is written for a tree is what is written for its plain form.
-/

namespace LegendReport

namespace Xml

section Writing

/-- The name of an element as it is written. -/
def writtenName (tag : ExpandedName) : TagName :=
  ⟨if tag.uri = none then [] else ['p'], tag.localName.toList⟩

/-- The characters of a name that may have a prefix. -/
def nameChars (name : TagName) : List Char :=
  if name.space = [] then name.localPart else name.space ++ ':' :: name.localPart

/-- The start tag of an element below the root, without attributes. -/
def writeStart (name : TagName) : List Char :=
  '<' :: (nameChars name ++ ['>'])

def writeEnd (name : TagName) : List Char :=
  '<' :: '/' :: (nameChars name ++ ['>'])

/-- The start tag of the root, which binds the prefix to the namespace. -/
def writeRootStart (name : TagName) (uri : List Char) : List Char :=
  '<' :: (nameChars name ++ " xmlns:p=\"".toList ++ valueEscaping.write uri ++ "\">".toList)

namespace Node

mutual

/-- The characters of a node. -/
def write : Node → List Char
  | element tag children =>
    writeStart (writtenName tag) ++ writeAll children ++ writeEnd (writtenName tag)
  | text content => textEscaping.write content.toList
  | comment _ => []
  | instruction _ _ => []

/-- The characters of nodes side by side. -/
def writeAll : List Node → List Char
  | [] => []
  | node :: rest => write node ++ writeAll rest

end

end Node

/-- The text of a document with the given root element and the namespace of the run. -/
def writeDocument (uri : String) (tag : ExpandedName) (children : List Node) : String :=
  String.ofList
    (writeRootStart (writtenName tag) uri.toList ++ Node.writeAll children ++
      writeEnd (writtenName tag))

end Writing

section PlainForm

namespace Node

theorem writeAll_joinText
    (content : String)
    (after : List Node) :
    writeAll (joinText content after) = textEscaping.write content.toList ++ writeAll after := by
  unfold joinText
  split
  · next hempty => simp [hempty]
  · split
    · simp [writeAll, write]
    · rfl

mutual

theorem writeAll_plainBefore :
    ∀ (node : Node) (after : List Node),
      writeAll (plainBefore node after) = node.write ++ writeAll after
  | element tag children, after => by
      rw [plainBefore, writeAll, write, write, writeAll_plainAll children]
  | text content, after => by
      rw [plainBefore, writeAll_joinText, write]
  | comment content, after => by
      simp [plainBefore, write]
  | instruction target content, after => by
      simp [plainBefore, write]

/-- The plain form of a tree is written as the tree is. -/
theorem writeAll_plainAll :
    ∀ nodes : List Node, writeAll (plainAll nodes) = writeAll nodes
  | [] => rfl
  | node :: rest => by
      rw [plainAll, writeAll_plainBefore node, writeAll_plainAll rest, writeAll]

end

end Node

end PlainForm

section Writable

/-- Whether a URI can be bound to a prefix. -/
structure IsNamespace (uri : String) : Prop where
  all_isAllowed : uri.toList.all isAllowed = true
  ne_xmlUri : uri.toList ≠ xmlUri
  ne_xmlnsUri : uri.toList ≠ xmlnsUri

/-- Whether a name is a proper one, in the namespace of the run or in none. -/
def isWritableName (uri : String) (tag : ExpandedName) : Bool :=
  (tag.uri == none || tag.uri == some uri) && isPlainName tag.localName.toList

namespace Node

mutual

/-- Whether all names in a tree are writable, and all characters allowed. -/
def isWritable (uri : String) : Node → Bool
  | element tag children => isWritableName uri tag && areWritable uri children
  | text content => content.toList.all isAllowed
  | comment _ => true
  | instruction _ _ => true

/-- The same for nodes side by side. -/
def areWritable (uri : String) : List Node → Bool
  | [] => true
  | node :: rest => isWritable uri node && areWritable uri rest

end

/-- Whether the first node is a text. -/
def leadsText : List Node → Bool
  | text _ :: _ => true
  | _ => false

/-- Writable nodes in plain form: no text is empty, and no two texts are next to each other. -/
inductive Settled (uri : String) : List Node → Prop where
  | nil :
      Settled uri []
  | element
      {tag : ExpandedName}
      {children rest : List Node}
      (htag : isWritableName uri tag = true)
      (hchildren : Settled uri children)
      (hrest : Settled uri rest) :
      Settled uri (element tag children :: rest)
  | text
      {content : String}
      {rest : List Node}
      (hne : content ≠ "")
      (hallowed : content.toList.all isAllowed = true)
      (hlead : leadsText rest = false)
      (hrest : Settled uri rest) :
      Settled uri (text content :: rest)

theorem settled_joinText
    {uri content : String}
    (hallowed : content.toList.all isAllowed = true)
    {after : List Node}
    (hafter : Settled uri after) :
    Settled uri (joinText content after) := by
  unfold joinText
  split
  · exact hafter
  · next hne =>
      cases hafter with
      | nil => exact .text hne hallowed rfl .nil
      | element htag hchildren hrest =>
          exact .text hne hallowed rfl (.element htag hchildren hrest)
      | @text next rest hnext hnextAllowed hlead hrest =>
          refine .text ?_ ?_ hlead hrest
          · simp [hne]
          · simp [hallowed, hnextAllowed]

mutual

theorem settled_plainBefore
    {uri : String} :
    ∀ {node : Node} {after : List Node},
      node.isWritable uri = true → Settled uri after → Settled uri (plainBefore node after)
  | .element tag children, after, hnode, hafter => by
      rw [isWritable, Bool.and_eq_true] at hnode
      exact .element hnode.1 (settled_plainAll hnode.2) hafter
  | .text content, after, hnode, hafter => by
      exact settled_joinText hnode hafter
  | .comment _, after, _, hafter => hafter
  | .instruction _ _, after, _, hafter => hafter

theorem settled_plainAll
    {uri : String} :
    ∀ {nodes : List Node}, areWritable uri nodes = true → Settled uri (plainAll nodes)
  | [], _ => .nil
  | node :: rest, hnodes => by
      rw [areWritable, Bool.and_eq_true] at hnodes
      exact settled_plainBefore hnodes.1 (settled_plainAll hnodes.2)

end

end Node

end Writable

end Xml

end LegendReport
