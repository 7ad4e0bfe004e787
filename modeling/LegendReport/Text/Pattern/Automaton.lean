import LegendReport.Text.Pattern.Basic

/-!
# Matching by an automaton

A pattern is laid out as the nodes of an automaton, and a text is read with the
list of all nodes that the ways through the pattern have reached, the first in
rank first.  A search begins anew at every place and ranks behind the ways that
began before.

A way that is complete ends all ways ranked behind it, even if characters are
left.  A text matches if a way is complete at its end.  So `a|ab` does not match
the text `ab`, and `ab|a` and `b` do.

Two more rules decide which ways are followed.  Edges that the character before
shows are passed at once, and the other ones when the next character is known;
then everything that was reached is reached anew.  And a node without a way on
ends all ways that are ranked behind it and reached together with it.
-/

namespace LegendReport
namespace Text

/-- A node of an automaton.  Nodes go on to others by their places. -/
inductive Node where
  | read (set : CharSet) (next : Nat)
  | pass (edge : Edge) (next : Nat)
  | fork (first second : Nat)
  /-- Any character before the search begins anew. -/
  | skip (next : Nat)
  | complete
  | dead
  deriving DecidableEq, Repr

namespace Node

/-- A fork between going on with a body and leaving it. -/
def forkTo (greedy : Bool) (body next : Nat) : Node :=
  if greedy then fork body next else fork next body

/-- Whether something can be read or passed at the node, or a way is complete. -/
def isStop : Node → Bool
  | fork _ _ => false
  | dead => false
  | _ => true

/-- Whether the node is an edge that shows only in front of the character after it. -/
def isRevealed (before after : Option Char) : Node → Bool
  | pass edge _ => edge.holds before after && !edge.isKnown before
  | _ => false

end Node

/-- The nodes of a pattern, and the place of the node where a search begins. -/
structure Automaton where
  nodes : Array Node
  start : Nat

namespace Automaton

section Layout

/-- Adds a node.  The result is its place and all nodes. -/
def addNode (nodes : Array Node) (node : Node) : Nat × Array Node :=
  (nodes.size, nodes.push node)

/-- Adds the nodes of a pattern in front of the node at `next`.  The result is the place where the
pattern begins and all nodes. -/
def addPattern (next : Nat) (nodes : Array Node) : Pattern → Nat × Array Node
  | .empty => (next, nodes)
  | .text chars =>
    chars.foldr
      (fun c (added : Nat × Array Node) => addNode added.2 (.read (.single c) added.1))
      (next, nodes)
  | .one set => addNode nodes (if set = .empty then .dead else .read set next)
  | .edge edge => addNode nodes (.pass edge next)
  | .repeated .atMostOnce greedy body =>
    let added := addPattern next nodes body
    addNode added.2 (.forkTo greedy added.1 next)
  | .repeated times greedy body =>
    let added := addPattern nodes.size (nodes.push .dead) body
    let again : Node := .forkTo greedy added.1 next
    let looped := added.2.setIfInBounds nodes.size again
    if times = .atLeastOnce then (added.1, looped)
    else if body.leastLength?.any (0 < ·) then (nodes.size, looped)
    else addNode looped again
  | .group _ body => addPattern next nodes body
  | .sequence first second =>
    let added := addPattern next nodes second
    addPattern added.1 added.2 first
  | .choice first second =>
    let added := addPattern next nodes second
    let before := addPattern next added.2 first
    addNode before.2 (.fork before.1 added.1)

/-- The automaton that searches for a pattern. -/
def ofPattern (pattern : Pattern) : Automaton :=
  let added := addPattern 0 #[.complete] pattern
  let place := added.2.size
  ⟨(added.2.push (.fork added.1 (place + 1))).push (.skip place), place⟩

end Layout

section Reading

variable (automaton : Automaton)

/-- What is reached from a node, added to what was reached before; the last is first.  Edges are
passed by the test.  `depth` bounds the number of nodes on a way. -/
def reach (passes : Edge → Bool) : Nat → List Nat → Nat → List Nat
  | 0, reached, _ => reached
  | depth + 1, reached, place =>
    if reached.contains place then reached
    else
      match automaton.nodes[place]? with
      | some (.fork first second) =>
        reach passes depth (reach passes depth (place :: reached) first) second
      | some (.pass edge next) =>
        if passes edge then reach passes depth (place :: reached) next else place :: reached
      | _ => place :: reached

/-- What is reached from ranked nodes, in the order of the ranks. -/
def reachAll (passes : Edge → Bool) (places : List Nat) : List Nat :=
  (places.foldl (automaton.reach passes (automaton.nodes.size + 1)) []).reverse

/-- Whether a node has a property. -/
def nodeIs (property : Node → Bool) (place : Nat) : Bool :=
  automaton.nodes[place]?.any property

/-- The nodes to go on from behind a character, or at the beginning of a text. -/
def enter (before : Option Char) (places : List Nat) : List Nat :=
  ((automaton.reachAll (Edge.isKnown before) places).takeWhile
    fun place => !automaton.nodeIs (· = .dead) place).filter (automaton.nodeIs Node.isStop)

/-- What is reached when the next character is known, or the end of the text. -/
def settle (before after : Option Char) (places : List Nat) : List Nat :=
  if places.any (automaton.nodeIs (Node.isRevealed before after)) then
    automaton.reachAll (Edge.holds before after) places
  else places

/-- Whether a way is complete. -/
def isComplete (places : List Nat) : Bool :=
  places.any (automaton.nodeIs (· = .complete))

/-- Whether a search that begins inside of a character ends there.  A character outside of ASCII
is encoded in several bytes, and a pattern that reads nothing is found between them too. -/
def endsInside (c : Char) : Bool :=
  0x80 ≤ c.toNat &&
    automaton.isComplete
      (automaton.settle (some c) (some c) (automaton.enter (some c) [automaton.start]))

/-- The node behind a node that a character is read at. -/
def after? (c : Char) (place : Nat) : Option Nat :=
  match automaton.nodes[place]? with
  | some (.read set next) => if set.contains c then some next else none
  | some (.skip next) => if automaton.endsInside c then none else some next
  | _ => none

/-- The nodes to go on from behind one more character. -/
def advance (before : Option Char) (places : List Nat) (c : Char) : List Nat :=
  let followed :=
    (automaton.settle before (some c) places).takeWhile
      fun place => !automaton.nodeIs (· = .complete) place
  automaton.enter (some c) (followed.filterMap (automaton.after? c))

/-- Whether a way is complete behind the characters. -/
def leadsThrough (before : Option Char) (places : List Nat) : List Char → Bool
  | [] => automaton.isComplete (automaton.settle before none places)
  | c :: rest => leadsThrough (some c) (automaton.advance before places c) rest

end Reading

end Automaton

namespace Pattern

/-- Whether a text matches the pattern. -/
def matchesText (pattern : Pattern) (text : String) : Bool :=
  let automaton := Automaton.ofPattern pattern
  automaton.leadsThrough none (automaton.enter none [automaton.start]) text.toList

end Pattern

end Text
end LegendReport
