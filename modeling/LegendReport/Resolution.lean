import LegendReport.Legend.Segment
import LegendReport.Text.Numeral
import LegendReport.Xml.Node

/-!
# Resolution of column paths

A column path is resolved below a start node.  Its first segment selects the
first element of its name in document order among the proper descendants of the
start node, whatever its occurrence number.  Each later segment selects among
the children of the element reached so far: it passes over as many children of
its name as its occurrence number says and takes the next.

The value of a path is all character data of the element it leads to.
-/

namespace LegendReport

/-- Why a path leads to no element. -/
inductive ResolveError where
  /-- The path has no segments. -/
  | emptyPath
  /-- No element has the name of the first segment. -/
  | elementNotFound (name : ExpandedName)
  /-- The element reached so far has too few children of a later segment's name. -/
  | indexOutOfRange (name : ExpandedName) (index : Nat) (available : Nat)
  deriving DecidableEq, Repr

namespace ResolveError

/-- The text of an error.  The occurrence is counted from one, in machine words. -/
def message : ResolveError → String
  | emptyPath => "column has no path segments"
  | elementNotFound name => "no element named " ++ name.render ++ " in document"
  | indexOutOfRange name index available =>
    "element " ++ name.render ++ " occurrence " ++ toString (Text.wordSucc index) ++
      " requested but only " ++ toString available ++ " found"

end ResolveError

namespace Resolution

open Xml

/-- The children of a node that are elements of the given name, in order. -/
def candidates (name : ExpandedName) (node : Node) : List Node :=
  node.children.filter (Node.hasName name)

/-- Follows the segments after the first from the element reached so far. -/
def descend (uri : String) (node : Node) : List Segment → Except ResolveError Node
  | [] => .ok node
  | segment :: rest =>
    let found := candidates (segment.nameIn uri) node
    match found[segment.occurrence]? with
    | some child => descend uri child rest
    | none =>
      .error (.indexOutOfRange (segment.nameIn uri) segment.occurrence found.length)

/-- The element that a path leads to among nodes side by side and their descendants. -/
def locateAmong
    (scope : List Node)
    (path : List Segment)
    (uri : String) :
    Except ResolveError Node :=
  match path with
  | [] => .error .emptyPath
  | first :: rest =>
    match (Node.preorderAll scope).find? (Node.hasName (first.nameIn uri)) with
    | some node => descend uri node rest
    | none => .error (.elementNotFound (first.nameIn uri))

/-- The element that a path leads to from a start node. -/
def locate
    (start : Node)
    (path : List Segment)
    (uri : String) :
    Except ResolveError Node :=
  locateAmong start.children path uri

/-- The character data that a path leads to from a start node. -/
def resolve
    (start : Node)
    (path : List Segment)
    (uri : String) :
    Except ResolveError String :=
  (locate start path uri).map Node.textContent

/-- No path at all leads nowhere, from every node and in every namespace. -/
@[simp] theorem resolve_nil
    (start : Node)
    (uri : String) :
    resolve start [] uri = .error .emptyPath := by
  rfl

end Resolution

end LegendReport
