import LegendReport.Resolution
import Mathlib.Data.List.Basic

/-!
# Places in a tree

Equal nodes can stand at several places of a tree.  A node is told from its equals by its
position: the numbers of the children, counted from zero, that lead to it from the start.

The resolver can keep track of the position as it goes.  It then gives the same node or
the same error as without (`locate_eq_map_locatePlace`), and its node stands at its
position (`nodeAt?_of_locatePlace`).
-/

namespace LegendReport

namespace Xml

/-- A node, and the numbers of the children that lead to it. -/
structure Place where
  position : List Nat
  node : Node

namespace Place

/-- The same place seen from a node that is further up. -/
def under (lead : List Nat) (place : Place) : Place :=
  { place with position := lead ++ place.position }

@[simp] theorem position_under
    (lead : List Nat)
    (place : Place) :
    (place.under lead).position = lead ++ place.position := by
  rfl

/-- Whether an element of that name stands at the place. -/
def hasName (name : ExpandedName) (place : Place) : Bool :=
  place.node.hasName name

theorem find?_map_under
    (name : ExpandedName)
    (lead : List Nat)
    (places : List Place) :
    (places.map (under lead)).find? (hasName name) =
      (places.find? (hasName name)).map (under lead) := by
  rw [List.find?_map]
  rfl

end Place

namespace Node

section Positions

/-- The node at a position. -/
def nodeAt? (node : Node) : List Nat → Option Node
  | [] => some node
  | index :: rest => node.children[index]?.bind fun child => child.nodeAt? rest

theorem nodeAt?_append
    (node : Node)
    (lead rest : List Nat) :
    node.nodeAt? (lead ++ rest) = (node.nodeAt? lead).bind fun reached => reached.nodeAt? rest := by
  induction lead generalizing node with
  | nil => rfl
  | cons index lead ih =>
      rw [List.cons_append, nodeAt?, nodeAt?]
      cases node.children[index]? with
      | none => rfl
      | some child => exact ih child

/-- The children of a node at their places. -/
def childPlaces (node : Node) : List Place :=
  node.children.mapIdx fun index child => ⟨[index], child⟩

@[simp] theorem map_node_childPlaces
    (node : Node) :
    node.childPlaces.map Place.node = node.children := by
  simp [childPlaces, List.mapIdx_eq_zipIdx_map, Function.comp_def]

theorem nodeAt?_of_mem_childPlaces
    {node : Node}
    {place : Place}
    (h : place ∈ node.childPlaces) :
    node.nodeAt? place.position = some place.node := by
  obtain ⟨index, hindex, rfl⟩ := List.mem_mapIdx.mp h
  simp [nodeAt?, hindex]

mutual

/-- The places of a node and its descendants in document order. -/
def places : Node → List Place
  | element tag children => ⟨[], element tag children⟩ :: placesFrom 0 children
  | text content => [⟨[], text content⟩]
  | comment content => [⟨[], comment content⟩]
  | instruction target content => [⟨[], instruction target content⟩]

/-- The places of nodes side by side and their descendants, in document order.  The first node has
the given number. -/
def placesFrom : Nat → List Node → List Place
  | _, [] => []
  | index, node :: rest => (places node).map (Place.under [index]) ++ placesFrom (index + 1) rest

end

mutual

theorem map_node_places :
    ∀ node : Node, node.places.map Place.node = node.preorder
  | element tag children => by
      rw [places, preorder, List.map_cons, map_node_placesFrom 0 children]
  | text _ => rfl
  | comment _ => rfl
  | instruction _ _ => rfl

/-- With their places or without, the nodes come in the same order. -/
theorem map_node_placesFrom :
    ∀ (index : Nat) (nodes : List Node),
      (placesFrom index nodes).map Place.node = preorderAll nodes
  | _, [] => rfl
  | index, node :: rest => by
      rw [placesFrom, preorderAll, List.map_append, List.map_map, map_node_placesFrom _ rest,
        ← map_node_places node]
      rfl

end

theorem placesFrom_append
    (index : Nat)
    (before after : List Node) :
    placesFrom index (before ++ after) =
      placesFrom index before ++ placesFrom (index + before.length) after := by
  induction before generalizing index with
  | nil => rfl
  | cons node rest ih =>
      rw [List.cons_append, placesFrom, placesFrom, ih, List.append_assoc, List.length_cons]
      congr 3
      omega

theorem places_eq_cons
    (node : Node) :
    node.places = ⟨[], node⟩ :: placesFrom 0 node.children := by
  cases node <;> rfl

mutual

theorem nodeAt?_of_mem_places :
    ∀ (node : Node) (place : Place), place ∈ node.places →
      node.nodeAt? place.position = some place.node
  | element tag children, place, h => by
      rw [places] at h
      rcases List.mem_cons.mp h with rfl | h
      · rfl
      · exact nodeAt?_of_mem_placesFrom [] children tag place h
  | text _, place, h => by
      obtain rfl := List.mem_singleton.mp h
      rfl
  | comment _, place, h => by
      obtain rfl := List.mem_singleton.mp h
      rfl
  | instruction _ _, place, h => by
      obtain rfl := List.mem_singleton.mp h
      rfl

/-- Every node stands at its position. -/
theorem nodeAt?_of_mem_placesFrom :
    ∀ (before nodes : List Node) (tag : ExpandedName) (place : Place),
      place ∈ placesFrom before.length nodes →
        (element tag (before ++ nodes)).nodeAt? place.position = some place.node
  | _, [], _, place, h => by
      rw [placesFrom] at h
      cases h
  | before, node :: rest, tag, place, h => by
      rw [placesFrom] at h
      rcases List.mem_append.mp h with h | h
      · obtain ⟨inner, hinner, rfl⟩ := List.mem_map.mp h
        have hchild : (before ++ node :: rest)[before.length]? = some node := by
          simp
        rw [Place.position_under, List.singleton_append, nodeAt?, children, hchild]
        exact nodeAt?_of_mem_places node inner hinner
      · have hrest := nodeAt?_of_mem_placesFrom (before ++ [node]) rest tag place
        simp only [List.length_append, List.length_singleton, List.append_assoc,
          List.singleton_append] at hrest
        exact hrest h

end

end Positions

end Node

end Xml

namespace Resolution

open Xml

section Places

/-- Follows the segments after the first, and keeps track of the position. -/
def descendPlace (uri : String) (node : Node) : List Segment → Except ResolveError Place
  | [] => .ok ⟨[], node⟩
  | segment :: rest =>
    let found := node.childPlaces.filter (Place.hasName (segment.nameIn uri))
    match found[segment.occurrence]? with
    | some child => (descendPlace uri child.node rest).map (Place.under child.position)
    | none => .error (.indexOutOfRange (segment.nameIn uri) segment.occurrence found.length)

/-- The place that a path leads to from a start node. -/
def locatePlace
    (start : Node)
    (path : List Segment)
    (uri : String) :
    Except ResolveError Place :=
  match path with
  | [] => .error .emptyPath
  | first :: rest =>
    match (Node.placesFrom 0 start.children).find? (Place.hasName (first.nameIn uri)) with
    | some place => (descendPlace uri place.node rest).map (Place.under place.position)
    | none => .error (.elementNotFound (first.nameIn uri))

variable {uri : String}

theorem hasName_comp_node
    (name : ExpandedName) :
    Node.hasName name ∘ Place.node = Place.hasName name := by
  rfl

theorem map_node_map_under
    (lead : List Nat)
    (outcome : Except ResolveError Place) :
    (outcome.map (Place.under lead)).map Place.node = outcome.map Place.node := by
  cases outcome <;> rfl

theorem map_under_eq_ok_iff
    {lead : List Nat}
    {outcome : Except ResolveError Place}
    {place : Place} :
    outcome.map (Place.under lead) = .ok place ↔
      ∃ inner, outcome = .ok inner ∧ inner.under lead = place := by
  cases outcome <;> simp [Except.map]

theorem map_node_filter_childPlaces
    (name : ExpandedName)
    (node : Node) :
    (node.childPlaces.filter (Place.hasName name)).map Place.node = candidates name node := by
  rw [candidates, ← Node.map_node_childPlaces node, List.filter_map]
  rfl

theorem descend_eq_map_descendPlace
    (node : Node)
    (path : List Segment) :
    descend uri node path = (descendPlace uri node path).map Place.node := by
  induction path generalizing node with
  | nil => rfl
  | cons segment rest ih =>
      rw [descend, descendPlace, ← map_node_filter_childPlaces]
      simp only [List.getElem?_map, List.length_map]
      cases
        (node.childPlaces.filter (Place.hasName (segment.nameIn uri)))[segment.occurrence]? with
      | none => rfl
      | some child =>
          dsimp only [Option.map_some]
          rw [map_node_map_under, ih]

/-- A path leads to the node at the place it leads to. -/
theorem locate_eq_map_locatePlace
    (start : Node)
    (path : List Segment) :
    locate start path uri = (locatePlace start path uri).map Place.node := by
  cases path with
  | nil => rfl
  | cons first rest =>
      rw [locate, locateAmong, locatePlace, ← Node.map_node_placesFrom 0, List.find?_map,
        hasName_comp_node]
      cases (Node.placesFrom 0 start.children).find? (Place.hasName (first.nameIn uri)) with
      | none => rfl
      | some place =>
          dsimp only [Option.map_some]
          rw [map_node_map_under, descend_eq_map_descendPlace]

/-- What is found below the node at a position stands below that position. -/
theorem nodeAt?_under
    {start reached : Node}
    {lead : List Nat}
    {place : Place}
    (hlead : start.nodeAt? lead = some reached)
    (hplace : reached.nodeAt? place.position = some place.node) :
    start.nodeAt? (place.under lead).position = some (place.under lead).node := by
  rw [Place.position_under, Node.nodeAt?_append, hlead]
  exact hplace

theorem nodeAt?_of_descendPlace
    {node : Node}
    {path : List Segment}
    {place : Place}
    (h : descendPlace uri node path = .ok place) :
    node.nodeAt? place.position = some place.node := by
  induction path generalizing node place with
  | nil =>
      obtain rfl := Except.ok.inj h
      rfl
  | cons segment rest ih =>
      rw [descendPlace] at h
      cases hfound :
          (node.childPlaces.filter (Place.hasName (segment.nameIn uri)))[segment.occurrence]? with
      | none => simp [hfound] at h
      | some child =>
          rw [hfound] at h
          obtain ⟨inner, hinner, rfl⟩ := map_under_eq_ok_iff.mp h
          have hchild := Node.nodeAt?_of_mem_childPlaces
            (List.mem_of_mem_filter (List.mem_of_getElem? hfound))
          exact nodeAt?_under hchild (ih hinner)

/-- The node that a path leads to stands at its position. -/
theorem nodeAt?_of_locatePlace
    {start : Node}
    {path : List Segment}
    {place : Place}
    (h : locatePlace start path uri = .ok place) :
    start.nodeAt? place.position = some place.node := by
  cases path with
  | nil => cases h
  | cons first rest =>
      rw [locatePlace] at h
      cases hfound :
          (Node.placesFrom 0 start.children).find? (Place.hasName (first.nameIn uri)) with
      | none => simp [hfound] at h
      | some reached =>
          rw [hfound] at h
          obtain ⟨inner, hinner, rfl⟩ := map_under_eq_ok_iff.mp h
          have hreached : start.nodeAt? reached.position = some reached.node := by
            apply Node.nodeAt?_of_mem_places start reached
            rw [Node.places_eq_cons]
            exact List.mem_cons_of_mem _ (List.mem_of_find?_eq_some hfound)
          exact nodeAt?_under hreached (nodeAt?_of_descendPlace hinner)

end Places

end Resolution

end LegendReport
