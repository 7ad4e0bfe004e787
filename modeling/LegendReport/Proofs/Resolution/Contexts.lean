import LegendReport.Proofs.Resolution.Places

/-!
# First matches in contexts

A context is what is below a root element with one place left open.  If no element that
begins before the open place has the name of a path's first segment, an element of that
name in the open place is the first match, and all that follows of the path is looked
for inside it.

So neither what is around the first match nor what comes after it shows in what the
path leads to.
-/

namespace LegendReport

namespace Xml

/-- Nodes side by side with one place left open, among them or below one of them. -/
inductive Context where
  | among (before after : List Node)
  | inside (before : List Node) (tag : ExpandedName) (within : Context) (after : List Node)

namespace Context

/-- The nodes with a node in the open place. -/
def fill : Context → Node → List Node
  | among before after, node => before ++ node :: after
  | inside before tag within after, node => before ++ .element tag (within.fill node) :: after

/-- The position of the open place if the first of the nodes has the given number. -/
def positionFrom : Nat → Context → List Nat
  | index, among before _ => [index + before.length]
  | index, inside before _ within _ => (index + before.length) :: within.positionFrom 0

/-- The position of the open place. -/
def position (context : Context) : List Nat :=
  context.positionFrom 0

/-- The names of the elements that begin before the open place, in document order. -/
def earlierNames : Context → List ExpandedName
  | among before _ => (Node.preorderAll before).filterMap Node.tag?
  | inside before tag within _ =>
    (Node.preorderAll before).filterMap Node.tag? ++ tag :: within.earlierNames

section Filling

variable {context : Context} {node : Node} {name : ExpandedName}

/-- The names of a filled context are the earlier ones, then those of the node in it, then
others. -/
theorem exists_filterMap_preorderAll_fill :
    ∃ later,
      (Node.preorderAll (context.fill node)).filterMap Node.tag? =
        context.earlierNames ++ node.preorder.filterMap Node.tag? ++ later := by
  induction context with
  | among before after =>
      refine ⟨(Node.preorderAll after).filterMap Node.tag?, ?_⟩
      simp [fill, earlierNames, Node.preorderAll]
  | inside before tag within after ih =>
      obtain ⟨later, hlater⟩ := ih
      refine ⟨later ++ (Node.preorderAll after).filterMap Node.tag?, ?_⟩
      simp [fill, earlierNames, Node.preorderAll, Node.preorder, Node.tag?, hlater]

theorem nodeAt?_fill
    (tag : ExpandedName) :
    (Node.element tag (context.fill node)).nodeAt? context.position = some node := by
  unfold position
  induction context generalizing tag with
  | among before after => simp [fill, positionFrom, Node.nodeAt?, Node.children]
  | inside before inner within after ih =>
      simp [fill, positionFrom, Node.nodeAt?, Node.children, ih]

/-- Nothing of a name is found among nodes whose elements have other names. -/
theorem find?_placesFrom_eq_none
    {nodes : List Node}
    (h : name ∉ (Node.preorderAll nodes).filterMap Node.tag?)
    (index : Nat) :
    (Node.placesFrom index nodes).find? (Place.hasName name) = none := by
  rw [List.find?_eq_none]
  intro place hplace hname
  apply h
  rw [← Node.map_node_placesFrom index, List.mem_filterMap]
  exact ⟨place.node, List.mem_map_of_mem hplace, (Node.hasName_iff name place.node).mp hname⟩

theorem find?_places_of_hasName
    (h : node.hasName name = true) :
    node.places.find? (Place.hasName name) = some ⟨[], node⟩ := by
  rw [Node.places_eq_cons]
  exact List.find?_cons_of_pos h

theorem find?_places_of_not_hasName
    (h : ¬ node.hasName name = true) :
    node.places.find? (Place.hasName name) =
      (Node.placesFrom 0 node.children).find? (Place.hasName name) := by
  rw [Node.places_eq_cons]
  exact List.find?_cons_of_neg h

/-- What is found in a node among others, the ones before it having other names. -/
theorem find?_placesFrom_of_found
    {before after : List Node}
    (hbefore : name ∉ (Node.preorderAll before).filterMap Node.tag?)
    {place : Place}
    (hfound : node.places.find? (Place.hasName name) = some place)
    (index : Nat) :
    (Node.placesFrom index (before ++ node :: after)).find? (Place.hasName name) =
      some (place.under [index + before.length]) := by
  rw [Node.placesFrom_append, Node.placesFrom, List.find?_append,
    find?_placesFrom_eq_none hbefore, Option.none_or, List.find?_append, Place.find?_map_under,
    hfound, Option.map_some, Option.some_or]

/-- The node in the open place is the first of its name if no earlier element has it. -/
theorem find?_placesFrom_fill
    (hname : node.hasName name = true)
    (hearlier : name ∉ context.earlierNames)
    (index : Nat) :
    (Node.placesFrom index (context.fill node)).find? (Place.hasName name) =
      some ⟨context.positionFrom index, node⟩ := by
  induction context generalizing index with
  | among before after =>
      exact find?_placesFrom_of_found hearlier (find?_places_of_hasName hname) index
  | inside before tag within after ih =>
      rw [earlierNames, List.mem_append, List.mem_cons, not_or, not_or] at hearlier
      obtain ⟨hbefore, htag, hwithin⟩ := hearlier
      have hopen : ¬ (Node.element tag (within.fill node)).hasName name = true := by
        rw [Node.hasName_iff]
        simpa [Node.tag?] using fun heq => htag heq.symm
      have hfound :
          (Node.element tag (within.fill node)).places.find? (Place.hasName name) =
            some ⟨within.positionFrom 0, node⟩ := by
        rw [find?_places_of_not_hasName hopen]
        exact ih hwithin 0
      exact find?_placesFrom_of_found hbefore hfound index

end Filling

end Context

end Xml

namespace Resolution

open Xml

section Contexts

variable {uri : String} {first : Segment} {node : Node}

/-- From the first match in a context the rest of a path is followed inside it. -/
theorem locatePlace_fill
    {context : Context}
    (hname : node.hasName (first.nameIn uri) = true)
    (hearlier : first.nameIn uri ∉ context.earlierNames)
    (tag : ExpandedName)
    (rest : List Segment) :
    locatePlace (.element tag (context.fill node)) (first :: rest) uri =
      (descendPlace uri node rest).map (Place.under context.position) := by
  rw [locatePlace, Node.children, Context.find?_placesFrom_fill hname hearlier]
  rfl

/-- What a path does in a context: it leads to a place inside the node in the open place, or it
fails. -/
structure LeadsInside
    (context : Context)
    (tag : ExpandedName)
    (node : Node)
    (path : List Segment)
    (uri : String)
    (inside : Except ResolveError Place) : Prop where
  /-- The node is at the open place. -/
  nodeAt?_position :
    (Node.element tag (context.fill node)).nodeAt? context.position = some node
  /-- The names before it in document order are the earlier ones. -/
  exists_names_eq :
    ∃ later,
      (Node.element tag (context.fill node)).descendants.filterMap Node.tag? =
        context.earlierNames ++ node.preorder.filterMap Node.tag? ++ later
  locatePlace_eq :
    locatePlace (.element tag (context.fill node)) path uri =
      inside.map (Place.under context.position)
  locate_eq :
    locate (.element tag (context.fill node)) path uri = inside.map Place.node

theorem leadsInside_of_first
    {context : Context}
    (hname : node.hasName (first.nameIn uri) = true)
    (hearlier : first.nameIn uri ∉ context.earlierNames)
    (tag : ExpandedName)
    (rest : List Segment) :
    LeadsInside context tag node (first :: rest) uri (descendPlace uri node rest) where
  nodeAt?_position := Context.nodeAt?_fill tag
  exists_names_eq := Context.exists_filterMap_preorderAll_fill
  locatePlace_eq := locatePlace_fill hname hearlier tag rest
  locate_eq := by
    rw [locate_eq_map_locatePlace, locatePlace_fill hname hearlier tag rest, map_node_map_under]

/--
A path whose first segment has its first match in the open places of two contexts leads
to the same position inside the match in both, or fails in both with the same error, and
it gives the same text.  What is around the match and what follows it does not count.
-/
theorem resolve_eq_in_contexts
    {context context' : Context}
    (hname : node.hasName (first.nameIn uri) = true)
    (hearlier : first.nameIn uri ∉ context.earlierNames)
    (hearlier' : first.nameIn uri ∉ context'.earlierNames)
    (tag tag' : ExpandedName)
    (rest : List Segment) :
    (∃ inside : Except ResolveError Place,
      LeadsInside context tag node (first :: rest) uri inside ∧
        LeadsInside context' tag' node (first :: rest) uri inside ∧
        ∀ place, inside = .ok place → node.nodeAt? place.position = some place.node) ∧
    resolve (.element tag (context.fill node)) (first :: rest) uri =
      resolve (.element tag' (context'.fill node)) (first :: rest) uri := by
  have hinside := leadsInside_of_first hname hearlier tag rest
  have hinside' := leadsInside_of_first hname hearlier' tag' rest
  constructor
  · exact ⟨_, hinside, hinside', fun _ => nodeAt?_of_descendPlace⟩
  · rw [resolve, resolve, hinside.locate_eq, hinside'.locate_eq]

/-- The first match follows nodes that do not match in one tree, and in the other it is deeper and
others that match follow it. -/
theorem resolve_eq_in_contexts_of_later_matches :
    let b (content : String) : Node := .element ⟨some "u", "B"⟩ [.text content]
    let node : Node := .element ⟨none, "A"⟩ [b "1", .comment "A", b "2"]
    let context : Context := .among [.text "A", .element ⟨some "", "A"⟩ [b "0", b "0"]] []
    let context' : Context :=
      .inside [.comment "A"] ⟨some "u", "A"⟩
        (.among [] [.element ⟨none, "A"⟩ [b "3", b "4"]]) [.element ⟨none, "A"⟩ []]
    let path : List Segment := [.plain "A", ⟨"B", true, 1, ":B<2>"⟩]
    context.earlierNames = [⟨some "", "A"⟩, ⟨some "u", "B"⟩, ⟨some "u", "B"⟩] ∧
      context'.earlierNames = [⟨some "u", "A"⟩] ∧
      resolve (.element ⟨none, "A"⟩ (context.fill node)) path "u" = .ok "2" ∧
      resolve (.element ⟨none, "r"⟩ (context'.fill node)) path "u" = .ok "2" := by
  intro b node context context' path
  have hname : node.hasName ((Segment.plain "A").nameIn "u") = true := by
    decide
  have hearlier : (Segment.plain "A").nameIn "u" ∉ context.earlierNames := by
    decide
  have hearlier' : (Segment.plain "A").nameIn "u" ∉ context'.earlierNames := by
    decide
  have hvalue : resolve (.element ⟨none, "A"⟩ (context.fill node)) path "u" = .ok "2" := by
    rfl
  have hsame :=
    (resolve_eq_in_contexts hname hearlier hearlier' ⟨none, "A"⟩ ⟨none, "r"⟩
      [⟨"B", true, 1, ":B<2>"⟩]).2
  exact ⟨rfl, rfl, hvalue, hsame.symm.trans hvalue⟩

end Contexts

end Resolution

end LegendReport
