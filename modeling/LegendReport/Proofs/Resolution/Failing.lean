import LegendReport.Proofs.Resolution.Reaching

/-!
# Where a path breaks off

A path that reaches no element fails in one of three ways.  It may have no segments at
all.  No descendant of the start may have the name of its first segment.  Or the
segments lead from element to element up to the first one that no child meets, because
no more children have its name than are to be passed over.

What the error says of the failure is exact: it shows the name that is missing, and how
many children have it.
-/

namespace LegendReport

namespace Resolution

open Xml

section Meaning

/-- The first element of a name among nodes in document order. -/
def IsFirst (name : ExpandedName) (nodes : List Node) (node : Node) : Prop :=
  ∃ before after,
    nodes = before ++ node :: after ∧ node.hasName name = true ∧
      ∀ other ∈ before, other.hasName name = false

/-- The segments lead from one element to another, from which the next segment leads nowhere. -/
structure BreaksOff
    (uri : String)
    (node : Node)
    (path : List Segment)
    (reached : Node)
    (segment : Segment) : Prop where
  follows : ∃ followed left, path = followed ++ segment :: left ∧ Follows uri node followed reached
  leads_nowhere : ∀ next, ¬ Follows uri reached [segment] next

end Meaning

section Children

variable {uri : String} {name : ExpandedName} {node next : Node} {segment : Segment}

theorem length_candidates :
    (candidates name node).length = node.children.countP (Node.hasName name) := by
  rw [candidates, List.countP_eq_length_filter]

theorem follows_singleton_iff :
    Follows uri node [segment] next ↔
      (candidates (segment.nameIn uri) node)[segment.occurrence]? = some next := by
  rw [← descend_eq_ok_iff, descend]
  cases (candidates (segment.nameIn uri) node)[segment.occurrence]? with
  | none => simp
  | some child => simp [descend]

/-- A segment leads nowhere if it passes over all children of its name. -/
theorem leads_nowhere_iff :
    (∀ next, ¬ Follows uri node [segment] next) ↔
      node.children.countP (Node.hasName (segment.nameIn uri)) ≤ segment.occurrence := by
  simp only [follows_singleton_iff]
  rw [← Option.eq_none_iff_forall_ne_some, List.getElem?_eq_none_iff, length_candidates]

end Children

section Search

variable {uri : String}

/-- Segments are followed up to the first one that leads nowhere. -/
theorem descend_eq_error_iff
    {node : Node}
    {path : List Segment}
    {cause : ResolveError} :
    descend uri node path = .error cause ↔
      ∃ reached segment,
        BreaksOff uri node path reached segment ∧
          cause =
            .indexOutOfRange (segment.nameIn uri) segment.occurrence
              (reached.children.countP (Node.hasName (segment.nameIn uri))) := by
  constructor
  · intro h
    induction path generalizing node with
    | nil => cases h
    | cons segment rest ih =>
        rw [descend] at h
        cases hfound : (candidates (segment.nameIn uri) node)[segment.occurrence]? with
        | none =>
            rw [hfound] at h
            obtain rfl := Except.error.inj h
            refine ⟨node, segment, ⟨⟨[], rest, rfl, .here node⟩, ?_⟩, by rw [length_candidates]⟩
            rw [leads_nowhere_iff, ← length_candidates]
            exact List.getElem?_eq_none_iff.mp hfound
        | some next =>
            rw [hfound] at h
            obtain ⟨reached, last, ⟨⟨followed, left, rfl, hfollows⟩, hnowhere⟩, hcause⟩ := ih h
            obtain ⟨before, after, hchildren, hname, hbefore⟩ :=
              getElem?_filter_eq_some_iff.mp hfound
            exact ⟨reached, last,
              ⟨⟨segment :: followed, left, rfl, .child hchildren hname hbefore hfollows⟩, hnowhere⟩,
              hcause⟩
  · rintro ⟨reached, segment, ⟨⟨followed, left, rfl, hfollows⟩, hnowhere⟩, rfl⟩
    induction hfollows with
    | here node =>
        have hnone : (candidates (segment.nameIn uri) node)[segment.occurrence]? = none := by
          rw [List.getElem?_eq_none_iff, length_candidates]
          exact leads_nowhere_iff.mp hnowhere
        rw [List.nil_append, descend, hnone, length_candidates]
    | @child node next goal before after first rest hchildren hname hbefore hrest ih =>
        have hfound : (candidates (first.nameIn uri) node)[first.occurrence]? = some next :=
          getElem?_filter_eq_some_iff.mpr ⟨before, after, hchildren, hname, hbefore⟩
        rw [List.cons_append, descend, hfound]
        exact ih hnowhere

theorem isFirst_iff
    {name : ExpandedName}
    {nodes : List Node}
    {node : Node} :
    IsFirst name nodes node ↔ nodes.find? (Node.hasName name) = some node := by
  rw [List.find?_eq_some_iff_append]
  constructor
  · rintro ⟨before, after, hnodes, hname, hbefore⟩
    exact ⟨hname, before, after, hnodes, by simpa using hbefore⟩
  · rintro ⟨hname, before, after, hnodes, hbefore⟩
    exact ⟨before, after, hnodes, hname, by simpa using hbefore⟩

variable {start : Node} {first : Segment} {rest : List Segment}

/-- A path that has no value is one that leads to no element, for the same reason. -/
theorem resolve_eq_error_iff
    {path : List Segment}
    {cause : ResolveError} :
    resolve start path uri = .error cause ↔ locate start path uri = .error cause := by
  rw [resolve]
  cases locate start path uri with
  | error other => simp [Except.map]
  | ok goal => simp [Except.map]

/-- From the first element of its name the rest of a path is followed. -/
theorem locate_of_isFirst
    {node : Node}
    (h : IsFirst (first.nameIn uri) start.descendants node) :
    locate start (first :: rest) uri = descend uri node rest := by
  have hfound := isFirst_iff.mp h
  rw [Node.descendants] at hfound
  rw [locate, locateAmong, hfound]

theorem locate_of_not_exists_isFirst
    (h : ¬ ∃ node, IsFirst (first.nameIn uri) start.descendants node) :
    locate start (first :: rest) uri = .error (.elementNotFound (first.nameIn uri)) := by
  simp only [isFirst_iff, Node.descendants] at h
  rw [locate, locateAmong]
  cases hfound : (Node.preorderAll start.children).find? (Node.hasName (first.nameIn uri)) with
  | none => rfl
  | some node => exact absurd ⟨node, hfound⟩ h

/-- With a first element of its name, a path fails neither for want of segments nor of that
element. -/
theorem locate_ne_of_isFirst
    {node : Node}
    (h : IsFirst (first.nameIn uri) start.descendants node) :
    locate start (first :: rest) uri ≠ .error .emptyPath ∧
      ∀ name, locate start (first :: rest) uri ≠ .error (.elementNotFound name) := by
  rw [locate_of_isFirst h]
  constructor
  · intro hcause
    obtain ⟨_, _, _, hcause⟩ := descend_eq_error_iff.mp hcause
    cases hcause
  · intro name hcause
    obtain ⟨_, _, _, hcause⟩ := descend_eq_error_iff.mp hcause
    cases hcause

theorem locate_eq_emptyPath_iff
    {path : List Segment} :
    locate start path uri = .error .emptyPath ↔ path = [] := by
  constructor
  · intro h
    cases path with
    | nil => rfl
    | cons first rest =>
        by_cases hfirst : ∃ node, IsFirst (first.nameIn uri) start.descendants node
        · obtain ⟨node, hfirst⟩ := hfirst
          exact absurd h (locate_ne_of_isFirst hfirst).1
        · rw [locate_of_not_exists_isFirst hfirst] at h
          cases h
  · rintro rfl
    rfl

theorem locate_eq_elementNotFound_iff
    {name : ExpandedName} :
    locate start (first :: rest) uri = .error (.elementNotFound name) ↔
      name = first.nameIn uri ∧
        ¬ ∃ node, IsFirst (first.nameIn uri) start.descendants node := by
  constructor
  · intro h
    by_cases hfirst : ∃ node, IsFirst (first.nameIn uri) start.descendants node
    · obtain ⟨node, hfirst⟩ := hfirst
      exact absurd h ((locate_ne_of_isFirst hfirst).2 name)
    · rw [locate_of_not_exists_isFirst hfirst] at h
      cases h
      exact ⟨rfl, hfirst⟩
  · rintro ⟨rfl, hnone⟩
    exact locate_of_not_exists_isFirst hnone

/--
A path is resolved to what its segments mean.  The first segment stands for the first
descendant of its name, whatever its occurrence number, and each later one for the child
of its name that has as many of them before it as its occurrence number says.  If there
is no such element, the error is that of the first segment that leads nowhere, with the
number of children that have its name, which is never more than are to be passed over.
An error shows the name of a qualified segment with the namespace in braces before it.
The value is all character data of the element in document order.  A document is a start
as an element is, with the nodes at its top as children.
-/
theorem locate_exact
    (start : Node)
    (uri : String) :
    (∀ path, locate start path uri = .error .emptyPath ↔ path = []) ∧
    (∀ first rest,
      (∀ name,
        locate start (first :: rest) uri = .error (.elementNotFound name) ↔
          name = first.nameIn uri ∧
            name.render =
              (if first.qualified then "\x7b" ++ uri ++ "\x7d" ++ first.name else first.name) ∧
            ¬ ∃ node, IsFirst (first.nameIn uri) start.descendants node) ∧
      ∀ node,
        IsFirst (first.nameIn uri) start.descendants node →
          (∀ goal, locate start (first :: rest) uri = .ok goal ↔ Follows uri node rest goal) ∧
          (∀ cause,
            locate start (first :: rest) uri = .error cause ↔
              ∃ reached segment name available,
                BreaksOff uri node rest reached segment ∧
                  name = segment.nameIn uri ∧
                  name.render =
                    (if segment.qualified then "\x7b" ++ uri ++ "\x7d" ++ segment.name
                    else segment.name) ∧
                  available = reached.children.countP (Node.hasName name) ∧
                  available ≤ segment.occurrence ∧
                  cause = .indexOutOfRange name segment.occurrence available)) ∧
    (∀ path value,
      resolve start path uri = .ok value ↔
        ∃ goal,
          locate start path uri = .ok goal ∧
            value = String.join (goal.preorder.filterMap Node.text?)) ∧
    (∀ path cause,
      resolve start path uri = .error cause ↔ locate start path uri = .error cause) ∧
    (∀ (document : Document) (path : List Segment),
      locateAmong document.top path uri =
        locate (.element document.rootTag document.top) path uri) := by
  refine ⟨fun _ => locate_eq_emptyPath_iff, ?_, ?_, ?_, fun _ _ => rfl⟩
  · intro first rest
    constructor
    · intro name
      rw [locate_eq_elementNotFound_iff]
      constructor
      · rintro ⟨rfl, hnone⟩
        exact ⟨rfl, first.render_nameIn uri, hnone⟩
      · rintro ⟨hname, _, hnone⟩
        exact ⟨hname, hnone⟩
    · intro node hfirst
      rw [locate_of_isFirst hfirst]
      refine ⟨fun _ => descend_eq_ok_iff, ?_⟩
      intro cause
      rw [descend_eq_error_iff]
      constructor
      · rintro ⟨reached, segment, hbreaks, rfl⟩
        exact ⟨reached, segment, _, _, hbreaks, rfl, segment.render_nameIn uri, rfl,
          leads_nowhere_iff.mp hbreaks.leads_nowhere, rfl⟩
      · rintro ⟨reached, segment, _, _, hbreaks, rfl, _, rfl, _, hcause⟩
        exact ⟨reached, segment, hbreaks, hcause⟩
  · intro path value
    rw [resolve]
    cases locate start path uri with
    | error cause => simp [Except.map]
    | ok goal => simp [Except.map, Node.textContent, eq_comm]
  · intro path cause
    exact resolve_eq_error_iff

/-- The first of two elements of a name is deeper than the second.  It has two children of the next
name and no third one, though the second has.  No element has a name in the namespace. -/
theorem locate_exact_of_equal_names :
    let child (content : String) : Node := .element ⟨none, "B"⟩ [.text content, .comment "c"]
    let person : Node := .element ⟨none, "A"⟩ [child "1", .text "B", child "2"]
    let other : Node := .element ⟨none, "A"⟩ [child "3", child "4", child "5"]
    let start : Node := .element ⟨none, "A"⟩ [.element ⟨some "u", "A"⟩ [person], other]
    let path (occurrence : Nat) : List Segment :=
      [⟨"A", false, 7, "A<8>"⟩, ⟨"B", false, occurrence, "B"⟩]
    resolve start (path 1) "u" = .ok "2" ∧
      locate start (path 2) "u" = .error (.indexOutOfRange ⟨none, "B"⟩ 2 2) ∧
      ∃ name,
        locate start [⟨"B", true, 0, ":B"⟩] "u" = .error (.elementNotFound name) ∧
          name.render = "\x7bu\x7dB" := by
  intro child person other start path
  have hfirst : IsFirst ⟨none, "A"⟩ start.descendants person :=
    ⟨[.element ⟨some "u", "A"⟩ [person]], _, rfl, rfl, by simp [Node.hasName, Node.tag?]⟩
  obtain ⟨_, hpath, hvalue, _⟩ := locate_exact start "u"
  have hperson := fun occurrence =>
    (hpath ⟨"A", false, 7, "A<8>"⟩ [⟨"B", false, occurrence, "B"⟩]).2 person hfirst
  refine ⟨?_, ?_, ?_⟩
  · have hchildren : person.children = [child "1", .text "B"] ++ child "2" :: [] := rfl
    have hfollows : Follows "u" person [⟨"B", false, 1, "B"⟩] (child "2") :=
      .child hchildren rfl rfl (.here _)
    exact (hvalue (path 1) "2").mpr ⟨child "2", ((hperson 1).1 _).mpr hfollows, rfl⟩
  · have hbreaks : BreaksOff "u" person [⟨"B", false, 2, "B"⟩] person ⟨"B", false, 2, "B"⟩ :=
      ⟨⟨[], [], rfl, .here _⟩, leads_nowhere_iff.mpr (by decide)⟩
    exact ((hperson 2).2 _).mpr ⟨person, _, _, 2, hbreaks, rfl, rfl, rfl, by decide, rfl⟩
  · have hmissing :
        locate start [⟨"B", true, 0, ":B"⟩] "u" = .error (.elementNotFound ⟨some "u", "B"⟩) := by
      rfl
    obtain ⟨_, hrender, _⟩ := ((hpath ⟨"B", true, 0, ":B"⟩ []).1 _).mp hmissing
    exact ⟨_, hmissing, hrender⟩

end Search

end Resolution

end LegendReport
