import LegendReport.Resolution

/-!
# What a path reaches

A path reaches an element in two ways of looking for names.  For its first segment
the descendants of the start are searched in document order, and the first of the
name is taken.  For each later segment the children of the element reached so far are
searched, and the one is taken that has as many of its name before it as the segment
says.

The resolver finds an element exactly if the path reaches it.
-/

namespace LegendReport

namespace Resolution

open Xml

section Meaning

/-- The segments lead from one element to another, child by child. -/
inductive Follows (uri : String) : Node → List Segment → Node → Prop where
  | here
      (node : Node) :
      Follows uri node [] node
  | child
      {node next goal : Node}
      {before after : List Node}
      {segment : Segment}
      {rest : List Segment}
      (hchildren : node.children = before ++ next :: after)
      (hname : next.hasName (segment.nameIn uri) = true)
      (hbefore : before.countP (Node.hasName (segment.nameIn uri)) = segment.occurrence)
      (hrest : Follows uri next rest goal) :
      Follows uri node (segment :: rest) goal

/-- The path leads to an element below the start. -/
inductive Reaches (uri : String) (start : Node) : List Segment → Node → Prop where
  | descendant
      {next goal : Node}
      {before after : List Node}
      {segment : Segment}
      {rest : List Segment}
      (hdescendants : start.descendants = before ++ next :: after)
      (hname : next.hasName (segment.nameIn uri) = true)
      (hbefore : ∀ node ∈ before, node.hasName (segment.nameIn uri) = false)
      (hrest : Follows uri next rest goal) :
      Reaches uri start (segment :: rest) goal

end Meaning

section Search

/-- What is at a position among the kept items of a list has that many kept items before it. -/
theorem getElem?_filter_eq_some_iff
    {α : Type}
    {keep : α → Bool}
    {items : List α}
    {position : Nat}
    {found : α} :
    (items.filter keep)[position]? = some found ↔
      ∃ before after,
        items = before ++ found :: after ∧ keep found = true ∧ before.countP keep = position := by
  constructor
  · intro h
    induction items generalizing position with
    | nil => simp at h
    | cons item rest ih =>
        by_cases hitem : keep item = true
        · rw [List.filter_cons_of_pos hitem] at h
          cases position with
          | zero =>
              obtain rfl : item = found := by
                simpa using h
              exact ⟨[], rest, rfl, hitem, rfl⟩
          | succ position =>
              obtain ⟨before, after, rfl, hfound, hcount⟩ := ih h
              exact ⟨item :: before, after, rfl, hfound, by simp [hitem, hcount]⟩
        · rw [List.filter_cons_of_neg hitem] at h
          obtain ⟨before, after, rfl, hfound, hcount⟩ := ih h
          exact ⟨item :: before, after, rfl, hfound, by simp [hitem, hcount]⟩
  · rintro ⟨before, after, rfl, hfound, rfl⟩
    rw [List.filter_append, List.filter_cons_of_pos hfound, List.countP_eq_length_filter]
    simp

variable {uri : String}

theorem descend_eq_ok_iff
    {node goal : Node}
    {path : List Segment} :
    descend uri node path = .ok goal ↔ Follows uri node path goal := by
  constructor
  · intro h
    induction path generalizing node with
    | nil =>
        obtain rfl : node = goal := by
          simpa [descend] using h
        exact .here node
    | cons segment rest ih =>
        rw [descend] at h
        cases hfound : (candidates (segment.nameIn uri) node)[segment.occurrence]? with
        | none => simp [hfound] at h
        | some next =>
            rw [hfound] at h
            obtain ⟨before, after, hchildren, hname, hbefore⟩ :=
              getElem?_filter_eq_some_iff.mp hfound
            exact .child hchildren hname hbefore (ih h)
  · intro h
    induction h with
    | here node => rfl
    | @child node next goal before after segment rest hchildren hname hbefore hrest ih =>
        have hfound :
            (candidates (segment.nameIn uri) node)[segment.occurrence]? = some next :=
          getElem?_filter_eq_some_iff.mpr ⟨before, after, hchildren, hname, hbefore⟩
        rw [descend, hfound]
        exact ih

theorem locate_eq_ok_iff
    {start goal : Node}
    {path : List Segment} :
    locate start path uri = .ok goal ↔ Reaches uri start path goal := by
  constructor
  · intro h
    cases path with
    | nil => cases h
    | cons first rest =>
        rw [locate, locateAmong] at h
        cases hfound :
            (Node.preorderAll start.children).find? (Node.hasName (first.nameIn uri)) with
        | none => simp [hfound] at h
        | some next =>
            rw [hfound] at h
            obtain ⟨hname, before, after, hdescendants, hbefore⟩ :=
              List.find?_eq_some_iff_append.mp hfound
            refine .descendant hdescendants hname ?_ (descend_eq_ok_iff.mp h)
            simpa using hbefore
  · rintro ⟨hdescendants, hname, hbefore, hrest⟩
    have hfound := List.find?_eq_some_iff_append.mpr
      ⟨hname, _, _, hdescendants, by simpa using hbefore⟩
    rw [Node.descendants] at hfound
    rw [locate, locateAmong, hfound]
    exact descend_eq_ok_iff.mpr hrest

/-- The value of a path is all character data of the element it reaches. -/
theorem resolve_eq_ok_iff
    {start : Node}
    {path : List Segment}
    {value : String} :
    resolve start path uri = .ok value ↔
      ∃ goal, Reaches uri start path goal ∧ goal.textContent = value := by
  rw [resolve]
  cases hlocate : locate start path uri with
  | error cause =>
      have hnone : ¬ ∃ goal, Reaches uri start path goal ∧ goal.textContent = value := by
        rintro ⟨goal, hreaches, _⟩
        rw [locate_eq_ok_iff.mpr hreaches] at hlocate
        cases hlocate
      simpa [Except.map] using hnone
  | ok goal =>
      have hreaches : ∀ other, Reaches uri start path other ↔ goal = other := by
        intro other
        rw [← locate_eq_ok_iff, hlocate, Except.ok.injEq]
      simp [Except.map, hreaches]

end Search

end Resolution

end LegendReport
