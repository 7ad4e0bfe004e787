/-!
# Sets of characters

A set of characters is written as the ascending list of the code points at which
membership changes.  Outside of the first of them nothing is in the set.  This
form is unique, so sets with the same characters are equal, and every operation
on sets is one merge of two lists.  Surrogates are never in a set.
-/

namespace LegendReport
namespace Text

/-- A set of characters by the code points at which membership changes. -/
structure CharSet where
  boundaries : List Nat
  ascending : boundaries.Pairwise (· < ·)
  deriving DecidableEq, Repr

namespace CharSet

section Boundaries

/-- Whether a number is a member, given the membership before the first boundary. -/
def memberFrom (before : Bool) : List Nat → Nat → Bool
  | [], _ => before
  | place :: rest, n => if n < place then before else memberFrom (!before) rest n

/-- A place in front of other boundaries, if membership changes there. -/
def boundary (before after : Bool) (place : Nat) (rest : List Nat) : List Nat :=
  if before = after then rest else place :: rest

/-- The boundaries of a combination of two sets, given the memberships before the first ones. -/
def merge (combine : Bool → Bool → Bool) (a b : Bool) : List Nat → List Nat → List Nat
  | [], [] => []
  | x :: xs, [] => boundary (combine a b) (combine (!a) b) x (merge combine (!a) b xs [])
  | [], y :: ys => boundary (combine a b) (combine a (!b)) y (merge combine a (!b) [] ys)
  | x :: xs, y :: ys =>
    if x < y then
      boundary (combine a b) (combine (!a) b) x (merge combine (!a) b xs (y :: ys))
    else if y < x then
      boundary (combine a b) (combine a (!b)) y (merge combine a (!b) (x :: xs) ys)
    else boundary (combine a b) (combine (!a) (!b)) x (merge combine (!a) (!b) xs ys)
  termination_by xs ys => xs.length + ys.length

theorem mem_boundary
    {before after : Bool}
    {place z : Nat}
    {rest : List Nat}
    (h : z ∈ boundary before after place rest) :
    z = place ∨ z ∈ rest := by
  unfold boundary at h
  split at h
  · exact Or.inr h
  · exact List.mem_cons.mp h

theorem mem_merge
    {combine : Bool → Bool → Bool}
    {a b : Bool}
    {xs ys : List Nat}
    {z : Nat}
    (h : z ∈ merge combine a b xs ys) :
    z ∈ xs ∨ z ∈ ys := by
  induction a, b, xs, ys using merge.induct with
  | case1 => simp [merge] at h
  | case2 a b x xs ih =>
      rw [merge] at h
      rcases mem_boundary h with h | h
      · simp [h]
      · simpa using Or.inr (by simpa using ih h)
  | case3 a b y ys ih =>
      rw [merge] at h
      rcases mem_boundary h with h | h
      · simp [h]
      · simpa using Or.inr (by simpa using ih h)
  | case4 a b x xs y ys hlt ih =>
      rw [merge, if_pos hlt] at h
      rcases mem_boundary h with h | h
      · simp [h]
      · rcases ih h with h | h
        · simp [h]
        · exact Or.inr h
  | case5 a b x xs y ys hnlt hlt ih =>
      rw [merge, if_neg hnlt, if_pos hlt] at h
      rcases mem_boundary h with h | h
      · simp [h]
      · rcases ih h with h | h
        · exact Or.inl h
        · simp [h]
  | case6 a b x xs y ys hnlt hnlt2 ih =>
      rw [merge, if_neg hnlt, if_neg hnlt2] at h
      rcases mem_boundary h with h | h
      · simp [h]
      · rcases ih h with h | h <;> simp [h]

theorem pairwise_boundary
    {before after : Bool}
    {place : Nat}
    {rest : List Nat}
    (hplace : ∀ z ∈ rest, place < z)
    (hrest : rest.Pairwise (· < ·)) :
    (boundary before after place rest).Pairwise (· < ·) := by
  unfold boundary
  split
  · exact hrest
  · exact List.pairwise_cons.mpr ⟨hplace, hrest⟩

/-- The boundaries of a combination ascend. -/
theorem pairwise_merge
    (combine : Bool → Bool → Bool)
    (a b : Bool)
    (xs ys : List Nat)
    (hxs : xs.Pairwise (· < ·))
    (hys : ys.Pairwise (· < ·)) :
    (merge combine a b xs ys).Pairwise (· < ·) := by
  induction a, b, xs, ys using merge.induct with
  | case1 => simp [merge]
  | case2 a b x xs ih =>
      rw [List.pairwise_cons] at hxs
      rw [merge]
      refine pairwise_boundary (fun z hz => ?_) (ih hxs.2 hys)
      rcases mem_merge hz with h | h
      · exact hxs.1 z h
      · simp at h
  | case3 a b y ys ih =>
      rw [List.pairwise_cons] at hys
      rw [merge]
      refine pairwise_boundary (fun z hz => ?_) (ih hxs hys.2)
      rcases mem_merge hz with h | h
      · simp at h
      · exact hys.1 z h
  | case4 a b x xs y ys hlt ih =>
      have hx := List.pairwise_cons.mp hxs
      have hy := List.pairwise_cons.mp hys
      rw [merge, if_pos hlt]
      refine pairwise_boundary (fun z hz => ?_) (ih hx.2 hys)
      rcases mem_merge hz with h | h
      · exact hx.1 z h
      · rcases List.mem_cons.mp h with h | h
        · omega
        · have := hy.1 z h
          omega
  | case5 a b x xs y ys hnlt hlt ih =>
      have hx := List.pairwise_cons.mp hxs
      have hy := List.pairwise_cons.mp hys
      rw [merge, if_neg hnlt, if_pos hlt]
      refine pairwise_boundary (fun z hz => ?_) (ih hxs hy.2)
      rcases mem_merge hz with h | h
      · rcases List.mem_cons.mp h with h | h
        · omega
        · have := hx.1 z h
          omega
      · exact hy.1 z h
  | case6 a b x xs y ys hnlt hnlt2 ih =>
      have hx := List.pairwise_cons.mp hxs
      have hy := List.pairwise_cons.mp hys
      rw [merge, if_neg hnlt, if_neg hnlt2]
      refine pairwise_boundary (fun z hz => ?_) (ih hx.2 hy.2)
      rcases mem_merge hz with h | h
      · exact hx.1 z h
      · have := hy.1 z h
        omega

end Boundaries

/-- Whether a character is in the set. -/
def contains (set : CharSet) (c : Char) : Bool :=
  memberFrom false set.boundaries c.toNat

/-- No character at all. -/
def empty : CharSet :=
  ⟨[], List.Pairwise.nil⟩

/-- All characters. -/
def all : CharSet :=
  ⟨[0, 0xD800, 0xE000, 0x110000], by decide⟩

/-- The set of the characters whose memberships in two sets combine to membership. -/
def combined (combine : Bool → Bool → Bool) (first second : CharSet) : CharSet :=
  ⟨merge combine false false first.boundaries second.boundaries,
    pairwise_merge combine false false _ _ first.ascending second.ascending⟩

/-- The characters of either set. -/
def union (first second : CharSet) : CharSet :=
  combined or first second

/-- The characters of both sets. -/
def inter (first second : CharSet) : CharSet :=
  combined and first second

/-- The characters of the first set that are not in the second. -/
def diff (first second : CharSet) : CharSet :=
  combined (fun a b => a && !b) first second

/-- The characters of exactly one of the sets. -/
def symmDiff (first second : CharSet) : CharSet :=
  combined xor first second

/-- The characters that are not in the set. -/
def complement (set : CharSet) : CharSet :=
  all.diff set

/-- The characters from one to another. -/
def range (first last : Char) : CharSet :=
  if h : first.toNat < last.toNat + 1 then
    all.inter ⟨[first.toNat, last.toNat + 1], by simpa using h⟩
  else empty

/-- A single character. -/
def single (c : Char) : CharSet :=
  range c c

/-- The characters of several ranges. -/
def ofRanges (ranges : List (Char × Char)) : CharSet :=
  ranges.foldl (fun set ends => set.union (range ends.1 ends.2)) empty

/-- The only character of the set, if there is just one. -/
def only? (set : CharSet) : Option Char :=
  match set.boundaries with
  | [first, last] => if last = first + 1 then some (Char.ofNat first) else none
  | _ => none

/-- The set with the other letter case of each of its ASCII letters. -/
def withOtherCases (set : CharSet) : CharSet :=
  (List.range 26).foldl
    (fun found place =>
      let upper := Char.ofNat ('A'.toNat + place)
      let lower := Char.ofNat ('a'.toNat + place)
      if found.contains upper || found.contains lower then
        (found.union (single upper)).union (single lower)
      else found)
    set

end CharSet

end Text
end LegendReport
