/-!
# Classes of characters

A class of characters is given by ranges of code points, as the Unicode tables
and the XML grammar give theirs.  Membership is decided by a scan of the
ranges, so a class is data that can be read beside the table it comes from.
-/

namespace LegendReport
namespace Text

/-- A class of characters: the code points that lie in one of the ranges, both ends included. -/
structure CharClass where
  ranges : List (Nat × Nat)
  deriving DecidableEq, Repr

namespace CharClass

/-- Whether one of the ranges holds the character's code point. -/
def contains (cls : CharClass) (c : Char) : Bool :=
  cls.ranges.any fun range =>
    decide (range.1 ≤ c.toNat) && decide (c.toNat ≤ range.2)

/-- The characters of either class. -/
def union (cls other : CharClass) : CharClass :=
  ⟨cls.ranges ++ other.ranges⟩

@[simp] theorem contains_union
    (cls other : CharClass)
    (c : Char) :
    (cls.union other).contains c = (cls.contains c || other.contains c) := by
  simp [contains, union]

end CharClass

end Text
end LegendReport
