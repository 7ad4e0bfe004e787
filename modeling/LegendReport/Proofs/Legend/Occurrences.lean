import LegendReport.Proofs.Legend.CanonicalTokens
import LegendReport.Proofs.Legend.Listing
import LegendReport.Proofs.Legend.Positions
import LegendReport.Proofs.Resolution.Failing

/-!
# Occurrence numbers

The number of a token counts occurrences from one, and the segment keeps how many come
before.  It may have any number of digits; only its value has to be that of a machine word,
and not zero.

So the occurrence of a segment is never the greatest number of a machine word.  Where it is
shown it is counted from one again, in the message about a path with too few children and in
the listing of the legend.  The sum is a number of a machine word each time, and if the token
has a number, it is that one.
-/

namespace LegendReport

namespace Segment

section Meaning

/-- The occurrence of the segment is this number if counted from one, also in machine words.  If the
token has a number, it is the same. -/
structure CountsAs (segment : Segment) (number : Nat) : Prop where
  number_eq : number = segment.occurrence + 1
  toNat_eq : (UInt64.ofNat segment.occurrence + 1).toNat = number
  of_isNumbered :
    ∀ qualified name digits value,
      IsNumbered segment.token qualified name digits value → number = value

end Meaning

section Numbers

variable {token name digits : String} {qualified : Bool} {value : Nat} {segment : Segment}

/-- A numbered token that is accepted has its value as its number. -/
theorem IsNumbered.occurrence_eq
    (h : IsNumbered token qualified name digits value)
    (hread : ofToken token = .ok segment) :
    segment.occurrence + 1 = value := by
  rw [h.ofToken_eq] at hread
  split at hread
  · cases hread
  · split at hread
    · cases hread
    · next hzero =>
        cases hread
        exact Nat.succ_pred hzero

/-- The message about too few children shows the number of the segment. -/
theorem CountsAs.message_eq
    {number : Nat}
    (h : segment.CountsAs number)
    (shown : ExpandedName)
    (available : Nat) :
    (ResolveError.indexOutOfRange shown segment.occurrence available).message =
      "element " ++ shown.render ++ " occurrence " ++ toString number ++
        " requested but only " ++ toString available ++ " found" := by
  rw [← h.toNat_eq]
  rfl

end Numbers

end Segment

namespace Resolution

end Resolution

namespace Legend

section Lines

end Lines

section Occurrences

variable {lines : List String} {legend : Legend}

end Occurrences

end Legend

end LegendReport
