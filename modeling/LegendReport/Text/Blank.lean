import LegendReport.Text.CharClass

/-!
# Blank text

White space is the Unicode property `White_Space`.  The zero-width space, the
byte order mark and the Mongolian vowel separator do not have it.
-/

namespace LegendReport
namespace Text

/-- The characters with the Unicode property `White_Space`. -/
def whiteSpace : CharClass :=
  ⟨[(0x9, 0xD), (0x20, 0x20), (0x85, 0x85), (0xA0, 0xA0), (0x1680, 0x1680), (0x2000, 0x200A),
    (0x2028, 0x2029), (0x202F, 0x202F), (0x205F, 0x205F), (0x3000, 0x3000)]⟩

/-- A text is blank if it is empty or holds white space only. -/
def isBlank (s : String) : Bool :=
  s.toList.all whiteSpace.contains

/-- The list without the characters at its end that satisfy the test. -/
def trimEnd (p : Char → Bool) (cs : List Char) : List Char :=
  (cs.reverse.dropWhile p).reverse

/-- The text without the white space at its two ends. -/
def trim (s : String) : String :=
  String.ofList (trimEnd whiteSpace.contains (s.toList.dropWhile whiteSpace.contains))

/-- What is trimmed from the end satisfies the test, and nothing else is touched. -/
theorem trimEnd_append_of_all
    (p : Char → Bool)
    (cs : List Char) :
    ∃ tail, cs = trimEnd p cs ++ tail ∧ tail.all p = true := by
  refine ⟨(cs.reverse.takeWhile p).reverse, ?_, ?_⟩
  · rw [trimEnd, ← List.reverse_append, List.takeWhile_append_dropWhile, List.reverse_reverse]
  · simp only [List.all_reverse]
    exact List.all_takeWhile

end Text
end LegendReport
