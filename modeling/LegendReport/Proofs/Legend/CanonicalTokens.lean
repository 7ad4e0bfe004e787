import LegendReport.Proofs.Legend.Tokens
import Mathlib.Algebra.Group.Nat.Defs

/-!
# Canonical tokens

Reading a token forgets how it was written: how many colons and brackets there were, how
many zeros the number began with, whether a first occurrence was numbered at all.  What is
left is a name, whether it is qualified, and an occurrence.

Not all of these come from a token.  The colons before a name are never part of it, and an
occurrence number is a number of a machine word.  A name with a `<` can only be that of a
token without a number, so it does not end with `>` and the first occurrence is meant.
All others come from a token, and there is one that spells them out.  A name that ends with
`>` needs its number there, also for the first occurrence.
-/

namespace LegendReport

theorem Text.wordLimit_eq :
    wordLimit = 2 ^ 64 := by
  rfl

namespace Segment

section Meaning

/-- The token is a name and a number in a pair of brackets, with a colon before them if the name is
qualified.  The digits have the given value. -/
structure IsNumbered
    (token : String)
    (qualified : Bool)
    (name digits : String)
    (value : Nat) : Prop where
  token_eq : token = (if qualified then ":" else "") ++ name ++ "<" ++ digits ++ ">"
  head?_ne : name.toList.head? ≠ some ':'
  not_mem_name : '<' ∉ name.toList
  digits_ne : digits ≠ ""
  isDigit : ∀ c ∈ digits.toList, c.isDigit = true
  value_eq : Nat.ofDigitChars 10 digits.toList 0 = value

/-- Whether the name and the occurrence of a segment are those of some token. -/
structure IsReadable (segment : Segment) : Prop where
  head?_ne : segment.name.toList.head? ≠ some ':'
  occurrence_le : segment.occurrence ≤ 2 ^ 64 - 2
  of_mem_name :
    '<' ∈ segment.name.toList →
      segment.name.toList.getLast? ≠ some '>' ∧ segment.occurrence = 0

end Meaning

section Numbers

variable {token name digits : String} {qualified : Bool} {value : Nat} {segment : Segment}

theorem IsNumbered.isNumeral
    (h : IsNumbered token qualified name digits value) :
    Text.isNumeral digits.toList = true := by
  have hne : digits.toList ≠ [] := by
    simpa using h.digits_ne
  rw [Text.isNumeral, Bool.and_eq_true, List.all_eq_true]
  exact ⟨by simpa using hne, h.isDigit⟩

/-- What stands behind the colon of a numbered token is a bracketed text. -/
theorem IsNumbered.bracketed
    (h : IsNumbered token qualified name digits value) :
    Bracketed (name.toList ++ '<' :: (digits.toList ++ ['>'])) name.toList 0 digits.toList 1 where
  body_eq := rfl
  not_mem_name := h.not_mem_name
  head?_ne := fun hhead =>
    Text.not_mem_of_isNumeral h.isNumeral (c := '<') rfl (List.mem_of_head? hhead)
  getLast?_ne := fun hlast =>
    Text.not_mem_of_isNumeral h.isNumeral (c := '>') rfl (List.mem_of_getLast? hlast)

/-- A numbered token is read as a number behind a name. -/
theorem IsNumbered.ofToken_eq
    (h : IsNumbered token qualified name digits value) :
    ofToken token =
      if 2 ^ 64 ≤ value then .error (.invalidIndex token digits)
      else if value = 0 then .error (.zeroIndex token)
      else .ok { name, qualified, occurrence := value - 1, token } := by
  have htoken :
      token.toList =
        List.replicate (if qualified then 1 else 0) ':' ++
          (name.toList ++ '<' :: (digits.toList ++ ['>'])) := by
    rw [h.token_eq]
    cases qualified <;> simp
  have hbody : (name.toList ++ '<' :: (digits.toList ++ ['>'])).head? ≠ some ':' := by
    have hname := h.head?_ne
    cases hcase : name.toList with
    | nil => simp
    | cons first rest => simpa [hcase] using hname
  have hlast : (name.toList ++ '<' :: (digits.toList ++ ['>'])).getLast? = some '>' := by
    simp [List.getLast?_append, List.getLast?_cons]
  have hvalue : Text.numeralValue digits.toList = value := by
    rw [Text.numeralValue_eq, h.value_eq]
  rw [ofToken_of_bracketed htoken hbody hlast h.bracketed, ofNumbered, h.isNumeral, hvalue,
    Text.wordLimit_eq]
  cases qualified <;> simp

/-- A number that is not zero and fits into a machine word is accepted. -/
theorem IsNumbered.ofToken_eq_ok
    (h : IsNumbered token qualified name digits value)
    (hzero : value ≠ 0)
    (hlimit : value ≤ 2 ^ 64 - 1) :
    ofToken token = .ok { name, qualified, occurrence := value - 1, token } := by
  rw [h.ofToken_eq, if_neg (by omega), if_neg hzero]

/-- One more than an accepted occurrence is still a number of a machine word. -/
theorem occurrence_lt_of_ofToken
    (h : ofToken token = .ok segment) :
    segment.occurrence + 1 < 2 ^ 64 := by
  unfold ofToken at h
  dsimp only at h
  split at h
  · split at h
    · cases h
    · obtain ⟨-, hlimit, hvalue, -⟩ := of_ofNumbered_eq_ok h
      rwa [← hvalue, ← Text.wordLimit_eq]
  · cases h
    exact (by decide : 0 + 1 < 2 ^ 64)

end Numbers

section Canonical

variable {token : String} {segment : Segment}

theorem isReadable_of_ofToken
    (h : ofToken token = .ok segment) :
    segment.IsReadable := by
  obtain ⟨colons, opening, closing, hwritten⟩ := exists_isWritten_of_ofToken h
  have hoccurrence := occurrence_lt_of_ofToken h
  refine ⟨hwritten.head?_ne, by omega, ?_⟩
  intro hopen
  cases hwritten.written with
  | numbered htoken hname hdigits hvalue => exact absurd hopen hname
  | bare htoken hzero =>
      refine ⟨?_, hzero⟩
      intro hlast
      apply hwritten.getLast?_ne htoken
      rw [htoken, List.getLast?_append, hlast]
      rfl

/-- The canonical token of a name without a `<` is numbered. -/
theorem isNumbered_canonicalToken
    (h : segment.IsReadable)
    (hname : '<' ∉ segment.name.toList) :
    IsNumbered segment.canonicalToken segment.qualified segment.name
      (toString (segment.occurrence + 1)) (segment.occurrence + 1) where
  token_eq := by
    rw [canonicalToken, if_neg hname]
    simp only [String.append_assoc]
  head?_ne := h.head?_ne
  not_mem_name := hname
  digits_ne := by
    rw [Nat.toString_eq_repr]
    exact Nat.repr_ne_empty
  isDigit := by
    intro c hc
    rw [Nat.toString_eq_repr, Nat.toList_repr] at hc
    exact Nat.isDigit_of_mem_toDigits (by decide) (by decide) hc
  value_eq := by
    rw [← Text.numeralValue_eq, Text.numeralValue_toString]

/-- The canonical token of a name with a `<` is the name, which does not look like it had a number. -/
theorem ofToken_canonicalToken_of_mem_name
    (h : segment.IsReadable)
    (hname : '<' ∈ segment.name.toList) :
    ofToken segment.canonicalToken = .ok { segment with token := segment.canonicalToken } := by
  obtain ⟨hlast, hzero⟩ := h.of_mem_name hname
  have htoken :
      segment.canonicalToken.toList =
        List.replicate (if segment.qualified then 1 else 0) ':' ++ segment.name.toList := by
    rw [canonicalToken, if_pos hname]
    cases segment.qualified <;> simp
  rw [ofToken_of_colons htoken h.head?_ne, if_neg hlast, String.ofList_toList]
  cases hqualified : segment.qualified <;> simp [hzero]

theorem ofToken_canonicalToken
    (h : segment.IsReadable) :
    ofToken segment.canonicalToken = .ok { segment with token := segment.canonicalToken } := by
  by_cases hname : '<' ∈ segment.name.toList
  · exact ofToken_canonicalToken_of_mem_name h hname
  · have hoccurrence := h.occurrence_le
    exact (isNumbered_canonicalToken h hname).ofToken_eq_ok (by omega) (by omega)

/--
A name, a mark whether it is qualified and an occurrence come from a token exactly if they
can be read.  Then they come from their canonical token.  So what is read of a token is read
again of the canonical token of what was read, and only the token that is kept differs.
-/
theorem canonicalToken_reads_back
    (segment : Segment) :
    ((∃ token, ofToken token = .ok { segment with token := token }) ↔ segment.IsReadable) ∧
    (segment.IsReadable →
      ofToken segment.canonicalToken = .ok { segment with token := segment.canonicalToken }) ∧
    (∀ token,
      ofToken token = .ok segment →
        ofToken segment.canonicalToken =
          .ok { segment with token := segment.canonicalToken }) := by
  refine ⟨?_, ofToken_canonicalToken, ?_⟩
  · constructor
    · rintro ⟨token, h⟩
      obtain ⟨hhead, hoccurrence, hname⟩ := isReadable_of_ofToken h
      exact ⟨hhead, hoccurrence, hname⟩
    · intro h
      exact ⟨_, ofToken_canonicalToken h⟩
  · intro token h
    exact ofToken_canonicalToken (isReadable_of_ofToken h)

/-- A name that ends with a bracket, behind more colons and before more zeros and brackets than it
needs, and the greatest number.  The same bracket makes a name that no token has, if there is one
before it that opens a number. -/
theorem canonicalToken_reads_back_of_odd_spelling :
    let segment : Segment := ⟨"a>", true, 2 ^ 64 - 2, "::a><<018446744073709551615>>"⟩
    let unread : Segment := ⟨"b<2>", false, 0, ""⟩
    ofToken segment.token = .ok segment ∧
      segment.canonicalToken = ":a><18446744073709551615>" ∧
      ofToken ":a><18446744073709551615>" =
        .ok { segment with token := ":a><18446744073709551615>" } ∧
      ¬ ∃ token, ofToken token = .ok { unread with token := token } := by
  intro segment unread
  have hread : ofToken segment.token = .ok segment := by
    decide +kernel
  have hcanonical : segment.canonicalToken = ":a><18446744073709551615>" := by
    decide +kernel
  have hagain := (canonicalToken_reads_back segment).2.2 segment.token hread
  rw [hcanonical] at hagain
  refine ⟨hread, hcanonical, hagain, ?_⟩
  rw [(canonicalToken_reads_back unread).1]
  intro h
  exact (h.of_mem_name (by decide)).1 (by decide)

end Canonical

end Segment

end LegendReport
