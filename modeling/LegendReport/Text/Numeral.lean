/-!
# Numerals

A numeral is a list of ASCII digits, most significant first; leading zeros do
not change its value.
-/

namespace LegendReport
namespace Text

/-- The value of a list of decimal digits. -/
def numeralValue (digits : List Char) : Nat :=
  digits.foldl (fun value c => 10 * value + (c.toNat - '0'.toNat)) 0

/-- Whether the characters are one or more ASCII digits. -/
def isNumeral (cs : List Char) : Bool :=
  !cs.isEmpty && cs.all Char.isDigit

theorem ne_nil_of_isNumeral
    {cs : List Char}
    (h : isNumeral cs = true) :
    cs ≠ [] := by
  rintro rfl
  simp [isNumeral] at h

/-- Only digits stand in a numeral. -/
theorem not_mem_of_isNumeral
    {cs : List Char}
    (h : isNumeral cs = true)
    {c : Char}
    (hc : c.isDigit = false) :
    c ∉ cs := by
  intro hmem
  rw [isNumeral, Bool.and_eq_true, List.all_eq_true] at h
  rw [h.2 c hmem] at hc
  contradiction

/-- The value of a numeral is that of its digits in the decimal system. -/
theorem numeralValue_eq
    (digits : List Char) :
    numeralValue digits = Nat.ofDigitChars 10 digits 0 := by
  rfl

/-- A number is shown as a numeral with that value. -/
@[simp] theorem numeralValue_toString
    (n : Nat) :
    numeralValue (toString n).toList = n := by
  rw [Nat.toString_eq_repr, Nat.toList_repr, numeralValue_eq, Nat.ofDigitChars_ten_toDigits]

/-- Different numbers are shown differently. -/
theorem toString_inj
    {m n : Nat} :
    toString m = toString n ↔ m = n := by
  constructor
  · intro h
    rw [← numeralValue_toString m, h, numeralValue_toString]
  · rintro rfl
    rfl

/-- The value of a hexadecimal digit. -/
def hexDigit? (c : Char) : Option Nat :=
  if '0' ≤ c ∧ c ≤ '9' then some (c.toNat - '0'.toNat)
  else if 'a' ≤ c ∧ c ≤ 'f' then some (c.toNat - 'a'.toNat + 10)
  else if 'A' ≤ c ∧ c ≤ 'F' then some (c.toNat - 'A'.toNat + 10)
  else none

/-- The first number that sixty-four bits do not hold. -/
def wordLimit : Nat := UInt64.size

/-- The number that follows in machine words; zero follows the greatest of them. -/
def wordSucc (n : Nat) : Nat :=
  (UInt64.ofNat n + 1).toNat

theorem wordSucc_eq
    (n : Nat) :
    wordSucc n = (n + 1) % wordLimit := by
  rw [wordSucc, UInt64.toNat_add, UInt64.toNat_ofNat', UInt64.toNat_one, Nat.mod_add_mod]
  rfl

end Text
end LegendReport
