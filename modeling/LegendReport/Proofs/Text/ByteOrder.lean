import Mathlib.Data.String.Basic

/-!
# The order of texts and the order of their bytes

Texts are compared character by character, and the bytes of their encodings byte
by byte.  The two orders agree: the first byte of a character tells how many
bytes it has, more of them for greater characters, and among characters with as
many bytes the code point is written with its leading digits first.
-/

namespace LegendReport
namespace Text

/-- The bytes that a text is encoded as. -/
def bytes (s : String) : List UInt8 :=
  s.toUTF8.data.toList

theorem bytes_eq_flatMap
    (s : String) :
    bytes s = s.toList.flatMap String.utf8EncodeChar := by
  rw [bytes, String.toUTF8, ← String.utf8Encode_toList, List.utf8Encode, List.data_toByteArray]

/-- Numbers are compared by their last digit in base 64 once the digits before it agree. -/
theorem lt_iff_digits_lt
    (m n : Nat) :
    m < n ↔ m / 64 < n / 64 ∨ m / 64 = n / 64 ∧ m % 64 < n % 64 := by
  omega

/-- Of two characters the greater has the greater bytes, whatever follows. -/
theorem utf8EncodeChar_append_lt
    {c d : Char}
    (h : c < d)
    (rest rest' : List UInt8) :
    String.utf8EncodeChar c ++ rest < String.utf8EncodeChar d ++ rest' := by
  have hlt : c.val.toNat < d.val.toNat := by
    rwa [Char.lt_def, UInt32.lt_iff_toNat_lt] at h
  have hbound : d.val.toNat < 0x110000 := by
    rcases d.valid with hvalid | hvalid <;> omega
  unfold String.utf8EncodeChar
  generalize c.val.toNat = m at hlt
  generalize d.val.toNat = n at hlt hbound
  -- The bytes after the first are digits in base 64, and no byte overflows.
  have hdigits : ∀ k : Nat, k / 4096 = k / 64 / 64 ∧ k / 262144 = k / 64 / 64 / 64 := by
    intro k
    simp [Nat.div_div_eq_div_mul]
  have hbyte : ∀ k size mark : Nat, size + mark ≤ 2 ^ 8 → 0 < size →
      (k % size + mark) % 2 ^ 8 = k % size + mark := by
    intro k size mark hsize hpos
    have := Nat.mod_lt k hpos
    exact Nat.mod_eq_of_lt (by omega)
  have hlead : ∀ k : Nat, k < 0x110000 →
      (k / 64 / 64 / 64 % 8 + 240) % 2 ^ 8 = k / 64 / 64 / 64 + 240 := by
    intro k hk
    have hsmall : k / 64 / 64 / 64 < 8 := by
      omega
    rw [Nat.mod_eq_of_lt hsmall, Nat.mod_eq_of_lt (by omega)]
  have hleadm := hlead m (hlt.trans hbound)
  have hleadn := hlead n hbound
  have hlast := (lt_iff_digits_lt m n).mp hlt
  have hmiddle := lt_iff_digits_lt (m / 64) (n / 64)
  have hfirst := lt_iff_digits_lt (m / 64 / 64) (n / 64 / 64)
  obtain ⟨hm, hm'⟩ := hdigits m
  obtain ⟨hn, hn'⟩ := hdigits n
  dsimp only
  split_ifs <;>
    simp only [List.cons_append, List.nil_append, List.cons_lt_cons_iff,
      UInt8.lt_iff_toNat_lt, ← UInt8.toNat_inj, UInt8.toNat_ofNat', hm, hm', hn, hn',
      hbyte _ 64 128 (by omega) (by omega), hbyte _ 32 192 (by omega) (by omega),
      hbyte _ 16 224 (by omega) (by omega), hleadm, hleadn] <;>
    omega

theorem flatMap_utf8EncodeChar_lt
    {cs ds : List Char}
    (h : cs < ds) :
    cs.flatMap String.utf8EncodeChar < ds.flatMap String.utf8EncodeChar := by
  induction cs generalizing ds with
  | nil =>
      cases ds with
      | nil => exact absurd h (List.lt_irrefl [])
      | cons d ds =>
          have hne : String.utf8EncodeChar d ≠ [] := by
            simp
          obtain ⟨byte, others, hbytes⟩ := List.exists_cons_of_ne_nil hne
          rw [List.flatMap_cons, hbytes]
          exact List.nil_lt_cons _ _
  | cons c cs ih =>
      cases ds with
      | nil => exact absurd h (List.not_lt_nil _)
      | cons d ds =>
          rw [List.flatMap_cons, List.flatMap_cons]
          rcases List.cons_lt_cons_iff.mp h with hlt | ⟨rfl, hrest⟩
          · exact utf8EncodeChar_append_lt hlt _ _
          · exact List.append_left_lt (ih hrest)

/-- Texts are in the order of their bytes. -/
theorem lt_iff_bytes_lt
    {s t : String} :
    s < t ↔ bytes s < bytes t := by
  have hbytes : ∀ {s t : String}, s < t → bytes s < bytes t := by
    intro s t h
    rw [bytes_eq_flatMap, bytes_eq_flatMap]
    exact flatMap_utf8EncodeChar_lt (String.lt_iff_toList_lt.mp h)
  constructor
  · exact hbytes
  · intro h
    rcases lt_trichotomy s t with hlt | rfl | hgt
    · exact hlt
    · exact absurd h (List.lt_irrefl _)
    · exact absurd h (List.lt_asymm (hbytes hgt))

end Text
end LegendReport
