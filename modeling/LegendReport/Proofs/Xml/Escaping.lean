import LegendReport.Xml.CharacterData

/-!
# Escaping

Character data is written with references for some characters and as it is for the
others.  A way of doing so is an escaping: it says which references are used, and
that each of them stands for its character.

Reading what an escaping has written gives the same characters, each with the way it
was written.  In a text it is enough to write carriage returns by reference, and in
the value of an attribute also tabs and line feeds; then line ends are not touched.
-/

namespace LegendReport

namespace Xml

/-- The characters between the ampersand and the semicolon of a reference: the hash sign, digits and
small letters. -/
def isReferenceChar (c : Char) : Bool :=
  c.toNat == 0x23 || (0x30 ≤ c.toNat && c.toNat ≤ 0x39) || (0x61 ≤ c.toNat && c.toNat ≤ 0x7A)

/-- The characters of references. -/
def isReferencePart (c : Char) : Bool :=
  c == '&' || c == ';' || isReferenceChar c

theorem isAllowed_of_isReferencePart
    {c : Char}
    (h : isReferencePart c = true) :
    isAllowed c = true := by
  simp only [isReferencePart, Bool.or_eq_true, beq_iff_eq] at h
  rcases h with (rfl | rfl) | h
  · decide
  · decide
  · simp only [isReferenceChar, Bool.or_eq_true, Bool.and_eq_true, beq_iff_eq, decide_eq_true_eq]
      at h
    rw [isAllowed, if_neg (by omega)]
    simp only [Bool.and_eq_true, bne_iff_ne]
    omega

/-- The characters that are written by reference, each with the body of its reference; all others
are written as they are. -/
structure Escaping where
  table : List (Char × List Char)
  ampersand_mem : '&' ∈ table.map Prod.fst
  reference?_eq : ∀ entry ∈ table, reference? entry.2 = some entry.1
  all_isReferenceChar : ∀ entry ∈ table, entry.2.all isReferenceChar = true

namespace Escaping

variable (escaping : Escaping)

/-- The body of the reference that a character is written by. -/
def body? (c : Char) : Option (List Char) :=
  escaping.table.lookup c

/-- A character as it is written. -/
def writeChar (c : Char) : List Char :=
  match escaping.body? c with
  | some body => '&' :: (body ++ [';'])
  | none => [c]

/-- Character data as it is written. -/
def write (cs : List Char) : List Char :=
  cs.flatMap escaping.writeChar

/-- The character that is read for a character that was written. -/
def mark (c : Char) : WrittenChar :=
  if (escaping.body? c).isSome then .referenced c else .literal c

@[simp] theorem write_nil :
    escaping.write [] = [] := by
  rfl

@[simp] theorem write_append
    (cs cs' : List Char) :
    escaping.write (cs ++ cs') = escaping.write cs ++ escaping.write cs' := by
  simp [write]

theorem write_ne_nil
    {cs : List Char}
    (h : cs ≠ []) :
    escaping.write cs ≠ [] := by
  obtain ⟨c, rest, rfl⟩ := List.exists_cons_of_ne_nil h
  rw [write, List.flatMap_cons, writeChar]
  cases escaping.body? c <;> simp

end Escaping

section Reading

/-- A reference is read to its semicolon. -/
theorem writtenFrom_body
    {body : List Char}
    (h : ';' ∉ body)
    (before rest : List Char) :
    writtenFrom (some before) (body ++ ';' :: rest) =
      match reference? (before.reverse ++ body) with
      | some c => (writtenFrom none rest).map (.referenced c :: ·)
      | none => none := by
  induction body generalizing before with
  | nil =>
      cases hbody : reference? before.reverse with
      | none => simp [writtenFrom, hbody]
      | some c => simp [writtenFrom, hbody]
  | cons c cs ih =>
      simp only [List.mem_cons, not_or] at h
      rw [List.cons_append, writtenFrom, if_neg (Ne.symm h.1), ih h.2]
      simp

/-- Where no carriage return is involved, a literal character is put as it is. -/
theorem pushLiteral_of_ne
    {before : List Char}
    {c : Char}
    (hc : c ≠ '\r')
    (hbefore : before.head? ≠ some '\r')
    (last : Bool) :
    pushLiteral before c last = c :: before := by
  have hlast : (last && c == '\r') = false := by
    simp [hc]
  unfold pushLiteral
  split
  · simp at hbefore
  · rw [hlast, if_neg (by simp)]

namespace Escaping

variable {escaping : Escaping}

theorem mem_table
    {c : Char}
    {body : List Char}
    (h : escaping.body? c = some body) :
    (c, body) ∈ escaping.table := by
  obtain ⟨before, after, htable, _⟩ := List.lookup_eq_some_iff.mp h
  simp [htable]

theorem body?_ne_none
    {c : Char}
    (h : c ∈ escaping.table.map Prod.fst) :
    escaping.body? c ≠ none := by
  rw [body?, Ne, List.lookup_eq_none_iff]
  obtain ⟨entry, hmem, rfl⟩ := List.mem_map.mp h
  intro hnone
  simpa using hnone entry hmem

theorem semicolon_not_mem_body
    {c : Char}
    {body : List Char}
    (h : escaping.body? c = some body) :
    ';' ∉ body := by
  intro hmem
  have hletters := List.all_eq_true.mp (escaping.all_isReferenceChar _ (mem_table h))
  exact absurd (hletters _ hmem) (by decide)

/-- What is read of character data are its characters with the way they were written. -/
theorem written?_write
    (cs : List Char) :
    written? (escaping.write cs) = some (cs.map escaping.mark) := by
  unfold written?
  induction cs with
  | nil => rfl
  | cons c rest ih =>
      rw [write, List.flatMap_cons, ← write, writeChar, List.map_cons, mark]
      cases hbody : escaping.body? c with
      | some body =>
          dsimp only
          rw [List.cons_append, List.append_assoc, List.singleton_append, writtenFrom, if_pos rfl,
            writtenFrom_body (semicolon_not_mem_body hbody), List.reverse_nil, List.nil_append,
            escaping.reference?_eq _ (mem_table hbody), ih]
          rfl
      | none =>
          have hc : c ≠ '&' := by
            rintro rfl
            exact body?_ne_none escaping.ampersand_mem hbody
          dsimp only
          rw [List.singleton_append, writtenFrom, if_neg hc, ih]
          rfl

/-- A character of written data is one of the data that is not escaped, or part of a reference. -/
theorem mem_write
    {d : Char}
    {cs : List Char}
    (h : d ∈ escaping.write cs) :
    (d ∈ cs ∧ escaping.body? d = none) ∨ isReferencePart d = true := by
  obtain ⟨c, hc, hd⟩ := List.mem_flatMap.mp h
  rw [writeChar] at hd
  cases hbody : escaping.body? c with
  | some body =>
      have hletters := List.all_eq_true.mp (escaping.all_isReferenceChar _ (mem_table hbody))
      simp only [hbody, List.mem_cons, List.mem_append, List.not_mem_nil, or_false] at hd
      right
      rcases hd with rfl | hd | rfl
      · decide
      · simp [isReferencePart, hletters d hd]
      · decide
  | none =>
      simp only [hbody, List.mem_singleton] at hd
      exact Or.inl ⟨hd ▸ hc, hd ▸ hbody⟩

/-- An escaped character that no reference has does not occur in written data. -/
theorem not_mem_write
    {d : Char}
    (hescaped : d ∈ escaping.table.map Prod.fst)
    (hpart : isReferencePart d = false)
    (cs : List Char) :
    d ∉ escaping.write cs := by
  intro h
  rcases mem_write h with ⟨_, hbody⟩ | hd
  · exact body?_ne_none hescaped hbody
  · simp [hpart] at hd

theorem all_isAllowed_write
    (escaping : Escaping)
    {cs : List Char}
    (h : cs.all isAllowed = true) :
    (escaping.write cs).all isAllowed = true := by
  rw [List.all_eq_true] at h ⊢
  intro d hd
  rcases mem_write hd with ⟨hmem, _⟩ | hpart
  · exact h d hmem
  · exact isAllowed_of_isReferencePart hpart

/-- If carriage returns are written by reference, no line end of a text is touched. -/
theorem foldLineEnds_mark
    (hreturn : escaping.body? '\r' ≠ none)
    {raw : Bool}
    {before : List Char}
    (hraw : raw = false → before.head? ≠ some '\r')
    (cs : List Char) :
    foldLineEnds raw before (cs.map escaping.mark) = before.reverse ++ cs := by
  induction cs generalizing raw before with
  | nil => simp [foldLineEnds]
  | cons c rest ih =>
      rw [List.map_cons, mark]
      cases hbody : escaping.body? c with
      | some body =>
          rw [Option.isSome_some, if_pos rfl, foldLineEnds, ih (by simp)]
          simp
      | none =>
          have hc : c ≠ '\r' := by
            rintro rfl
            exact hreturn hbody
          rw [Option.isSome_none, if_neg (by simp), foldLineEnds]
          cases raw with
          | true =>
              rw [if_pos rfl, ih (by simpa using hc)]
              simp
          | false =>
              rw [if_neg (by simp), pushLiteral_of_ne hc (hraw rfl), ih (by simpa using hc)]
              simp

/-- If tabs and line ends are written by reference, nothing in a value becomes a space. -/
theorem spaceLineEnds_mark
    (htab : escaping.body? '\t' ≠ none)
    (hfeed : escaping.body? '\n' ≠ none)
    (hreturn : escaping.body? '\r' ≠ none)
    (cs : List Char) :
    spaceLineEnds (cs.map escaping.mark) = cs := by
  induction cs with
  | nil => rfl
  | cons c rest ih =>
      rw [List.map_cons, mark]
      cases hbody : escaping.body? c with
      | some body =>
          rw [Option.isSome_some, if_pos rfl, spaceLineEnds, ih]
      | none =>
          have hne : ∀ d, escaping.body? d ≠ none → c ≠ d := by
            rintro d hd rfl
            exact hd hbody
          rw [Option.isSome_none, if_neg (by simp), spaceLineEnds, ih]
          · simp [hne _ htab, hne _ hfeed, hne _ hreturn]
          · simp [hne _ hreturn]

end Escaping

end Reading

section Kinds

/-- The escaping of texts. -/
def textEscaping : Escaping where
  table :=
    [('&', "amp".toList), ('<', "lt".toList), ('>', "gt".toList), ('\r', "#13".toList)]
  ampersand_mem := by decide
  reference?_eq := by decide
  all_isReferenceChar := by decide

/-- The escaping of the values of attributes between double quotes. -/
def valueEscaping : Escaping where
  table :=
    [('&', "amp".toList), ('<', "lt".toList), ('"', "quot".toList), ('\t', "#9".toList),
      ('\n', "#10".toList), ('\r', "#13".toList)]
  ampersand_mem := by decide
  reference?_eq := by decide
  all_isReferenceChar := by decide

/-- A text is read as it was before it was written. -/
theorem textChars?_write
    (cs : List Char) :
    textChars? (textEscaping.write cs) = some cs := by
  rw [textChars?, Escaping.written?_write, Option.map_some,
    Escaping.foldLineEnds_mark (Escaping.body?_ne_none (by decide)) (by simp)]
  rfl

/-- The value of an attribute is read as it was before it was written. -/
theorem attributeValue?_write
    (cs : List Char) :
    attributeValue? (valueEscaping.write cs) = some cs := by
  rw [attributeValue?, Escaping.written?_write, Option.map_some,
    Escaping.spaceLineEnds_mark (Escaping.body?_ne_none (by decide))
      (Escaping.body?_ne_none (by decide)) (Escaping.body?_ne_none (by decide))]

end Kinds

end Xml

end LegendReport
