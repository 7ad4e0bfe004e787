import LegendReport.Legend.Token
import LegendReport.Proofs.Text.Runs
import Mathlib.Data.List.Infix
import Mathlib.Tactic.MkIffOfInductiveProp

/-!
# How tokens are written

By its grammar a token is a colon if the name is in the namespace of the run, the name,
and a number in a pair of angle brackets unless the first occurrence is meant.  Reading
keeps every character of such a token.

Reading is wider than the grammar.  It takes any number of colons for one and any number
of brackets on either side of a number for a pair, so the repeated ones are lost.
Nothing else of a token that is accepted is.
-/

namespace LegendReport

namespace Segment

section Meaning

/-- The token is the segment written with so many colons before its name and, if it has a number, so
many brackets on either side of it. -/
inductive WrittenWith (colons opening closing : Nat) (segment : Segment) (token : String) : Prop where
  | bare
      (htoken : token.toList = List.replicate colons ':' ++ segment.name.toList)
      (hoccurrence : segment.occurrence = 0) :
      WrittenWith colons opening closing segment token
  | numbered
      {digits : List Char}
      (htoken :
        token.toList =
          List.replicate colons ':' ++ segment.name.toList ++ List.replicate opening '<' ++
            digits ++ List.replicate closing '>')
      (hname : '<' ∉ segment.name.toList)
      (hdigits : Text.isNumeral digits = true)
      (hvalue : Text.numeralValue digits = segment.occurrence + 1) :
      WrittenWith colons opening closing segment token

/-- The token is the segment written by the grammar. -/
def Spells (token : String) (segment : Segment) : Prop :=
  WrittenWith (if segment.qualified then 1 else 0) 1 1 segment token

/-- No colon at the beginning of the token is repeated, and no bracket around a number at its end. -/
@[mk_iff]
structure IsSingle (token : String) : Prop where
  colon : ¬ [':', ':'] <+: token.toList
  brackets :
    token.toList.getLast? = some '>' →
      ¬ ['<', '<'] <:+: token.toList ∧ ¬ ['>', '>'] <:+ token.toList

end Meaning

section Reading

variable {token : String} {segment : Segment}

/-- A number is accepted if it is one of the numbers of a machine word that are not zero. -/
theorem of_ofNumbered_eq_ok
    {qualified : Bool}
    {name literal : List Char}
    (h : ofNumbered token qualified name literal = .ok segment) :
    Text.isNumeral literal = true ∧ Text.numeralValue literal < Text.wordLimit ∧
      Text.numeralValue literal = segment.occurrence + 1 ∧
        segment.name.toList = name ∧ segment.qualified = qualified := by
  unfold ofNumbered at h
  split at h
  · cases h
  · next haccepted =>
      split at h
      · cases h
      · next hzero =>
          rw [Bool.or_eq_true, not_or] at haccepted
          cases h
          refine ⟨by simpa using haccepted.1, by simpa using haccepted.2, ?_, by simp, rfl⟩
          dsimp only
          omega

/-- What becomes of a token is decided by what stands behind its colons. -/
theorem ofToken_of_colons
    {colons : Nat}
    {body : List Char}
    (htoken : token.toList = List.replicate colons ':' ++ body)
    (hbody : body.head? ≠ some ':') :
    ofToken token =
      if body.getLast? = some '>' then
        match body.dropWhile (· != '<') with
        | [] => .error (.missingIndexOpen token)
        | opened :: rest =>
          ofNumbered token (decide (0 < colons)) (body.takeWhile (· != '<'))
            (indexLiteral (opened :: rest))
      else
        .ok
          { name := String.ofList body
            qualified := decide (0 < colons)
            occurrence := 0
            token } := by
  have hqualified : (token.toList.head? == some ':') = decide (0 < colons) := by
    rw [htoken]
    cases colons with
    | zero => simpa using hbody
    | succ colons => simp [List.replicate_succ]
  have hdrop : token.toList.dropWhile (· == ':') = body := by
    rw [htoken]
    exact Text.dropWhile_replicate_append hbody colons
  rw [← hqualified, ← hdrop]
  rfl

/-- A name without a bracket, and behind it something in brackets that neither begins nor ends with
one. -/
structure Bracketed
    (body name : List Char)
    (opening : Nat)
    (literal : List Char)
    (closing : Nat) : Prop where
  body_eq :
    body = name ++ '<' :: (List.replicate opening '<' ++ (literal ++ List.replicate closing '>'))
  not_mem_name : '<' ∉ name
  head?_ne : literal.head? ≠ some '<'
  getLast?_ne : literal.getLast? ≠ some '>'

theorem exists_bracketed
    {body : List Char}
    (h : '<' ∈ body) :
    ∃ name opening literal closing, Bracketed body name opening literal closing := by
  obtain ⟨name, rest, rfl, hname⟩ := List.eq_append_cons_of_mem h
  obtain ⟨opening, inner, rfl, hhead⟩ := Text.exists_replicate_append '<' rest
  obtain ⟨literal, closing, rfl, hlast⟩ := Text.exists_append_replicate '>' inner
  refine ⟨name, opening, literal, closing, rfl, hname, ?_, hlast⟩
  cases literal with
  | nil => simp
  | cons first literal => simpa using hhead

/-- What is read as a number is what stands in the brackets. -/
theorem Bracketed.indexLiteral_eq
    {body name literal : List Char}
    {opening closing : Nat}
    (h : Bracketed body name opening literal closing) :
    indexLiteral ('<' :: (List.replicate opening '<' ++ (literal ++ List.replicate closing '>'))) =
      literal := by
  have hhead : (literal ++ List.replicate closing '>').head? ≠ some '<' := by
    have hliteral := h.head?_ne
    cases literal with
    | nil => cases closing <;> simp [List.replicate_succ]
    | cons first literal => simpa using hliteral
  rw [indexLiteral, ← List.cons_append, ← List.replicate_succ,
    Text.dropWhile_replicate_append hhead, Text.trimEnd_append_replicate h.getLast?_ne]

theorem ofToken_of_bracketed
    {colons : Nat}
    {body : List Char}
    (htoken : token.toList = List.replicate colons ':' ++ body)
    (hbody : body.head? ≠ some ':')
    (hlast : body.getLast? = some '>')
    {name literal : List Char}
    {opening closing : Nat}
    (h : Bracketed body name opening literal closing) :
    ofToken token = ofNumbered token (decide (0 < colons)) name literal := by
  obtain ⟨htake, hdrop⟩ :=
    Text.takeWhile_dropWhile_of_not_mem h.not_mem_name
      (List.replicate opening '<' ++ (literal ++ List.replicate closing '>'))
  rw [← h.body_eq] at htake hdrop
  rw [ofToken_of_colons htoken hbody, if_pos hlast, htake, hdrop]
  dsimp only
  rw [h.indexLiteral_eq]

/-- Brackets that are taken off a number at the end are there. -/
theorem Bracketed.closing_pos
    {body name literal : List Char}
    {opening closing : Nat}
    (h : Bracketed body name opening literal closing)
    (hliteral : literal ≠ [])
    (hlast : body.getLast? = some '>') :
    0 < closing := by
  rw [Nat.pos_iff_ne_zero]
  rintro rfl
  have hbody : body = (name ++ '<' :: List.replicate opening '<') ++ literal := by
    simp [h.body_eq]
  rw [hbody, List.getLast?_append_of_ne_nil _ hliteral] at hlast
  exact h.getLast?_ne hlast

/-- How an accepted token is written.  It ends with a bracket only if it has a number, and its name is
then free of the brackets that open one. -/
structure IsWritten
    (colons opening closing : Nat)
    (segment : Segment)
    (token : String) : Prop where
  written : WrittenWith colons opening closing segment token
  colons_pos_iff : 0 < colons ↔ segment.qualified = true
  opening_pos : 0 < opening
  closing_pos : 0 < closing
  head?_ne : segment.name.toList.head? ≠ some ':'
  brackets : token.toList.getLast? = some '>' → '<' ∉ segment.name.toList ∧ '<' ∈ token.toList

theorem isWritten_of_bare
    {colons : Nat}
    {body : List Char}
    (htoken : token.toList = List.replicate colons ':' ++ body)
    (hbody : body.head? ≠ some ':')
    (hlast : body.getLast? ≠ some '>')
    (h : ofToken token = .ok segment) :
    IsWritten colons 1 1 segment token := by
  rw [ofToken_of_colons htoken hbody, if_neg hlast] at h
  cases h
  refine
    { written := .bare (by simpa using htoken) rfl
      colons_pos_iff := by simp
      opening_pos := Nat.one_pos
      closing_pos := Nat.one_pos
      head?_ne := by simpa using hbody
      brackets := ?_ }
  intro hend
  rw [htoken, List.getLast?_append, Option.or_eq_some_iff] at hend
  rcases hend with hend | ⟨-, hend⟩
  · exact absurd hend hlast
  · simpa using List.mem_of_getLast? hend

theorem isWritten_of_numbered
    {colons : Nat}
    {body : List Char}
    (htoken : token.toList = List.replicate colons ':' ++ body)
    (hbody : body.head? ≠ some ':')
    (hlast : body.getLast? = some '>')
    {name literal : List Char}
    {opening closing : Nat}
    (hbracketed : Bracketed body name opening literal closing)
    (h : ofToken token = .ok segment) :
    IsWritten colons (opening + 1) closing segment token := by
  rw [ofToken_of_bracketed htoken hbody hlast hbracketed] at h
  obtain ⟨hdigits, -, hvalue, rfl, hqualified⟩ := of_ofNumbered_eq_ok h
  have hwritten :
      token.toList =
        List.replicate colons ':' ++ segment.name.toList ++ List.replicate (opening + 1) '<' ++
          literal ++ List.replicate closing '>' := by
    rw [htoken, hbracketed.body_eq, List.replicate_succ]
    simp only [List.append_assoc, List.cons_append]
  have hopen : '<' ∈ token.toList := by
    rw [htoken, hbracketed.body_eq]
    simp
  refine
    { written := .numbered hwritten hbracketed.not_mem_name hdigits hvalue
      colons_pos_iff := by simp [hqualified]
      opening_pos := Nat.succ_pos opening
      closing_pos := hbracketed.closing_pos (Text.ne_nil_of_isNumeral hdigits) hlast
      head?_ne := ?_
      brackets := fun _ => ⟨hbracketed.not_mem_name, hopen⟩ }
  intro hcolon
  rw [hbracketed.body_eq, List.head?_append, hcolon] at hbody
  exact hbody rfl

theorem exists_isWritten_of_ofToken
    (h : ofToken token = .ok segment) :
    ∃ colons opening closing, IsWritten colons opening closing segment token := by
  obtain ⟨colons, body, htoken, hbody⟩ := Text.exists_replicate_append ':' token.toList
  by_cases hlast : body.getLast? = some '>'
  · by_cases hopen : '<' ∈ body
    · obtain ⟨name, opening, literal, closing, hbracketed⟩ := exists_bracketed hopen
      exact ⟨_, _, _, isWritten_of_numbered htoken hbody hlast hbracketed h⟩
    · have hnone : body.dropWhile (· != '<') = [] := by
        rw [List.dropWhile_eq_nil_iff]
        exact Text.bne_of_not_mem hopen
      rw [ofToken_of_colons htoken hbody, if_pos hlast, hnone] at h
      cases h
  · exact ⟨_, _, _, isWritten_of_bare htoken hbody hlast h⟩

end Reading

section Repetition

variable {colons opening closing : Nat} {token : String} {segment : Segment}

/-- A token without a number repeats nothing if it has at most one colon. -/
theorem isSingle_of_bare_iff
    (htoken : token.toList = List.replicate colons ':' ++ segment.name.toList)
    (hhead : segment.name.toList.head? ≠ some ':')
    (hlast : token.toList.getLast? ≠ some '>') :
    IsSingle token ↔ colons ≤ 1 := by
  have hcolon := Text.pair_prefix_iff hhead colons
  rw [← htoken] at hcolon
  simp [isSingle_iff, hcolon, hlast]

/-- A token with a number repeats nothing if it has at most one colon and one pair of brackets. -/
theorem isSingle_of_numbered_iff
    {digits : List Char}
    (htoken :
      token.toList =
        List.replicate colons ':' ++ segment.name.toList ++ List.replicate opening '<' ++ digits ++
          List.replicate closing '>')
    (hname : '<' ∉ segment.name.toList)
    (hdigits : Text.isNumeral digits = true)
    (hhead : segment.name.toList.head? ≠ some ':')
    (hopening : 0 < opening)
    (hclosing : 0 < closing) :
    IsSingle token ↔ colons ≤ 1 ∧ opening ≤ 1 ∧ closing ≤ 1 := by
  have hopens : '<' ∉ digits := Text.not_mem_of_isNumeral hdigits rfl
  have hcloses : '>' ∉ digits := Text.not_mem_of_isNumeral hdigits rfl
  have hcolon : [':', ':'] <+: token.toList ↔ 1 < colons := by
    rw [htoken]
    simp only [List.append_assoc]
    apply Text.pair_prefix_iff
    obtain ⟨more, rfl⟩ := Nat.exists_eq_succ_of_ne_zero hopening.ne'
    cases hcase : segment.name.toList with
    | nil => simp [List.replicate_succ]
    | cons first rest => simpa [hcase] using hhead
  have hopen : ['<', '<'] <:+: token.toList ↔ 1 < opening := by
    rw [htoken, List.append_assoc _ digits]
    apply Text.pair_infix_iff
    · simp [List.mem_replicate, hname]
    · simp [List.mem_replicate, hopens]
  have hclose : ['>', '>'] <:+ token.toList ↔ 1 < closing := by
    rw [htoken]
    apply Text.pair_suffix_iff
    rw [List.getLast?_append_of_ne_nil _ (Text.ne_nil_of_isNumeral hdigits)]
    intro hlast
    exact hcloses (List.mem_of_getLast? hlast)
  have hend : token.toList.getLast? = some '>' := by
    rw [htoken, List.getLast?_append_of_ne_nil _ (by simpa using hclosing.ne')]
    simp [List.getLast?_replicate, hclosing.ne']
  simp [isSingle_iff, hcolon, hend, hopen, hclose]

theorem IsWritten.colons_eq_of_le_one
    (h : IsWritten colons opening closing segment token)
    (hcolons : colons ≤ 1) :
    colons = if segment.qualified then 1 else 0 := by
  split
  · next hqualified =>
      exact le_antisymm hcolons (h.colons_pos_iff.mpr hqualified)
  · next hqualified =>
      exact Nat.eq_zero_of_not_pos (h.colons_pos_iff.not.mpr hqualified)

/-- The name has every bracket of a token without a number, so that token cannot end with one. -/
theorem IsWritten.getLast?_ne
    (h : IsWritten colons opening closing segment token)
    {count : Nat}
    (htoken : token.toList = List.replicate count ':' ++ segment.name.toList) :
    token.toList.getLast? ≠ some '>' := by
  intro hlast
  obtain ⟨hname, hopen⟩ := h.brackets hlast
  rw [htoken] at hopen
  simp [List.mem_replicate, hname] at hopen

/-- The grammar is that of the tokens that repeat nothing. -/
theorem IsWritten.spells_iff
    (h : IsWritten colons opening closing segment token) :
    Spells token segment ↔ IsSingle token := by
  constructor
  · intro hspells
    cases hspells with
    | bare htoken hoccurrence =>
        rw [isSingle_of_bare_iff htoken h.head?_ne (h.getLast?_ne htoken)]
        split <;> decide
    | numbered htoken hname hdigits hvalue =>
        rw [isSingle_of_numbered_iff htoken hname hdigits h.head?_ne Nat.one_pos Nat.one_pos]
        split <;> decide
  · intro hsingle
    cases h.written with
    | bare htoken hoccurrence =>
        have hcolons :=
          (isSingle_of_bare_iff htoken h.head?_ne (h.getLast?_ne htoken)).mp hsingle
        rw [h.colons_eq_of_le_one hcolons] at htoken
        exact .bare htoken hoccurrence
    | numbered htoken hname hdigits hvalue =>
        obtain ⟨hcolons, hopening, hclosing⟩ :=
          (isSingle_of_numbered_iff htoken hname hdigits h.head?_ne h.opening_pos
            h.closing_pos).mp hsingle
        rw [h.colons_eq_of_le_one hcolons, le_antisymm hopening h.opening_pos,
          le_antisymm hclosing h.closing_pos] at htoken
        exact .numbered htoken hname hdigits hvalue

/-- Of an accepted token nothing is lost but colons and brackets that surround the name and the
number, and none of them if they are not repeated. -/
theorem ofToken_written
    (h : ofToken token = .ok segment) :
    (∃ colons opening closing,
      WrittenWith colons opening closing segment token ∧
        (0 < colons ↔ segment.qualified = true) ∧ 0 < opening ∧ 0 < closing) ∧
      (Spells token segment ↔ IsSingle token) := by
  obtain ⟨colons, opening, closing, hwritten⟩ := exists_isWritten_of_ofToken h
  exact
    ⟨⟨colons, opening, closing, hwritten.written, hwritten.colons_pos_iff, hwritten.opening_pos,
      hwritten.closing_pos⟩, hwritten.spells_iff⟩

theorem ofToken_written_of_leading_zeros :
    ofToken ":a>b<007>" =
        .ok { name := "a>b", qualified := true, occurrence := 6, token := ":a>b<007>" } ∧
      Spells ":a>b<007>"
        { name := "a>b", qualified := true, occurrence := 6, token := ":a>b<007>" } := by
  have hread :
      ofToken ":a>b<007>" =
        .ok { name := "a>b", qualified := true, occurrence := 6, token := ":a>b<007>" } := by
    decide
  have hsingle : IsSingle ":a>b<007>" := ⟨by decide, fun _ => by decide⟩
  exact ⟨hread, (ofToken_written hread).2.mpr hsingle⟩

/-- A repeated colon is lost, and so is a repeated bracket. -/
theorem ofToken_loses_repetition :
    (ofToken "::a" = .ok { name := "a", qualified := true, occurrence := 0, token := "::a" } ∧
      ¬ Spells "::a" { name := "a", qualified := true, occurrence := 0, token := "::a" }) ∧
    (ofToken "a<<1>>" =
        .ok { name := "a", qualified := false, occurrence := 0, token := "a<<1>>" } ∧
      ¬ Spells "a<<1>>" { name := "a", qualified := false, occurrence := 0, token := "a<<1>>" }) := by
  refine ⟨⟨by decide, ?_⟩, ⟨by decide, ?_⟩⟩
  · intro hspells
    cases hspells with
    | bare htoken hoccurrence => simp at htoken
    | numbered htoken hname hdigits hvalue => simp at htoken
  · intro hspells
    cases hspells with
    | bare htoken hoccurrence => simp at htoken
    | @numbered digits htoken hname hdigits hvalue =>
        have hsplit : ['<', '1', '>'] ++ ['>'] = digits ++ ['>'] := by
          simpa using htoken
        rw [← List.append_cancel_right hsplit] at hdigits
        exact absurd hdigits (by decide)

end Repetition

end Segment

end LegendReport
