import LegendReport.Proofs.Text.Runs
import LegendReport.Proofs.Xml.Writing

/-!
# Scanning written documents

The markup of a written document is scanned piece by piece: a start tag, an end tag
or a run of text, which ends where the next tag begins.  An escaped text holds
neither the beginning of a tag nor the end of a literal section.
-/

namespace LegendReport

namespace Xml

section Names

/-- Whether a name is proper, and its prefix too if it has one. -/
structure TagName.IsProper (name : TagName) : Prop where
  space : name.space = [] ∨ isPlainName name.space = true
  localPart : isPlainName name.localPart = true

theorem nameChar_of_isPlainName
    {cs : List Char}
    (h : isPlainName cs = true) :
    ∀ c ∈ cs, nameChar.contains c = true := by
  cases cs with
  | nil => simp
  | cons first rest =>
      rw [isPlainName, Bool.and_eq_true, List.all_eq_true] at h
      intro c hc
      rcases List.mem_cons.mp hc with rfl | hc
      · exact nameChar_of_nameStart h.1
      · exact h.2 c hc

theorem colon_not_mem_of_isPlainName
    {cs : List Char}
    (h : isPlainName cs = true) :
    ':' ∉ cs := by
  intro hmem
  exact absurd (nameChar_of_isPlainName h _ hmem) (by decide)

theorem exists_eq_cons_of_isPlainName
    {cs : List Char}
    (h : isPlainName cs = true) :
    ∃ c rest, cs = c :: rest ∧ nameStart.contains c = true := by
  cases cs with
  | nil => cases h
  | cons first rest =>
      rw [isPlainName, Bool.and_eq_true] at h
      exact ⟨first, rest, rfl, h.1⟩

/-- A writable name is written as a proper one. -/
theorem isProper_writtenName
    {uri : String}
    {tag : ExpandedName}
    (h : isWritableName uri tag = true) :
    (writtenName tag).IsProper := by
  rw [isWritableName, Bool.and_eq_true] at h
  refine ⟨?_, h.2⟩
  rw [writtenName]
  by_cases hnone : tag.uri = none
  · exact Or.inl (if_pos hnone)
  · have hprefix : isPlainName ['p'] = true := by
      decide
    rw [if_neg hnone]
    exact Or.inr hprefix

variable {name : TagName}

/-- A name starts with a character that no other markup starts with. -/
theorem TagName.IsProper.exists_nameChars_eq_cons
    (h : name.IsProper) :
    ∃ c rest, nameChars name = c :: rest ∧ nameStart.contains c = true := by
  rw [nameChars]
  split
  · exact exists_eq_cons_of_isPlainName h.localPart
  · next hspace =>
      obtain ⟨c, rest, hcons, hc⟩ := exists_eq_cons_of_isPlainName (h.space.resolve_left hspace)
      exact ⟨c, rest ++ ':' :: name.localPart, by rw [hcons, List.cons_append], hc⟩

theorem TagName.IsProper.all_nameChars
    (h : name.IsProper) :
    ∀ c ∈ nameChars name, (c == ':' || nameChar.contains c) = true := by
  intro c hc
  rw [nameChars] at hc
  rw [Bool.or_eq_true]
  split at hc
  · exact Or.inr (nameChar_of_isPlainName h.localPart c hc)
  · next hspace =>
      rw [List.mem_append, List.mem_cons] at hc
      rcases hc with hc | rfl | hc
      · exact Or.inr (nameChar_of_isPlainName (h.space.resolve_left hspace) c hc)
      · exact Or.inl rfl
      · exact Or.inr (nameChar_of_isPlainName h.localPart c hc)

/-- A name is read to the first character that cannot belong to it. -/
theorem tagName?_nameChars
    (h : name.IsProper)
    {c : Char}
    (hc : (c == ':' || nameChar.contains c) = false)
    (rest : List Char) :
    Markup.tagName? (nameChars name ++ c :: rest) = some (name, c :: rest) := by
  obtain ⟨hrun, hrest⟩ := Text.takeWhile_dropWhile_append h.all_nameChars hc rest
  unfold Markup.tagName?
  dsimp only
  rw [hrun, hrest, nameChars]
  have hcolon := colon_not_mem_of_isPlainName h.localPart
  by_cases hspace : name.space = []
  · rw [if_pos hspace, List.splitOn_eq_singleton hcolon]
    dsimp only
    rw [if_pos h.localPart, ← hspace]
  · have hproper := h.space.resolve_left hspace
    have hparts :
        (name.space ++ ':' :: name.localPart).splitOn ':' = [name.space, name.localPart] := by
      have hfree : ∀ part ∈ [name.space, name.localPart], ':' ∉ part := by
        simp [colon_not_mem_of_isPlainName hproper, hcolon]
      have hjoin := List.splitOn_intercalate ':' hfree (by simp)
      simpa using hjoin
    rw [if_neg hspace, hparts]
    dsimp only
    rw [hproper, h.localPart]
    simp

end Names

section Tags

variable {name : TagName}

theorem next?_writeEnd
    (h : name.IsProper)
    (rest : List Char) :
    Markup.next? (writeEnd name ++ rest) = some (.endTag name, rest) := by
  have hname : Markup.tagName? (nameChars name ++ '>' :: rest) = some (name, '>' :: rest) :=
    tagName?_nameChars h (by decide) rest
  have hend :
      Markup.next? (writeEnd name ++ rest) = Markup.endTag? (nameChars name ++ '>' :: rest) := by
    simp [writeEnd, Markup.next?]
  rw [hend, Markup.endTag?, hname]
  rfl

/-- What begins with a name is a start tag. -/
theorem next?_of_nameStart
    {c : Char}
    (hc : nameStart.contains c = true)
    (cs : List Char) :
    Markup.next? ('<' :: c :: cs) = Markup.startTag? (c :: cs) := by
  have hmark : c ≠ '!' := by
    rintro rfl
    exact absurd hc (by decide)
  have hquestion : c ≠ '?' := by
    rintro rfl
    exact absurd hc (by decide)
  have hslash : c ≠ '/' := by
    rintro rfl
    exact absurd hc (by decide)
  simp [Markup.next?, hmark, hquestion, hslash]

theorem next?_nameChars
    (h : name.IsProper)
    (cs : List Char) :
    Markup.next? ('<' :: (nameChars name ++ cs)) = Markup.startTag? (nameChars name ++ cs) := by
  obtain ⟨c, rest, hcons, hc⟩ := h.exists_nameChars_eq_cons
  rw [hcons, List.cons_append]
  exact next?_of_nameStart hc _

theorem attributes?_close
    (bound : Nat)
    (found : List Attribute)
    (rest : List Char) :
    Markup.attributes? (bound + 1) found ('>' :: rest) = some (found.reverse, false, rest) := by
  rfl

/-- An attribute begins with a name and follows white space. -/
theorem attributes?_attribute
    {c : Char}
    (hc : nameStart.contains c = true)
    {cs rest : List Char}
    {next : Attribute}
    (hread : Markup.attribute? (c :: cs) = some (next, rest))
    (bound : Nat)
    (found : List Attribute) :
    Markup.attributes? (bound + 1) found (' ' :: c :: cs) =
      Markup.attributes? bound (next :: found) rest := by
  have hspace : isSpace c = false := by
    rw [← Bool.not_eq_true]
    intro hspace
    simp only [isSpace, Bool.or_eq_true, beq_iff_eq] at hspace
    rcases hspace with ((rfl | rfl) | rfl) | rfl <;> exact absurd hc (by decide)
  have hskip : Markup.skipSpace (' ' :: c :: cs) = c :: cs := by
    rw [Markup.skipSpace, List.dropWhile_cons_of_pos (by decide),
      List.dropWhile_cons_of_neg (by simp [hspace])]
  have hgreater : c ≠ '>' := by
    rintro rfl
    exact absurd hc (by decide)
  have hslash : c ≠ '/' := by
    rintro rfl
    exact absurd hc (by decide)
  have hfirst : isSpace ' ' = true := by
    decide
  simp [Markup.attributes?, hskip, hgreater, hslash, hread, hfirst]

theorem next?_writeStart
    (h : name.IsProper)
    (rest : List Char) :
    Markup.next? (writeStart name ++ rest) = some (.startTag name [] false, rest) := by
  have hname : Markup.tagName? (nameChars name ++ '>' :: rest) = some (name, '>' :: rest) :=
    tagName?_nameChars h (by decide) rest
  have hstart :
      Markup.next? (writeStart name ++ rest) =
        Markup.startTag? (nameChars name ++ '>' :: rest) := by
    rw [← next?_nameChars h, writeStart]
    simp
  rw [hstart, Markup.startTag?, hname]
  rfl

/-- The attribute of the root as it is written. -/
def rootAttribute (uri : List Char) : Attribute :=
  ⟨⟨"xmlns".toList, ['p']⟩, valueEscaping.write uri⟩

theorem quoted?_write
    {uri : List Char}
    (huri : uri.all isAllowed = true)
    (rest : List Char) :
    Markup.quoted? ('"' :: (valueEscaping.write uri ++ '"' :: rest)) =
      some (valueEscaping.write uri, rest) := by
  have hquote : '"' ∉ valueEscaping.write uri :=
    Escaping.not_mem_write (by decide) (by decide) uri
  have hless : '<' ∉ valueEscaping.write uri :=
    Escaping.not_mem_write (by decide) (by decide) uri
  have hwritten := valueEscaping.all_isAllowed_write huri
  generalize valueEscaping.write uri = written at hquote hless hwritten ⊢
  have hvalue : written.all (fun c => isAllowed c && c != '<') = true := by
    rw [List.all_eq_true] at hwritten ⊢
    intro d hd
    rw [hwritten d hd, Bool.true_and, Text.bne_of_not_mem hless d hd]
  obtain ⟨htake, hdrop⟩ := Text.takeWhile_dropWhile_of_not_mem hquote rest
  rw [Markup.quoted?, if_pos (by decide), hdrop, htake]
  dsimp only
  rw [if_pos hvalue]

theorem attribute?_root
    {uri : List Char}
    (huri : uri.all isAllowed = true)
    (rest : List Char) :
    Markup.attribute? ("xmlns:p=\"".toList ++ (valueEscaping.write uri ++ '"' :: rest)) =
      some (rootAttribute uri, rest) := by
  have hproper : TagName.IsProper ⟨"xmlns".toList, ['p']⟩ :=
    ⟨Or.inr (by decide), by decide⟩
  have hname :
      Markup.tagName? ("xmlns:p=\"".toList ++ (valueEscaping.write uri ++ '"' :: rest)) =
        some (⟨"xmlns".toList, ['p']⟩,
          '=' :: '"' :: (valueEscaping.write uri ++ '"' :: rest)) :=
    tagName?_nameChars hproper (by decide) _
  have hequals (cs : List Char) :
      Markup.after? ['='] (Markup.skipSpace ('=' :: '"' :: cs)) = some ('"' :: cs) := by
    rfl
  have hskip (cs : List Char) : Markup.skipSpace ('"' :: cs) = '"' :: cs := by
    rfl
  simp only [Markup.attribute?, hname, Option.bind_eq_bind, Option.bind_some, hequals, hskip,
    quoted?_write huri]
  rfl

theorem next?_writeRootStart
    (h : name.IsProper)
    {uri : List Char}
    (huri : uri.all isAllowed = true)
    (rest : List Char) :
    Markup.next? (writeRootStart name uri ++ rest) =
      some (.startTag name [rootAttribute uri] false, rest) := by
  let tail := 'x' :: ("mlns:p=\"".toList ++ (valueEscaping.write uri ++ '"' :: '>' :: rest))
  have hname : Markup.tagName? (nameChars name ++ ' ' :: tail) = some (name, ' ' :: tail) :=
    tagName?_nameChars h (by decide) tail
  have hstart :
      Markup.next? (writeRootStart name uri ++ rest) =
        Markup.startTag? (nameChars name ++ ' ' :: tail) := by
    rw [← next?_nameChars h, writeRootStart]
    simp [tail]
  have hattributes (bound : Nat) :
      Markup.attributes? (bound + 2) [] (' ' :: tail) =
        some ([rootAttribute uri], false, rest) := by
    have hread : Markup.attribute? tail = some (rootAttribute uri, '>' :: rest) :=
      attribute?_root huri ('>' :: rest)
    have hone := attributes?_attribute (c := 'x') (by decide) hread (bound + 1) []
    exact hone.trans (attributes?_close bound [rootAttribute uri] rest)
  have hlength :
      (nameChars name ++ ' ' :: tail).length + 1 =
        (nameChars name).length + tail.length + 2 := by
    rw [List.length_append, List.length_cons]
    omega
  rw [hstart, Markup.startTag?, hname]
  simp only [Option.bind_eq_bind, Option.bind_some]
  rw [hlength, hattributes]
  rfl

end Tags

section Texts

theorem after?_eq_none
    {c : Char}
    {literal cs : List Char}
    (hliteral : c ∈ literal)
    (hcs : c ∉ cs) :
    Markup.after? literal cs = none := by
  induction literal generalizing cs with
  | nil => simp at hliteral
  | cons l literal ih =>
      cases cs with
      | nil => rfl
      | cons d cs =>
          simp only [List.mem_cons, not_or] at hliteral hcs
          rw [Markup.after?]
          split
          · next heq =>
              refine ih (hliteral.resolve_left ?_) hcs.2
              rintro rfl
              exact hcs.1 heq
          · rfl

/-- A literal does not occur where one of its characters is missing. -/
theorem breakAt?_eq_none
    {c : Char}
    {literal cs : List Char}
    (hliteral : c ∈ literal)
    (hcs : c ∉ cs) :
    Markup.breakAt? literal cs = none := by
  induction cs with
  | nil => rw [Markup.breakAt?, after?_eq_none hliteral hcs, Option.map_none]
  | cons d cs ih =>
      have hrest : c ∉ cs := fun hmem => hcs (List.mem_cons_of_mem d hmem)
      rw [Markup.breakAt?, after?_eq_none hliteral hcs]
      dsimp only
      rw [ih hrest, Option.map_none]

/-- A text is read to the next tag. -/
theorem next?_text
    {cs : List Char}
    (hne : cs ≠ [])
    (hallowed : cs.all isAllowed = true)
    (rest : List Char) :
    Markup.next? (textEscaping.write cs ++ '<' :: rest) =
      some (.text (textEscaping.write cs), '<' :: rest) := by
  have hless : '<' ∉ textEscaping.write cs :=
    Escaping.not_mem_write (by decide) (by decide) cs
  have hgreater : '>' ∉ textEscaping.write cs :=
    Escaping.not_mem_write (by decide) (by decide) cs
  have hwritten := textEscaping.all_isAllowed_write hallowed
  have hwrittenNe := textEscaping.write_ne_nil hne
  generalize textEscaping.write cs = written at hless hgreater hwritten hwrittenNe ⊢
  obtain ⟨c, tail, rfl⟩ := List.exists_cons_of_ne_nil hwrittenNe
  have hc : c ≠ '<' := by
    rintro rfl
    exact hless List.mem_cons_self
  obtain ⟨htake, hdrop⟩ := Text.takeWhile_dropWhile_of_not_mem hless rest
  have htext : Markup.text? (c :: tail) = some (.text (c :: tail)) := by
    rw [Markup.text?, hwritten, breakAt?_eq_none (c := '>') (by decide) hgreater]
    rfl
  have hnext :
      Markup.next? (c :: tail ++ '<' :: rest) =
        (Markup.text? ((c :: tail ++ '<' :: rest).takeWhile (· != '<'))).map fun text =>
          (text, (c :: tail ++ '<' :: rest).dropWhile (· != '<')) := by
    rw [List.cons_append, Markup.next?]
    all_goals simp [hc]
  rw [hnext, htake, hdrop, htext, Option.map_some]

end Texts

section Scans

/-- The pieces that a text is scanned to, each of them with a character of its own. -/
inductive Scans : List Char → List Markup → Prop where
  | nil :
      Scans [] []
  | piece
      {cs rest : List Char}
      {piece : Markup}
      {pieces : List Markup}
      (hnext : Markup.next? cs = some (piece, rest))
      (hshort : rest.length < cs.length)
      (hrest : Scans rest pieces) :
      Scans cs (piece :: pieces)

theorem Scans.ofChars?
    {cs : List Char}
    {pieces : List Markup}
    (h : Scans cs pieces) :
    Markup.ofChars? cs = some pieces := by
  have hscan : ∀ bound, cs.length ≤ bound → Markup.scan? bound cs = some pieces := by
    induction h with
    | nil =>
        intro bound _
        rw [Markup.scan?]
    | @piece cs rest piece pieces hnext hshort hrest ih =>
        intro bound hbound
        cases cs with
        | nil => simp at hshort
        | cons c cs =>
            cases bound with
            | zero => simp at hbound
            | succ bound =>
                have hlength : rest.length ≤ bound := by
                  simp only [List.length_cons] at hshort hbound
                  omega
                rw [Markup.scan?, hnext]
                dsimp only
                rw [ih bound hlength, Option.map_some]
  exact hscan _ (Nat.le_refl _)

namespace Node

mutual

/-- The markup that is read for a node. -/
def pieces : Node → List Markup
  | element tag children =>
    .startTag (writtenName tag) [] false ::
      (piecesAll children ++ [.endTag (writtenName tag)])
  | text content => [.text (textEscaping.write content.toList)]
  | comment _ => []
  | instruction _ _ => []

/-- The markup that is read for nodes side by side. -/
def piecesAll : List Node → List Markup
  | [] => []
  | node :: rest => pieces node ++ piecesAll rest

end

/-- Behind a text there is always a tag. -/
theorem exists_writeAll_eq_cons
    {uri : String}
    {nodes : List Node}
    (h : Settled uri nodes)
    (hlead : leadsText nodes = false)
    (rest : List Char) :
    ∃ tail, writeAll nodes ++ '<' :: rest = '<' :: tail := by
  cases h with
  | nil => exact ⟨rest, rfl⟩
  | element htag hchildren hrest => exact ⟨_, rfl⟩
  | text hne hallowed hnext hrest => cases hlead

/-- Settled nodes are scanned one after another up to the tag that follows them. -/
theorem scans_writeAll
    {uri : String}
    {nodes : List Node}
    (h : Settled uri nodes)
    {rest : List Char}
    {more : List Markup}
    (hrest : Scans ('<' :: rest) more) :
    Scans (writeAll nodes ++ '<' :: rest) (piecesAll nodes ++ more) := by
  induction h generalizing rest more with
  | nil => exact hrest
  | @element tag children nodes htag hchildren hnodes ihChildren ihNodes =>
      have hproper := isProper_writtenName htag
      have hfollow := ihNodes hrest
      have hend :
          Scans (writeEnd (writtenName tag) ++ (writeAll nodes ++ '<' :: rest))
            (.endTag (writtenName tag) :: (piecesAll nodes ++ more)) :=
        .piece (next?_writeEnd hproper _) (by simp [writeEnd]; omega) hfollow
      have hinner := ihChildren hend
      have hstart :
          Scans
            (writeStart (writtenName tag) ++
              (writeAll children ++
                (writeEnd (writtenName tag) ++ (writeAll nodes ++ '<' :: rest))))
            (.startTag (writtenName tag) [] false ::
              (piecesAll children ++
                .endTag (writtenName tag) :: (piecesAll nodes ++ more))) :=
        .piece (next?_writeStart hproper _) (by simp [writeStart]; omega) hinner
      simpa [writeAll, write, piecesAll, pieces] using hstart
  | @text content nodes hne hallowed hlead hnodes ih =>
      obtain ⟨tail, htail⟩ := exists_writeAll_eq_cons hnodes hlead rest
      have hfollow := ih hrest
      have hchars : content.toList ≠ [] := by
        simpa using hne
      have hlength := List.length_pos_iff.mpr (textEscaping.write_ne_nil hchars)
      rw [htail] at hfollow
      have htext :
          Scans (textEscaping.write content.toList ++ '<' :: tail)
            (.text (textEscaping.write content.toList) :: (piecesAll nodes ++ more)) :=
        .piece (next?_text hchars hallowed tail) (by rw [List.length_append]; omega) hfollow
      rw [← htail] at htext
      simpa [writeAll, write, piecesAll, pieces] using htext

end Node

end Scans

end Xml

end LegendReport
