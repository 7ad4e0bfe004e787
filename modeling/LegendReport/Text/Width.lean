import LegendReport.Text.Emoji
import LegendReport.Text.Visible

/-!
# Widths on a terminal

A text takes the columns of a terminal that its characters take together.  A
character by itself takes none, one or two, and one sign takes three.  What
stands behind a character can change this: selectors, modifiers and joiners make
one emoji of several characters, and some scripts draw two letters as one sign.

So a text is measured from its end.  `place` gives, for a character and what
follows it, the columns that it adds, and what the character before it is
followed by.
-/

namespace LegendReport
namespace Text

/-- The characters that take two columns, those of the East Asian widths `W` and `F`. -/
def wideCharacters : CharClass :=
  ⟨[(0x1100, 0x115F), (0x231A, 0x231B), (0x2329, 0x232A), (0x23E9, 0x23EC), (0x23F0, 0x23F0),
    (0x23F3, 0x23F3), (0x25FD, 0x25FE), (0x2614, 0x2615), (0x2630, 0x2637), (0x2648, 0x2653),
    (0x267F, 0x267F), (0x268A, 0x268F), (0x2693, 0x2693), (0x26A1, 0x26A1), (0x26AA, 0x26AB),
    (0x26BD, 0x26BE), (0x26C4, 0x26C5), (0x26CE, 0x26CE), (0x26D4, 0x26D4), (0x26EA, 0x26EA),
    (0x26F2, 0x26F3), (0x26F5, 0x26F5), (0x26FA, 0x26FA), (0x26FD, 0x26FD), (0x2705, 0x2705),
    (0x270A, 0x270B), (0x2728, 0x2728), (0x274C, 0x274C), (0x274E, 0x274E), (0x2753, 0x2755),
    (0x2757, 0x2757), (0x2795, 0x2797), (0x27B0, 0x27B0), (0x27BF, 0x27BF), (0x2B1B, 0x2B1C),
    (0x2B50, 0x2B50), (0x2B55, 0x2B55), (0x2E80, 0x2E99), (0x2E9B, 0x2EF3), (0x2F00, 0x2FD5),
    (0x2FF0, 0x303E), (0x3041, 0x3096), (0x3099, 0x30FF), (0x3105, 0x312F), (0x3131, 0x318E),
    (0x3190, 0x31E5), (0x31EF, 0x321E), (0x3220, 0x3247), (0x3250, 0xA48C), (0xA490, 0xA4C6),
    (0xA960, 0xA97C), (0xAC00, 0xD7A3), (0xF900, 0xFAFF), (0xFE10, 0xFE19), (0xFE30, 0xFE52),
    (0xFE54, 0xFE66), (0xFE68, 0xFE6B), (0xFF01, 0xFF60), (0xFFE0, 0xFFE6), (0x16FE0, 0x16FE4),
    (0x16FF0, 0x16FF6), (0x17000, 0x18CDA), (0x18CFF, 0x18D20), (0x18D80, 0x18DF2),
    (0x18E00, 0x19191), (0x191A0, 0x191D2), (0x1AFF0, 0x1AFF3), (0x1AFF5, 0x1AFFB),
    (0x1AFFD, 0x1AFFE), (0x1B000, 0x1B122), (0x1B132, 0x1B132), (0x1B150, 0x1B152),
    (0x1B155, 0x1B155), (0x1B164, 0x1B167), (0x1B170, 0x1B2FB), (0x1D300, 0x1D356),
    (0x1D360, 0x1D376), (0x1F004, 0x1F004), (0x1F0CF, 0x1F0CF), (0x1F18E, 0x1F18E),
    (0x1F191, 0x1F19A), (0x1F1AE, 0x1F1AE), (0x1F200, 0x1F202), (0x1F210, 0x1F23B),
    (0x1F240, 0x1F248), (0x1F250, 0x1F251), (0x1F260, 0x1F265), (0x1F300, 0x1F320),
    (0x1F32D, 0x1F335), (0x1F337, 0x1F37C), (0x1F37E, 0x1F393), (0x1F3A0, 0x1F3CA),
    (0x1F3CF, 0x1F3D3), (0x1F3E0, 0x1F3F0), (0x1F3F4, 0x1F3F4), (0x1F3F8, 0x1F43E),
    (0x1F440, 0x1F440), (0x1F442, 0x1F4FC), (0x1F4FF, 0x1F53D), (0x1F54B, 0x1F54E),
    (0x1F550, 0x1F567), (0x1F57A, 0x1F57A), (0x1F595, 0x1F596), (0x1F5A4, 0x1F5A4),
    (0x1F5FB, 0x1F64F), (0x1F680, 0x1F6C5), (0x1F6CC, 0x1F6CC), (0x1F6D0, 0x1F6D2),
    (0x1F6D5, 0x1F6D9), (0x1F6DC, 0x1F6DF), (0x1F6EB, 0x1F6EC), (0x1F6F4, 0x1F6FC),
    (0x1F7DA, 0x1F7DA), (0x1F7E0, 0x1F7EB), (0x1F7F0, 0x1F7F0), (0x1F90C, 0x1F93A),
    (0x1F93C, 0x1F945), (0x1F947, 0x1F9FF), (0x1FA70, 0x1FA7C), (0x1FA80, 0x1FAC6),
    (0x1FAC8, 0x1FAC8), (0x1FACD, 0x1FADC), (0x1FADF, 0x1FAEB), (0x1FAEF, 0x1FAFA),
    (0x20000, 0x2FFFD), (0x30000, 0x3FFFD)]⟩

/-- The characters that take no column of their own although they are neither extenders nor
ignorable: vowels and finals of Hangul syllables, and signs that are drawn over what follows. -/
def attachedCharacters : CharClass :=
  ⟨[(0x605, 0x605), (0x70F, 0x70F), (0x890, 0x891), (0x8E2, 0x8E2), (0xD4E, 0xD4E),
    (0x1161, 0x11FF), (0xA8FA, 0xA8FA), (0xD7B0, 0xD7C6), (0xD7CB, 0xD7FB), (0x111C2, 0x111C3),
    (0x1193F, 0x1193F), (0x11941, 0x11941), (0x11A3A, 0x11A3A), (0x11A84, 0x11A89),
    (0x11D46, 0x11D46), (0x11F02, 0x11F02)]⟩

/-- The marks of the latest additions to the standard, which the tables of extenders do not have. -/
def latestMarks : CharClass :=
  ⟨[(0x5C8, 0x5C9), (0xB53, 0xB54), (0x1ADE, 0x1ADF), (0x1AEC, 0x1AF0), (0x1D127, 0x1D128),
    (0x1D250, 0x1D252), (0x1D25B, 0x1D25F), (0x1D280, 0x1D281)]⟩

/-- The characters without a width that break the cursive connection between two letters. -/
def opaqueMarks : CharClass :=
  ⟨[(0x605, 0x605), (0x890, 0x891), (0x8E2, 0x8E2), (0x9BE, 0x9BE), (0x9D7, 0x9D7), (0xB3E, 0xB3E),
    (0xB57, 0xB57), (0xBBE, 0xBBE), (0xBD7, 0xBD7), (0xCC0, 0xCC0), (0xCC2, 0xCC2), (0xCC7, 0xCC8),
    (0xCCA, 0xCCB), (0xCD5, 0xCD6), (0xD3E, 0xD3E), (0xD4E, 0xD4E), (0xD57, 0xD57), (0xDCF, 0xDCF),
    (0xDDF, 0xDDF), (0x1160, 0x11FF), (0x1715, 0x1715), (0x1734, 0x1734), (0x180E, 0x180E),
    (0x1B35, 0x1B35), (0x1B3B, 0x1B3B), (0x1B3D, 0x1B3D), (0x1B43, 0x1B44), (0x1BAA, 0x1BAA),
    (0x1BF2, 0x1BF3), (0x200C, 0x200D), (0x2065, 0x2069), (0x302E, 0x302F), (0x3164, 0x3164),
    (0xA8FA, 0xA8FA), (0xA953, 0xA953), (0xA9C0, 0xA9C0), (0xD7B0, 0xD7C6), (0xD7CB, 0xD7FB),
    (0xFFA0, 0xFFA0), (0xFFF0, 0xFFF8), (0x111C0, 0x111C0), (0x111C2, 0x111C3), (0x11235, 0x11235),
    (0x1133E, 0x1133E), (0x1134D, 0x1134D), (0x11357, 0x11357), (0x113B8, 0x113B8),
    (0x113C2, 0x113C2), (0x113C5, 0x113C5), (0x113C7, 0x113C9), (0x113CF, 0x113CF),
    (0x114B0, 0x114B0), (0x114BD, 0x114BD), (0x115AF, 0x115AF), (0x116B6, 0x116B6),
    (0x11930, 0x11930), (0x1193D, 0x1193D), (0x1193F, 0x1193F), (0x11941, 0x11941),
    (0x11A3A, 0x11A3A), (0x11A84, 0x11A89), (0x11D46, 0x11D46), (0x11F02, 0x11F02),
    (0x11F41, 0x11F41), (0x16FF0, 0x16FF1), (0x1D165, 0x1D166), (0x1D16D, 0x1D172),
    (0xE0000, 0xE0000), (0xE0002, 0xE001F), (0xE0080, 0xE00FF), (0xE01F0, 0xE0FFF)]⟩

/-- The forms of lam, which are drawn as one sign with an alef behind them. -/
def lamLetters : CharClass :=
  ⟨[(0x644, 0x644), (0x6B5, 0x6B8), (0x76A, 0x76A), (0x8A6, 0x8A6), (0x8C7, 0x8C7)]⟩

/-- The forms of alef. -/
def alefLetters : CharClass :=
  ⟨[(0x622, 0x623), (0x625, 0x625), (0x627, 0x627), (0x671, 0x673), (0x675, 0x675), (0x773, 0x774),
    (0x870, 0x882)]⟩

/-- The Khmer letters that are drawn below another letter after the sign coeng. -/
def subscriptLetters : CharClass :=
  ⟨[(0x1780, 0x1782), (0x1784, 0x1787), (0x1789, 0x178C), (0x178E, 0x1793), (0x1795, 0x1798),
    (0x179B, 0x179D), (0x17A0, 0x17A0), (0x17A2, 0x17A2), (0x17A7, 0x17A7), (0x17AB, 0x17AC),
    (0x17AF, 0x17AF)]⟩

/-- The consonants of Tifinagh, two of which can be drawn as one sign. -/
def tifinaghConsonants : CharClass :=
  ⟨[(0x2D31, 0x2D65), (0x2D6F, 0x2D6F)]⟩

/-- The tone letters of Lisu that can be the first of two. -/
def firstTones : CharClass :=
  ⟨[(0xA4F8, 0xA4FB)]⟩

/-- The tone letters of Lisu that can be the second of two. -/
def secondTones : CharClass :=
  ⟨[(0xA4FC, 0xA4FD)]⟩

/-- The marks that do not come between two letters that are drawn as one. -/
def ignorableMarks : CharClass :=
  ⟨[(0x34F, 0x34F), (0x17B4, 0x17B5), (0x180B, 0x180D), (0x180F, 0x180F), (0xFE00, 0xFE0F),
    (0xE0100, 0xE01EF)]⟩

/-- The curved quotation marks. -/
def curvedQuotes : CharClass :=
  ⟨[(0x2018, 0x2019), (0x201C, 0x201D)]⟩

/-- The letters among the tags that name a flag. -/
def tagLetters : CharClass :=
  ⟨[(0xE0061, 0xE007A)]⟩

/-- The digits among the tags that name a flag. -/
def tagDigits : CharClass :=
  ⟨[(0xE0030, 0xE0039)]⟩

/-- Whether a character takes no column of its own. -/
def isZeroWidth (c : Char) : Bool :=
  c.toNat ≠ 0x115F && c.toNat ≠ 0x2D7F &&
    (extenders.contains c || ignorables.contains c || attachedCharacters.contains c ||
      latestMarks.contains c)

/-- The columns that a character takes by itself. -/
def charWidth (c : Char) : Nat :=
  if c.toNat = 0xAD then 0
  else if c.toNat < 0x300 then 1
  else if isZeroWidth c then 0
  else if c.toNat = 0x17D8 then 3
  else if c.toNat = 0x17A4 || wideCharacters.contains c then 2
  else 1

/-- The selectors that ask for a character as text, as an emoji, or as a sign of full width. -/
inductive Selector where
  | text
  | emoji
  | full
  deriving DecidableEq, Repr

/-- The second of two letters that can be drawn as one, by script. -/
inductive Ligature where
  | alef
  | lamed (joiner : Bool)
  | subscript
  | ya (joiner : Bool)
  | vowelYa
  | tifinagh (joiner : Bool)
  | tifinaghJoiner
  | secondTone
  | orkhon (joiner : Bool)
  deriving DecidableEq, Repr

/-- What a joiner joins to the emoji before it. -/
inductive Joined where
  | emoji
  | keycap
  | indicator
  | evenIndicators
  | oddIndicators
  /-- The end of the name of a flag, with the letters and digits read so far. -/
  | tags (letters digits : Nat)
  deriving DecidableEq, Repr

/-- What follows a character, as far as it matters for its width. -/
inductive Follower where
  | plain
  | lineFeed
  | selector (form : Selector)
  | ligature (second : Ligature) (form : Option Selector)
  | emoji
  | modifier
  | indicator
  | indicators
  | joined (next : Joined)
  /-- The selector of emoji before a joiner and an emoji. -/
  | joinedSelector
  | vowelE
  | vowelAi
  deriving DecidableEq, Repr

namespace Ligature

/-- The ligature with a joiner between its two letters. -/
def withJoiner : Ligature → Ligature
  | lamed _ => lamed true
  | ya _ => ya true
  | tifinagh _ => tifinagh true
  | orkhon _ => orkhon true
  | other => other

/-- What the first letter of a ligature, or a mark between the letters, adds. -/
def place? (second : Ligature) (c : Char) : Option (Int × Follower) :=
  if second ≠ alef && c.toNat = 0x200D then some (0, .ligature second.withJoiner none)
  else if second ≠ alef && ignorableMarks.contains c then some (0, .ligature second none)
  else
    match second with
    | alef =>
      if lamLetters.contains c then some (0, .plain)
      else if isZeroWidth c && !opaqueMarks.contains c then some (0, .ligature alef none)
      else none
    | lamed joiner => if joiner && c.toNat = 0x5D0 then some (0, .plain) else none
    | subscript => if c.toNat = 0x17D2 then some (-1, .plain) else none
    | ya joiner => if joiner && c.toNat = 0x1A17 then some (0, .ligature vowelYa none) else none
    | vowelYa => if c.toNat = 0x1A15 then some (0, .plain) else none
    | tifinagh joiner =>
      if c.toNat = 0x2D7F then some (1, .ligature tifinaghJoiner none)
      else if joiner && tifinaghConsonants.contains c then some (0, .plain)
      else none
    | tifinaghJoiner => if tifinaghConsonants.contains c then some (-1, .plain) else none
    | secondTone => if firstTones.contains c then some (0, .plain) else none
    | orkhon joiner => if joiner && c.toNat = 0x10C32 then some (0, .plain) else none

end Ligature

namespace Joined

/-- What a character adds before a joiner and what it joins. -/
def place? (next : Joined) (c : Char) : Option (Int × Follower) :=
  match next with
  | emoji =>
    if c.toNat = 0x20E3 then some (0, .joined keycap)
    else if regionalIndicators.contains c then some (1, .joined indicator)
    else if emojiModifiers.contains c then some (0, .modifier)
    else if c.toNat = 0xE007F then some (0, .joined (tags 0 0))
    else if emojiCharacters.contains c then some (0, .emoji)
    else none
  | keycap => none
  | indicator => if regionalIndicators.contains c then some (-1, .joined evenIndicators) else none
  | evenIndicators =>
    if c.toNat = 0x200D then some (0, .joined emoji)
    else if regionalIndicators.contains c then some (3, .joined oddIndicators)
    else none
  | oddIndicators =>
    if c.toNat = 0x200D then some (0, .joined emoji)
    else if regionalIndicators.contains c then some (-1, .joined evenIndicators)
    else none
  | tags letters digits =>
    if tagLetters.contains c && digits = 0 && letters < 6 then
      some (0, .joined (tags (letters + 1) 0))
    else if tagDigits.contains c && digits = 0 && letters < 5 then some (0, .joined (tags 0 1))
    else if tagDigits.contains c && 0 < digits && digits < 3 then
      some (0, .joined (tags 0 (digits + 1)))
    else if c.toNat = 0x1F3F4 && (3 ≤ letters || digits = 3) then some (0, .emoji)
    else none

end Joined

namespace Follower

/-- What follows a character by itself. -/
def ofChar (c : Char) : Follower :=
  if alefLetters.contains c then ligature .alef none
  else if c.toNat = 0x5DC then ligature (.lamed false) none
  else if subscriptLetters.contains c then ligature .subscript none
  else if c.toNat = 0x1A10 then ligature (.ya false) none
  else if tifinaghConsonants.contains c then ligature (.tifinagh false) none
  else if secondTones.contains c then ligature .secondTone none
  else if c.toNat = 0x10C03 then ligature (.orkhon false) none
  else if c.toNat = 0x16D67 then vowelE
  else if c.toNat = 0x16D68 then vowelAi
  else if regionalIndicators.contains c then indicator
  else if emojiModifiers.contains c then modifier
  else if emojiCharacters.contains c then emoji
  else plain

/-- What follows a character that a selector directly behind it changes. -/
def selected? (next : Follower) (c : Char) : Option (Int × Follower) :=
  let form? : Option (Int × Selector) :=
    match next with
    | selector form => some (2, form)
    | ligature _ (some form) => some (2, form)
    | joinedSelector => some (0, .emoji)
    | _ => none
  match form? with
  | some (columns, .emoji) =>
    if emojiVariationBases.contains c then some (columns, emoji) else none
  | some (_, .text) =>
    if emojiVariationBases.contains c && emojiCharacters.contains c &&
        !enclosedIdeographs.contains c then
      some (1, plain)
    else none
  | some (_, .full) => if curvedQuotes.contains c then some (2, plain) else none
  | none => none

/-- What follows if the selector directly behind a character does not concern it. -/
def unselected : Follower → Follower
  | selector _ => plain
  | ligature second _ => ligature second none
  | joinedSelector => plain
  | other => other

/-- What follows the character before a selector. -/
def select (form : Selector) : Follower → Follower
  | ligature second _ => ligature second (some form)
  | joined .emoji => if form = .emoji then joinedSelector else selector form
  | joined .keycap => if form = .emoji then joinedSelector else selector form
  | _ => selector form

/-- What a character adds that forms one sign with what follows. -/
def combined? (next : Follower) (c : Char) : Option (Int × Follower) :=
  match next with
  | ligature second _ => second.place? c
  | joined second => second.place? c
  | emoji => if c.toNat = 0x200D then some (0, joined .emoji) else none
  | modifier =>
    if c.toNat = 0x200D then some (0, joined .emoji)
    else if emojiModifierBases.contains c then some (0, emoji)
    else none
  | indicator => if regionalIndicators.contains c then some (1, indicators) else none
  | indicators =>
    if c.toNat = 0x200D then some (0, joined .emoji)
    else if regionalIndicators.contains c then some (1, indicators)
    else none
  | vowelE =>
    if c.toNat = 0x16D63 || c.toNat = 0x16D69 then some (0, plain)
    else if c.toNat = 0x16D67 then some (0, vowelAi)
    else if c.toNat = 0x16D68 then some (1, vowelE)
    else none
  | vowelAi => if c.toNat = 0x16D63 then some (0, plain) else none
  | _ => none

/-- What a character adds, whatever selector was meant for it. -/
def placeUnselected (next : Follower) (c : Char) : Int × Follower :=
  if c = '\n' then (1, lineFeed)
  else if c = '\r' && next = lineFeed then (0, plain)
  else if c.toNat ≤ 0xA0 then (1, plain)
  else if c.toNat = 0xFE0F then (0, next.select .emoji)
  else if c.toNat = 0xFE0E then (0, next.select .text)
  else if c.toNat = 0xFE01 then (0, next.select .full)
  else (next.combined? c).getD (charWidth c, ofChar c)

/-- The columns that a character adds to what follows it, and what the character before it is
followed by. -/
def place (next : Follower) (c : Char) : Int × Follower :=
  (next.selected? c).getD (next.unselected.placeUnselected c)

end Follower

/-- The columns of a list of characters, and what a character before them is followed by. -/
def measure (cs : List Char) : Int × Follower :=
  cs.foldr
    (fun c rest =>
      let placed := rest.2.place c
      (placed.1 + rest.1, placed.2))
    (0, .plain)

/-- The number of terminal columns that a text takes. -/
def width (s : String) : Nat :=
  (measure s.toList).1.toNat

end Text
end LegendReport
