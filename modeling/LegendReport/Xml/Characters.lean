import LegendReport.Text.CharClass

/-!
# Characters of XML documents

The character classes of the XML 1.0 grammar.  White space is space, tab,
carriage return and line feed.  All other control characters below the space
and the two non-characters at the end of the basic plane are not allowed
anywhere.
-/

namespace LegendReport
namespace Xml

open Text (CharClass)

/-- The white space of markup. -/
def isSpace (c : Char) : Bool :=
  c == ' ' || c == '\t' || c == '\n' || c == '\r'

/-- The characters that a document may hold. -/
def isAllowed (c : Char) : Bool :=
  if c.toNat < 0x20 then c == '\t' || c == '\n' || c == '\r'
  else c.toNat != 0xFFFE && c.toNat != 0xFFFF

/-- The characters a name can start with, the colon excepted. -/
def nameStart : CharClass :=
  ⟨[(0x41, 0x5A), (0x5F, 0x5F), (0x61, 0x7A), (0xC0, 0xD6), (0xD8, 0xF6), (0xF8, 0x2FF),
    (0x370, 0x37D), (0x37F, 0x1FFF), (0x200C, 0x200D), (0x2070, 0x218F), (0x2C00, 0x2FEF),
    (0x3001, 0xD7FF), (0xF900, 0xFDCF), (0xFDF0, 0xFFFD), (0x10000, 0xEFFFF)]⟩

/-- The characters that a name can go on with, the colon excepted. -/
def nameChar : CharClass :=
  nameStart.union
    ⟨[(0x2D, 0x2E), (0x30, 0x39), (0xB7, 0xB7), (0x300, 0x36F), (0x203F, 0x2040)]⟩

/-- Whether the characters are a name without colon. -/
def isPlainName : List Char → Bool
  | [] => false
  | c :: rest => nameStart.contains c && rest.all nameChar.contains

/-- A character that starts a name can go on with one. -/
theorem nameChar_of_nameStart
    {c : Char}
    (h : nameStart.contains c = true) :
    nameChar.contains c = true := by
  simp [nameChar, h]

end Xml
end LegendReport
