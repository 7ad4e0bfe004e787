import LegendReport.Text.Numeral
import LegendReport.Text.Pattern.Mode

/-!
# Signs behind a backslash

A backslash takes the meaning from a sign.  In front of a letter it stands for a
character without a sign of its own, for an edge, or for a class of characters,
or it gives the number of a character in hexadecimal digits.
-/

namespace LegendReport
namespace Text
namespace Pattern

/-- What a backslash with the signs behind it stands for. -/
inductive Escape where
  | char (c : Char)
  | members (set : CharSet)
  | edge (edge : Edge)
  deriving DecidableEq, Repr

namespace Escape

/-- The decimal digits of ASCII. -/
def digits : CharSet :=
  .range '0' '9'

/-- The white space of ASCII. -/
def spaces : CharSet :=
  .ofRanges [('\t', '\r'), (' ', ' ')]

/-- The characters that words of ASCII characters are made of. -/
def wordChars : CharSet :=
  .ofRanges [('0', '9'), ('A', 'Z'), ('_', '_'), ('a', 'z')]

/-- The character that stands behind a backslash for another one or for itself. -/
def char? : Char → Option Char
  | 'a' => some '\x07'
  | 'f' => some '\x0c'
  | 't' => some '\t'
  | 'n' => some '\n'
  | 'r' => some '\r'
  | 'v' => some '\x0b'
  | c => if c.toNat < 0x80 && !c.isAlphanum && c ≠ '<' && c ≠ '>' then some c else none

/-- The edge that a sign names.  Words are made of ASCII characters, so their edges are not for a
mode for all characters. -/
def edge? (mode : Mode) : Char → Option Edge
  | 'A' => some .textStart
  | 'z' => some .textEnd
  | 'b' => if mode.unicode then none else some .wordEdge
  | 'B' => if mode.unicode then none else some .wordInside
  | '<' => if mode.unicode then none else some .wordStart
  | '>' => if mode.unicode then none else some .wordEnd
  | _ => none

/-- The class that a letter names. -/
def class? (mode : Mode) (c : Char) : Option CharSet :=
  if mode.unicode then none
  else
    match c with
    | 'd' => some digits
    | 's' => some spaces
    | 'w' => some wordChars
    | _ => none

/-- What a sign behind a backslash stands for. -/
def ofSign? (mode : Mode) (c : Char) : Option Escape :=
  (((char? c).map char).or ((edge? mode c).map edge)).or ((class? mode c).map members)

/-- The value of as many hexadecimal digits as asked for, with what is left; `value` was read
before. -/
def number? (mode : Mode) : Nat → Nat → List Char → Option (Nat × List Char)
  | 0, value, cs => some (value, cs)
  | count + 1, value, cs =>
    match mode.visible cs with
    | [] => none
    | c :: rest => (hexDigit? c).bind fun digit => number? mode count (16 * value + digit) rest

/-- The character of a number below the limit, which stands in so many digits. -/
def numbered? (mode : Mode) (count limit : Nat) (cs : List Char) : Option (Escape × List Char) :=
  (number? mode count 0 cs).bind fun read =>
    if read.1 < limit && read.1.isValidChar then some (char (Char.ofNat read.1), read.2)
    else none

/-- Reads the signs behind a backslash.  Two digits give a byte, which is a character by itself in
ASCII only if the mode is not for all characters. -/
def read? (mode : Mode) : List Char → Option (Escape × List Char)
  | [] => none
  | 'x' :: rest => numbered? mode 2 (if mode.unicode then 0x100 else 0x80) rest
  | 'u' :: rest => numbered? mode 4 0x10000 rest
  | 'U' :: rest => numbered? mode 8 0x110000 rest
  | c :: rest => (ofSign? mode c).map fun escape => (escape, rest)

end Escape

end Pattern
end Text
end LegendReport
