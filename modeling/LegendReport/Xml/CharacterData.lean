import LegendReport.Text.Numeral
import LegendReport.Xml.Characters

/-!
# Character data

Character data is written with references: the five predefined entities, and
characters by number, decimal or hexadecimal.  A character written by a
reference stands for itself.  Literal line endings become line feeds in text and
spaces in the value of an attribute.

A literal carriage return is turned into a line feed when the next literal
character arrives or at the end of the text; if a reference follows, it is kept.
The character directly after a reference is taken as it is, so a carriage return
that a reference wrote is always kept.
-/

namespace LegendReport
namespace Xml

/-- A character of character data, with the way it was written. -/
inductive WrittenChar where
  | literal (c : Char)
  | referenced (c : Char)
  deriving DecidableEq, Repr

/-- The value of a numeral in base ten or sixteen, if it has digits only and at least one. -/
def numeral? (base : Nat) (digits : List Char) : Option Nat :=
  if digits = [] then none
  else
    digits.foldlM
      (fun value c =>
        match Text.hexDigit? c with
        | some digit => if digit < base then some (base * value + digit) else none
        | none => none)
      0

/-- The character of a number.  The number must fit in thirty-two bits; one that is no character
stands for the replacement character, and the character must be an allowed one. -/
def numberedChar? (number : Nat) : Option Char :=
  if number < UInt32.size then
    let c := if number.isValidChar then Char.ofNat number else '\uFFFD'
    if isAllowed c then some c else none
  else none

/-- The character of a reference, given what stands between the ampersand and the semicolon. -/
def reference? (body : List Char) : Option Char :=
  match body with
  | '#' :: 'x' :: digits => (numeral? 16 digits).bind numberedChar?
  | '#' :: digits => (numeral? 10 digits).bind numberedChar?
  | _ =>
    if body = "lt".toList then some '<'
    else if body = "gt".toList then some '>'
    else if body = "amp".toList then some '&'
    else if body = "quot".toList then some '"'
    else if body = "apos".toList then some '\''
    else none

/-- The characters of a text, with the body of the reference that is open, in reverse. -/
def writtenFrom : Option (List Char) → List Char → Option (List WrittenChar)
  | none, [] => some []
  | some _, [] => none
  | none, c :: rest =>
    if c = '&' then writtenFrom (some []) rest
    else (writtenFrom none rest).map (.literal c :: ·)
  | some body, c :: rest =>
    if c = ';' then
      match reference? body.reverse with
      | some d => (writtenFrom none rest).map (.referenced d :: ·)
      | none => none
    else writtenFrom (some (c :: body)) rest

/-- The characters of a text with its references resolved, unless one of them is bad. -/
def written? (cs : List Char) : Option (List WrittenChar) :=
  writtenFrom none cs

/-- Puts a literal character behind the characters before it, which are in reverse. -/
def pushLiteral (before : List Char) (c : Char) (last : Bool) : List Char :=
  match before with
  | '\r' :: earlier =>
    if last && c == '\r' then '\n' :: '\n' :: earlier
    else if c == '\n' then '\n' :: earlier
    else c :: '\n' :: earlier
  | _ => if last && c == '\r' then '\n' :: before else c :: before

/-- The text of written characters, after the given characters in reverse; `raw` says that the
character before was written by a reference. -/
def foldLineEnds (raw : Bool) (before : List Char) : List WrittenChar → List Char
  | [] => before.reverse
  | .referenced c :: rest => foldLineEnds true (c :: before) rest
  | .literal c :: rest =>
    if raw then foldLineEnds false (c :: before) rest
    else foldLineEnds false (pushLiteral before c rest.isEmpty) rest

/-- The characters that a run of text between two pieces of markup stands for. -/
def textChars? (cs : List Char) : Option (List Char) :=
  (written? cs).map (foldLineEnds false [])

/-- The characters that a section without references stands for. -/
def sectionChars (cs : List Char) : List Char :=
  foldLineEnds false [] (cs.map .literal)

/-- The value of an attribute: a literal carriage return before a literal line feed is dropped, and
literal line ends and tabs become spaces. -/
def spaceLineEnds : List WrittenChar → List Char
  | [] => []
  | .referenced c :: rest => c :: spaceLineEnds rest
  | .literal '\r' :: .literal '\n' :: rest => spaceLineEnds (.literal '\n' :: rest)
  | .literal c :: rest =>
    (if c == '\r' || c == '\n' || c == '\t' then ' ' else c) :: spaceLineEnds rest

/-- The value that the characters between the quotes of an attribute stand for. -/
def attributeValue? (cs : List Char) : Option (List Char) :=
  (written? cs).map spaceLineEnds

end Xml
end LegendReport
