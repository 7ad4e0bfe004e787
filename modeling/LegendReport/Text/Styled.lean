import LegendReport.Text.Shown
import LegendReport.Text.Width

/-!
# Styled text

An escape sequence sets the style of what follows it.  It begins with an escape
character, has signs and numbers, and ends with a letter; the longest such
sequence counts.  A command to the terminal, which has a bracket behind the
escape character, goes to its terminator or to the end of the text.

Where a styled text is cut into lines, the sequences that are in force at the
end of a line are reset there and repeated at the beginning of the next line.
-/

namespace LegendReport
namespace Text

/-- How far an escape sequence was read. -/
inductive EscapeState where
  | introduced
  | designating
  | signs
  /-- Within a number of one to four digits; a fifth digit ends the sequence. -/
  | number (digits : Nat)
  | separated
  | ended
  deriving DecidableEq, Repr

namespace EscapeState

/-- Whether what was read is a sequence. -/
def isComplete : EscapeState → Bool
  | number _ => true
  | ended => true
  | _ => false

/-- Whether the character ends a sequence. -/
def isFinal (c : Char) : Bool :=
  ('A' ≤ c && c ≤ 'P') || c = 'R' || c = 'Z' || c = 'c' || ('f' ≤ c && c ≤ 'n') ||
    c = 'q' || c = 'r' || c = 'y' || c = '=' || c = '<' || c = '>'

/-- Whether a sequence can have a number, a separator or its end here. -/
def isOpen : EscapeState → Bool
  | number digits => digits < 5
  | ended => false
  | _ => true

/-- How far a sequence is read with one more character, if it can go on. -/
def step (state : EscapeState) (c : Char) : Option EscapeState :=
  if c.isDigit then
    match state with
    | introduced => some (number 1)
    | designating => some (if c ≤ '2' then ended else number 1)
    | signs => some (number 1)
    | separated => some (number 1)
    | number digits => if digits < 5 then some (number (digits + 1)) else none
    | ended => none
  else if c = '(' || c = ')' then
    match state with
    | introduced => some designating
    | designating => some signs
    | signs => some signs
    | _ => none
  else if c = ';' then
    match state with
    | introduced => some signs
    | designating => some signs
    | signs => some signs
    | separated => some separated
    | number digits => if digits < 5 then some separated else none
    | ended => none
  else if c = '[' || c = '#' || c = '?' then
    match state with
    | introduced => some signs
    | designating => some signs
    | signs => some signs
    | _ => none
  else if isFinal c && state.isOpen then some ended
  else none

/-- The number of characters of the longest sequence, of which `count` characters were read; `best`
is the longest so far. -/
def longest (state : EscapeState) (count : Nat) (best : Option Nat) : List Char → Option Nat
  | [] => best
  | c :: rest =>
    match state.step c with
    | none => best
    | some next =>
      next.longest (count + 1) (if next.isComplete then some (count + 1) else best) rest

end EscapeState

/-- Whether the character introduces an escape sequence. -/
def isEscape (c : Char) : Bool :=
  c = '\x1b' || c = '\u009b'

/-- The number of characters of a command up to its terminator, or all. -/
def commandLength : List Char → Nat
  | [] => 0
  | '\x07' :: _ => 1
  | '\u009c' :: _ => 1
  | '\x1b' :: '\\' :: _ => 2
  | _ :: rest => commandLength rest + 1

/-- The number of characters that belong to an escape sequence behind its first one, if it is one. -/
def sequenceLength? : List Char → Option Nat
  | ']' :: rest => some (commandLength rest + 1)
  | cs => EscapeState.introduced.longest 0 none cs

/-- A part of a styled text. -/
inductive StyledPart where
  | glyph (c : Char)
  | sequence (cs : List Char)
  deriving DecidableEq, Repr

namespace StyledPart

/-- The parts of a text. -/
def ofChars : List Char → List StyledPart
  | [] => []
  | c :: rest =>
    match if isEscape c then sequenceLength? rest else none with
    | none => glyph c :: ofChars rest
    | some count => sequence (c :: rest.take count) :: ofChars (rest.drop count)
  termination_by cs => cs.length
  decreasing_by
    · simp
    · simp only [List.length_drop, List.length_cons]
      omega

/-- The sequence of a part that is not shown. -/
def sequence? : StyledPart → Option (List Char)
  | glyph _ => none
  | sequence cs => some cs

end StyledPart

/-- The sequence that takes all styles back. -/
def resetSequence : List Char :=
  ['\x1b', '[', '0', 'm']

/-- The sequences in force after a text, given those before it. -/
def stylesAfter (active : List (List Char)) (s : String) : List (List Char) :=
  ((StyledPart.ofChars s.toList).filterMap StyledPart.sequence?).foldl
    (fun active cs => if cs = resetSequence then [] else active ++ [cs]) active

/-- The lines of a styled text, each with the styles in force at its beginning set again, and reset
at its end. -/
def closeStyles (active : List (List Char)) : List String → List String
  | [] => []
  | line :: rest =>
    let after := stylesAfter active line
    (String.ofList active.flatten ++ line ++
        (if after = [] then "" else String.ofList resetSequence)) :: closeStyles after rest

/-- The number of terminal columns that a styled text takes. -/
def styledWidth (s : String) : Nat :=
  width (shown s)

end Text
end LegendReport
