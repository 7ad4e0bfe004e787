/-!
# What a terminal shows of a text

A terminal reads a text character by character.  An escape character begins a
control sequence, which is not shown.  What stands behind the escape character
decides how far the sequence goes: to the next character, to a letter, or to the
end of a string that only the terminal reads.  Another escape character gives the
sequence up and begins a new one.

Control characters are shown wherever they do not end a string, so a sequence
can have some of them inside.
-/

namespace LegendReport
namespace Text

/-- What a terminal reads. -/
inductive ControlState where
  /-- Text that is shown. -/
  | plain
  /-- What an escape character begins. -/
  | escape
  /-- A sequence of two or more characters, of which the last is still to come. -/
  | designation
  /-- Parameters up to a letter. -/
  | control
  /-- Parameters up to a letter, behind which a string follows. -/
  | deviceHeader
  /-- A string up to a terminator. -/
  | deviceString
  /-- A string up to a bell. -/
  | command
  /-- A string up to the next escape character. -/
  | hidden
  deriving DecidableEq, Repr

namespace ControlState

/-- Whether the character gives a sequence up, and is shown itself. -/
def cancels (c : Char) : Bool :=
  c = '\x18' || c = '\x1a'

/-- Whether the character is from the range of signs behind an escape character that are followed
by others. -/
def isIntermediate (c : Char) : Bool :=
  ' ' ≤ c && c ≤ '/'

/-- Whether the character can end a sequence of parameters. -/
def isLast (c : Char) : Bool :=
  '@' ≤ c && c ≤ '~'

/-- What the first character behind an escape character leads to. -/
def introduce (c : Char) : ControlState :=
  if isIntermediate c then designation
  else if c = '[' then control
  else if c = 'P' then deviceHeader
  else if c = ']' then command
  else if c = 'X' || c = '^' || c = '_' then hidden
  else if '0' ≤ c && c ≤ '~' then plain
  else escape

/-- What is read after one more character. -/
def step (state : ControlState) (c : Char) : ControlState :=
  if c = '\x1b' then escape
  else if cancels c then plain
  else
    match state with
    | plain => plain
    | escape => introduce c
    | designation => if '0' ≤ c && c ≤ '~' then plain else designation
    | control => if isLast c then plain else control
    | deviceHeader => if isLast c then deviceString else deviceHeader
    | deviceString => if c = '\u009c' then plain else deviceString
    | command => if c = '\x07' then plain else command
    | hidden => hidden

/-- Whether control characters are shown inside of what is read. -/
def showsControls : ControlState → Bool
  | plain => true
  | escape => true
  | designation => true
  | control => true
  | _ => false

/-- Whether a character is shown. -/
def shows (state : ControlState) (c : Char) : Bool :=
  c ≠ '\x1b' && (state = plain || cancels c || (state.showsControls && c < ' '))

/-- What is shown of the characters, where `held` was read since the last escape character, from
the last to the first.  A sequence that the text leaves unfinished is none: of it the escape
character alone is not shown. -/
def shown (state : ControlState) (held : List Char) : List Char → List Char
  | [] => held.reverse
  | c :: rest =>
    let next := state.step c
    if state.shows c then c :: next.shown (if next = plain then [] else held) rest
    else next.shown (if next = plain || c = '\x1b' then [] else c :: held) rest

end ControlState

/-- What a terminal shows of a text. -/
def shown (s : String) : String :=
  String.ofList (ControlState.plain.shown [] s.toList)

end Text
end LegendReport
