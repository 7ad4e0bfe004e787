import LegendReport.Text.Blank
import LegendReport.Text.Pattern.Basic

/-!
# Modes of written patterns

The signs of a written pattern are read in a mode, which the pattern itself can
change.  Each setting of a mode has a letter.

Letter cases and classes by name are those of ASCII.  So a pattern for all
characters, as patterns usually are, cannot leave letter case aside and has no
classes behind a backslash, and a pattern for ASCII has no sets with other
characters.
-/

namespace LegendReport
namespace Text
namespace Pattern

/-- The settings that a pattern is read with. -/
structure Mode where
  /-- Letters stand for both of their cases. -/
  anyCase : Bool
  /-- The signs for the edges of the text stand for the edges of lines. -/
  byLine : Bool
  /-- A dot stands for the ends of lines too. -/
  dotAll : Bool
  /-- Repetitions stop rather than go on. -/
  lazy : Bool
  /-- Sets are for all characters, not just for those of ASCII. -/
  unicode : Bool
  /-- A carriage return ends a line as well. -/
  returns : Bool
  /-- White space and comments are left out. -/
  spaced : Bool
  deriving DecidableEq, Repr

namespace Mode

/-- The mode that a pattern begins with. -/
def usual : Mode :=
  ⟨false, false, false, false, true, false, false⟩

/-- The mode with the setting of a letter. -/
def set? (mode : Mode) (letter : Char) (on : Bool) : Option Mode :=
  match letter with
  | 'i' => some { mode with anyCase := on }
  | 'm' => some { mode with byLine := on }
  | 's' => some { mode with dotAll := on }
  | 'U' => some { mode with lazy := on }
  | 'u' => some { mode with unicode := on }
  | 'R' => some { mode with returns := on }
  | 'x' => some { mode with spaced := on }
  | _ => none

/-- Reads the letters of settings up to the colon or the parenthesis behind them.  A hyphen switches
the settings that follow it off.  No sign is written twice, and a hyphen is not the last; `seen`
was read before, the last first.  The result is the mode, whether there are no letters, and what is
left. -/
def read? (mode : Mode) (on : Bool) (seen : List Char) :
    List Char → Option (Mode × Bool × List Char)
  | [] => none
  | c :: rest =>
    if c = ':' || c = ')' then
      if seen.head? = some '-' then none else some (mode, seen.isEmpty, c :: rest)
    else if seen.contains c then none
    else if c = '-' then read? mode false (c :: seen) rest
    else (mode.set? c on).bind fun next => read? next on (c :: seen) rest

/-- What is left behind white space and comments, which go to the end of a line. -/
def skipSpace (inComment : Bool) : List Char → List Char
  | [] => []
  | c :: rest =>
    if inComment then skipSpace (c ≠ '\n') rest
    else if whiteSpace.contains c then skipSpace false rest
    else if c = '#' then skipSpace true rest
    else c :: rest

/-- What is left behind the characters that the mode leaves out. -/
def visible (mode : Mode) (cs : List Char) : List Char :=
  if mode.spaced then skipSpace false cs else cs

/-- A set with the other letter cases if the mode asks for them. -/
def fold (mode : Mode) (set : CharSet) : CharSet :=
  if mode.anyCase && !mode.unicode then set.withOtherCases else set

/-- The set of members of a set if the mode allows for them. -/
def members? (mode : Mode) (set : CharSet) : Option CharSet :=
  if mode.unicode && mode.anyCase then none else some set

/-- The complement of a set if the mode has it. -/
def complement? (mode : Mode) (set : CharSet) : Option CharSet :=
  if mode.unicode then some set.complement else none

/-- The pattern of a character that stands for itself. -/
def literal? (mode : Mode) (c : Char) : Option Pattern :=
  if mode.anyCase && mode.unicode then none
  else if mode.anyCase && c.isAlpha then some (ofSet (mode.fold (.single c)))
  else some (text [c])

/-- The pattern of a dot. -/
def dot? (mode : Mode) : Option Pattern :=
  if !mode.unicode then none
  else if mode.dotAll then some (one .all)
  else if mode.returns then
    some (one ((CharSet.single '\n').union (CharSet.single '\r')).complement)
  else some (one (CharSet.single '\n').complement)

/-- The edge that a sign in front stands for. -/
def front (mode : Mode) : Edge :=
  if mode.byLine then if mode.returns then .returnedLineStart else .lineStart else .textStart

/-- The edge that a sign behind stands for. -/
def back (mode : Mode) : Edge :=
  if mode.byLine then if mode.returns then .returnedLineEnd else .lineEnd else .textEnd

end Mode

end Pattern
end Text
end LegendReport
