import LegendReport.Text.Pattern.Escape

/-!
# Sets in brackets

Brackets enclose the members of a set: characters, ranges, classes and sets in
brackets of their own.  A circumflex in front stands for all other characters.
Two ampersands, hyphens or tildes between members make the intersection, the
difference or the symmetric difference of what stands before and behind them.

Signs at the beginning of a set stand for themselves if they would make no sense
there: hyphens, and a closing bracket if nothing is in front of it.
-/

namespace LegendReport
namespace Text
namespace Pattern

/-- The class of ASCII characters that a name between colons stands for. -/
def namedClass? : String → Option CharSet
  | "alnum" => some (.ofRanges [('0', '9'), ('A', 'Z'), ('a', 'z')])
  | "alpha" => some (.ofRanges [('A', 'Z'), ('a', 'z')])
  | "ascii" => some (.range '\x00' '\x7f')
  | "blank" => some (.ofRanges [('\t', '\t'), (' ', ' ')])
  | "cntrl" => some (.ofRanges [('\x00', '\x1f'), ('\x7f', '\x7f')])
  | "digit" => some Escape.digits
  | "graph" => some (.range '!' '~')
  | "lower" => some (.range 'a' 'z')
  | "print" => some (.range ' ' '~')
  | "punct" => some (.ofRanges [('!', '/'), (':', '@'), ('[', '\x60'), ('\x7b', '~')])
  | "space" => some Escape.spaces
  | "upper" => some (.range 'A' 'Z')
  | "word" => some Escape.wordChars
  | "xdigit" => some (.ofRanges [('0', '9'), ('A', 'F'), ('a', 'f')])
  | _ => none

/-- A set in a written pattern, with the depth to which its form is nested. -/
structure NestedSet where
  set : CharSet
  depth : Nat
  deriving DecidableEq, Repr

/-- The members of a set that were read, with the greatest depth among them. -/
structure Members where
  set : CharSet
  count : Nat
  depth : Nat
  deriving DecidableEq, Repr

namespace Members

/-- No members. -/
def none : Members :=
  ⟨.empty, 0, 0⟩

/-- One more member. -/
def push (members : Members) (member : NestedSet) : Members :=
  ⟨members.set.union member.set, members.count + 1, max members.depth member.depth⟩

/-- The set of the members.  Two or more of them are nested one level deeper. -/
def nested (members : Members) : NestedSet :=
  ⟨members.set, if members.count < 2 then members.depth else members.depth + 1⟩

end Members

/-- How two sets are put together. -/
abbrev SetOperation := CharSet → CharSet → CharSet

/-- A set whose closing bracket is still to come. -/
structure Bracket where
  /-- Whether the set is of all other characters. -/
  negated : Bool
  /-- What stands before the last operation. -/
  before : Option (NestedSet × SetOperation)
  /-- The members behind the last operation. -/
  members : Members
  /-- Whether only hyphens were read. -/
  opening : Bool

namespace Bracket

/-- The set of what was read. -/
def content (mode : Mode) (bracket : Bracket) : NestedSet :=
  let members := bracket.members.nested
  match bracket.before with
  | none => members
  | some (before, operation) =>
    ⟨operation (mode.fold before.set) (mode.fold members.set), max before.depth members.depth + 1⟩

/-- The bracket behind one more member. -/
def push (bracket : Bracket) (member : NestedSet) : Bracket :=
  { bracket with members := bracket.members.push member, opening := false }

/-- The bracket behind an operation. -/
def operate (mode : Mode) (operation : SetOperation) (bracket : Bracket) : Bracket :=
  ⟨bracket.negated, some (bracket.content mode, operation), .none, false⟩

/-- The set of a bracket that is closed. -/
def close? (mode : Mode) (bracket : Bracket) : Option NestedSet :=
  let content := bracket.content mode
  let folded := mode.fold content.set
  (if bracket.negated then mode.complement? folded else some folded).map
    fun set => ⟨set, content.depth + 1⟩

/-- Begins a set behind its opening bracket. -/
def start (mode : Mode) (cs : List Char) : Bracket × List Char :=
  match mode.visible cs with
  | '^' :: rest => (⟨true, none, .none, true⟩, rest)
  | rest => (⟨false, none, .none, true⟩, rest)

end Bracket

section Members

/-- The set of a single character among the members of a set. -/
def memberChar? (mode : Mode) (c : Char) : Option CharSet :=
  if mode.unicode || c.toNat < 0x80 then mode.members? (.single c) else none

/-- The range between two characters among the members of a set. -/
def memberRange? (mode : Mode) (first last : Char) : Option CharSet :=
  if first.toNat ≤ last.toNat && (mode.unicode || last.toNat < 0x80) then
    mode.members? (.range first last)
  else none

/-- Reads a character, which may stand behind a backslash, or a class behind one. -/
def memberSign? (mode : Mode) : List Char → Option (Escape × List Char)
  | [] => none
  | '\\' :: rest => Escape.read? mode rest
  | c :: rest => some (.char c, rest)

/-- The set of a sign that is no part of a range. -/
def Escape.memberSet? (mode : Mode) : Escape → Option CharSet
  | .char c => memberChar? mode c
  | .members set => mode.members? set
  | .edge _ => none

/-- Whether a hyphen in front of the characters is no sign of a range: the next sign, which can stand
behind a number sign too, closes the set or is a hyphen itself. -/
def isLoneHyphen (mode : Mode) (cs : List Char) : Bool :=
  let next (cs : List Char) : List Char :=
    if mode.spaced then cs.dropWhile whiteSpace.contains else cs
  let ends (cs : List Char) : Bool := cs.head?.any fun c => c = ']' || c = '-'
  match next cs with
  | '#' :: rest => mode.spaced && ends (next rest)
  | rest => ends rest

/-- Reads a member: a character, a class or a range. -/
def member? (mode : Mode) (cs : List Char) : Option (CharSet × List Char) :=
  (memberSign? mode cs).bind fun first =>
    match mode.visible first.2 with
    | '-' :: rest =>
      if isLoneHyphen mode rest then
        (first.1.memberSet? mode).map fun set => (set, '-' :: rest)
      else
        (memberSign? mode (mode.visible rest)).bind fun last =>
          match first.1, last.1 with
          | .char low, .char high => (memberRange? mode low high).map fun set => (set, last.2)
          | _, _ => none
    | rest => (first.1.memberSet? mode).map fun set => (set, rest)

/-- Reads a class by its name between colons, behind the opening bracket in front of it. -/
def classByName? (mode : Mode) : List Char → Option (Option CharSet × List Char)
  | ':' :: rest =>
    let negated := rest.head? = some '^'
    let named := if negated then rest.drop 1 else rest
    let name := named.takeWhile (· ≠ ':')
    match named.drop name.length with
    | ':' :: ']' :: rest =>
      (namedClass? (String.ofList name)).map fun set =>
        ((if negated then mode.complement? set else some set).bind mode.members?, rest)
    | _ => none
  | _ => none

end Members

/-- Reads a set in brackets, where `outer` are the brackets around the innermost one. At most `limit`
signs are read. -/
def bracketed? (mode : Mode) :
    Nat → Bracket → List Bracket → List Char → Option (NestedSet × List Char)
  | 0, _, _, _ => none
  | limit + 1, bracket, outer, cs =>
    let continued (read : CharSet × List Char) : Option (NestedSet × List Char) :=
      bracketed? mode limit (bracket.push ⟨read.1, 0⟩) outer read.2
    let operated (operation : SetOperation) (rest : List Char) :
        Option (NestedSet × List Char) :=
      bracketed? mode limit (bracket.operate mode operation) outer rest
    match mode.visible cs with
    | [] => none
    | c :: rest =>
      if bracket.opening && c = '-' then
        (memberChar? mode c).bind fun set =>
          bracketed? mode limit { bracket.push ⟨set, 0⟩ with opening := true } outer rest
      else if bracket.opening && bracket.members.count = 0 && c = ']' then
        (memberChar? mode c).bind fun set => continued (set, rest)
      else
        match c :: rest with
        | '[' :: rest =>
          match classByName? mode rest with
          | some (found, rest) => found.bind fun set => continued (set, rest)
          | none =>
            let inner := Bracket.start mode rest
            bracketed? mode limit inner.1 (bracket :: outer) inner.2
        | ']' :: rest =>
          (bracket.close? mode).bind fun closed =>
            match outer with
            | [] => some (closed, rest)
            | enclosing :: more => bracketed? mode limit (enclosing.push closed) more rest
        | '&' :: '&' :: rest => operated CharSet.inter rest
        | '-' :: '-' :: rest => operated CharSet.diff rest
        | '~' :: '~' :: rest => operated CharSet.symmDiff rest
        | signs => (member? mode signs).bind continued

/-- Reads a set behind its opening bracket. -/
def bracketSet? (mode : Mode) (cs : List Char) : Option (NestedSet × List Char) :=
  let bracket := Bracket.start mode cs
  bracketed? mode (cs.length + 1) bracket.1 [] bracket.2

end Pattern
end Text
end LegendReport
