import LegendReport.Text.CharSet

/-!
# Patterns

A pattern describes texts by characters, sets of characters, edges, sequence,
choice and repetition.

The ways through a pattern are ranked: the first branch of a choice comes before
the second, and a greedy repetition goes on before it stops.  Which ways cut each
other off depends on the form of a pattern, so patterns are put together in a
normal form.  In a sequence neighbouring texts are one text; a choice between
characters is a set; and what all branches of a choice begin with stands in front
of it.  A group keeps its inside apart from the parts around it.
-/

namespace LegendReport
namespace Text

/-- A place between two characters. -/
inductive Edge where
  | textStart
  | textEnd
  /-- The start of a line. -/
  | lineStart
  | lineEnd
  /-- The start of a line where a carriage return ends a line as well. -/
  | returnedLineStart
  | returnedLineEnd
  /-- The start or the end of a word of ASCII characters. -/
  | wordEdge
  | wordInside
  | wordStart
  | wordEnd
  deriving DecidableEq, Repr

namespace Edge

/-- Whether a character, if there is one, belongs to a word. -/
def isWord (neighbour : Option Char) : Bool :=
  neighbour.any fun c => c.isAlphanum || c = '_'

/-- Whether the edge lies between the character before and the character after. -/
def holds (before after : Option Char) : Edge → Bool
  | textStart => before.isNone
  | textEnd => after.isNone
  | lineStart => before.all (· = '\n')
  | lineEnd => after.all (· = '\n')
  | returnedLineStart =>
    before.all (· = '\n') || (before = some '\r' && after ≠ some '\n')
  | returnedLineEnd =>
    after.all (· = '\r') || (after = some '\n' && before ≠ some '\r')
  | wordEdge => isWord before ≠ isWord after
  | wordInside => isWord before = isWord after
  | wordStart => !isWord before && isWord after
  | wordEnd => isWord before && !isWord after

/-- Whether the character before alone shows that the edge is there. -/
def isKnown (before : Option Char) : Edge → Bool
  | textStart => before.isNone
  | lineStart => before.all (· = '\n')
  | returnedLineStart => before.all (· = '\n')
  | _ => false

end Edge

/-- How often the body of a repetition stands. -/
inductive Times where
  | atMostOnce
  | atLeastOnce
  | any
  deriving DecidableEq, Repr

/-- A description of texts. -/
inductive Pattern where
  | empty
  | text (chars : List Char)
  | one (set : CharSet)
  | edge (edge : Edge)
  | repeated (times : Times) (greedy : Bool) (body : Pattern)
  /-- A group with its number among all groups. -/
  | group (number : Nat) (body : Pattern)
  | sequence (first second : Pattern)
  | choice (first second : Pattern)
  deriving DecidableEq, Repr

namespace Pattern

/-- Whether the pattern is for the empty text only, or else for no text because an edge is not
there. -/
def readsNothing : Pattern → Bool
  | empty => true
  | text chars => chars.isEmpty
  | one _ => false
  | edge _ => true
  | repeated times _ body => times = .atMostOnce && body.readsNothing
  | group _ body => body.readsNothing
  | sequence first second => first.readsNothing && second.readsNothing
  | choice first second => first.readsNothing && second.readsNothing

/-- The least number of characters that the pattern reads.  There is none if a part of the pattern
is a set without characters. -/
def leastLength? : Pattern → Option Nat
  | empty => some 0
  | text chars => some chars.length
  | one set => if set = .empty then none else some 1
  | edge _ => some 0
  | repeated times _ body =>
    body.leastLength?.map fun least => if times = .atLeastOnce then least else 0
  | group _ body => body.leastLength?
  | sequence first second =>
    first.leastLength?.bind fun least => second.leastLength?.map (least + ·)
  | choice first second =>
    first.leastLength?.bind fun least => second.leastLength?.map (min least)

/-- The parts of a sequence. -/
def parts : Pattern → List Pattern
  | empty => []
  | sequence first second => first.parts ++ second.parts
  | pattern => [pattern]

/-- The branches of a choice. -/
def branches : Pattern → List Pattern
  | choice first second => first.branches ++ second.branches
  | pattern => [pattern]

section NormalForm

/-- A part in front of others.  Two texts become one. -/
def pushPart : Pattern → List Pattern → List Pattern
  | text chars, text more :: rest => text (chars ++ more) :: rest
  | part, rest => part :: rest

/-- Parts one behind the other. -/
def joinParts : List Pattern → Pattern
  | [] => empty
  | [part] => part
  | part :: rest => sequence part (joinParts rest)

/-- The sequence of patterns. -/
def ofSequence (patterns : List Pattern) : Pattern :=
  joinParts ((patterns.flatMap parts).foldr pushPart [])

/-- A character of a set. -/
def ofSet (set : CharSet) : Pattern :=
  match set.only? with
  | some c => text [c]
  | none => one set

/-- Branches one behind the other, and a set without characters if there is none. -/
def joinBranches : List Pattern → Pattern
  | [] => one .empty
  | [branch] => branch
  | branch :: rest => choice branch (joinBranches rest)

/-- The character of a text of one character. -/
def singleChar? : Pattern → Option Char
  | text [c] => some c
  | _ => none

/-- The set that a character is from. -/
def wholeSet? : Pattern → Option CharSet
  | one set => some set
  | _ => none

/-- The choice between branches, which is a set if all of them are characters or all are sets. -/
def ofBranches (branches : List Pattern) : Pattern :=
  match branches with
  | [branch] => branch
  | _ =>
    match branches.mapM singleChar? with
    | some chars => ofSet (CharSet.ofRanges (chars.map fun c => (c, c)))
    | none =>
      match branches.mapM wholeSet? with
      | some sets => ofSet (sets.foldl CharSet.union .empty)
      | none => joinBranches branches

/-- What two lists begin with in common. -/
def commonStart : List Pattern → List Pattern → List Pattern
  | first :: rest, second :: more => if first = second then first :: commonStart rest more else []
  | _, _ => []

/-- What all branches begin with, if each of them has two parts or more. -/
def sharedStart : List Pattern → List Pattern
  | [] => []
  | branch :: rest =>
    let start (branch : Pattern) : List Pattern :=
      if branch.parts.length < 2 then [] else branch.parts
    rest.foldl (fun shared other => commonStart shared (start other)) (start branch)

/-- The choice between patterns. -/
def ofChoice (patterns : List Pattern) : Pattern :=
  let all := patterns.flatMap branches
  let shared := sharedStart all
  if shared = [] then ofBranches all
  else
    let rests := all.map fun branch => joinParts (branch.parts.drop shared.length)
    ofSequence (shared ++ [ofBranches (rests.flatMap branches)])

/-- The repetition of a pattern.  What reads nothing stands once at most. -/
def ofRepetition (times : Times) (greedy : Bool) (body : Pattern) : Pattern :=
  match times with
  | .atMostOnce => repeated .atMostOnce greedy body
  | .atLeastOnce => if body.readsNothing then body else repeated .atLeastOnce greedy body
  | .any => repeated (if body.readsNothing then .atMostOnce else .any) greedy body

end NormalForm

end Pattern

end Text
end LegendReport
