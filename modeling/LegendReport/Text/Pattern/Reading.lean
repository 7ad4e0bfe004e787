import LegendReport.Text.Alphanumeric
import LegendReport.Text.Pattern.Automaton
import LegendReport.Text.Pattern.Bracket

/-!
# How patterns are written

A written pattern is a regular expression: characters stand for themselves, a
dot for any character of a line, brackets enclose a set, parentheses a group,
and `|`, `*`, `+` and `?` make choices and repetitions.  A second question mark
makes a repetition stop rather than go on.  A question mark behind an opening
parenthesis names the group, or changes the mode up to the end of a group.

The tokens of a text are put together from left to right with a stack of the
groups that are open.  A form must not be nested too deeply.
-/

namespace LegendReport
namespace Text
namespace Pattern

/-- A token of a written pattern. -/
inductive Token where
  | part (pattern : Pattern) (depth : Nat)
  /-- Settings for the rest of a group. -/
  | setting (mode : Mode)
  /-- A group without a number, with settings of its own. -/
  | openPlain (mode : Mode)
  /-- A group with a number, and perhaps a name. -/
  | openNumbered (name : Option String)
  | closeGroup
  | bar
  | repeats (times : Times) (greedy : Bool)

section Tokens

/-- Whether a character can stand in the name of a group. -/
def isNameChar (first : Bool) (c : Char) : Bool :=
  c = '_' ||
    if first then alphabetic.contains c
    else c = '.' || c = '[' || c = ']' || alphanumeric.contains c

/-- Reads the name of a group up to the sign that ends it. -/
def groupName? (cs : List Char) : Option (String × List Char) :=
  let name := cs.takeWhile (· ≠ '>')
  match name, cs.drop name.length with
  | first :: others, '>' :: rest =>
    if isNameChar true first && others.all (isNameChar false) then
      some (String.ofList name, rest)
    else none
  | _, _ => none

/-- The token of a group whose name follows. -/
def namedGroup? (cs : List Char) : Option (Token × List Char) :=
  (groupName? cs).map fun read => (.openNumbered (some read.1), read.2)

/-- The token behind an opening parenthesis.  Settings without a group have at least one letter. -/
def groupToken? (mode : Mode) : List Char → Option (Token × List Char)
  | '?' :: 'P' :: '<' :: rest => namedGroup? rest
  | '?' :: '<' :: rest => namedGroup? rest
  | '?' :: rest =>
    (mode.read? true [] rest).bind fun read =>
      match read with
      | (next, _, ':' :: more) => some (.openPlain next, more)
      | (next, isEmpty, _ :: more) => if isEmpty then none else some (.setting next, more)
      | (_, _, []) => none
  | rest => some (.openNumbered none, rest)

/-- The token of a repetition, which stops rather than goes on if a question mark follows. -/
def repeatToken (mode : Mode) (times : Times) : List Char → Token × List Char
  | '?' :: rest => (.repeats times mode.lazy, rest)
  | rest => (.repeats times !mode.lazy, rest)

/-- The pattern of a backslash with the signs behind it. -/
def Escape.pattern? (mode : Mode) : Escape → Option Pattern
  | .char c => mode.literal? c
  | .members set => some (ofSet (mode.fold set))
  | .edge place => some (.edge place)

/-- The token at the beginning of a written pattern, with what is left. -/
def nextToken? (mode : Mode) : List Char → Option (Token × List Char)
  | [] => none
  | '(' :: rest => groupToken? mode (mode.visible rest)
  | ')' :: rest => some (.closeGroup, rest)
  | '|' :: rest => some (.bar, rest)
  | '?' :: rest => some (repeatToken mode .atMostOnce rest)
  | '*' :: rest => some (repeatToken mode .any rest)
  | '+' :: rest => some (repeatToken mode .atLeastOnce rest)
  | '\x7b' :: _ => none
  | '^' :: rest => some (.part (.edge mode.front) 0, rest)
  | '$' :: rest => some (.part (.edge mode.back) 0, rest)
  | '.' :: rest => mode.dot?.map fun pattern => (.part pattern 0, rest)
  | '[' :: rest =>
    (bracketSet? mode rest).map fun read => (.part (ofSet read.1.set) read.1.depth, read.2)
  | '\\' :: rest =>
    (Escape.read? mode rest).bind fun read =>
      (read.1.pattern? mode).map fun pattern => (.part pattern 0, read.2)
  | c :: rest => (mode.literal? c).map fun pattern => (.part pattern 0, rest)

end Tokens

section Groups

/-- A part of a written pattern with the depth to which its form is nested. -/
structure Part where
  pattern : Pattern
  depth : Nat
  /-- Whether a repetition can stand behind the part. -/
  repeatable : Bool

/-- Parts that stand together, which are nested one level deeper if there are two or more. -/
def nestedDepth (parts : List Part) : Nat :=
  let deepest := parts.foldl (fun depth part => max depth part.depth) 0
  if parts.length < 2 then deepest else deepest + 1

/-- A group that is being read: the finished branches of its choice, and the parts of the last
branch, both from the last to the first. -/
structure Group where
  mode : Mode
  number : Option Nat
  branches : List Part
  parts : List Part

namespace Group

/-- A group of which nothing was read. -/
def empty (mode : Mode) (number : Option Nat) : Group :=
  ⟨mode, number, [], []⟩

/-- The last branch. -/
def branch (group : Group) : Part :=
  ⟨ofSequence (group.parts.reverse.map Part.pattern), nestedDepth group.parts, true⟩

/-- What is in the group. -/
def content (group : Group) : Part :=
  let branches := group.branch :: group.branches
  ⟨ofChoice (branches.reverse.map Part.pattern), nestedDepth branches, true⟩

/-- The group as a part of another one. -/
def part (group : Group) : Part :=
  let content := group.content
  match group.number with
  | none => { content with depth := content.depth + 1 }
  | some number => ⟨.group number content.pattern, content.depth + 1, true⟩

/-- The group with one more part. -/
def push (group : Group) (part : Part) : Group :=
  { group with parts := part :: group.parts }

/-- The group with its last branch finished. -/
def next (group : Group) : Group :=
  { group with branches := group.branch :: group.branches, parts := [] }

/-- The group in another mode. -/
def setMode (group : Group) (mode : Mode) : Group :=
  { group.push ⟨.empty, 0, false⟩ with mode := mode }

/-- The group with its last part repeated. -/
def repeat? (group : Group) (times : Times) (greedy : Bool) : Option Group :=
  match group.parts with
  | [] => none
  | last :: rest =>
    if last.repeatable then
      some { group with
        parts := ⟨ofRepetition times greedy last.pattern, last.depth + 1, true⟩ :: rest }
    else none

end Group

/-- What is being read of a pattern. -/
structure Draft where
  /-- The innermost group. -/
  group : Group
  /-- The groups around it. -/
  outer : List Group
  /-- How many groups have a number. -/
  numbered : Nat
  /-- The names of groups. -/
  names : List String

namespace Draft

/-- Nothing was read. -/
def empty : Draft :=
  ⟨.empty .usual none, [], 0, []⟩

/-- Opens a group. -/
def openGroup (draft : Draft) (mode : Mode) (number : Option Nat) : Draft :=
  { draft with group := .empty mode number, outer := draft.group :: draft.outer }

/-- What is read after one more token.  A group is closed only if it is open, and no name is given
twice. -/
def step? (draft : Draft) : Token → Option Draft
  | .part pattern depth => some { draft with group := draft.group.push ⟨pattern, depth, true⟩ }
  | .setting mode => some { draft with group := draft.group.setMode mode }
  | .openPlain mode => some (draft.openGroup mode none)
  | .openNumbered name =>
    if name.any draft.names.contains then none
    else
      let opened := draft.openGroup draft.group.mode (some draft.numbered)
      some { opened with numbered := draft.numbered + 1, names := name.toList ++ draft.names }
  | .closeGroup =>
    match draft.outer with
    | [] => none
    | enclosing :: more =>
      some { draft with group := enclosing.push draft.group.part, outer := more }
  | .bar => some { draft with group := draft.group.next }
  | .repeats times greedy =>
    (draft.group.repeat? times greedy).map fun group => { draft with group := group }

end Draft

/-- The greatest depth to which the form of a pattern is nested. -/
def depthLimit : Nat := 250

/-- Reads tokens, of which there are at most `limit`, up to the end of a pattern. -/
def finish? (limit : Nat) (draft : Draft) (cs : List Char) : Option Pattern :=
  match limit, draft.group.mode.visible cs with
  | _, [] =>
    let content := draft.group.content
    if draft.outer.isEmpty && content.depth ≤ depthLimit then some content.pattern else none
  | 0, _ :: _ => none
  | limit + 1, signs =>
    (nextToken? draft.group.mode signs).bind fun read =>
      (draft.step? read.1).bind fun next => finish? limit next read.2

end Groups

/-- The pattern that a text is written for. -/
def read? (text : String) : Option Pattern :=
  finish? text.length .empty text.toList

end Pattern

end Text
end LegendReport
