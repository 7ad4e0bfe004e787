import LegendReport.Xml.Characters

/-!
# Markup

The text of a document is a sequence of tags, comments, processing instructions
and runs of character data.  Reading that sequence needs no knowledge of the
tree: what a piece of markup is can be seen from its own characters.
-/

namespace LegendReport
namespace Xml

/-- The name of a tag or an attribute as it is written: what stands before the colon, which may be
empty or missing, and the local part. -/
structure TagName where
  space : List Char
  localPart : List Char
  deriving DecidableEq, Repr

/-- An attribute as it is written, its value without the quotes. -/
structure Attribute where
  name : TagName
  value : List Char
  deriving DecidableEq, Repr

/-- A piece of markup, or a run of character data between two such pieces. -/
inductive Markup where
  | startTag (name : TagName) (attributes : List Attribute) (empty : Bool)
  | endTag (name : TagName)
  | text (chars : List Char)
  | cdata (chars : List Char)
  | comment (chars : List Char)
  | instruction (target chars : List Char)
  deriving DecidableEq, Repr

namespace Markup

section Pieces

/-- What follows a literal at the start of a text. -/
def after? : List Char → List Char → Option (List Char)
  | [], cs => some cs
  | _ :: _, [] => none
  | l :: literal, c :: cs => if l = c then after? literal cs else none

/-- The characters before and after the first occurrence of a literal. -/
def breakAt? (literal : List Char) : List Char → Option (List Char × List Char)
  | [] => (after? literal []).map fun rest => ([], rest)
  | c :: cs =>
    match after? literal (c :: cs) with
    | some rest => some ([], rest)
    | none => (breakAt? literal cs).map fun (before, rest) => (c :: before, rest)

/-- The text without the white space at its start. -/
def skipSpace (cs : List Char) : List Char :=
  cs.dropWhile isSpace

/-- The name at the start of a text, with at most one colon. -/
def tagName? (cs : List Char) : Option (TagName × List Char) :=
  let run := cs.takeWhile fun c => c == ':' || nameChar.contains c
  let rest := cs.dropWhile fun c => c == ':' || nameChar.contains c
  match run.splitOn ':' with
  | [localPart] =>
    if isPlainName localPart then some (⟨[], localPart⟩, rest) else none
  | [space, localPart] =>
    if (space.isEmpty || isPlainName space) && isPlainName localPart then
      some (⟨space, localPart⟩, rest)
    else none
  | _ => none

/-- The target of a processing instruction, in which colons are ordinary. -/
def target? (cs : List Char) : Option (List Char × List Char) :=
  match cs with
  | [] => none
  | c :: rest =>
    if c == ':' || nameStart.contains c then
      some
        (c :: rest.takeWhile (fun d => d == ':' || nameChar.contains d),
          rest.dropWhile fun d => d == ':' || nameChar.contains d)
    else none

/-- The quoted value at the start of a text; a value holds allowed characters other than `<`. -/
def quoted? (cs : List Char) : Option (List Char × List Char) :=
  match cs with
  | [] => none
  | quote :: rest =>
    if quote == '"' || quote == '\'' then
      match rest.dropWhile (· != quote) with
      | [] => none
      | _ :: after =>
        let value := rest.takeWhile (· != quote)
        if value.all (fun c => isAllowed c && c != '<') then some (value, after) else none
    else none

/-- The attribute at the start of a text. -/
def attribute? (cs : List Char) : Option (Attribute × List Char) := do
  let (name, afterName) ← tagName? cs
  let afterEquals ← after? ['='] (skipSpace afterName)
  let (value, rest) ← quoted? (skipSpace afterEquals)
  return (⟨name, value⟩, rest)

/-- The attributes of a tag and its end, with the attributes so far in reverse.  White space stands
before each attribute.  The number bounds how many attributes are read. -/
def attributes? :
    Nat → List Attribute → List Char → Option (List Attribute × Bool × List Char)
  | 0, _, _ => none
  | bound + 1, found, cs =>
    match skipSpace cs with
    | [] => none
    | '>' :: rest => some (found.reverse, false, rest)
    | '/' :: '>' :: rest => some (found.reverse, true, rest)
    | other =>
      if cs.head?.any isSpace then
        match attribute? other with
        | some (next, rest) => attributes? bound (next :: found) rest
        | none => none
      else none

end Pieces

/-- A comment, given what follows its opening.  It holds no two hyphens in a row and does not end
with one. -/
def comment? (cs : List Char) : Option (Markup × List Char) := do
  let (chars, rest) ← breakAt? "-->".toList cs
  if chars.all isAllowed && (breakAt? "--".toList chars).isNone && chars.getLast? != some '-' then
    return (.comment chars, rest)
  else none

/-- A section of literal character data, given what follows its opening. -/
def cdata? (cs : List Char) : Option (Markup × List Char) := do
  let (chars, rest) ← breakAt? "]]>".toList cs
  if chars.all isAllowed then return (.cdata chars, rest) else none

/-- A processing instruction, given what follows its opening. -/
def instruction? (cs : List Char) : Option (Markup × List Char) := do
  if (after? "xml ".toList cs).isSome then none
  let (target, afterTarget) ← target? cs
  let (chars, rest) ← breakAt? "?>".toList (skipSpace afterTarget)
  if chars.all isAllowed then return (.instruction target chars, rest) else none

/-- An end tag, given what follows its opening. -/
def endTag? (cs : List Char) : Option (Markup × List Char) := do
  let (name, afterName) ← tagName? cs
  let rest ← after? ['>'] (skipSpace afterName)
  return (.endTag name, rest)

/-- A start tag, given what follows its opening. -/
def startTag? (cs : List Char) : Option (Markup × List Char) := do
  let (name, afterName) ← tagName? cs
  let (attributes, empty, rest) ← attributes? (cs.length + 1) [] afterName
  return (.startTag name attributes empty, rest)

/-- A run of character data: allowed characters without the end of a literal section. -/
def text? (cs : List Char) : Option Markup :=
  if cs.all isAllowed && (breakAt? "]]>".toList cs).isNone then some (.text cs) else none

/-- The first piece of a text and what follows it. -/
def next? (cs : List Char) : Option (Markup × List Char) :=
  match cs with
  | '<' :: '!' :: '-' :: '-' :: rest => comment? rest
  | '<' :: '!' :: '[' :: 'C' :: 'D' :: 'A' :: 'T' :: 'A' :: '[' :: rest => cdata? rest
  | '<' :: '!' :: _ => none
  | '<' :: '?' :: rest => instruction? rest
  | '<' :: '/' :: rest => endTag? rest
  | '<' :: rest => startTag? rest
  | _ => (text? (cs.takeWhile (· != '<'))).map fun text => (text, cs.dropWhile (· != '<'))

/-- The pieces of a text, at most as many as the number says. -/
def scan? : Nat → List Char → Option (List Markup)
  | _, [] => some []
  | 0, _ :: _ => none
  | bound + 1, c :: cs =>
    match next? (c :: cs) with
    | some (piece, rest) => (scan? bound rest).map (piece :: ·)
    | none => none

/-- The pieces of a text, unless one of them is malformed.  Every piece has a character of its own,
so the length of the text bounds their number. -/
def ofChars? (cs : List Char) : Option (List Markup) :=
  scan? cs.length cs

end Markup

end Xml
end LegendReport
