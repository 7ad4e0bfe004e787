import LegendReport.Xml.Namespaces
import LegendReport.Xml.Node

/-!
# Reading XML documents

A document is read from the pieces of its markup.  Elements are opened and
closed with a stack of the elements around the current place, each with the
nodes it holds so far.  Adjacent runs of text and literal sections are one text
node.  Around the root element there are only comments, processing instructions
and white space.

A byte order mark may stand at the start of a document, and after it an XML
declaration.
-/

namespace LegendReport
namespace Xml

/-- An element that is open: its name as written, its expanded name, the namespaces in force and
its nodes so far, in reverse. -/
structure OpenElement where
  name : TagName
  tag : ExpandedName
  scope : Scope
  nodes : List Node

namespace OpenElement

/-- The element with one more node. -/
def add (element : OpenElement) (node : Node) : OpenElement :=
  { element with nodes := node :: element.nodes }

/-- The element with more text, which joins the text node at the end if there is one. -/
def addText (element : OpenElement) (chars : List Char) : OpenElement :=
  match element.nodes with
  | .text before :: earlier =>
    { element with nodes := .text (before ++ String.ofList chars) :: earlier }
  | _ => element.add (.text (String.ofList chars))

/-- The element as a node, once it is closed. -/
def close (element : OpenElement) : Node :=
  .element element.tag element.nodes.reverse

end OpenElement

/-- Reads the content of the innermost open element and of the elements around it up to the end of
the outermost, which is returned with the markup that follows it. -/
def content? :
    OpenElement → List OpenElement → List Markup → Option (OpenElement × List Markup)
  | _, _, [] => none
  | element, around, .startTag name attributes empty :: rest =>
    match openTag? element.scope name attributes with
    | some (tag, scope) =>
      if empty then content? (element.add (.element tag [])) around rest
      else content? ⟨name, tag, scope, []⟩ (element :: around) rest
    | none => none
  | element, around, .endTag name :: rest =>
    if name = element.name then
      match around with
      | [] => some (element, rest)
      | outer :: farther => content? (outer.add element.close) farther rest
    else none
  | element, around, .text chars :: rest =>
    match textChars? chars with
    | some plain => content? (element.addText plain) around rest
    | none => none
  | element, around, .cdata chars :: rest =>
    content? (element.addText (sectionChars chars)) around rest
  | element, around, .comment chars :: rest =>
    content? (element.add (.comment (String.ofList chars))) around rest
  | element, around, .instruction target chars :: rest =>
    content? (element.add (.instruction (String.ofList target) (String.ofList chars))) around rest

/-- The comments and processing instructions at the start of a list of pieces, and the pieces that
follow them; white space between them is skipped. -/
def margin : List Markup → List Node × List Markup
  | .comment chars :: rest =>
    let (nodes, after) := margin rest
    (.comment (String.ofList chars) :: nodes, after)
  | .instruction target chars :: rest =>
    let (nodes, after) := margin rest
    (.instruction (String.ofList target) (String.ofList chars) :: nodes, after)
  | .text chars :: rest =>
    if chars.all isSpace then margin rest else ([], .text chars :: rest)
  | pieces => ([], pieces)

/-- The root element at the start of a list of pieces, and the pieces that follow it. -/
def rootElement? : List Markup → Option (OpenElement × List Markup)
  | .startTag name attributes empty :: rest =>
    match openTag? [] name attributes with
    | some (tag, scope) =>
      if empty then some (⟨name, tag, scope, []⟩, rest) else content? ⟨name, tag, scope, []⟩ [] rest
    | none => none
  | _ => none

namespace Document

/-- The document of a list of pieces. -/
def ofMarkup? (pieces : List Markup) : Option Document :=
  let (prolog, body) := margin pieces
  match rootElement? body with
  | some (root, after) =>
    match margin after with
    | (epilog, []) => some ⟨prolog, root.tag, root.nodes.reverse, epilog⟩
    | (_, _ :: _) => none
  | none => none

/-- What follows the white space between two parts of a declaration; before its end none is
needed. -/
def declarationGap? (cs : List Char) : Option (List Char) :=
  if (cs.head?.any isSpace || (Markup.after? "?>".toList cs).isSome) then
    some (Markup.skipSpace cs)
  else none

/-- What follows the attribute at the start of a text, if its name starts with the given letters. -/
def declarationPart? (letters : String) (cs : List Char) : Option (List Char) :=
  if (Markup.after? letters.toList cs).isSome then
    (Markup.attribute? cs).map fun found => found.2
  else none

/-- The same for an attribute that may be missing, and then nothing is skipped. -/
def optionalPart? (letters : String) (cs : List Char) : Option (List Char) :=
  if (Markup.after? letters.toList cs).isSome then
    (Markup.attribute? cs).bind fun found => declarationGap? found.2
  else some cs

/-- What follows an XML declaration, given what comes after its opening.  It has a version, then
perhaps an encoding and then perhaps a standalone part; no value is checked. -/
def declaration? (cs : List Char) : Option (List Char) := do
  let afterVersion ← declarationPart? "version" (Markup.skipSpace cs)
  let afterGap ← declarationGap? afterVersion
  let afterEncoding ← optionalPart? "encoding" afterGap
  let afterStandalone ← optionalPart? "standalone" afterEncoding
  Markup.after? "?>".toList afterStandalone

/-- What is said of a text that no document can be read from.  The place and the kind of the mistake
are not told. -/
def malformedReason : String := "malformed markup"

/-- The document that a text describes, unless it is malformed. -/
def read? (text : String) : Option Document :=
  let chars :=
    match text.toList with
    | '\uFEFF' :: rest => rest
    | whole => whole
  match Markup.after? "<?xml ".toList chars with
  | some _ =>
    (declaration? (chars.drop "<?xml".length)).bind fun body =>
      (Markup.ofChars? body).bind ofMarkup?
  | none => (Markup.ofChars? chars).bind ofMarkup?

end Document

end Xml
end LegendReport
