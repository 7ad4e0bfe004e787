import LegendReport.Journal.Event
import LegendReport.Text.Alphanumeric
import LegendReport.Text.Blank
import LegendReport.Text.Numeral
import LegendReport.Text.Pattern.Reading

/-!
# Directives of log filters

A directive sets a threshold.  It can be restricted to the targets that start
with a text, to the inside of the spans of a name, and to what has a field, or
even a field with a value that matches a pattern.

It is written `target[span{field=pattern}]=level`, where every part can be
missing.  A word alone is a level, or else a target.  A directive without a
level lets everything through.
-/

namespace LegendReport

/-- What a directive asks of the value of a field. -/
inductive ValueTest where
  /-- A number or a truth value, which the text of a field never is. -/
  | constant
  /-- A text that matches a pattern.  What was written is kept: patterns that are written
  differently are different tests. -/
  | matching (written : String) (pattern : Text.Pattern)
  deriving DecidableEq, Repr

/-- What a directive asks of a field. -/
structure FieldTest where
  name : String
  value : Option ValueTest
  deriving DecidableEq, Repr

/-- A threshold for a part of what is reported. -/
structure Directive where
  target : Option String
  span : Option String
  field : Option FieldTest
  threshold : Threshold
  deriving DecidableEq, Repr

namespace ValueTest

def passes : ValueTest → FieldValue → Bool
  | constant, _ => false
  | matching _ pattern, value => pattern.matchesText value.render

end ValueTest

namespace FieldTest

/-- Whether there is a field of the name. -/
def isNamed (test : FieldTest) (names : List String) : Bool :=
  names.contains test.name

/-- Whether the field of the name, which is there, has a value as asked for. -/
def passes (test : FieldTest) (fields : List Field) : Bool :=
  match test.value with
  | none => true
  | some value => fields.any fun field => field.name = test.name && value.passes field.value

end FieldTest

namespace Directive

/-- A directive for everything. -/
def ofThreshold (threshold : Threshold) : Directive :=
  ⟨none, none, none, threshold⟩

/-- Whether the directive asks for a value. -/
def testsValue (directive : Directive) : Bool :=
  directive.field.any (·.value.isSome)

/-- Whether events and spans are judged by the directive one by one: it names no span and asks for
no value. -/
def judges (directive : Directive) : Bool :=
  directive.span.isNone && !directive.testsValue

/-- Whether the directive holds inside of spans: it names a span or a field. -/
def opensSpans (directive : Directive) : Bool :=
  directive.span.isSome || directive.field.isSome

/-- Whether the directive is for a target. -/
def concernsTarget (directive : Directive) (target : String) : Bool :=
  directive.target.all fun start => start.toList.isPrefixOf target.toList

/-- Whether an event is judged by the directive. -/
def judgesEvent (directive : Directive) (event : Event) : Bool :=
  directive.judges && directive.concernsTarget event.component.target &&
    directive.field.all (·.isNamed event.fieldNames)

/-- Whether a span is judged by the directive, whatever its fields. -/
def judgesSpan (directive : Directive) (span : Span) : Bool :=
  directive.judges && directive.concernsTarget span.component.target

/-- Whether the directive holds inside of the spans of this kind. -/
def opens (directive : Directive) (span : Span) : Bool :=
  directive.opensSpans && directive.concernsTarget span.component.target &&
    directive.span.all (· = span.name) &&
    directive.field.all (·.isNamed (span.fields.map Field.name))

/-- Whether the span has the value that is asked for. -/
def holdsIn (directive : Directive) (span : Span) : Bool :=
  directive.field.all (·.passes span.fields)

/-- Whether two directives differ in their thresholds only. -/
def sameScope (directive other : Directive) : Bool :=
  directive.target = other.target && directive.span = other.span && directive.field = other.field

/-- The length of the target, less than any length without one. -/
def targetRank (directive : Directive) : Nat :=
  match directive.target with
  | none => 0
  | some start => start.utf8ByteSize + 1

/-- The name of the field, or an empty text. -/
def fieldName (directive : Directive) : String :=
  match directive.field with
  | none => ""
  | some test => test.name

/-- Whether the second directive is at least as specific as the first: its target is longer, or
as long, and then its field comes later in the alphabet. -/
def yieldsTo (directive other : Directive) : Bool :=
  directive.targetRank < other.targetRank ||
    (directive.targetRank = other.targetRank && decide (directive.fieldName ≤ other.fieldName))

end Directive

section Reading

namespace Threshold

/-- The threshold that a number names. -/
def ofNumber? (word : String) : Option Threshold :=
  let digits :=
    match word.toList with
    | '+' :: rest => rest
    | whole => whole
  if Text.isNumeral digits && Text.numeralValue digits ≤ 5 then
    some (ofRank (Text.numeralValue digits))
  else none

/-- The threshold that a word names, in any letter case. -/
def ofName? (word : String) : Option Threshold :=
  match word.toLower with
  | "" => some (.upTo .error)
  | "off" => some .off
  | "error" => some (.upTo .error)
  | "warn" => some (.upTo .warn)
  | "info" => some (.upTo .info)
  | "debug" => some (.upTo .debug)
  | "trace" => some (.upTo .trace)
  | _ => none

/-- The threshold that a word or a number names. -/
def read? (word : String) : Option Threshold :=
  (ofNumber? word).or (ofName? word)

end Threshold

namespace ValueTest

/-- The text without a sign in front. -/
def unsigned : List Char → List Char
  | '+' :: rest => rest
  | '-' :: rest => rest
  | whole => whole

/-- Whether the characters are an exponent of a decimal number, or nothing. -/
def isExponent : List Char → Bool
  | [] => true
  | c :: rest => (c = 'e' || c = 'E') && Text.isNumeral (unsigned rest)

/-- Whether the characters are a decimal number without a sign. -/
def isDecimal (cs : List Char) : Bool :=
  let whole := cs.takeWhile Char.isDigit
  match cs.drop whole.length with
  | '.' :: rest =>
    let part := rest.takeWhile Char.isDigit
    (whole ≠ [] || part ≠ []) && isExponent (rest.drop part.length)
  | rest => whole ≠ [] && isExponent rest

/-- Whether a text is written as a number or a truth value. -/
def isConstant (text : String) : Bool :=
  let plain := unsigned text.toList
  text = "true" || text = "false" || isDecimal plain ||
    ["inf", "infinity", "nan"].contains (String.ofList plain).toLower

/-- What the text of a value asks for. -/
def read? (text : String) : Option ValueTest :=
  if isConstant text then some constant else (Text.Pattern.read? text).map (matching text)

end ValueTest

namespace FieldTest

/-- What a written field asks for: a name, and a value behind an equals sign.  What follows a
second equals sign is not looked at. -/
def read? (text : String) : Option FieldTest :=
  match text.toList.splitOn '=' with
  | name :: value :: _ =>
    (ValueTest.read? (String.ofList value)).map fun test => ⟨String.ofList name, some test⟩
  | _ => if text = "" then none else some ⟨text, none⟩

end FieldTest

namespace Directive

/-- The characters of a text from one place to another. -/
def slice (text : String) (start stop : Nat) : String :=
  String.ofList ((text.toList.drop start).take (stop - start))

/-- Whether a directive can start with the character, if not with a bracket. -/
def canStart (c : Char) : Bool :=
  c == '-' || c == ':' || c == '_' || Text.alphanumeric.contains c

/-- The threshold from a place to the end of a text, or everything if nothing is there. -/
def levelFrom? (text : String) (place : Nat) : Option Threshold :=
  let word := slice text place text.length
  if word = "" then some (.upTo .trace) else Threshold.read? word

/-- The threshold that follows a span.  `rest` is read at the given place. -/
def levelAfterSpan? (text : String) (place : Nat) : List Char → Option Threshold
  | [] => some (.upTo .trace)
  | '=' :: _ => levelFrom? text (place + 1)
  | _ :: _ => none

/-- Reads the field of a span, which starts at the given place, and what follows it. -/
def readField?
    (text : String)
    (target span : Option String)
    (place : Nat)
    (rest : List Char) :
    Option Directive :=
  let size := (rest.takeWhile (· ≠ '\x7d')).length
  match rest.drop size with
  | '\x7d' :: ']' :: after =>
    (FieldTest.read? (slice text place (place + size))).bind fun field =>
      (levelAfterSpan? text (place + size + 2) after).map fun threshold =>
        ⟨target, span, some field, threshold⟩
  | _ => none

/-- Reads a span, which starts at the given place behind its bracket, and what follows it.  An
empty name before a field is no name. -/
def readSpan?
    (text : String)
    (target : Option String)
    (place : Nat)
    (rest : List Char) :
    Option Directive :=
  let size := (rest.takeWhile fun c => c ≠ ']' && c ≠ '\x7b').length
  let name := slice text place (place + size)
  match rest.drop size with
  | ']' :: after =>
    (levelAfterSpan? text (place + size + 1) after).map fun threshold =>
      ⟨target, some name, none, threshold⟩
  | '\x7b' :: after =>
    readField? text target (if name = "" then none else some name) (place + size + 1) after
  | _ => none

/-- The directive that a word alone stands for: a level, or else a target. -/
def ofWord (text : String) : Directive :=
  match Threshold.read? text with
  | some threshold => ofThreshold threshold
  | none => ⟨some text, none, none, .upTo .trace⟩

/-- The directive that a text stands for.  The signs of its form are looked for without the white
space at the two ends of the text, but its parts are cut from the whole text at the places found. -/
def read? (text : String) : Option Directive :=
  match (Text.trim text).toList with
  | [] => none
  | '[' :: rest => readSpan? text none 1 rest
  | first :: rest =>
    if canStart first then
      let size := ((first :: rest).takeWhile fun c => c ≠ '=' && c ≠ '[').length
      let target := slice text 0 size
      match (first :: rest).drop size with
      | '=' :: _ =>
        (levelFrom? text (size + 1)).map fun threshold => ⟨some target, none, none, threshold⟩
      | '[' :: after => readSpan? text (some target) (size + 1) after
      | _ => some (ofWord text)
    else none

end Directive

end Reading

end LegendReport
