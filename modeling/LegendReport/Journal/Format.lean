import LegendReport.Journal.Event
import LegendReport.Text.Quoted

/-!
# Log lines

An entry of a journal is shown as one line in one of three formats.  The pretty
and the compact format show the level, the spans, the message and the fields;
they differ in where the fields of the spans stand, and both can be coloured.
The JSON format is for machines and shows the time.
-/

namespace LegendReport

/-- The formats of log lines. -/
inductive LogFormat where
  | pretty
  | compact
  | json
  deriving DecidableEq, Repr

namespace LogFormat

section Colour

/-- A text in a style of the terminal, given by its number, if colours are on. -/
def paint (coloured : Bool) (style : String) (text : String) : String :=
  if coloured then "\x1b[" ++ style ++ "m" ++ text ++ "\x1b[0m" else text

/-- The style of a level. -/
def levelStyle : Level → String
  | .error => "31"
  | .warn => "33"
  | .info => "32"
  | .debug => "34"
  | .trace => "35"

/-- The label of a level, in five columns. -/
def levelLabel (level : Level) : String :=
  String.ofList (List.replicate (5 - level.label.length) ' ') ++ level.label

end Colour

section Text

variable (coloured : Bool)

/-- A field as a name and a value. -/
def field (f : Field) : String :=
  paint coloured "3" f.name ++ paint coloured "2" "=" ++ f.value.render

/-- Fields with single spaces between them. -/
def fields (fs : List Field) : String :=
  String.intercalate " " (fs.map (field coloured))

/-- The message of an event and its fields. -/
def body (event : Event) : String :=
  event.message ++ String.join (event.fields.map fun f => " " ++ field coloured f)

/-- A span with its fields. -/
def openSpan (span : Span) : String :=
  paint coloured "1" span.name ++ paint coloured "1" "\x7b" ++ fields coloured span.fields ++
    paint coloured "1" "\x7d" ++ paint coloured "2" ":"

/-- The spans of an entry as shown by the given function, with a space behind them. -/
def spanPart (spans : List Span) (showSpan : Span → String) : String :=
  if spans = [] then "" else String.join (spans.map showSpan) ++ " "

/-- The line of an entry with the fields of each span beside its name. -/
def prettyLine (entry : Entry) : String :=
  paint coloured (levelStyle entry.event.level) (levelLabel entry.event.level) ++ " " ++
    spanPart entry.spans (openSpan coloured) ++ body coloured entry.event

/-- The line of an entry with the fields of the spans at the end. -/
def compactLine (entry : Entry) : String :=
  paint coloured (levelStyle entry.event.level) (levelLabel entry.event.level) ++ " " ++
    spanPart entry.spans (fun span => paint coloured "1" span.name ++ ":") ++
    body coloured entry.event ++
    String.join (entry.spans.map fun span => " " ++ paint coloured "2" (fields coloured span.fields))

end Text

section Machine

/-- A member of a JSON object. -/
def jsonMember (name value : String) : String :=
  Text.jsonQuoted name ++ ":" ++ value

/-- A JSON object of members that are written already. -/
def jsonObject (members : List String) : String :=
  "\x7b" ++ String.intercalate "," members ++ "\x7d"

/-- A field as a member of a JSON object. -/
def jsonField (f : Field) : String :=
  jsonMember f.name <|
    match f.value with
    | .text content => Text.jsonQuoted content
    | .count number => toString number

/-- A span as a JSON object. -/
def jsonSpan (span : Span) : String :=
  jsonObject (span.fields.map jsonField ++ [jsonMember "name" (Text.jsonQuoted span.name)])

/-- The line of an entry as a JSON object, with the innermost span and the list of all spans. -/
def jsonLine (time : String) (entry : Entry) : String :=
  let head :=
    [jsonMember "timestamp" (Text.jsonQuoted time),
      jsonMember "level" (Text.jsonQuoted entry.event.level.label),
      jsonMember "fields" <|
        jsonObject <|
          jsonMember "message" (Text.jsonQuoted entry.event.message) ::
            entry.event.fields.map jsonField]
  let spans :=
    match entry.spans.getLast? with
    | none => []
    | some innermost =>
      [jsonMember "span" (jsonSpan innermost),
        jsonMember "spans" ("[" ++ String.intercalate "," (entry.spans.map jsonSpan) ++ "]")]
  jsonObject (head ++ spans)

end Machine

/-- The line of an entry, its line feed included. -/
def line (format : LogFormat) (coloured : Bool) (time : String) (entry : Entry) : String :=
  (match format with
    | pretty => prettyLine coloured entry
    | compact => compactLine coloured entry
    | json => jsonLine time entry) ++ "\n"

end LogFormat

end LegendReport
