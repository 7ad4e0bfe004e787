import LegendReport.Legend.Segment
import LegendReport.Text.Blank
import LegendReport.Text.Numeral

/-!
# Legend tokens

A token is an optional colon, a name, and an optional occurrence number in
angle brackets:

    token      :=  [':'] name ['<' digits '>']

The colon says that the name is in the namespace of the run.  The number counts
from one.  Only a token that ends with `>` has a number; it begins at the first
`<` of the token.  All leading colons are taken off a token that has one, and
all brackets around the digits.

`Segment.ofToken` reads a token and `Segment.canonicalToken` writes one.
-/

namespace LegendReport

/-- Why a text is not a legend token. -/
inductive TokenError where
  /-- The token ends with `>` but has no `<`. -/
  | missingIndexOpen (token : String)
  /-- What stands between the brackets is no decimal number of a machine word. -/
  | invalidIndex (token : String) (literal : String)
  /-- The occurrence number is zero. -/
  | zeroIndex (token : String)
  deriving DecidableEq, Repr

namespace TokenError

def message : TokenError → String
  | missingIndexOpen token => "token `" ++ token ++ "` ends with `>` but has no `<`"
  | invalidIndex token literal =>
    "token `" ++ token ++ "` has an invalid occurrence index `" ++ literal ++ "`"
  | zeroIndex token => "token `" ++ token ++ "` uses occurrence index 0; indexes start at 1"

end TokenError

namespace Segment

/-- The digits of an occurrence number, given what follows the name in a token. -/
def indexLiteral (suffix : List Char) : List Char :=
  Text.trimEnd (· == '>') (suffix.dropWhile (· == '<'))

/-- The segment with the name and the one-based occurrence number of a token. -/
def ofNumbered
    (token : String)
    (qualified : Bool)
    (name literal : List Char) :
    Except TokenError Segment :=
  if !Text.isNumeral literal || Text.wordLimit ≤ Text.numeralValue literal then
    .error (.invalidIndex token (String.ofList literal))
  else if Text.numeralValue literal = 0 then
    .error (.zeroIndex token)
  else
    .ok
      { name := String.ofList name
        qualified
        occurrence := Text.numeralValue literal - 1
        token }

/-- Reads a legend token. -/
def ofToken (token : String) : Except TokenError Segment :=
  let qualified := token.toList.head? == some ':'
  let body := token.toList.dropWhile (· == ':')
  if body.getLast? = some '>' then
    match body.dropWhile (· != '<') with
    | [] => .error (.missingIndexOpen token)
    | opened :: rest =>
      ofNumbered token qualified (body.takeWhile (· != '<')) (indexLiteral (opened :: rest))
  else
    .ok { name := String.ofList body, qualified, occurrence := 0, token }

/-- The token that spells a segment out: with its colon, and with its occurrence number unless the
name holds a `<` and could not be told from it. -/
def canonicalToken (segment : Segment) : String :=
  (if segment.qualified then ":" else "") ++ segment.name ++
    (if '<' ∈ segment.name.toList then "" else "<" ++ toString (segment.occurrence + 1) ++ ">")

/-- A token that is read is kept as it was written. -/
theorem token_of_ofToken
    {token : String}
    {segment : Segment}
    (h : ofToken token = .ok segment) :
    segment.token = token := by
  unfold ofToken ofNumbered at h
  grind

end Segment

end LegendReport
