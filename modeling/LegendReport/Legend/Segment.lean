import LegendReport.Name

/-!
# Segments of a column path

A column path leads from the root of a document to the element whose text is
wanted.  Each segment names the elements to look at and says which of them to
take.
-/

namespace LegendReport

/-- One step of a column path. -/
structure Segment where
  /-- The local name of the elements this step looks at. -/
  name : String
  /-- Whether those elements are in the namespace of the run; if not, they are in none. -/
  qualified : Bool
  /-- How many elements of that name are passed over. -/
  occurrence : Nat
  /-- The text of the segment in the legend. -/
  token : String
  deriving DecidableEq, Repr

namespace Segment

/-- The segment that takes the first element of a name outside any namespace. -/
def plain (name : String) : Segment :=
  { name, qualified := false, occurrence := 0, token := name }

/-- The expanded name a segment looks for when the run's namespace is `uri`. -/
def nameIn (segment : Segment) (uri : String) : ExpandedName :=
  { uri := if segment.qualified then some uri else none, localName := segment.name }

/-- A path as the legend spells it: its tokens with single spaces between them. -/
def renderPath (path : List Segment) : String :=
  String.intercalate " " (path.map Segment.token)

/-- The name of a qualified segment is shown with the namespace of the run, any other as it is. -/
theorem render_nameIn
    (segment : Segment)
    (uri : String) :
    (segment.nameIn uri).render =
      if segment.qualified then "\x7b" ++ uri ++ "\x7d" ++ segment.name else segment.name := by
  cases hqualified : segment.qualified <;> simp [nameIn, ExpandedName.render, hqualified]

end Segment

end LegendReport
