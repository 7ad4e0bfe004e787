/-!
# Lines and pieces of a text

A text is cut into lines at line feeds.  A carriage return directly before the
line feed belongs to the line ending; one that ends the whole text without a
line feed is kept.  A text that ends with a line feed has no empty last line.
-/

namespace LegendReport
namespace Text

/-- The characters of a terminated line, without the carriage return of its ending. -/
def dropReturn (cs : List Char) : List Char :=
  if cs.getLast? = some '\r' then cs.dropLast else cs

/-- The lines among the pieces that line feeds separate; the last piece has no ending. -/
def linesOfPieces : List (List Char) → List (List Char)
  | [] => []
  | [last] => if last = [] then [] else [last]
  | line :: rest => dropReturn line :: linesOfPieces rest

/-- The lines of a text, without their endings. -/
def lines (s : String) : List String :=
  (linesOfPieces (s.toList.splitOn '\n')).map String.ofList

/-- The pieces between single occurrences of a separator; an empty text is one empty piece. -/
def pieces (separator : Char) (s : String) : List String :=
  (s.toList.splitOn separator).map String.ofList

theorem dropReturn_of_not_mem
    {cs : List Char}
    (h : '\r' ∉ cs) :
    dropReturn cs = cs := by
  unfold dropReturn
  split
  · next hlast => exact absurd (List.mem_of_getLast? hlast) h
  · rfl

@[simp] theorem dropReturn_append_return
    (cs : List Char) :
    dropReturn (cs ++ ['\r']) = cs := by
  simp [dropReturn]

end Text
end LegendReport
