/-!
# Paths

A path is the text it was written as; nothing is normalized.  Its parts are
the pieces between slashes, of which the empty ones and the single dots lead
nowhere.

A path is Unicode text.  Other sequences of bytes, which a file system may allow
as paths, are outside of this model.
-/

namespace LegendReport

/-- A path of files and folders, as it was written. -/
structure Path where
  text : String
  deriving DecidableEq, Repr

namespace Path

/-- A part of a path that stays where it is: nothing between two slashes, or a single dot. -/
def isIdle (part : List Char) : Bool :=
  part == [] || part == ['.']

/-- The parts of a path, the idle ones included. -/
def parts (p : Path) : List (List Char) :=
  p.text.toList.splitOn '/'

/-- Whether the path starts at the root. -/
def isAbsolute (p : Path) : Bool :=
  p.text.toList.head? == some '/'

/-- Whether the path ends with a slash. -/
def endsWithSlash (p : Path) : Bool :=
  p.text.toList.getLast? == some '/'

/-- The path of a name seen from a folder.  An absolute name stands for itself, an empty folder
adds nothing, and otherwise one slash stands between the two. -/
def join (folder : Path) (name : String) : Path :=
  if name.toList.head? = some '/' then ⟨name⟩
  else if folder.text = "" ∨ folder.endsWithSlash then ⟨folder.text ++ name⟩
  else ⟨folder.text ++ "/" ++ name⟩

/-- The last part of the path that is not idle, unless there is none or it leads upwards. -/
def fileName? (p : Path) : Option String :=
  match p.parts.reverse.dropWhile isIdle with
  | [] => none
  | last :: _ => if last = ['.', '.'] then none else some (String.ofList last)

/-- The name a document is known by in a report: the last real part of its path, or the whole
path if it has none. -/
def identifier (p : Path) : String :=
  p.fileName?.getD p.text

/-- What follows the last dot of a file name, if something stands before that dot. -/
def extension? (name : String) : Option String :=
  let reversed := name.toList.reverse
  match reversed.dropWhile (· ≠ '.') with
  | [] => none
  | [_] => none
  | _ :: _ :: _ => some (String.ofList (reversed.takeWhile (· ≠ '.')).reverse)

/-- The parts without the idle ones at their end. -/
def dropIdleEnd (parts : List (List Char)) : List (List Char) :=
  (parts.reverse.dropWhile isIdle).reverse

/-- The text of a list of parts. -/
def ofParts (parts : List (List Char)) : String :=
  String.ofList (['/'].intercalate parts)

/-- The path without its last part.  Idle parts at the end are dropped before and after; a leading
dot or slash is kept unless it is itself the last part.  The parent of a single part is empty. -/
def parent (p : Path) : Path :=
  match p.parts with
  | [] => ⟨""⟩
  | first :: rest =>
    if first = [] then
      if p.isAbsolute then ⟨"/" ++ ofParts (dropIdleEnd (dropIdleEnd rest).dropLast)⟩ else ⟨""⟩
    else if first = ['.'] then
      if dropIdleEnd rest = [] then ⟨""⟩
      else ⟨ofParts (first :: dropIdleEnd (dropIdleEnd rest).dropLast)⟩
    else ⟨ofParts (dropIdleEnd (dropIdleEnd (first :: rest)).dropLast)⟩

/-- The folder that holds the file at a path; without a parent it is the working folder. -/
def folder (p : Path) : Path :=
  if p.parent.text = "" then ⟨"."⟩ else p.parent

theorem join_of_absolute
    (folder : Path)
    (name : String)
    (h : name.toList.head? = some '/') :
    folder.join name = ⟨name⟩ := by
  simp [join, h]

theorem identifier_of_fileName
    {p : Path}
    {name : String}
    (h : p.fileName? = some name) :
    p.identifier = name := by
  simp [identifier, h]

end Path

end LegendReport
