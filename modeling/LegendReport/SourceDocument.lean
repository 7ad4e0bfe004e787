import LegendReport.Path

/-!
# Source documents

The documents of a run are the files of its input folder.  A file that cannot
be read stays in the run as a document without text, so that the report has a
row for it.  A run has at least one document.
-/

namespace LegendReport

/-- What is known of a document: its text, or the reason why it could not be read. -/
inductive Content where
  | loaded (text : String)
  | unreadable (reason : String)
  deriving DecidableEq, Repr

/-- A document of the input. -/
structure SourceDocument where
  /-- The name that the report shows. -/
  identifier : String
  path : Path
  content : Content
  deriving DecidableEq, Repr

namespace SourceDocument

/-- A document with a text and no other path than its name. -/
def ofText (identifier text : String) : SourceDocument :=
  { identifier, path := ⟨identifier⟩, content := .loaded text }

end SourceDocument

/-- The documents of a run, in order; there is at least one. -/
structure DocumentSet where
  documents : List SourceDocument
  nonempty : documents ≠ []

namespace DocumentSet

/-- The set of the given documents, unless there are none. -/
def ofList? (documents : List SourceDocument) : Option DocumentSet :=
  if h : documents ≠ [] then some ⟨documents, h⟩ else none

/-- The number of documents. -/
def size (set : DocumentSet) : Nat :=
  set.documents.length

theorem ofList?_eq_none_iff
    (documents : List SourceDocument) :
    ofList? documents = none ↔ documents = [] := by
  simp [ofList?]

end DocumentSet

end LegendReport
