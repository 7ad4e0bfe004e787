import LegendReport.Journal.Level
import LegendReport.Path
import LegendReport.Resolution

/-!
# Events

Everything that a run reports about its progress is an event.  An event
determines its level, the part of the program that it comes from, its message
and its fields.  Events happen inside spans; a journal is the list of the events
of a run in order, each with the spans around it.
-/

namespace LegendReport

/-- The parts of the program that events come from. -/
inductive Component where
  | legend
  | assembly
  | cells
  | intake
  | output
  | command
  deriving DecidableEq, Repr

namespace Component

/-- The target under which log filters know the part. -/
def target : Component → String
  | legend => "xtract_core::legend"
  | assembly => "xtract_core::assemble"
  | cells => "xtract_core::row"
  | intake => "xtract_ingest::loader"
  | output => "xtract_report::csv_output"
  | command => "xtract_cli::pipeline"

end Component

/-- The value of a field: a text, or a count that machine-readable logs write as a number. -/
inductive FieldValue where
  | text (content : String)
  | count (number : Nat)
  deriving DecidableEq, Repr

namespace FieldValue

def render : FieldValue → String
  | text content => content
  | count number => toString number

end FieldValue

/-- A named value of an event or a span. -/
structure Field where
  name : String
  value : FieldValue
  deriving DecidableEq, Repr

/-- Where the file of a document is, and why there is no tree of it. -/
structure DocumentFault where
  path : Path
  reason : String
  deriving DecidableEq, Repr

/-- What can happen during a run. -/
inductive Event where
  | blankLegendLine (line : Nat)
  | pathlessColumn (line : Nat) (header : String)
  | legendParsed (legend : Path) (columns : Nat)
  | documentParsed (nodes : Nat)
  | columnResolved (file header : String)
  | columnFailed (file header path : String) (cause : ResolveError)
  | documentNotRead (file : String) (fault : DocumentFault)
  | documentMalformed (file : String) (fault : DocumentFault)
  | reportAssembled (documents columns failedCells : Nat)
  | inputDiscovered (folder : Path) (files : Nat)
  | documentLoaded (path : Path) (bytes : Nat)
  | documentUnreadable (path : Path) (reason : String)
  | reportWritten (path : Path) (rows : Nat)
  | legendAccepted (legend : Path) (columns : Nat)
  | extractionComplete (documents failedCells milliseconds : Nat)
  deriving DecidableEq, Repr

namespace Event

def level : Event → Level
  | blankLegendLine _ => .warn
  | pathlessColumn _ _ => .warn
  | legendParsed _ _ => .debug
  | documentParsed _ => .debug
  | columnResolved _ _ => .trace
  | columnFailed _ _ _ _ => .warn
  | documentNotRead _ _ => .error
  | documentMalformed _ _ => .error
  | reportAssembled _ _ _ => .info
  | inputDiscovered _ _ => .info
  | documentLoaded _ _ => .debug
  | documentUnreadable _ _ => .warn
  | reportWritten _ _ => .info
  | legendAccepted _ _ => .info
  | extractionComplete _ _ _ => .info

def component : Event → Component
  | blankLegendLine _ => .legend
  | pathlessColumn _ _ => .legend
  | legendParsed _ _ => .legend
  | documentParsed _ => .assembly
  | columnResolved _ _ => .cells
  | columnFailed _ _ _ _ => .cells
  | documentNotRead _ _ => .assembly
  | documentMalformed _ _ => .assembly
  | reportAssembled _ _ _ => .assembly
  | inputDiscovered _ _ => .intake
  | documentLoaded _ _ => .intake
  | documentUnreadable _ _ => .intake
  | reportWritten _ _ => .output
  | legendAccepted _ _ => .command
  | extractionComplete _ _ _ => .command

def message : Event → String
  | blankLegendLine _ => "blank legend line has no header or path"
  | pathlessColumn _ _ => "legend column has no path"
  | legendParsed _ _ => "legend loaded"
  | documentParsed _ => "document parsed"
  | columnResolved _ _ => "column resolved"
  | columnFailed _ _ _ _ => "failed to retrieve column"
  | documentNotRead _ _ => "document could not be read"
  | documentMalformed _ _ => "document is not well-formed XML"
  | reportAssembled _ _ _ => "report assembled"
  | inputDiscovered _ _ => "input discovered"
  | documentLoaded _ _ => "document loaded"
  | documentUnreadable _ _ => "document unreadable"
  | reportWritten _ _ => "report written"
  | legendAccepted _ _ => "legend loaded"
  | extractionComplete _ _ _ => "extraction complete"

def fields : Event → List Field
  | blankLegendLine line => [⟨"line", .count line⟩]
  | pathlessColumn line header => [⟨"line", .count line⟩, ⟨"column", .text header⟩]
  | legendParsed legend columns => [⟨"legend", .text legend.text⟩, ⟨"columns", .count columns⟩]
  | documentParsed nodes => [⟨"nodes", .count nodes⟩]
  | columnResolved file header => [⟨"file", .text file⟩, ⟨"column", .text header⟩]
  | columnFailed file header path cause =>
    [⟨"file", .text file⟩, ⟨"column", .text header⟩, ⟨"path", .text path⟩,
      ⟨"error", .text cause.message⟩]
  | documentNotRead file fault =>
    [⟨"file", .text file⟩, ⟨"path", .text fault.path.text⟩, ⟨"reason", .text fault.reason⟩]
  | documentMalformed file fault =>
    [⟨"file", .text file⟩, ⟨"path", .text fault.path.text⟩, ⟨"error", .text fault.reason⟩]
  | reportAssembled documents columns failedCells =>
    [⟨"documents", .count documents⟩, ⟨"columns", .count columns⟩,
      ⟨"failed_cells", .count failedCells⟩]
  | inputDiscovered folder files =>
    [⟨"folder", .text folder.text⟩, ⟨"file_count", .count files⟩]
  | documentLoaded path bytes => [⟨"path", .text path.text⟩, ⟨"bytes", .count bytes⟩]
  | documentUnreadable path reason => [⟨"path", .text path.text⟩, ⟨"error", .text reason⟩]
  | reportWritten path rows => [⟨"path", .text path.text⟩, ⟨"rows", .count rows⟩]
  | legendAccepted legend columns =>
    [⟨"legend", .text legend.text⟩, ⟨"columns", .count columns⟩]
  | extractionComplete documents failedCells milliseconds =>
    [⟨"documents", .count documents⟩, ⟨"failed_cells", .count failedCells⟩,
      ⟨"duration_ms", .text (toString milliseconds)⟩]

/-- The names under which filters find the parts of an event. -/
def fieldNames (event : Event) : List String :=
  "message" :: event.fields.map Field.name

end Event

/-- A stretch of the run that encloses events. -/
inductive Span where
  /-- The extraction of one folder. -/
  | extraction (folder : Path)
  /-- The work on one document. -/
  | document (file : String)
  deriving DecidableEq, Repr

namespace Span

def name : Span → String
  | extraction _ => "extract"
  | document _ => "document"

def level : Span → Level
  | extraction _ => .info
  | document _ => .debug

def component : Span → Component
  | extraction _ => .command
  | document _ => .assembly

def fields : Span → List Field
  | extraction folder => [⟨"folder", .text folder.text⟩]
  | document file => [⟨"file", .text file⟩]

end Span

/-- An event and the spans around it, the outermost first. -/
structure Entry where
  spans : List Span
  event : Event
  deriving DecidableEq, Repr

namespace Entry

/-- The same event inside one more span, which encloses the others. -/
def within (span : Span) (entry : Entry) : Entry :=
  { entry with spans := span :: entry.spans }

end Entry

end LegendReport
