import LegendReport.Legend.Reading
import LegendReport.SourceDocument
import LegendReport.Store.Script

/-!
# Intake of documents and legends

The documents of a folder are the files directly in it whose extension is `xml`
in any letter case, in the order of their names.  That order does not depend on
the order in which the folder is listed.  A document that cannot be read stays
in the list without text.
-/

namespace LegendReport

/-- Why there are no documents. -/
inductive IntakeError where
  /-- No folder is at the path. -/
  | folderNotFound (folder : Path)
  /-- The folder has no XML files. -/
  | noDocuments (folder : Path)
  deriving DecidableEq, Repr

namespace IntakeError

def message : IntakeError → String
  | folderNotFound folder => "input folder not found: " ++ folder.text
  | noDocuments folder => "there are no XML files in the folder " ++ folder.text

/-- The folder that has no documents. -/
def folder : IntakeError → Path
  | folderNotFound folder => folder
  | noDocuments folder => folder

end IntakeError

namespace Intake

/-- Whether a file name has the extension `xml` in any letter case. -/
def isXmlName (name : String) : Bool :=
  (Path.extension? name).any fun extension =>
    extension.toList.map Char.toLower == "xml".toList

/-- The names of the XML files among the items of a folder, in order. -/
def xmlNames (children : List Child) : List String :=
  ((children.filter fun child => child.isFile && isXmlName child.name).map Child.name).mergeSort
    fun left right => decide (left ≤ right)

/-- The paths of the XML files of a folder with the given items. -/
def xmlPaths (folder : Path) (children : List Child) : List Path :=
  (xmlNames children).map folder.join

/-- Lists the XML files of a folder. -/
def listXml (folder : Path) : Script (Except IntakeError (List Path)) :=
  .listFolder folder fun listing =>
    match listing with
    | none => .done (.error (.folderNotFound folder))
    | some children => .done (.ok (xmlPaths folder children))

/-- The document of a file, given what came of reading it. -/
def document (path : Path) (result : Except FileFault String) : SourceDocument :=
  { identifier := path.identifier
    path
    content :=
      match result with
      | .ok text => .loaded text
      | .error cause => .unreadable cause.message }

/-- What is reported about reading a document. -/
def event (path : Path) (result : Except FileFault String) : Event :=
  match result with
  | .ok text => .documentLoaded path text.utf8ByteSize
  | .error cause => .documentUnreadable path cause.message

/-- Reads the files at the given paths. -/
def loadFiles : List Path → Script (List SourceDocument)
  | [] => .done []
  | path :: rest =>
    .readText path fun result =>
      .report (event path result) ((loadFiles rest).map (document path result :: ·))

/-- Reads the files at the given paths as the documents of a run. -/
def loadDocuments (files : List Path) : Script (Option DocumentSet) :=
  (loadFiles files).map DocumentSet.ofList?

/-- Finds and reads the documents of a folder. -/
def loadFolder (folder : Path) : Script (Except IntakeError DocumentSet) :=
  (listXml folder).bind fun listed =>
    match listed with
    | .error cause => .done (.error cause)
    | .ok files =>
      .report (.inputDiscovered folder files.length) <|
        (loadDocuments files).map fun documents =>
          match documents with
          | none => .error (.noDocuments folder)
          | some set => .ok set

/-- Reads the legend at a path. -/
def loadLegend (path : Path) : Script (Except LegendError Legend) :=
  .readText path fun result =>
    match result with
    | .error cause => .done (.error (.unreadable path cause))
    | .ok text =>
      (Script.ofLogged (Legend.ofText text)).bind fun parsed =>
        match parsed with
        | .error cause => .done (.error cause)
        | .ok legend => .report (.legendParsed path legend.size) (.done (.ok legend))

/-- Reading files changes nothing, and each document depends on its own file only. -/
theorem run_loadFiles
    (files : List Path)
    (store : Store) :
    (loadFiles files).run store =
      ⟨files.map fun path => document path (store.readText path),
        files.map fun path => ⟨[], event path (store.readText path)⟩,
        store⟩ := by
  induction files with
  | nil => rfl
  | cons path rest ih =>
      simp only [loadFiles, Script.run, Script.report, Script.map, Script.run_bind, ih,
        List.map_cons, List.append_nil]

end Intake

end LegendReport
