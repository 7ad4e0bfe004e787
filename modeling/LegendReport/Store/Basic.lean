import LegendReport.Path
import LegendReport.Store.Fault

/-!
# The file tree

A store is a tree of folders and files, given by the item at each location.  A
location is the list of names that lead to it from the root; paths are resolved
from the home location, or from the root if they are absolute.  There are no
links, so a path that leads upwards leads to the parent of the place reached.

Names are Unicode text.  Files whose names are other sequences of bytes, which a
file system may have, are outside of this model.

Reading never changes a store.  `replaceFile` stages a text in the folder of its
path and moves it there, or refuses and takes the staged file away again.
-/

namespace LegendReport

/-- The names that lead to a place from the root. -/
abbrev Location := List String

/-- What is at a location. -/
inductive Item where
  | file (bytes : ByteArray)
  | folder

instance : DecidableEq Item
  | .file bytes, .file bytes' =>
    match ByteArray.instDecidableEq bytes bytes' with
    | isTrue h => isTrue (congrArg Item.file h)
    | isFalse h => isFalse fun heq => h (Item.file.inj heq)
  | .file _, .folder => isFalse nofun
  | .folder, .file _ => isFalse nofun
  | .folder, .folder => isTrue rfl

/-- A tree of folders and files, and the location that relative paths start from. -/
structure Store where
  items : List (Location × Item)
  home : Location

/-- An item of a folder: its name, and whether it is a file. -/
structure Child where
  name : String
  isFile : Bool
  deriving DecidableEq, Repr

/-- Why a report could not be put at its path. -/
inductive PlacementError where
  /-- No file could be staged in the folder of the path. -/
  | staging (folder : Path) (cause : FileFault)
  /-- The staged file could not be moved to the path. -/
  | placing (path : Path) (cause : FileFault)
  deriving DecidableEq, Repr

namespace Path

/-- The names and dots that a path goes through. -/
def steps (p : Path) : List String :=
  (p.parts.filter (· ≠ [])).map String.ofList

/-- What is wrong with the text of a path, whatever the tree. -/
def fault? (p : Path) : Option FileFault :=
  if '\x00' ∈ p.text.toList then some .zeroInPath
  else if p.text = "" then some .missing
  else if 4096 ≤ p.text.utf8ByteSize then some .nameTooLong
  else none

end Path

/-- The number of bytes of the longest file name. -/
def nameLimit : Nat := 255

/-- The name of a staged file as a message shows it; the end is chosen at random. -/
def stagedName : String := ".tmpXXXXXX"

namespace Child

/-- An item of the folder at a path.  It counts as a file only if the path of the folder and its
name together can be looked up. -/
def seenFrom (folder : Path) (child : Child) : Child :=
  { child with isFile := child.isFile && (folder.join child.name).fault?.isNone }

end Child

namespace Store

/-- A store with nothing but the folders that lead to its home. -/
def empty (home : Location) : Store :=
  { items := (List.range home.length).map fun depth => (home.take (depth + 1), .folder)
    home }

/-- The item at a location.  The root is a folder. -/
def item? (store : Store) (place : Location) : Option Item :=
  if place = [] then some .folder else store.items.lookup place

/-- The store with another item at a location. -/
def put (store : Store) (place : Location) (item : Item) : Store :=
  { store with items := (place, item) :: store.items.filter fun old => old.1 ≠ place }

/-- The store without the item at a location. -/
def erase (store : Store) (place : Location) : Store :=
  { store with items := store.items.filter fun old => old.1 ≠ place }

/-- The store with an item moved to another location, in place of what is there. -/
def move (store : Store) (source goal : Location) : Store :=
  match store.item? source with
  | some item => (store.erase source).put goal item
  | none => store

section Resolution

/-- The place reached from a folder by one step, which must be a folder too. -/
def enter (store : Store) (place : Location) (step : String) : Except FileFault Location :=
  if step = "." then .ok place
  else if step = ".." then .ok place.dropLast
  else if nameLimit < step.utf8ByteSize then .error .nameTooLong
  else
    match store.item? (place ++ [step]) with
    | some .folder => .ok (place ++ [step])
    | some (.file _) => .error .notFolder
    | none => .error .missing

/-- The place reached from a folder by several steps. -/
def enterAll (store : Store) (place : Location) : List String → Except FileFault Location
  | [] => .ok place
  | step :: rest =>
    match store.enter place step with
    | .ok next => store.enterAll next rest
    | .error fault => .error fault

/-- Where a path starts. -/
def origin (store : Store) (p : Path) : Location :=
  if p.isAbsolute then [] else store.home

/-- The last name of a path with the folder it is looked up in; there is no name at the end of a
path that ends in dots or is the root. -/
def lastStep (store : Store) (p : Path) : Except FileFault (Location × Option String) :=
  match p.fault? with
  | some fault => .error fault
  | none =>
    match p.steps.getLast? with
    | none => .ok ([], none)
    | some last =>
      match store.enterAll (store.origin p) p.steps.dropLast with
      | .error fault => .error fault
      | .ok place =>
        if last = "." then .ok (place, none)
        else if last = ".." then .ok (place.dropLast, none)
        else if nameLimit < last.utf8ByteSize then .error .nameTooLong
        else .ok (place, some last)

/-- The location and the item that a path leads to. -/
def find (store : Store) (p : Path) : Except FileFault (Location × Item) :=
  match store.lastStep p with
  | .error fault => .error fault
  | .ok (place, none) => .ok (place, .folder)
  | .ok (place, some name) =>
    match store.item? (place ++ [name]) with
    | none => .error .missing
    | some .folder => .ok (place ++ [name], .folder)
    | some (.file bytes) =>
      if p.endsWithSlash then .error .notFolder else .ok (place ++ [name], .file bytes)

end Resolution

section Reading

/-- The content of the file at a path. -/
def readBytes (store : Store) (p : Path) : Except FileFault ByteArray :=
  match store.find p with
  | .error fault => .error fault
  | .ok (_, .folder) => .error .isFolder
  | .ok (_, .file bytes) => .ok bytes

/-- The content of the file at a path, as text. -/
def readText (store : Store) (p : Path) : Except FileFault String :=
  match store.readBytes p with
  | .error fault => .error fault
  | .ok bytes =>
    match String.fromUTF8? bytes with
    | some text => .ok text
    | none => .error .notText

/-- The items of a folder, in no particular order. -/
def children (store : Store) (place : Location) : List Child :=
  store.items.filterMap fun entry =>
    match entry.1.getLast? with
    | some name =>
      if entry.1.dropLast = place then
        some ⟨name, match entry.2 with | .file _ => true | .folder => false⟩
      else none
    | none => none

/-- The items of the folder at a path, if a folder is there. -/
def list? (store : Store) (p : Path) : Option (List Child) :=
  match store.find p with
  | .ok (place, .folder) => some ((store.children place).map (Child.seenFrom p))
  | .ok (_, .file _) => none
  | .error _ => none

end Reading

section Writing

/-- The location where a file can be moved to a path. -/
def target (store : Store) (p : Path) : Except FileFault Location :=
  match store.lastStep p with
  | .error fault => .error fault
  | .ok (_, none) => .error .busy
  | .ok (place, some name) =>
    if p.endsWithSlash then .error .notFolder
    else
      match store.item? (place ++ [name]) with
      | some .folder => .error .isFolder
      | some (.file _) => .ok (place ++ [name])
      | none => .ok (place ++ [name])

/-- A path as seen from the root. -/
def absolute (store : Store) (p : Path) : Path :=
  Path.join ⟨"/" ++ String.intercalate "/" store.home⟩ p.text

/-- Whether a file can be staged in the folder at a path.  The staged file is named from the root,
so the home counts for the length of its path. -/
def staging (store : Store) (folder : Path) : Except FileFault Location :=
  match folder.fault?.or ((store.absolute folder).join stagedName).fault? with
  | some fault => .error fault
  | none => store.enterAll (store.origin folder) folder.steps

/-- A name that is not among the taken ones. -/
def unusedName (taken : List String) : String :=
  let names := (List.range (taken.length + 1)).map fun n => ".tmp" ++ toString n
  (names.find? fun name => !taken.contains name).getD stagedName

/-- Puts a text at a path by way of a file that is staged at another location.  A staged file that
cannot be moved to the path is removed. -/
def replaceThrough (store : Store) (staged : Location) (p : Path) (text : String) :
    Except PlacementError Unit × Store :=
  let filled := store.put staged (.file text.toUTF8)
  match filled.target p with
  | .error fault => (.error (.placing p fault.whenMoving), filled.erase staged)
  | .ok goal => (.ok (), filled.move staged goal)

/-- Puts a text at a path, in place of a file that is there.  It is staged in the folder of the
path, so that folder must exist. -/
def replaceFile (store : Store) (p : Path) (text : String) : Except PlacementError Unit × Store :=
  match store.staging p.folder with
  | .error fault => (.error (.staging p.folder fault), store)
  | .ok place =>
    let taken := (store.children place).map Child.name ++ p.steps
    store.replaceThrough (place ++ [unusedName taken]) p text

/-- The location of a file that can be written at its end, which is created if it is missing. -/
def openAtEnd (store : Store) (p : Path) : Except FileFault (Location × Store) :=
  match store.lastStep p with
  | .error fault => .error fault
  | .ok (_, none) => .error .isFolder
  | .ok (place, some name) =>
    if p.endsWithSlash then .error .isFolder
    else
      match store.item? (place ++ [name]) with
      | some .folder => .error .isFolder
      | some (.file _) => .ok (place ++ [name], store)
      | none => .ok (place ++ [name], store.put (place ++ [name]) (.file ByteArray.empty))

/-- Adds text at the end of the file at a location. -/
def append (store : Store) (place : Location) (text : String) : Store :=
  match store.item? place with
  | some (.file bytes) => store.put place (.file (bytes ++ text.toUTF8))
  | some .folder => store
  | none => store

/-- Makes the folders that several steps from a folder go through. -/
def makeFolders (store : Store) (place : Location) :
    List String → Except FileFault (Location × Store)
  | [] => .ok (place, store)
  | step :: rest =>
    match store.enter place step with
    | .ok next => store.makeFolders next rest
    | .error .missing => (store.put (place ++ [step]) .folder).makeFolders (place ++ [step]) rest
    | .error fault => .error fault

/-- Makes the folder at a path and the folders above it. -/
def makeFolder (store : Store) (p : Path) : Except FileFault Store :=
  (store.makeFolders (store.origin p) p.steps).map Prod.snd

/-- Writes a file, after making the folders above it. -/
def writeFile (store : Store) (p : Path) (bytes : ByteArray) : Except FileFault Store :=
  match store.makeFolders (store.origin p) p.steps.dropLast with
  | .error fault => .error fault
  | .ok (_, made) =>
    match made.target p with
    | .error fault => .error fault
    | .ok place => .ok (made.put place (.file bytes))

/-- Removes what a path leads to, with everything below it. -/
def remove (store : Store) (p : Path) : Except FileFault Store :=
  match store.find p with
  | .error fault => .error fault
  | .ok (place, _) =>
    .ok { store with items := store.items.filter fun entry => !place.isPrefixOf entry.1 }

end Writing

/-- The path of everything below the home, folders with a slash at the end, in order. -/
def outline (store : Store) : List String :=
  let below :=
    store.items.filterMap fun entry =>
      if store.home.isPrefixOf entry.1 && entry.1 != store.home then
        let path := String.intercalate "/" (entry.1.drop store.home.length)
        some (match entry.2 with | .file _ => path | .folder => path ++ "/")
      else none
  below.mergeSort fun left right => decide (left ≤ right)

@[simp] theorem item?_root
    (store : Store) :
    store.item? [] = some .folder := by
  rfl

theorem item?_put_self
    (store : Store)
    {place : Location}
    (item : Item)
    (h : place ≠ []) :
    (store.put place item).item? place = some item := by
  simp [item?, put, h]

end Store

end LegendReport
