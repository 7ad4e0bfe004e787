import LegendReport.Command.Task
import Std.Time.Format

/-!
# The program

The program reads its words and its environment, runs the script of the task on
the file system, writes log lines as events are noted, and prints how the task
ended.
-/

namespace LegendReport
namespace Program

open Command

/-- The fault that an error of the operating system stands for. -/
def faultOf (error : IO.Error) : FileFault :=
  match error with
  | .noFileOrDirectory _ _ _ => .missing
  | .noSuchThing _ _ _ => .missing
  | .resourceBusy _ _ => .busy
  | .invalidArgument _ 36 _ => .nameTooLong
  | .invalidArgument _ _ _ => .invalid
  | .inappropriateType _ 20 _ => .notFolder
  | .inappropriateType _ 21 _ => .isFolder
  | .inappropriateType _ _ _ => .notFolder
  | other => .other (toString other)

/-- Runs an action and keeps the fault if it fails. -/
def attempt {α : Type} (action : IO α) : IO (Except FileFault α) := do
  match ← action.toBaseIO with
  | .ok value => return .ok value
  | .error error => return .error (faultOf error)

/-- The text of the file at a path. -/
def readText (path : Path) : IO (Except FileFault String) := do
  match ← attempt (IO.FS.readBinFile path.text) with
  | .error fault => return .error fault
  | .ok bytes =>
    match String.fromUTF8? bytes with
    | some text => return .ok text
    | none => return .error .notText

/-- The items of the folder at a path. -/
def listFolder (path : Path) : IO (Option (List Child)) := do
  let folder := (← IO.currentDir) / path.text
  if path.text = "" then return none
  else if !(← folder.isDir) then return none
  else
    let entries ← folder.readDir
    let children ← entries.toList.mapM fun entry => do
      let isFolder ← entry.path.isDir
      return { name := entry.fileName, isFile := !isFolder : Child }
    return some children

/-- Stages a text in the folder of a path and moves it there. -/
def replaceFile (path : Path) (text : String) : IO (Except PlacementError Unit) := do
  let staged := path.folder.join (".tmp" ++ toString (← IO.rand 100000 999999))
  match ← attempt (IO.FS.writeBinFile staged.text text.toUTF8) with
  | .error fault => return .error (.staging path.folder fault)
  | .ok () =>
    match ← attempt (IO.FS.rename staged.text path.text) with
    | .ok () => return .ok ()
    | .error fault =>
      discard <| attempt (IO.FS.removeFile staged.text)
      return .error (.placing path fault)

/-- The current time, as log lines show it. -/
def timeText : IO String := do
  let now ← Std.Time.Timestamp.now
  let date := Std.Time.DateTime.ofTimestampWithZone now Std.Time.TimeZone.UTC
  return date.format "uuuu-MM-dd'T'HH:mm:ss.SSSSSS'Z'"

/-- The meaning of the steps of a script on the file system. -/
def handler (logging : LogSettings) (write : String → IO Unit) (start : Nat) :
    Script.Handler IO :=
  { note := fun entry => do
      if let some line := logging.line? (← timeText) entry then write line
    readText
    listFolder
    replaceFile
    elapsed := do return (← IO.monoMsNow) - start }

/-- Prints how a task ended. -/
def finish (ending : Ending) : IO UInt32 := do
  IO.print ending.output
  IO.eprint ending.complaint
  return UInt32.ofNat ending.code

/-- The writer of log lines: the error stream, or a file that is added to. -/
def logWriter (logging : LogSettings) : IO (Except FileFault (String → IO Unit)) := do
  match logging.file with
  | none => return .ok fun line => IO.eprint line
  | some path =>
    match ← attempt (IO.FS.Handle.mk path.text .append) with
    | .error fault => return .error fault
    | .ok file =>
      return .ok fun line => do
        file.putStr line
        file.flush

/-- Runs the program on the words of its command line. -/
def run (words : List String) : IO UInt32 := do
  let environment : Environment :=
    { logFilter := ← IO.getEnv "RUST_LOG", uri := ← IO.getEnv "XTRACT_NAMESPACE" }
  match invocation words with
  | .error stop => finish stop.ending
  | .ok call =>
    let logging := call.settings.logging environment
    match ← logWriter logging with
    | .error fault => finish (loggingFailure fault)
    | .ok write =>
      let start ← IO.monoMsNow
      finish (← (call.script environment).interpret (handler logging write start))

end Program
end LegendReport

def main (words : List String) : IO UInt32 :=
  LegendReport.Program.run words
