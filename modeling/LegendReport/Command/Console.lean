import LegendReport.Command.Task

/-!
# Runs of the program on a store

A console holds the file tree, the log file if one is open, and the error
stream.  Log lines are written while the task runs, so a log file that is among
the inputs is read with the lines written so far.  A log file that the report
replaces stays open, but lines that are added to it no longer reach the tree.
-/

namespace LegendReport
namespace Command

/-- Where log lines go. -/
inductive LogSink where
  | errorStream
  | file (place : Location)
  /-- The file was replaced after it was opened. -/
  | detached
  deriving DecidableEq, Repr

/-- The state of a run of the program. -/
structure Console where
  store : Store
  sink : LogSink
  /-- What was printed on the error stream. -/
  errors : String

namespace Console

/-- Logs an entry; the time of every line is the same text. -/
def log (logging : LogSettings) (time : String) (entry : Entry) (console : Console) : Console :=
  match logging.line? time entry, console.sink with
  | none, _ => console
  | some line, .errorStream => { console with errors := console.errors ++ line }
  | some line, .file place => { console with store := console.store.append place line }
  | some _, .detached => console

/-- Puts a text at a path. -/
def replaceFile (path : Path) (text : String) (console : Console) :
    Except PlacementError Unit × Console :=
  let replaced := console.store.replaceFile path text
  let sink :=
    match replaced.1, console.store.target path with
    | .ok (), .ok place => if console.sink = .file place then .detached else console.sink
    | _, _ => console.sink
  (replaced.1, { console with store := replaced.2, sink })

/-- The meaning of the steps of a script on a console. -/
def handler (logging : LogSettings) (time : String) : Script.Handler (StateM Console) :=
  { note := fun entry => modify (log logging time entry)
    readText := fun path => do return (← get).store.readText path
    listFolder := fun path => do return (← get).store.list? path
    replaceFile := fun path text => modifyGet (replaceFile path text)
    elapsed := pure 0 }

/-- A console on a store with the log that is asked for. -/
def start (logging : LogSettings) (store : Store) : Except FileFault Console :=
  match logging.file with
  | none => .ok { store, sink := .errorStream, errors := "" }
  | some path =>
    (store.openAtEnd path).map fun opened =>
      { store := opened.2, sink := .file opened.1, errors := "" }

end Console

/-- What comes of a run of the program. -/
structure Result where
  code : Nat
  output : String
  errors : String
  store : Store

/-- The result of an ending that leaves the store as it is. -/
def Ending.result (ending : Ending) (store : Store) : Result :=
  { code := ending.code, output := ending.output, errors := ending.complaint, store }

/-- Runs the program on a store.  The text `time` stands in every log line that shows a time. -/
def execute
    (words : List String)
    (environment : Environment)
    (time : String)
    (store : Store) :
    Result :=
  match invocation words with
  | .error stop => stop.ending.result store
  | .ok call =>
    let logging := call.settings.logging environment
    match Console.start logging store with
    | .error cause => (loggingFailure cause).result store
    | .ok console =>
      let (ending, last) := ((call.script environment).interpret (Console.handler logging time)).run
        console
      { code := ending.code
        output := ending.output
        errors := last.errors ++ ending.complaint
        store := last.store }

end Command
end LegendReport
