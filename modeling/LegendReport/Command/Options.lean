import LegendReport.Journal.Format
import LegendReport.Report.Csv

/-!
# Options of the command line

The options are named values that a word of the command line can set.  Some hold
for every command and may stand before or after its name; others belong to one
command.
-/

namespace LegendReport
namespace Command

/-- When the log is coloured. -/
inductive ColourChoice where
  | auto
  | always
  | never
  deriving DecidableEq, Repr

/-- The names of the options. -/
inductive OptionName where
  | help
  | version
  | verbose
  | quiet
  | colour
  | logLevel
  | logFormat
  | logFile
  | legend
  | output
  | outputDir
  | uri
  | quote
  deriving DecidableEq, Repr

/-- How an option is written, and whether a value follows it. -/
structure OptionForm where
  name : OptionName
  long : String
  short : Option Char
  takesValue : Bool
  deriving DecidableEq, Repr

/-- The options that hold for every command. -/
def commonForms : List OptionForm :=
  [⟨.help, "help", some 'h', false⟩,
    ⟨.verbose, "verbose", some 'v', false⟩,
    ⟨.quiet, "quiet", some 'q', false⟩,
    ⟨.colour, "color", none, true⟩,
    ⟨.logLevel, "log-level", none, true⟩,
    ⟨.logFormat, "log-format", none, true⟩,
    ⟨.logFile, "log-file", none, true⟩]

/-- The options before the name of a command. -/
def programForms : List OptionForm :=
  ⟨.version, "version", some 'V', false⟩ :: commonForms

/-- The options of an extraction. -/
def extractForms : List OptionForm :=
  [⟨.legend, "legend", some 'l', true⟩,
    ⟨.output, "output", some 'o', true⟩,
    ⟨.outputDir, "output-dir", none, true⟩,
    ⟨.uri, "namespace", none, true⟩,
    ⟨.quote, "quote", none, true⟩] ++ commonForms

/-- Why a command line cannot be used. -/
inductive UsageError where
  | missingCommand
  | unknownCommand (word : String)
  | unknownOption (word : String)
  | surplusArgument (word : String)
  | missingArgument (what : String)
  | missingValue (option : String)
  | unexpectedValue (option : String)
  | invalidValue (option value : String)
  | repeatedOption (option : String)
  | conflictingOptions (first second : String)
  deriving DecidableEq, Repr

namespace UsageError

def message : UsageError → String
  | missingCommand => "a command is required"
  | unknownCommand word => "unrecognized command '" ++ word ++ "'"
  | unknownOption word => "unexpected option '" ++ word ++ "'"
  | surplusArgument word => "unexpected argument '" ++ word ++ "'"
  | missingArgument what => "missing argument " ++ what
  | missingValue option => "a value is required for '" ++ option ++ "'"
  | unexpectedValue option => "no value is allowed for '" ++ option ++ "'"
  | invalidValue option value => "invalid value '" ++ value ++ "' for '" ++ option ++ "'"
  | repeatedOption option => "'" ++ option ++ "' cannot be used more than once"
  | conflictingOptions first second => "'" ++ first ++ "' cannot be used with '" ++ second ++ "'"

end UsageError

/-- Why the words of a command line are not read to their end. -/
inductive Stop where
  | help
  | version
  | misuse (cause : UsageError)
  deriving DecidableEq, Repr

/-- The values that the options set in one part of the command line. -/
structure Settings where
  verbose : Nat
  quiet : Nat
  colour : Option ColourChoice
  logLevel : Option Level
  logFormat : Option LogFormat
  logFile : Option Path
  legend : Option Path
  output : Option String
  outputDir : Option Path
  uri : Option String
  quote : Option Csv.Quoting
  deriving DecidableEq, Repr

namespace Settings

/-- No option is set. -/
def initial : Settings :=
  { verbose := 0, quiet := 0, colour := none, logLevel := none, logFormat := none, logFile := none,
    legend := none, output := none, outputDir := none, uri := none, quote := none }

/-- Sets a value that can be set once. -/
def once {α : Type} (form : OptionForm) (old : Option α) (new : Option α) (word : String) :
    Except Stop (Option α) :=
  match old, new with
  | some _, _ => .error (.misuse (.repeatedOption form.long))
  | none, none => .error (.misuse (.invalidValue form.long word))
  | none, some value => .ok (some value)

/-- A path is any text but the empty one. -/
def path? (word : String) : Option Path :=
  if word = "" then none else some ⟨word⟩

def colour? (word : String) : Option ColourChoice :=
  match word with
  | "auto" => some .auto
  | "always" => some .always
  | "never" => some .never
  | _ => none

def level? (word : String) : Option Level :=
  match word with
  | "error" => some .error
  | "warn" => some .warn
  | "info" => some .info
  | "debug" => some .debug
  | "trace" => some .trace
  | _ => none

def format? (word : String) : Option LogFormat :=
  match word with
  | "pretty" => some .pretty
  | "compact" => some .compact
  | "json" => some .json
  | _ => none

def quoting? (word : String) : Option Csv.Quoting :=
  match word with
  | "necessary" => some .necessary
  | "never" => some .never
  | _ => none

/-- The settings after an option; the word is empty for an option without value. -/
def apply (settings : Settings) (form : OptionForm) (word : String) : Except Stop Settings :=
  match form.name with
  | .help => .error .help
  | .version => .error .version
  | .verbose => .ok { settings with verbose := settings.verbose + 1 }
  | .quiet => .ok { settings with quiet := settings.quiet + 1 }
  | .colour => (once form settings.colour (colour? word) word).map ({ settings with colour := · })
  | .logLevel =>
    (once form settings.logLevel (level? word) word).map ({ settings with logLevel := · })
  | .logFormat =>
    (once form settings.logFormat (format? word) word).map ({ settings with logFormat := · })
  | .logFile => (once form settings.logFile (path? word) word).map ({ settings with logFile := · })
  | .legend => (once form settings.legend (path? word) word).map ({ settings with legend := · })
  | .output => (once form settings.output (some word) word).map ({ settings with output := · })
  | .outputDir =>
    (once form settings.outputDir (path? word) word).map ({ settings with outputDir := · })
  | .uri => (once form settings.uri (some word) word).map ({ settings with uri := · })
  | .quote => (once form settings.quote (quoting? word) word).map ({ settings with quote := · })

/-- The settings of a command together with those before its name, which hold where the command
sets none. -/
def inheriting (inner outer : Settings) : Settings :=
  { inner with
    verbose := if inner.verbose = 0 then outer.verbose else inner.verbose
    quiet := if inner.quiet = 0 then outer.quiet else inner.quiet
    colour := inner.colour.or outer.colour
    logLevel := inner.logLevel.or outer.logLevel
    logFormat := inner.logFormat.or outer.logFormat
    logFile := inner.logFile.or outer.logFile }

/-- More and fewer events are not asked for in one part of the command line. -/
def check (settings : Settings) : Except Stop Settings :=
  if settings.verbose ≠ 0 ∧ settings.quiet ≠ 0 then
    .error (.misuse (.conflictingOptions "verbose" "quiet"))
  else .ok settings

end Settings

end Command
end LegendReport
