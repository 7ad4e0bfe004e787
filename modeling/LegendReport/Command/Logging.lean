import LegendReport.Command.Options
import LegendReport.Journal.Filter

/-!
# Logging of the command line

The options decide which events are logged, in which format, and where to.
Without options that choose a level, a filter from the environment decides; one
that is malformed counts as none.
-/

namespace LegendReport
namespace Command

/-- The variables of the environment that the program looks at. -/
structure Environment where
  /-- The filter of log events. -/
  logFilter : Option String
  /-- The namespace of documents. -/
  uri : Option String
  deriving DecidableEq, Repr

/-- How events are logged. -/
structure LogSettings where
  filter : Filter
  format : LogFormat
  coloured : Bool
  /-- The file that log lines are added to; without one they go to the error stream. -/
  file : Option Path
  deriving DecidableEq, Repr

/-- The threshold that the options choose: a named level, or else two steps above the least
verbose, moved by each request for more or fewer events. -/
def Settings.threshold (settings : Settings) : Threshold :=
  match settings.logLevel with
  | some level => .upTo level
  | none => .ofRank (2 + settings.verbose - settings.quiet)

/-- Whether an option chooses a level. -/
def Settings.choosesLevel (settings : Settings) : Bool :=
  settings.verbose ≠ 0 || settings.quiet ≠ 0 || settings.logLevel.isSome

/-- The filter of log events. -/
def Settings.logFilter (settings : Settings) (environment : Environment) : Filter :=
  if settings.choosesLevel then .uniform settings.threshold
  else (environment.logFilter.bind Filter.read?).getD (.uniform settings.threshold)

/-- How events are logged with the given settings.  The streams are taken not to be terminals. -/
def Settings.logging (settings : Settings) (environment : Environment) : LogSettings :=
  { filter := settings.logFilter environment
    format := settings.logFormat.getD .pretty
    coloured := settings.colour = some .always
    file := settings.logFile }

namespace LogSettings

/-- The line of an entry, if it is logged. -/
def line? (logging : LogSettings) (time : String) (entry : Entry) : Option String :=
  (logging.filter.entry? entry).map (logging.format.line logging.coloured time)

end LogSettings

end Command
end LegendReport
