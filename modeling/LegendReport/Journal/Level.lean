/-!
# Levels of severity

Events are graded by severity.  A threshold is either off or a level, and lets
through the events that are at least as severe.
-/

namespace LegendReport

/-- How severe an event is, the most severe first. -/
inductive Level where
  | error
  | warn
  | info
  | debug
  | trace
  deriving DecidableEq, Repr

namespace Level

/-- The place of a level in the order, from one for the most severe to five. -/
def rank : Level → Nat
  | error => 1
  | warn => 2
  | info => 3
  | debug => 4
  | trace => 5

/-- The name that log lines show. -/
def label : Level → String
  | error => "ERROR"
  | warn => "WARN"
  | info => "INFO"
  | debug => "DEBUG"
  | trace => "TRACE"

end Level

/-- The least severe level that is let through, or nothing at all. -/
inductive Threshold where
  | off
  | upTo (level : Level)
  deriving DecidableEq, Repr

namespace Threshold

/-- The rank of the least severe level that is let through; zero is off. -/
def rank : Threshold → Nat
  | off => 0
  | upTo limit => limit.rank

/-- Whether an event of the level is let through. -/
def passes (threshold : Threshold) (level : Level) : Bool :=
  decide (level.rank ≤ threshold.rank)

/-- The threshold that lets more through. -/
def wider (first second : Threshold) : Threshold :=
  if first.rank ≤ second.rank then second else first

/-- The threshold of a rank; zero is off, and ranks past the last level let everything through. -/
def ofRank : Nat → Threshold
  | 0 => off
  | 1 => upTo .error
  | 2 => upTo .warn
  | 3 => upTo .info
  | 4 => upTo .debug
  | _ => upTo .trace

end Threshold

end LegendReport
