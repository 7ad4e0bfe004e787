import LegendReport.Journal.Directive
import LegendReport.Text.Lines

/-!
# Log filters

A filter is a list of directives.  An event or a span is judged by the most
specific of the directives that judge it; what no directive judges is off.
Besides, a directive that names a span or a field holds inside of the spans that
it opens: whatever happens there is shown up to its threshold.

A span that is not shown is passed over: it leaves no trace in the log lines of
the events inside, and no directive holds in it.

A filter is written as directives with commas between them.  `Filter.read?`
refuses a text if one of its directives is malformed; a text without any
directive is a filter that shows nothing.
-/

namespace LegendReport

/-- What is shown of a journal. -/
structure Filter where
  directives : List Directive
  deriving DecidableEq, Repr

namespace Filter

/-- The same threshold for everything. -/
def uniform (threshold : Threshold) : Filter :=
  ⟨[.ofThreshold threshold]⟩

section Judgement

/-- The more specific of two directives; of two alike the second. -/
def prefer (best : Option Directive) (next : Directive) : Option Directive :=
  match best with
  | none => some next
  | some directive => if directive.yieldsTo next then some next else some directive

/-- The threshold of the most specific directive. -/
def verdict (directives : List Directive) : Threshold :=
  match directives.foldl prefer none with
  | some directive => directive.threshold
  | none => .off

/-- The threshold that an event is judged by. -/
def ofEvent (filter : Filter) (event : Event) : Threshold :=
  verdict (filter.directives.filter (·.judgesEvent event))

/-- The threshold that a span is judged by. -/
def ofSpan (filter : Filter) (span : Span) : Threshold :=
  verdict (filter.directives.filter (·.judgesSpan span))

end Judgement

section Spans

/-- The directives without those that a later one of the same scope replaces. -/
def latest : List Directive → List Directive
  | [] => []
  | directive :: rest =>
    if rest.any directive.sameScope then latest rest else directive :: latest rest

/-- The directives that hold inside of the spans of a kind. -/
def opening (filter : Filter) (span : Span) : List Directive :=
  (latest filter.directives).filter (·.opens span)

/-- The threshold inside of a span that is opened: that of the directives that hold in it. -/
def inside (filter : Filter) (span : Span) : Threshold :=
  (((filter.opening span).filter (·.holdsIn span)).map Directive.threshold).foldl Threshold.wider .off

/-- The level up to which spans are opened at all: that of the directives together, but every
level if a value has to be looked at. -/
def ceiling (filter : Filter) : Threshold :=
  if filter.directives.any Directive.testsValue then .upTo .trace
  else (filter.directives.map Directive.threshold).foldl Threshold.wider .off

/-- Whether directives hold inside of a span. -/
def opens (filter : Filter) (span : Span) : Bool :=
  !(filter.opening span).isEmpty && filter.ceiling.passes span.level

end Spans

section Scopes

/-- What is known inside of some spans: those that are shown, and the threshold that holds. -/
structure Scope where
  spans : List Span
  threshold : Threshold
  deriving DecidableEq, Repr

/-- The scope outside of all spans. -/
def Scope.outermost : Scope :=
  ⟨[], .off⟩

/-- Whether a span is shown. -/
def showsSpan (filter : Filter) (scope : Scope) (span : Span) : Bool :=
  filter.opens span || scope.threshold.passes span.level || (filter.ofSpan span).passes span.level

/-- The scope inside of one more span. -/
def enter (filter : Filter) (scope : Scope) (span : Span) : Scope :=
  if filter.showsSpan scope span then
    { spans := scope.spans ++ [span]
      threshold := scope.threshold.wider (filter.inside span) }
  else scope

/-- Whether an event is shown. -/
def showsEvent (filter : Filter) (scope : Scope) (event : Event) : Bool :=
  scope.threshold.passes event.level || (filter.ofEvent event).passes event.level

/-- An entry with the spans that are shown, if its event is shown. -/
def entry? (filter : Filter) (entry : Entry) : Option Entry :=
  let scope := entry.spans.foldl filter.enter .outermost
  if filter.showsEvent scope entry.event then some ⟨scope.spans, entry.event⟩ else none

/-- What is left of a journal. -/
def apply (filter : Filter) (journal : List Entry) : List Entry :=
  journal.filterMap filter.entry?

end Scopes

/-- The filter that a text stands for. -/
def read? (text : String) : Option Filter :=
  (((Text.pieces ',' text).filter (· ≠ "")).mapM Directive.read?).map Filter.mk

/-- Everything is judged by a uniform threshold. -/
theorem ofEvent_uniform
    (threshold : Threshold)
    (event : Event) :
    (uniform threshold).ofEvent event = threshold := by
  rfl

theorem ofSpan_uniform
    (threshold : Threshold)
    (span : Span) :
    (uniform threshold).ofSpan span = threshold := by
  rfl

/-- Under a uniform threshold no directive holds inside of spans. -/
theorem inside_uniform
    (threshold : Threshold)
    (span : Span) :
    (uniform threshold).inside span = .off := by
  rfl

end Filter

end LegendReport
