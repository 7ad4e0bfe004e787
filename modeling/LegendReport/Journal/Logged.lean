import LegendReport.Journal.Event

/-!
# Results with a journal

A computation that reports events returns them with its result.  Sequencing two
such computations appends their journals, so the journal of a whole is the
concatenation of the journals of its parts.
-/

namespace LegendReport

/-- A result and the events on the way to it. -/
structure Logged (α : Type) where
  value : α
  journal : List Entry

namespace Logged

variable {α β : Type}

/-- A result without events. -/
def silent (value : α) : Logged α :=
  ⟨value, []⟩

/-- A result with events outside any span. -/
def reporting (value : α) (events : List Event) : Logged α :=
  ⟨value, events.map (⟨[], ·⟩)⟩

/-- Goes on from a result; the events of the second step follow those of the first. -/
def bind (first : Logged α) (next : α → Logged β) : Logged β :=
  ⟨(next first.value).value, first.journal ++ (next first.value).journal⟩

/-- Changes the result and keeps the events. -/
def map (f : α → β) (logged : Logged α) : Logged β :=
  ⟨f logged.value, logged.journal⟩

/-- Puts all events inside a span. -/
def within (span : Span) (logged : Logged α) : Logged α :=
  ⟨logged.value, logged.journal.map (Entry.within span)⟩

/-- The results of several computations in order, with all their events in order. -/
def all (parts : List (Logged α)) : Logged (List α) :=
  ⟨parts.map value, parts.flatMap journal⟩

@[simp] theorem value_bind
    (first : Logged α)
    (next : α → Logged β) :
    (first.bind next).value = (next first.value).value := by
  rfl

@[simp] theorem journal_bind
    (first : Logged α)
    (next : α → Logged β) :
    (first.bind next).journal = first.journal ++ (next first.value).journal := by
  rfl

@[simp] theorem value_within
    (span : Span)
    (logged : Logged α) :
    (logged.within span).value = logged.value := by
  rfl

@[simp] theorem value_all
    (parts : List (Logged α)) :
    (all parts).value = parts.map value := by
  rfl

@[simp] theorem journal_all
    (parts : List (Logged α)) :
    (all parts).journal = parts.flatMap journal := by
  rfl

end Logged

end LegendReport
