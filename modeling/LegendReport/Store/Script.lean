import LegendReport.Journal.Logged
import LegendReport.Store.Basic

/-!
# Scripts

A script is a program over the file tree: it reads and lists, puts a report in
its place, asks for the time that has passed, and notes events.  What these
steps mean is left to whoever runs it.

`Script.run` runs a script on a store, where no time passes, and collects the
journal.  `Script.interpret` runs it in any monad, given a meaning for each
step.
-/

namespace LegendReport

/-- A program over the file tree that ends with a result. -/
inductive Script (α : Type) : Type where
  | done (value : α)
  | note (entry : Entry) (next : Script α)
  | readText (path : Path) (next : Except FileFault String → Script α)
  | listFolder (path : Path) (next : Option (List Child) → Script α)
  | replaceFile (path : Path) (text : String) (next : Except PlacementError Unit → Script α)
  /-- Asks for the milliseconds since the script was started. -/
  | elapsed (next : Nat → Script α)

namespace Script

variable {α β : Type}

/-- Goes on from the result of a script. -/
def bind : Script α → (α → Script β) → Script β
  | done value, f => f value
  | note entry next, f => note entry (next.bind f)
  | readText path next, f => readText path fun result => (next result).bind f
  | listFolder path next, f => listFolder path fun result => (next result).bind f
  | replaceFile path text next, f => replaceFile path text fun result => (next result).bind f
  | elapsed next, f => elapsed fun time => (next time).bind f

/-- Changes the result of a script. -/
def map (f : α → β) (script : Script α) : Script β :=
  script.bind fun value => done (f value)

/-- Puts all events of a script inside a span. -/
def within (span : Span) : Script α → Script α
  | done value => done value
  | note entry next => note (entry.within span) (next.within span)
  | readText path next => readText path fun result => (next result).within span
  | listFolder path next => listFolder path fun result => (next result).within span
  | replaceFile path text next => replaceFile path text fun result => (next result).within span
  | elapsed next => elapsed fun time => (next time).within span

/-- Notes an event outside any span. -/
def report (event : Event) (next : Script α) : Script α :=
  note ⟨[], event⟩ next

/-- Notes the events of a logged result and ends with it. -/
def ofLogged (logged : Logged α) : Script α :=
  logged.journal.foldr note (done logged.value)

/-- What comes of running a script on a store. -/
structure Outcome (α : Type) where
  value : α
  journal : List Entry
  store : Store

/-- Runs a script on a store. -/
def run : Script α → Store → Outcome α
  | done value, store => ⟨value, [], store⟩
  | note entry next, store =>
    let rest := next.run store
    ⟨rest.value, entry :: rest.journal, rest.store⟩
  | readText path next, store => (next (store.readText path)).run store
  | listFolder path next, store => (next (store.list? path)).run store
  | replaceFile path text next, store =>
    let placed := store.replaceFile path text
    (next placed.1).run placed.2
  | elapsed next, store => (next 0).run store

/-- A meaning for each step of a script. -/
structure Handler (m : Type → Type) where
  note : Entry → m Unit
  readText : Path → m (Except FileFault String)
  listFolder : Path → m (Option (List Child))
  replaceFile : Path → String → m (Except PlacementError Unit)
  elapsed : m Nat

/-- Runs a script in a monad. -/
def interpret {m : Type → Type} [Monad m] (handler : Handler m) : Script α → m α
  | done value => pure value
  | note entry next => do
    handler.note entry
    next.interpret handler
  | readText path next => do
    let result ← handler.readText path
    (next result).interpret handler
  | listFolder path next => do
    let result ← handler.listFolder path
    (next result).interpret handler
  | replaceFile path text next => do
    let result ← handler.replaceFile path text
    (next result).interpret handler
  | elapsed next => do
    let time ← handler.elapsed
    (next time).interpret handler

@[simp] theorem run_done
    (value : α)
    (store : Store) :
    (done value).run store = ⟨value, [], store⟩ := by
  rfl

/-- Running a sequence runs its parts one after the other and appends their journals. -/
theorem run_bind
    (script : Script α)
    (f : α → Script β)
    (store : Store) :
    (script.bind f).run store =
      let first := script.run store
      let second := (f first.value).run first.store
      ⟨second.value, first.journal ++ second.journal, second.store⟩ := by
  induction script generalizing store with
  | done value => rfl
  | note entry next ih => simp only [bind, run, ih, List.cons_append]
  | readText path next ih => exact ih (store.readText path) store
  | listFolder path next ih => exact ih (store.list? path) store
  | replaceFile path text next ih => exact ih _ (store.replaceFile path text).2
  | elapsed next ih => exact ih 0 store

@[simp] theorem run_ofLogged
    (logged : Logged α)
    (store : Store) :
    (ofLogged logged).run store = ⟨logged.value, logged.journal, store⟩ := by
  have hfold :
      ∀ journal : List Entry,
        (journal.foldr note (done logged.value)).run store = ⟨logged.value, journal, store⟩ := by
    intro journal
    induction journal with
    | nil => rfl
    | cons entry rest ih => simp only [List.foldr_cons, run, ih]
  exact hfold logged.journal

/-- A span around a script changes its journal only. -/
theorem run_within
    (span : Span)
    (script : Script α)
    (store : Store) :
    (script.within span).run store =
      let outcome := script.run store
      ⟨outcome.value, outcome.journal.map (Entry.within span), outcome.store⟩ := by
  induction script generalizing store with
  | done value => rfl
  | note entry next ih => simp only [within, run, ih, List.map_cons]
  | readText path next ih => exact ih (store.readText path) store
  | listFolder path next ih => exact ih (store.list? path) store
  | replaceFile path text next ih => exact ih _ (store.replaceFile path text).2
  | elapsed next ih => exact ih 0 store

@[simp] theorem value_run_bind
    (script : Script α)
    (f : α → Script β)
    (store : Store) :
    ((script.bind f).run store).value =
      ((f (script.run store).value).run (script.run store).store).value := by
  rw [run_bind]

@[simp] theorem store_run_bind
    (script : Script α)
    (f : α → Script β)
    (store : Store) :
    ((script.bind f).run store).store =
      ((f (script.run store).value).run (script.run store).store).store := by
  rw [run_bind]

@[simp] theorem value_run_map
    (f : α → β)
    (script : Script α)
    (store : Store) :
    ((script.map f).run store).value = f (script.run store).value := by
  rw [map, value_run_bind, run_done]

@[simp] theorem store_run_map
    (f : α → β)
    (script : Script α)
    (store : Store) :
    ((script.map f).run store).store = (script.run store).store := by
  rw [map, store_run_bind, run_done]

@[simp] theorem value_run_report
    (event : Event)
    (next : Script α)
    (store : Store) :
    ((report event next).run store).value = (next.run store).value := by
  rfl

@[simp] theorem store_run_report
    (event : Event)
    (next : Script α)
    (store : Store) :
    ((report event next).run store).store = (next.run store).store := by
  rfl

@[simp] theorem value_run_within
    (span : Span)
    (script : Script α)
    (store : Store) :
    ((script.within span).run store).value = (script.run store).value := by
  rw [run_within]

@[simp] theorem store_run_within
    (span : Span)
    (script : Script α)
    (store : Store) :
    ((script.within span).run store).store = (script.run store).store := by
  rw [run_within]

end Script

end LegendReport
