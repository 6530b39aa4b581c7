/-
Runs that can be watched.  Building a column asks for schemas, writes to a log
and may fail; a traced result keeps what happened, in order, beside the
outcome.  What happened before a failure stays on record, nothing after it
takes place.
-/
import ColumnCatalog.Basic
import ColumnCatalog.Server.FieldGroup

namespace ColumnCatalog

inductive LogLevel where
  | debug
  | trace
deriving Repr, DecidableEq

/-- What the log tells about the building of columns. -/
inductive LogEntry where
  /-- A group of fields is read for a column. -/
  | readingFields (column : String) (group : FieldGroup)
  /-- The declared type of a column is known by its name only. -/
  | typeNotResolved (typeName table column : String)
  /-- A new column has no type, since the cache lacks the default type. -/
  | defaultTypeNotCached (typeName table : String)
deriving Repr, DecidableEq

namespace LogEntry

def level : LogEntry → LogLevel
  | readingFields _ _ => .trace
  | typeNotResolved _ _ _ => .debug
  | defaultTypeNotCached _ _ => .debug

def message : LogEntry → String
  | readingFields column group =>
      "Column " ++ column ++ ": reading " ++ group.label ++ " fields"
  | typeNotResolved typeName table column =>
      "Data type '" ++ typeName ++ "' of column " ++ table ++ "." ++ column ++
        " wasn't resolved"
  | defaultTypeNotCached typeName table =>
      "Default data type '" ++ typeName ++ "' not cached, new column in " ++ table ++
        " has no type"

end LogEntry

inductive Event where
  | pull
  | lookup (schema : String)
  | log (entry : LogEntry)
deriving Repr, DecidableEq

/-- An outcome and the events that led to it. -/
structure Traced (α : Type) where
  events : List Event
  outcome : Except CatalogError α

namespace Traced

variable {α β γ : Type}

def lookups (run : Traced α) : List String :=
  run.events.filterMap fun
    | .lookup schema => some schema
    | _ => none

def logs (run : Traced α) : List LogEntry :=
  run.events.filterMap fun
    | .log entry => some entry
    | _ => none

def pulled (run : Traced α) : Nat :=
  run.events.count .pull

/-- An outcome that nothing led to. -/
def ofExcept (outcome : Except CatalogError α) : Traced α :=
  ⟨[], outcome⟩

/-- A run that does nothing but let one event happen. -/
def emit (event : Event) : Traced Unit :=
  ⟨[event], .ok ()⟩

/-- A run that does nothing but write entries to the log. -/
def log (entries : List LogEntry) : Traced Unit :=
  ⟨entries.map .log, .ok ()⟩

/-- Go on with the result, unless there is none. -/
def bind (run : Traced α) (next : α → Traced β) : Traced β :=
  match run.outcome with
  | .ok a => ⟨run.events ++ (next a).events, (next a).outcome⟩
  | .error cause => ⟨run.events, .error cause⟩

instance : Monad Traced where
  pure a := ofExcept (.ok a)
  bind := bind

/-- A run whose failure is part of its result, so that what follows it still happens. -/
def attempt (run : Traced α) : Traced (Except CatalogError α) :=
  ⟨run.events, .ok run.outcome⟩

@[ext]
theorem ext {left right : Traced α} (hevents : left.events = right.events)
    (houtcome : left.outcome = right.outcome) : left = right := by
  cases left
  cases right
  simp_all

theorem map_id (run : Traced α) : id <$> run = run := by
  rcases run with ⟨events, outcome | value⟩ <;>
    simp [Functor.map, bind, ofExcept]

theorem ok_bind (a : α) (next : α → Traced β) : pure a >>= next = next a := by
  simp [Pure.pure, Bind.bind, bind, ofExcept]

/-- What happens in a run does not depend on how its steps are grouped. -/
theorem bind_bind (run : Traced α) (next : α → Traced β) (last : β → Traced γ) :
    run >>= next >>= last = run >>= fun a => next a >>= last := by
  rcases run with ⟨events, outcome | value⟩
  · rfl
  · simp only [Bind.bind, bind]
    cases (next value).outcome <;> simp

instance : LawfulMonad Traced := LawfulMonad.mk' Traced map_id ok_bind bind_bind

@[simp]
theorem outcome_pure (a : α) : (pure a : Traced α).outcome = .ok a := rfl

@[simp]
theorem events_pure (a : α) : (pure a : Traced α).events = [] := rfl

/-- What a run of two steps results in is the result of the second step, after a result of
the first. -/
theorem exists_of_bind_eq_ok {run : Traced α} {next : α → Traced β} {b : β}
    (hrun : (run >>= next).outcome = .ok b) :
    ∃ a, run.outcome = .ok a ∧ (next a).outcome = .ok b := by
  rcases run with ⟨events, cause | a⟩
  · contradiction
  · exact ⟨a, rfl, hrun⟩

/-- After a success the events of what follows come behind those before it. -/
theorem mk_ok_bind (events : List Event) (a : α) (next : α → Traced β) :
    (⟨events, .ok a⟩ : Traced α) >>= next =
      ⟨events ++ (next a).events, (next a).outcome⟩ := rfl

@[simp]
theorem outcome_map (f : α → β) (run : Traced α) :
    (f <$> run).outcome = run.outcome.map f := by
  rcases run with ⟨events, outcome | value⟩ <;> rfl

@[simp]
theorem events_map (f : α → β) (run : Traced α) : (f <$> run).events = run.events := by
  rcases run with ⟨events, outcome | value⟩ <;> simp [Functor.map, bind, ofExcept]

@[simp]
theorem lookups_map (f : α → β) (run : Traced α) : (f <$> run).lookups = run.lookups := by
  simp [lookups]

@[simp]
theorem logs_map (f : α → β) (run : Traced α) : (f <$> run).logs = run.logs := by
  simp [logs]

@[simp]
theorem outcome_log (entries : List LogEntry) : (log entries).outcome = .ok () := rfl

@[simp]
theorem events_log (entries : List LogEntry) : (log entries).events = entries.map .log := rfl

/-- Writing to the log never stops a run. -/
@[simp]
theorem outcome_log_bind (entries : List LogEntry) (next : Unit → Traced α) :
    (log entries >>= next).outcome = (next ()).outcome := rfl

theorem events_log_bind (entries : List LogEntry) (next : Unit → Traced α) :
    (log entries >>= next).events = entries.map .log ++ (next ()).events := rfl

/-- Entries of a log are no lookups. -/
@[simp]
theorem lookups_log_bind (entries : List LogEntry) (next : Unit → Traced α) :
    (log entries >>= next).lookups = (next ()).lookups := by
  have hnone : ((entries.map Event.log).filterMap fun
      | .lookup schema => some schema
      | _ => none) = ([] : List String) := by simp
  rw [lookups, events_log_bind, List.filterMap_append, hnone, List.nil_append, lookups]

@[simp]
theorem logs_log_bind (entries : List LogEntry) (next : Unit → Traced α) :
    (log entries >>= next).logs = entries ++ (next ()).logs := by
  rw [logs, events_log_bind, List.filterMap_append, List.filterMap_map, logs]
  exact congrArg (· ++ _) List.filterMap_some

end Traced

end ColumnCatalog
