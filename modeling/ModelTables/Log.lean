import ModelTables.Failure

/-! # Logged runs

Operations report what they drop or ignore as warnings (and a few errors) while
they run.  A `Run` is a computation that appends log entries and may fail; the
entries logged before a failure are kept.
-/

namespace ModelTables

/-- The levels of logged messages that callers see. -/
inductive Level where
  | warn
  | error
  deriving DecidableEq, Repr, Inhabited

/-- The name of a level. -/
def Level.name : Level → String
  | .warn => "warn"
  | .error => "error"

/-- One logged message. -/
structure LogEntry where
  level : Level
  message : String
  deriving Inhabited, Repr

/-- A computation that logs and may fail, keeping its log on failure. -/
abbrev Run := ExceptT Failure (StateM (List LogEntry))

namespace Run

/-- Log a warning. -/
def warn (message : String) : Run Unit :=
  modify fun log => log ++ [⟨.warn, message⟩]

/-- Log an error. -/
def logError (message : String) : Run Unit :=
  modify fun log => log ++ [⟨.error, message⟩]

/-- Run from an empty log: the outcome and the log. -/
def exec {α : Type} (r : Run α) : Except Failure α × List LogEntry :=
  (r.run).run []

/-- Lift a result that cannot log. -/
def lift {α : Type} (r : Except Failure α) : Run α :=
  match r with
  | .ok a => pure a
  | .error e => throw e

end Run

end ModelTables
