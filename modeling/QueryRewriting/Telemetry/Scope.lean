import QueryRewriting.Telemetry.Log

/-!
Scopes: stages of work that log their beginning and how they ended. A scope that is left before it
was completed or failed says so.
-/

namespace QueryRewriting.Telemetry

/-- A stage that has begun, and whether it has ended. Its fields are repeated when it ends. -/
structure Scope where
  name : String
  fields : LogFields
  began : Nat
  finished : Bool := false
  deriving DecidableEq, Inhabited

namespace Scope

/-- Begins a stage at a time in milliseconds. -/
def start (log : Log) (name : String) (fields : LogFields) (now : Nat) : Log × Scope :=
  (log.note .trace (name ++ "_BEGIN") fields, { name, fields, began := now })

/-- Ends a stage that went well, with further fields and the time it took. -/
def complete (scope : Scope) (log : Log) (extra : LogFields) (now : Nat) : Log × Scope :=
  let fields := scope.fields ++ extra ++ [("elapsed_ms", toString (now - scope.began))]
  (log.note .info (scope.name ++ "_COMPLETE") fields, { scope with finished := true })

/-- Ends a stage that failed. -/
def fail (scope : Scope) (log : Log) (reason : String) : Log × Scope :=
  let fields := scope.fields ++ [("reason", reason)]
  (log.note .error (scope.name ++ "_FAILED") fields, { scope with finished := true })

/-- Leaves a stage; that is only noted if the stage has not ended. -/
def abandon (scope : Scope) (log : Log) : Log :=
  if scope.finished then log
  else log.note .warn (scope.name ++ "_INCOMPLETE")
    [("reason", "scope dropped without completion")]

end Scope

end QueryRewriting.Telemetry
