import QueryRewriting.Telemetry.Severity

/-!
The events of a request's life that are logged, with their names and severities.
-/

namespace QueryRewriting.Telemetry

/-- An observable event. -/
inductive Event where
  | configLoaded
  | modelLoaded
  | requestReceived
  | requestShortCircuited
  | requestCompleted
  | requestFailed
  | requestCancelled
  | queryRewritten
  | sourceRoot
  | sourceEmbedded
  | inspectionDenied
  | queryExecuted
  | explainComplete
  deriving DecidableEq, Inhabited

namespace Event

/-- The name of an event in log lines. -/
def name : Event → String
  | .configLoaded => "CONFIG_LOADED"
  | .modelLoaded => "MODEL_LOADED"
  | .requestReceived => "REQUEST_RECEIVED"
  | .requestShortCircuited => "REQUEST_SHORT_CIRCUITED"
  | .requestCompleted => "REQUEST_COMPLETED"
  | .requestFailed => "REQUEST_FAILED"
  | .requestCancelled => "REQUEST_CANCELLED"
  | .queryRewritten => "REWRITE_COMPLETE"
  | .sourceRoot => "SOURCE_ROOT"
  | .sourceEmbedded => "SOURCE_EMBEDDED"
  | .inspectionDenied => "INSPECTION_DENIED"
  | .queryExecuted => "QUERY_EXECUTED"
  | .explainComplete => "EXPLAIN_COMPLETE"

/-- All events. -/
def all : List Event :=
  [.configLoaded, .modelLoaded, .requestReceived, .requestShortCircuited, .requestCompleted,
   .requestFailed, .requestCancelled, .queryRewritten, .sourceRoot, .sourceEmbedded,
   .inspectionDenied, .queryExecuted, .explainComplete]

/-- The event of a name. -/
def ofName? (name : String) : Option Event := all.find? fun event => event.name == name

/-- The severity at which an event is logged. -/
def severity : Event → Severity
  | .sourceEmbedded => .trace
  | .inspectionDenied => .warn
  | .requestCancelled => .warn
  | .requestFailed => .error
  | _ => .info

end Event

end QueryRewriting.Telemetry
