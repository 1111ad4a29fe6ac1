/-!
Severities of log lines, from the detail of a single node to the end of the process.
-/

namespace QueryRewriting.Telemetry

/-- How severe a log line is. -/
inductive Severity where
  | trace
  | info
  | warn
  | error
  | fatal
  deriving DecidableEq, Inhabited

namespace Severity

/-- The place of a severity in the order. -/
def rank : Severity → Nat
  | .trace => 0
  | .info => 1
  | .warn => 2
  | .error => 3
  | .fatal => 4

/-- The name of a severity. -/
def name : Severity → String
  | .trace => "TRACE"
  | .info => "INFO"
  | .warn => "WARN"
  | .error => "ERROR"
  | .fatal => "FATAL"

/-- The severities in increasing order. -/
def all : List Severity := [.trace, .info, .warn, .error, .fatal]

/-- The severity of a name; the case of ASCII letters does not matter. -/
def ofName? (name : String) : Option Severity :=
  all.find? (fun severity => severity.name == name.map Char.toUpper)

end Severity

end QueryRewriting.Telemetry
