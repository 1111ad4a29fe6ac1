import QueryRewriting.Json.Value
import QueryRewriting.Json.Printer

/-!
Counters over the requests of a pipeline. They only grow, and wrap after 2^64 - 1.
-/

namespace QueryRewriting.Telemetry

open Json

/-- The counters of a pipeline. -/
structure Metrics where
  requestsReceived : UInt64 := 0
  requestsCompleted : UInt64 := 0
  requestsShortCircuited : UInt64 := 0
  requestsFailed : UInt64 := 0
  requestsCancelled : UInt64 := 0
  queriesRewritten : UInt64 := 0
  sourcingCalls : UInt64 := 0
  inspectionDenials : UInt64 := 0
  queriesExecuted : UInt64 := 0
  rowsReturned : UInt64 := 0
  deriving DecidableEq, Inhabited

namespace Metrics

/-- The counters with their names, in the order in which they are listed. -/
def counters (metrics : Metrics) : List (String × UInt64) := [
  ("requests_received", metrics.requestsReceived),
  ("requests_completed", metrics.requestsCompleted),
  ("requests_short_circuited", metrics.requestsShortCircuited),
  ("requests_failed", metrics.requestsFailed),
  ("requests_cancelled", metrics.requestsCancelled),
  ("rewrites_completed", metrics.queriesRewritten),
  ("sourcing_calls", metrics.sourcingCalls),
  ("inspection_denials", metrics.inspectionDenials),
  ("queries_executed", metrics.queriesExecuted),
  ("rows_returned", metrics.rowsReturned)]

/-- The counters as a JSON value. -/
def toValue (metrics : Metrics) : Value :=
  Value.ofMembers (metrics.counters.map fun (name, count) => (name, .ofUInt64 count))

/-- The counters as JSON text, in their own order. -/
def text (metrics : Metrics) : String :=
  let pairs := metrics.counters.map fun (name, count) =>
    quoted escapeChar name ++ ':' :: (Value.ofUInt64 count).chars
  String.ofList ('\x7b' :: (commaSeparated pairs ++ ['\x7d']))

/-- A request has come in. -/
def received (metrics : Metrics) : Metrics :=
  { metrics with requestsReceived := metrics.requestsReceived + 1 }

/-- A request has passed all stages. -/
def completed (metrics : Metrics) : Metrics :=
  { metrics with requestsCompleted := metrics.requestsCompleted + 1 }

/-- A request filter has supplied the result. -/
def shortCircuited (metrics : Metrics) : Metrics :=
  { metrics with requestsShortCircuited := metrics.requestsShortCircuited + 1 }

/-- A request has failed. -/
def failed (metrics : Metrics) : Metrics :=
  { metrics with requestsFailed := metrics.requestsFailed + 1 }

/-- A request has been cancelled. -/
def cancelled (metrics : Metrics) : Metrics :=
  { metrics with requestsCancelled := metrics.requestsCancelled + 1 }

/-- A query has been rewritten. -/
def rewritten (metrics : Metrics) : Metrics :=
  { metrics with queriesRewritten := metrics.queriesRewritten + 1 }

/-- A walk has asked its sourcer so often. -/
def sourced (metrics : Metrics) (calls : UInt64) : Metrics :=
  { metrics with sourcingCalls := metrics.sourcingCalls + calls }

/-- An inspector has denied access. -/
def denied (metrics : Metrics) : Metrics :=
  { metrics with inspectionDenials := metrics.inspectionDenials + 1 }

/-- A query has been executed. -/
def executed (metrics : Metrics) : Metrics :=
  { metrics with queriesExecuted := metrics.queriesExecuted + 1 }

/-- A completed request has returned so many rows. -/
def returned (metrics : Metrics) (rows : UInt64) : Metrics :=
  { metrics with rowsReturned := metrics.rowsReturned + rows }

end Metrics

end QueryRewriting.Telemetry
