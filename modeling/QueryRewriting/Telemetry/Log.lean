import QueryRewriting.Json.Printer
import QueryRewriting.Telemetry.Event

/-!
The log: one JSON object per line, the event first, the severity second, the other fields in the
order of their keys. What a field holds is escaped, so a line never breaks and no field can pass
for another. Lines below the minimum severity are dropped when they are written.
-/

namespace QueryRewriting.Telemetry

open Json

/-- The fields of a log line besides its event and severity. -/
abbrev LogFields := List (String × String)

/-- One line of the log. -/
structure LogLine where
  severity : Severity
  event : String
  fields : LogFields := []
  deriving DecidableEq, Inhabited

namespace LogLine

/-- Whether a character is a control character: the first thirty-two, delete, and the second
control block. -/
def isControl (c : Char) : Bool := c.toNat < 0x20 || (0x7f ≤ c.toNat && c.toNat ≤ 0x9f)

/-- A character inside a field: quotes, backslashes and control characters are escaped, by a letter
where the log has one. -/
def escape (c : Char) : List Char :=
  match c with
  | '"' => ['\\', '"']
  | '\\' => ['\\', '\\']
  | '\n' => ['\\', 'n']
  | '\r' => ['\\', 'r']
  | '\t' => ['\\', 't']
  | c => if isControl c then numericEscape c else [c]

/-- One field of a line. -/
def pair (key value : String) : List Char := quoted escape key ++ ':' :: quoted escape value

/-- The fields in the order of their keys; fields with one key keep the order they were given in. -/
def sortedFields (fields : LogFields) : LogFields :=
  fields.mergeSort (fun a b => decide (a.1 ≤ b.1))

/-- The text of a line. -/
def text (line : LogLine) : String :=
  let leading := [("event", line.event), ("severity", line.severity.name)]
  let pairs := (leading ++ sortedFields line.fields).map fun (key, value) => pair key value
  String.ofList ('\x7b' :: (commaSeparated pairs ++ ['\x7d']))

/-- The text of a line with its end. -/
def render (line : LogLine) : String := line.text ++ "\n"

end LogLine

/-- Where a line goes: with the answers, or with the errors. -/
inductive Channel where
  | output
  | errors
  deriving DecidableEq, Inhabited

/-- The lines written so far, the last one first, and the minimum severity. -/
structure Log where
  minimum : Severity := .info
  written : List (Channel × LogLine) := []
  deriving DecidableEq, Inhabited

namespace Log

/-- Whether lines of a severity are written. -/
def enabled (log : Log) (severity : Severity) : Bool := log.minimum.rank ≤ severity.rank

/-- Writes a line unless it is below the minimum. -/
def write (log : Log) (channel : Channel) (line : LogLine) : Log :=
  if log.enabled line.severity then { log with written := (channel, line) :: log.written } else log

/-- The channel of lines that are not written to a chosen one: errors go with the errors. -/
def channelOf (severity : Severity) : Channel :=
  if Severity.error.rank ≤ severity.rank then .errors else .output

/-- Writes a line to the channel of its severity. -/
def note (log : Log) (severity : Severity) (event : String) (fields : LogFields) : Log :=
  log.write (channelOf severity) ⟨severity, event, fields⟩

/-- Writes an event at its own severity. -/
def event (log : Log) (event : Event) (fields : LogFields) : Log :=
  log.note event.severity event.name fields

/-- The lines of a channel, in the order in which they were written. -/
def lines (log : Log) (channel : Channel) : List LogLine :=
  log.written.reverse.filterMap fun (target, line) => if target = channel then some line else none

end Log

end QueryRewriting.Telemetry
