import QueryRewriting.Config
import QueryRewriting.Request.Error

/-!
Why a command fails. An error keeps the code of what went wrong in its text.
-/

namespace QueryRewriting.CommandLine

open Json

/-- What a command error is about. -/
inductive ErrorKind where
  | config
  | io
  | model
  | input
  | query
  deriving DecidableEq, Inhabited

/-- The stable code of a kind of command error. -/
def ErrorKind.code : ErrorKind → String
  | .config => "AERO_CLI_CONFIG_ERROR"
  | .io => "AERO_CLI_IO_ERROR"
  | .model => "AERO_CLI_MODEL_ERROR"
  | .input => "AERO_CLI_INPUT_ERROR"
  | .query => "AERO_CLI_QUERY_FAILED"

/-- The kinds by name. -/
def ErrorKind.byName : List (String × ErrorKind) :=
  [("config", .config), ("io", .io), ("model", .model), ("input", .input), ("query", .query)]

/-- What is wrong with a data or query file. -/
inductive InputFlaw where
  | unreadable (path reason : String)
  | invalidText (path : String) (error : ReadError)
  | notAStore (error : Evaluation.Store.Error)
  | notAQuery (error : RequestError)
  deriving DecidableEq

/-- Why a command fails. -/
inductive CommandError where
  | config (error : ConfigError)
  | model (error : Schema.Error)
  | input (flaw : InputFlaw)
  | query (error : RequestError)
  | stated (kind : ErrorKind) (text : String)
  deriving DecidableEq

/-- The text of a request error after its code. -/
def codedMessage (error : RequestError) : String := s!"{error.code}: {error.message}"

/-- The text of a flaw. -/
def InputFlaw.message : InputFlaw → String
  | .unreadable path reason => s!"Failed to read {path}: {reason}"
  | .invalidText path error => s!"Invalid JSON in {path}: {error.message}"
  | .notAStore error => (RequestError.invalid (.data error)).message
  | .notAQuery error => codedMessage error

namespace CommandError

/-- The kind of a command error. -/
def kind : CommandError → ErrorKind
  | .config _ => .config
  | .model _ => .model
  | .input _ => .input
  | .query _ => .query
  | .stated kind _ => kind

/-- The stable code of a command error. -/
def code (error : CommandError) : String := error.kind.code

/-- The text of a command error. -/
def message : CommandError → String
  | .config error => s!"{error.code}: {error.message}"
  | .model error => error.text
  | .input flaw => flaw.message
  | .query error => codedMessage error
  | .stated _ text => text

/-- A command error with its code, as it is printed. -/
def text (error : CommandError) : String := s!"{error.code}: {error.message}"

end CommandError

end QueryRewriting.CommandLine
