import QueryRewriting.Evaluation.Eval
import QueryRewriting.Request.Lifecycle
import QueryRewriting.Rewriting.Error
import QueryRewriting.Schema.Error

/-!
Why a request fails: its query is invalid, its rewriting was given up, the backend or a request
filter failed, or it was cancelled.
-/

namespace QueryRewriting

open Json

/-- What is wrong with a query description or with data. -/
inductive Invalid where
  | unreadable (error : ReadError)
  | schema (error : Schema.Error)
  | data (error : Evaluation.Store.Error)
  | unknownSource (name : String)
  | notComposable (name : String)
  | severalTerminals
  | stated (reason : String)
  deriving DecidableEq

/-- Why a backend fails. -/
inductive ExecutionFailure where
  | evaluation (error : Evaluation.EvalError)
  | sequenceProduced (value : Value)
  | totalNotACount (value : Value)
  | stated (reason : String)
  deriving DecidableEq

/-- What a request filter complains of. -/
inductive FilterFailure where
  | resultRemoved
  | stated (reason : String)
  deriving DecidableEq

/-- Why a request fails. -/
inductive RequestError where
  | rewriting (error : Rewriting.Error)
  | invalid (reason : Invalid)
  | execution (failure : ExecutionFailure)
  | filterFailed (filter : String) (failure : FilterFailure)
  | cancelled
  | illegalTransition (source target : Stage)
  deriving DecidableEq

/-- What is wrong with a query description or with data, in words. -/
def Invalid.message : Invalid → String
  | .unreadable error => error.message
  | .schema error => error.text
  | .data error => error.message
  | .unknownSource name => s!"Unknown source '{name}'"
  | .notComposable name => s!"'{name}' is not a collection and cannot be composed"
  | .severalTerminals => "At most one of count, first, any"
  | .stated reason => reason

/-- Why a backend fails, in words. -/
def ExecutionFailure.message : ExecutionFailure → String
  | .evaluation error => error.message
  | .sequenceProduced value => s!"Sequence query produced {value.text}"
  | .totalNotACount value => s!"Total count is not a number: {value.text}"
  | .stated reason => reason

/-- What a request filter complains of, in words. -/
def FilterFailure.message : FilterFailure → String
  | .resultRemoved => "A post-filter removed the result"
  | .stated reason => reason

namespace RequestError

/-- The stable code of an error. -/
def code : RequestError → String
  | .rewriting error => error.code
  | .invalid _ => "AERO_QUERY_INVALID"
  | .execution _ => "AERO_EXECUTION_FAILED"
  | .filterFailed .. => "AERO_REQUEST_FILTER_FAILED"
  | .cancelled => "AERO_REQUEST_CANCELLED"
  | .illegalTransition .. => "AERO_ILLEGAL_TRANSITION"

/-- The text of an error. -/
def message : RequestError → String
  | .rewriting error => error.message
  | .invalid reason => s!"Validation error: {reason.message}"
  | .execution failure => s!"Execution error: {failure.message}"
  | .filterFailed filter failure => s!"Request filter '{filter}' failed: {failure.message}"
  | .cancelled => "Request cancelled"
  | .illegalTransition source target =>
    s!"Illegal state transition from {source.name} to {target.name}"

/-- The HTTP status that goes with an error. -/
def status : RequestError → Nat
  | .rewriting error =>
    match error with
    | .inspectionFailed .. => 403
    | .accessDenied _ => 403
    | .unknownSource _ => 404
    | .unsupported _ => 501
    | .depthExceeded _ => 400
    | .typeMismatch .. => 500
    | .badSource _ => 500
    | .hookFailed .. => 500
  | .invalid _ => 400
  | .filterFailed .. => 400
  | .cancelled => 499
  | .execution _ => 500
  | .illegalTransition .. => 500

/-- The JSON form of an error. -/
def toValue (error : RequestError) : Value :=
  Value.ofMembers [("error", .string error.code), ("message", .string error.message),
    ("status", Value.ofUInt64 error.status.toUInt64)]

end RequestError

end QueryRewriting
