import QueryRewriting.Request.Ambient
import QueryRewriting.Request.Context
import QueryRewriting.Request.Error
import QueryRewriting.Request.Result

/-!
Executing sourced trees. A backend runs a tree as a sequence query or as a scalar query, depending
on its static type alone. A backend may also never finish, which is neither a result nor an error
of its own.
-/

namespace QueryRewriting

open Json

/-- Why a call of a backend gives no result. -/
inductive Interruption where
  | failed (error : RequestError)
  | stalled
  deriving DecidableEq

/-- What a request wants from its execution. -/
structure ExecutionOptions where
  includeTotalCount : Bool := false
  deriving DecidableEq, Inhabited

/-- The rows of a sequence query, with their count regardless of paging if the backend knows it. -/
structure SequenceOutput where
  items : List Value
  totalCount : Option UInt64 := none
  deriving DecidableEq, Inhabited

/-- A backend that executes sourced trees. -/
structure Executor where
  sequence : RequestContext → Expr → ExecutionOptions → Act Interruption SequenceOutput
  scalar : RequestContext → Expr → Act Interruption Value

namespace Executor

/-- The count that a counting query yields. -/
def totalCount (value : Value) : Except ExecutionFailure UInt64 :=
  match value with
  | .number number =>
    match number.toNat? with
    | some count => .ok count.toUInt64
    | none => .error (.totalNotACount value)
  | value => .error (.totalNotACount value)

/-- Counts the rows of a query without its outermost paging. -/
def countRows (executor : Executor) (request : RequestContext) (query : Expr) :
    Act Interruption UInt64 := do
  let counting ← Act.build (Fresh.call .count [query.stripPaging])
  let value ← executor.scalar request counting
  Act.ofExcept (fun failure => .failed (.execution failure)) (totalCount value)

/-- Runs a query in the way its type asks for. A total count that is wanted and that the backend
does not report is found by a second query. -/
def dispatch (executor : Executor) (request : RequestContext) (query : Expr)
    (options : ExecutionOptions) : Act Interruption QueryResult := do
  match Shape.of query.type with
  | .scalar => return QueryResult.scalar (← executor.scalar request query)
  | .sequence =>
    let output ← executor.sequence request query options
    let totalCount ←
      if options.includeTotalCount then
        match output.totalCount with
        | some total => pure (some total)
        | none => some <$> executor.countRows request query
      else pure none
    return { QueryResult.sequence output.items with totalCount }

end Executor

end QueryRewriting
