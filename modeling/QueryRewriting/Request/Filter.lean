import QueryRewriting.Request.Executor

/-!
Request filters: hooks around a whole request. Before the rewriting a filter may supply the result
and so end the request; after the execution it may change or remove the result.
-/

namespace QueryRewriting

/-- What a request filter sees: the request, the query as it was submitted, and the result if there
is one. -/
structure Exchange where
  request : RequestContext
  query : Expr
  result : Option QueryResult := none
  deriving DecidableEq, Inhabited

/-- A stage of a request filter; it says what the result is from now on. -/
abbrev FilterStage := Exchange → Act RequestError (Option QueryResult)

/-- A stage that leaves the result as it is. -/
def FilterStage.idle : FilterStage := fun exchange => return exchange.result

/-- A hook around a whole request. -/
structure RequestFilter where
  name : String
  before : FilterStage := FilterStage.idle
  after : FilterStage := FilterStage.idle

end QueryRewriting
