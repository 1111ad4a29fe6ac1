import QueryRewriting.Request.Filter
import QueryRewriting.Rewriting.Walk
import QueryRewriting.Telemetry.Metrics

/-!
The pipeline of a request: request filters, rewriting, execution, request filters again. Whether the
request has been cancelled is looked at between the stages, and a call of the backend that never
finishes ends with the cancellation. The walk itself is not interrupted.
-/

namespace QueryRewriting

open Telemetry

/-- A request for the rows or the value of a query. -/
structure QueryRequest where
  query : Expr
  context : RequestContext := {}
  options : ExecutionOptions := {}
  deriving DecidableEq, Inhabited

/-- What all requests have in common. Request filters are in the order of registration. -/
structure Pipeline where
  model : Schema.Model
  registry : Rewriting.Registry
  executor : Executor
  filters : List RequestFilter := []
  maxDepth : Nat := Rewriting.defaultMaxDepth

/-- A query tree that is ready for execution. -/
structure Rewritten where
  query : Expr
  collection : Option String
  sourcingCalls : Nat
  deriving DecidableEq, Inhabited

namespace Pipeline

/-- That something outside of the pipeline was called: a request filter by its place among the
filters, the hooks of a walk, or the executor. -/
inductive Call where
  | before (filter : Nat)
  | walk (journal : List Rewriting.Consultation)
  | execution
  | after (filter : Nat)
  deriving DecidableEq

/-- The state of a request in the pipeline. The latest call comes first in the journal. -/
structure State where
  ambient : Ambient := {}
  metrics : Metrics := {}
  lifecycle : Lifecycle := {}
  journal : List Call := []
  deriving DecidableEq, Inhabited

/-- A step of a request through the pipeline. -/
abbrev Run := ExceptT RequestError (StateM State)

namespace Run

variable {α : Type}

/-- Acts in the surroundings of the request. -/
def acting (act : Act RequestError α) : Run α :=
  act.within (·.ambient) fun state ambient => { state with ambient }

/-- Changes the counters. -/
def counting (change : Metrics → Metrics) : Run Unit :=
  modify fun state => { state with metrics := change state.metrics }

/-- Logs an event. -/
def event (event : Event) (fields : LogFields) : Run Unit := acting (Act.event event fields)

/-- Writes a call into the journal. -/
def calling (call : Call) : Run Unit :=
  modify fun state => { state with journal := call :: state.journal }

/-- Enters the next stage. -/
def moveTo (next : Stage) : Run Unit := do
  let lifecycle := (← get).lifecycle
  match lifecycle.moveTo? next with
  | some moved => modify fun state => { state with lifecycle := moved }
  | none => throw (.illegalTransition lifecycle.stage next)

/-- Goes on only if the request has not been cancelled. -/
def checkCancelled : Run Unit := do
  if (← get).ambient.cancelled then throw .cancelled

end Run

open Run

variable (pipeline : Pipeline)

/-- The filters with their places. -/
def placedFilters : List (Nat × RequestFilter) :=
  (List.range pipeline.filters.length).zip pipeline.filters

/-- The field that tells requests apart in the log. -/
def requestField (context : RequestContext) : String × String := ("request_id", context.requestId)

/-- Prepares a query for execution: the tree of it is rewritten. -/
def prepare (query : Expr) (request : RequestContext) : Run Rewritten := do
  let context : Rewriting.Context :=
    { model := pipeline.model, request, maxDepth := pipeline.maxDepth }
  let (result, walked) := Rewriting.run pipeline.registry query context (← get).ambient
  modify fun state => { state with ambient := walked.ambient }
  calling (.walk walked.context.journal)
  let calls := walked.context.sourcingCalls
  counting fun metrics => metrics.sourced calls.toUInt64
  match result with
  | .ok query =>
    counting Metrics.rewritten
    return { query, collection := walked.context.collection, sourcingCalls := calls }
  | .error error =>
    if error matches .inspectionFailed .. then counting Metrics.denied
    throw (.rewriting error)

/-- Lets filters look at a request before it is rewritten, the one registered last first. The first
one that supplies a result ends the request. -/
def preFilter (request : QueryRequest) : List (Nat × RequestFilter) → Run (Option QueryResult)
  | [] => return none
  | (place, filter) :: rest => do
    calling (.before place)
    match ← acting (filter.before { request := request.context, query := request.query }) with
    | none => preFilter request rest
    | some result =>
      moveTo .shortCircuited
      counting Metrics.shortCircuited
      event .requestShortCircuited [("filter", filter.name), requestField request.context]
      return some result

/-- Prepares the query of a request as a stage of its own. -/
def prepareStage (request : QueryRequest) : Run Rewritten := do
  moveTo .rewriting
  let now := (← get).ambient.now
  let (log, scope) :=
    Scope.start (← get).ambient.log "REWRITE" [requestField request.context] now
  acting (Act.logging fun _ => log)
  let rewritten ← tryCatch (pipeline.prepare request.query request.context) fun error => do
    acting (Act.logging fun log => (scope.fail log error.message).1)
    throw error
  let now := (← get).ambient.now
  acting (Act.logging fun log => (scope.complete log
    [("collection", rewritten.collection.getD ""), ("query", rewritten.query.text)] now).1)
  event .queryRewritten [("sourcing_calls", toString rewritten.sourcingCalls)]
  return rewritten

/-- Executes a rewritten query. Only cancellation ends a call that never finishes. -/
def executeStage (request : QueryRequest) (rewritten : Rewritten) : Run QueryResult := do
  moveTo .executing
  calling .execution
  let dispatched ← acting (Act.outcome
    (pipeline.executor.dispatch request.context rewritten.query request.options))
  match dispatched with
  | .error .stalled => throw .cancelled
  | .error (.failed error) => throw error
  | .ok result =>
    let result := { result with collection := rewritten.collection <|> result.collection }
    counting Metrics.executed
    event .queryExecuted [("rows", toString result.size)]
    return result

/-- Lets filters look at the result in the order of registration. -/
def postFilter (request : QueryRequest) :
    List (Nat × RequestFilter) → Option QueryResult → Run (Option QueryResult)
  | [], result => return result
  | (place, filter) :: rest, result => do
    calling (.after place)
    let result ← acting
      (filter.after { request := request.context, query := request.query, result })
    postFilter request rest result

/-- Takes a request through all stages. -/
def stages (request : QueryRequest) : Run QueryResult := do
  checkCancelled
  moveTo .preFiltering
  match ← preFilter request pipeline.placedFilters.reverse with
  | some result => return result
  | none =>
    checkCancelled
    let rewritten ← pipeline.prepareStage request
    checkCancelled
    let result ← pipeline.executeStage request rewritten
    checkCancelled
    moveTo .postFiltering
    match ← postFilter request pipeline.placedFilters (some result) with
    | none => throw (.filterFailed "post" .resultRemoved)
    | some result =>
      moveTo .completed
      return result

/-- Counts and logs how a request ended. -/
def settle (request : QueryRequest) : Except RequestError QueryResult → Run QueryResult
  | .ok result => do
    let state ← get
    if state.lifecycle.stage = .completed then
      counting Metrics.completed
      counting fun metrics => metrics.returned result.size.toUInt64
      event .requestCompleted [
        ("elapsed_ms", toString (state.ambient.now - request.context.receivedAt)),
        requestField request.context, ("rows", toString result.size)]
    return result
  | .error error => do
    let stage := (← get).lifecycle.stage
    modify fun state => { state with lifecycle := state.lifecycle.fail }
    match error with
    | .cancelled =>
      counting Metrics.cancelled
      event .requestCancelled [requestField request.context]
    | error =>
      counting Metrics.failed
      event .requestFailed [("code", error.code), ("message", error.message),
        requestField request.context, ("stage", stage.name)]
    throw error

/-- Takes a request from its arrival to its end. -/
def serve (request : QueryRequest) : Run QueryResult := do
  counting Metrics.received
  event .requestReceived [("query", request.query.text), requestField request.context]
  let outcome ← ExceptT.mk (do return .ok (← (pipeline.stages request).run))
  settle request outcome

/-- Executes a request. The state afterwards tells the lifecycle it went through. -/
def execute (request : QueryRequest) (metrics : Metrics) (ambient : Ambient) :
    Except RequestError QueryResult × State :=
  (pipeline.serve request).run.run { ambient, metrics }

end Pipeline

end QueryRewriting
