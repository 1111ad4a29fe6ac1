import QueryRewriting.CommandLine.Arguments
import QueryRewriting.CommandLine.Error
import QueryRewriting.Evaluation.Backend
import QueryRewriting.QuerySpec
import QueryRewriting.Schema.Document

/-!
The commands. Both load a configuration, a model, data and a query description, in this order, and
the first of them that cannot be used ends the command. `run` sends the query through the pipeline;
`explain` stops when it is rewritten and describes what came out.
-/

namespace QueryRewriting.CommandLine

open Json Telemetry

/-- The contents of files by path, or why they cannot be read. -/
abbrev Files := String → Except String String

/-- A step of a command. -/
abbrev Step := Act CommandError

/-- Everything that a command has loaded. -/
structure Session where
  config : EngineConfig
  pipeline : Pipeline
  spec : QuerySpec
  context : RequestContext

/-- The configuration in a file, or the default one. -/
def loadConfig (files : Files) : Option String → Except ConfigError EngineConfig
  | none => .ok {}
  | some path => EngineConfig.ofFile path (files path)

/-- Reads what the text of a file describes. -/
def readFile {α : Type} (files : Files) (path : String) (read : Reader α) : Except InputFlaw α :=
  match files path with
  | .error reason => .error (.unreadable path reason)
  | .ok text =>
    match Reader.fromText read text with
    | .error error => .error (.invalidText path error)
    | .ok value => .ok value

/-- The store in a file. -/
def loadStore (files : Files) (path : String) : Except InputFlaw Evaluation.Store := do
  match Evaluation.Store.ofValue ⟨"store"⟩ (← readFile files path Reader.value) with
  | .ok store => return store
  | .error error => throw (.notAStore error)

/-- Loads the inputs of a command. From the configuration on, its severity is the log's minimum. -/
def load (files : Files) (inputs : Inputs) (requestId : String) : Step Session := do
  let config ← Act.ofExcept .config (loadConfig files inputs.config)
  Act.logging fun log => { log with minimum := config.severity }
  Act.event .configLoaded [("api_root", config.apiRoot),
    ("default_policy", config.defaultPolicy.name), ("max_depth", toString config.maxDepth)]
  let model ← Act.ofExcept .model (Schema.Model.ofFile inputs.model (files inputs.model))
  Act.event .modelLoaded [("elements", toString model.elements.length), ("namespace", model.space)]
  let store ← Act.ofExcept .input (loadStore files inputs.data)
  let spec ← Act.ofExcept .input (readFile files inputs.query QuerySpec.read)
  return {
    config, spec
    pipeline := {
      model
      registry := config.registry store.sourcer
      executor := store.executor
      maxDepth := config.maxDepth }
    context := { requestId, auth := { caller := inputs.caller }, receivedAt := (← get).now } }

/-- Builds the query of a session, addressed through the API root. -/
def Session.query (session : Session) : Step Expr :=
  Act.attempt (fun error => .input (.notAQuery error))
    (session.spec.toExpr session.pipeline.model (some session.config.apiRoot))

/-- Runs a step of a pipeline that has served no request yet. -/
def inPipeline {α : Type} (run : Pipeline.Run α) : Step α := do
  let (result, state) := run.run.run { ambient := ← get }
  set state.ambient
  Act.ofExcept .query result

/-- Executes the query of a session. -/
def Session.execute (session : Session) : Step Value := do
  let request : QueryRequest :=
    { query := ← session.query, context := session.context, options := session.spec.options }
  return (← inPipeline (session.pipeline.serve request)).toValue

/-- Describes what the query of a session is rewritten to. -/
def Session.explain (session : Session) : Step Value := do
  let query ← session.query
  let rewritten ← inPipeline (session.pipeline.prepare query session.context)
  Act.event .explainComplete [("collection", rewritten.collection.getD ""),
    ("sourcing_calls", toString rewritten.sourcingCalls)]
  return Value.ofMembers [
    ("query", .string query.text),
    ("rewritten", .string rewritten.query.text),
    ("type", .string rewritten.query.type.text),
    ("collection", .ofString? rewritten.collection),
    ("sourcing_calls", .ofUInt64 rewritten.sourcingCalls.toUInt64),
    ("total_count", .bool session.spec.totalCount)]

/-- Runs a command. -/
def Command.perform (files : Files) (requestId : String) : Command → Step Value
  | .run inputs => do (← load files inputs requestId).execute
  | .explain inputs => do (← load files inputs requestId).explain

/-- The answer that a command prints. -/
def response (data : Value) : Value := Value.ofMembers [("status", .string "ok"), ("data", data)]

end QueryRewriting.CommandLine
