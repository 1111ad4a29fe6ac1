import QueryRewriting.Request.Executor
import QueryRewriting.Rewriting.Hook

/-!
A store as a backend: its sourcer hands out fragments that carry the store's proxy, and its
executor evaluates trees of such fragments.
-/

namespace QueryRewriting.Evaluation

open Json Rewriting

namespace Store

/-- Sources collections and singletons that are stored. Functions have no rows of their own. -/
def source (store : Store) (mode : SourceMode) (context : Context) :
    Act Rewriting.Error (Option Expr) :=
  match context.binding.reference? with
  | none => return none
  | some reference =>
    if reference.element.isFunction || !store.contains reference.name then return none
    else some <$> Act.build (nativeFor reference store.proxy mode)

/-- The sourcer of a store. -/
def sourcer (store : Store) : Sourcer := ⟨"memory", store.source⟩

/-- Evaluates a tree unless the request has been cancelled. -/
def execute (store : Store) (query : Expr) : Act Interruption Value := do
  if (← get).cancelled then throw (.failed .cancelled)
  let value ← Act.ofExcept (fun error => .failed (.execution (.evaluation error)))
    (evaluate store query)
  Act.line .trace "MEMORY_QUERY" [("proxy", store.proxy.label), ("query", query.text)]
  return value

/-- Evaluates a tree whose value must be a sequence. -/
def executeSequence (store : Store) (query : Expr) : Act Interruption SequenceOutput := do
  match ← store.execute query with
  | .array items => return { items }
  | other => throw (.failed (.execution (.sequenceProduced other)))

/-- The executor of a store. -/
def executor (store : Store) : Executor where
  sequence := fun _ query _ => store.executeSequence query
  scalar := fun _ query => store.execute query

end Store

end QueryRewriting.Evaluation
