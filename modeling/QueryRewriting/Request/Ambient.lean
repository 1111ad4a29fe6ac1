import QueryRewriting.Expr.Build
import QueryRewriting.Telemetry.Scope

/-!
What the stages of a request and the hooks that serve it share: the supply of node identities, the
log, the notes they leave, whether the request has been cancelled, and the time. What was done to
it stays done when a stage fails.
-/

namespace QueryRewriting

open Telemetry

/-- The surroundings in which a request is served. Notes are kept with the last one first. -/
structure Ambient where
  supply : NodeSupply := {}
  log : Log := {}
  notes : List String := []
  cancelled : Bool := false
  now : Nat := 0
  deriving DecidableEq, Inhabited

/-- A computation in the surroundings of a request that may fail. -/
abbrev Act (ε : Type) := ExceptT ε (StateM Ambient)

namespace Act

variable {ε α : Type}

/-- Builds nodes. -/
def build (fresh : Fresh α) : Act ε α :=
  modifyGet fun ambient =>
    let (built, supply) := fresh.run ambient.supply
    (built, { ambient with supply })

/-- Leaves a note. -/
def note (text : String) : Act ε Unit :=
  modify fun ambient => { ambient with notes := text :: ambient.notes }

/-- Cancels the request. -/
def cancel : Act ε Unit :=
  modify fun ambient => { ambient with cancelled := true }

/-- Changes the log. -/
def logging (change : Log → Log) : Act ε Unit :=
  modify fun ambient => { ambient with log := change ambient.log }

/-- Logs an event at its severity. -/
def event (event : Event) (fields : LogFields) : Act ε Unit :=
  logging fun log => log.event event fields

/-- Logs a line to the channel of its severity. -/
def line (severity : Severity) (name : String) (fields : LogFields) : Act ε Unit :=
  logging fun log => log.note severity name fields

/-- The outcome of a computation, a failure being an outcome too. -/
def outcome {δ : Type} (act : Act ε α) : Act δ (Except ε α) := ExceptT.mk do
  return .ok (← act.run)

/-- The value of a result, or its error under another name. -/
def ofExcept {δ : Type} (rename : δ → ε) : Except δ α → Act ε α
  | .ok value => pure value
  | .error error => throw (rename error)

/-- Builds nodes, which may be impossible; the error then goes by another name. -/
def attempt {δ : Type} (rename : δ → ε) (fresh : ExceptT δ Fresh α) : Act ε α := do
  ofExcept rename (← build fresh.run)

/-- Acts in the surroundings that are a part of a larger state. -/
def within {σ : Type} (surroundings : σ → Ambient) (become : σ → Ambient → σ) (act : Act ε α) :
    ExceptT ε (StateM σ) α := do
  let state ← get
  let (result, ambient) := act.run (surroundings state)
  set (become state ambient)
  match result with
  | .ok value => return value
  | .error error => throw error

end Act

namespace Ambient

/-- The notes in the order in which they were left. -/
def trace (ambient : Ambient) : List String := ambient.notes.reverse

end Ambient

end QueryRewriting
