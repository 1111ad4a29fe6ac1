import QueryRewriting.Expr.Text
import QueryRewriting.Rewriting.Hook

/-!
The walk over a query tree. A visit of a node normalizes it, visits its children unless it is a
data reference, has it inspected, expands it if it is a data reference, lets every filter wrap it,
and finally sources it if it still is the data reference under visit. What an expander or a filter
returns is walked in turn, under an unbound frame; while the result of a filter is walked, the node
under visit stands for what the filters before have made of it. Every replacement must be
acceptable where the replaced node was.

Whenever a hook is asked, the walk records what it has seen and what it has answered. The record is
there to be reasoned about: no step of a walk reads it, and `run` leaves it out.
-/

namespace QueryRewriting.Rewriting

open Telemetry

/-- The context of a walk, and its surroundings. -/
structure Walk.State where
  context : Context
  ambient : Ambient
  deriving Inhabited

/-- The state of a walk with the inquiries so far, the latest first. -/
structure Recording extends Walk.State where
  inquiries : List Inquiry := []

/-- A step of a walk. What it did to the state stays done when it fails. -/
abbrev Walk := ExceptT Error (StateM Recording)

namespace Walk

variable {α : Type}

/-- The context as it is now. -/
def context : Walk Context := return (← get).context

/-- Changes the context. -/
def changing (change : Context → Context) : Walk Unit :=
  modify fun state => { state with context := change state.context }

/-- Changes the context in a way that may be impossible, and then leaves it as it is. -/
def trying (change : Context → Except Error Context) : Walk Unit := do
  match change (← context) with
  | .ok context => modify fun state => { state with context }
  | .error error => throw error

/-- Acts in the surroundings. -/
def acting (act : Act Error α) : Walk α :=
  act.within (·.ambient) fun state ambient => { state with ambient }

/-- Runs a step and then changes the context, also after a failure. -/
def andThen (step : Walk α) (change : Context → Context) : Walk α := ExceptT.mk do
  let result ← step.run
  modify fun state => { state with context := change state.context }
  return result

/-- Runs a step inside a new frame. -/
def nested (node : Option Expr) (step : Walk α) : Walk α := do
  trying fun context => context.push node
  andThen step Context.pop

/-- Runs a step while a node is substituted. -/
def substituting (node replacement : Expr) (step : Walk α) : Walk α := do
  changing fun context => context.substitute node replacement
  andThen step Context.endSubstitution

/-- Runs a step and then records what has come of it as the answer of a hook. -/
def recording (answer : α → Answer) (point : Point) (hook : String) (step : Walk α) : Walk α :=
    ExceptT.mk do
  let result ← step.run
  modify fun state =>
    let inquiry := { point, hook, context := state.context, answer := .ofOutcome answer result }
    { state with inquiries := inquiry :: state.inquiries }
  return result

/-- Consults a hook about the current frame. -/
def consult (answer : α → Answer) (point : Point) (hook : Hook α) : Walk α := do
  changing fun context => context.consulting point hook.name
  recording answer point hook.name (acting (hook.run (← context)))

/-- Checks that a replacement is acceptable where the replaced node was. -/
def checkType (hook : String) (replaced replacement : Expr) : Walk Unit :=
  if replaced.type.accepts replacement.type then pure ()
  else throw (.typeMismatch hook replaced.type replacement.type)

/-- The first replacement that hooks offer for a node, the node itself being none. -/
def replacement? (point : Point) (node : Expr) : List TreeHook → Walk (Option Expr)
  | [] => pure none
  | hook :: rest => do
    match ← consult .offer point hook with
    | none => replacement? point node rest
    | some offered =>
      if offered = node then replacement? point node rest
      else
        checkType hook.name node offered
        return some offered

/-- Normalizes the node of the current frame; the hook registered last is asked first. -/
def normalize (registry : Registry) (node : Expr) : Walk Unit := do
  match ← replacement? .normalize node registry.normalizers.reverse with
  | some normalized => trying fun context => context.replace normalized
  | none => pure ()

/-- What a frame is about: the name of its data reference, or the text of its node. -/
def subject (context : Context) (node : Expr) : String :=
  match context.binding.reference? with
  | some reference => reference.name
  | none => node.text

/-- Asks inspectors in turn; the first one that rejects ends the walk. -/
def inspect (node : Expr) : List (Hook Bool) → Walk Unit
  | [] => pure ()
  | hook :: rest => do
    if ← consult .verdict .inspect hook then inspect node rest
    else
      let target := subject (← context) node
      acting (Act.event .inspectionDenied [("inspector", hook.name), ("target", target)])
      throw (.inspectionFailed hook.name target)

/-- Lets filters wrap the node of the current frame one after the other. Each one sees the node as
it was; the walk of its result puts `current`, which the filters before have made, in its place. -/
def filtered (revisit : Expr → Walk Expr) (node : Expr) : List TreeHook → Expr → Walk Expr
  | [], current => pure current
  | hook :: rest, current => do
    match ← consult .offer .filter hook with
    | none => filtered revisit node rest current
    | some offered =>
      if offered = node ∨ offered = current then filtered revisit node rest current
      else
        checkType hook.name node offered
        let current ← substituting node current (revisit offered)
        filtered revisit node rest current

/-- Checks that a fragment can be executed with the root: it is no query of its own, and it holds
native fragments of the root's proxy only. -/
def checkEmbedded (reference : String) (fragment : Expr) (proxy : ProxyId) : Walk Unit :=
  if fragment.isQueryable then throw (.badSource (.standaloneQueryable reference))
  else if fragment.hasNode foreign then
    throw (.badSource (.foreignProxy reference))
  else pure ()
where
  foreign : Expr → Bool
    | .native _ other _ => other ≠ proxy
    | _ => false

/-- The log fields of a sourcing. -/
def sourcingFields (mode : SourceMode) (proxy : ProxyId) (reference : String) : LogFields :=
  [("mode", mode.name), ("proxy", proxy.label), ("source", reference)]

/-- Takes the result of a sourcer as the root of the request. -/
def takeRoot (sourcer : String) (reference : String) (node sourced : Expr) : Walk Expr := do
  match sourced with
  | .queryable _ proxy element expression =>
    checkType sourcer node expression
    acting (Act.event .sourceRoot (sourcingFields .root proxy reference))
    changing fun context => { context with root := some { proxy, element, expression } }
    return expression
  | _ => throw (.badSource (.rootNotQueryable reference))

/-- Takes the result of a sourcer as a fragment relative to the root. -/
def takeFragment (sourcer : String) (reference : String) (node sourced : Expr) (root : Root) :
    Walk Expr := do
  checkEmbedded reference sourced root.proxy
  checkType sourcer node sourced
  acting (Act.event .sourceEmbedded (sourcingFields .embedded root.proxy reference))
  return sourced

/-- Sources what has become of the node of the current frame, if that is still the node itself and
a data reference. The first source that is found becomes the root. -/
def source (registry : Registry) (current : Expr) : Walk Expr := do
  let context ← context
  match context.binding.reference? with
  | some reference =>
    if context.node? = some current then
      match registry.sourcer with
      | none => throw (.unsupported (.noSourcer reference.name))
      | some sourcer =>
        let mode := if context.root.isNone then SourceMode.root else .embedded
        match ← consult .offer (.source mode) (sourcer.hook mode) with
        | none => throw (.unsupported (.notSourced sourcer.name reference.name))
        | some sourced =>
          match context.root with
          | none => takeRoot sourcer.name reference.name current sourced
          | some root => takeFragment sourcer.name reference.name current sourced root
    else return current
  | none => return current

/-- Visits the children of a node and puts it together again. -/
def children (visit : Expr → Walk Expr) (node : Expr) : Walk Expr := do
  let rewritten ← node.children.mapM visit
  acting (Act.build (node.withChildren rewritten))

/-- A node with its children visited; those of a data reference are left alone. -/
def descended (visit : Expr → Walk Expr) (node : Expr) (isReference : Bool) : Walk Expr :=
  if isReference then pure node else children visit node

/-- What expanders offer for a data reference. -/
def expansion (registry : Registry) (node : Expr) (isReference : Bool) : Walk (Option Expr) :=
  if isReference then replacement? .expand node registry.expanders.reverse else pure none

/-- An expansion once it is walked, or what there was without one. -/
def expandedOr (revisit : Expr → Walk Expr) (rewritten : Expr) : Option Expr → Walk Expr
  | some expanded => revisit expanded
  | none => pure rewritten

/-- What happens in the frame of a node once the node is normalized. -/
def normalized (registry : Registry) (visit revisit : Expr → Walk Expr) (node : Expr) :
    Walk Expr := do
  let node := (← context).node?.getD node
  let isReference := (← context).binding.isReference
  let rewritten ← descended visit node isReference
  inspect node registry.inspectors.reverse
  let expanded ← expansion registry node isReference
  let current ← expandedOr revisit rewritten expanded
  let current ← filtered revisit node registry.filters current
  source registry current

/-- What happens in the frame of a node. -/
def inFrame (registry : Registry) (visit revisit : Expr → Walk Expr) (node : Expr) :
    Walk Expr := do
  normalize registry node
  normalized registry visit revisit node

/-- The walk cannot go deeper. -/
def tooDeep : Walk Expr := do throw (.depthExceeded (← context).maxDepth)

mutual

/-- Visits a node while so many frames may still be entered. A node that is substituted right now
is replaced and only sourced. -/
def visit (registry : Registry) : Nat → Expr → Walk Expr
  | 0, _ => tooDeep
  | room + 1, node => do
    match (← context).substitution? node with
    | some substitute => nested (some substitute) (source registry substitute)
    | none =>
      nested (some node)
        (inFrame registry (fun e => visit registry room e) (fun e => revisit registry room e) node)

/-- Visits a tree under an unbound frame. -/
def revisit (registry : Registry) : Nat → Expr → Walk Expr
  | 0, _ => tooDeep
  | room + 1, node => nested none (visit registry room node)

end

/-- Walks a whole query tree. The outer frame is unbound, so that the frame of the tree itself is
left for another one and can say where the rows come from. -/
def whole (registry : Registry) (query : Expr) : Walk Expr := do
  let context ← context
  revisit registry (context.maxDepth - context.depth) query

end Walk

/-- Walks a query tree in a context and its surroundings, and records the inquiries. -/
def recorded (registry : Registry) (query : Expr) (context : Context) (ambient : Ambient) :
    Except Error Expr × Recording :=
  (Walk.whole registry query).run.run { context, ambient }

/-- Walks a query tree in a context and its surroundings. -/
def run (registry : Registry) (query : Expr) (context : Context) (ambient : Ambient) :
    Except Error Expr × Walk.State :=
  (recorded registry query context ambient).map id Recording.toState

end QueryRewriting.Rewriting
