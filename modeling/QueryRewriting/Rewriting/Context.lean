import QueryRewriting.Binding
import QueryRewriting.Request.Context
import QueryRewriting.Rewriting.Error

/-!
The context of a walk over a query tree: the frames of the nodes under visit, the substitutions in
force, the root once a source has been found, the collection the rows come from, and the journal
of hooks consulted so far.
-/

namespace QueryRewriting.Rewriting

open Json Schema

/-- The limit on nested frames when none is configured. -/
def defaultMaxDepth : Nat := 256

/-- A node under visit with its binding. An unbound frame has no node. -/
structure Frame where
  node : Option Expr := none
  binding : Binding := .unbound
  deriving DecidableEq, Inhabited

/-- The native query that a request is rooted in. -/
structure Root where
  proxy : ProxyId
  element : QueryType
  expression : Expr
  deriving DecidableEq, Inhabited

/-- The JSON form of a root. -/
def Root.toValue (root : Root) : Value :=
  Value.ofMembers [("proxy", .string root.proxy.label), ("element", .string root.element.text),
    ("expression", .string root.expression.text)]

/-- What is asked of a sourcer: the root query itself, or a fragment relative to the root. -/
inductive SourceMode where
  | root
  | embedded
  deriving DecidableEq, Inhabited

/-- The name of a mode. -/
def SourceMode.name : SourceMode → String
  | .root => "root"
  | .embedded => "embedded"

/-- The points of a visit at which hooks are consulted. -/
inductive Point where
  | normalize
  | inspect
  | expand
  | filter
  | source (mode : SourceMode)
  deriving DecidableEq, Inhabited

/-- The name of a point. -/
def Point.name : Point → String
  | .normalize => "normalize"
  | .inspect => "inspect"
  | .expand => "expand"
  | .filter => "filter"
  | .source _ => "source"

/-- That a hook was consulted: where, in which frame, and how deep. -/
structure Consultation where
  point : Point
  hook : String
  frame : Frame
  depth : Nat
  deriving DecidableEq, Inhabited

/-- The state of a walk. The innermost frame, the innermost substitution and the latest
consultation come first in their lists. -/
structure Context where
  model : Model
  request : RequestContext
  maxDepth : Nat := defaultMaxDepth
  frames : List Frame := []
  substitutions : List (Expr × Expr) := []
  root : Option Root := none
  collection : Option String := none
  journal : List Consultation := []
  deriving DecidableEq, Inhabited

namespace Context

variable (context : Context)

/-- The current frame; outside of all frames it is unbound. -/
def frame : Frame := context.frames.headD {}

/-- The node of the current frame. -/
def node? : Option Expr := context.frame.node

/-- The binding of the current frame. -/
def binding : Binding := context.frame.binding

/-- The number of frames. -/
def depth : Nat := context.frames.length

/-- The frames around the current one, the innermost first. -/
def parents : List Frame := context.frames.tail

/-- Whether the current frame lies inside the body of a lambda. -/
def inLambdaBody : Bool :=
  context.parents.any fun frame => frame.node.any Expr.isLambda

/-- How often a sourcer has been asked. -/
def sourcingCalls : Nat :=
  context.journal.countP fun entry => entry.point matches .source _

/-- The binding that a parameter has inside some frames. -/
def parameterIn (frames : List Frame) (name : String) : Except Binding.UnknownSource Binding :=
  Binding.ofParameter context.model (frames.filterMap Frame.node) name

/-- The binding that a node has inside some frames. The nodes of the frames are gathered only where
a parameter is met. -/
def bindIn (frames : List Frame) (node : Expr) : Except Error Binding :=
  match Binding.ofNode context.model (fun name => context.parameterIn frames name) node with
  | .ok binding => .ok binding
  | .error unknown => .error (.unknownSource unknown.name)

theorem bindIn_eq (frames : List Frame) (node : Expr) :
    context.bindIn frames node =
      (Binding.bind context.model (frames.filterMap Frame.node) node).mapError
        fun unknown => .unknownSource unknown.name := by
  have gathered : Binding.ofNode context.model (fun name => context.parameterIn frames name) node =
      Binding.bind context.model (frames.filterMap Frame.node) node := rfl
  rw [bindIn, gathered]
  cases Binding.bind context.model (frames.filterMap Frame.node) node <;> rfl

/-- Enters a frame: an unbound one, or one for a node. The limit is checked first. -/
def push (node : Option Expr) : Except Error Context :=
  if context.maxDepth ≤ context.depth then .error (.depthExceeded context.maxDepth)
  else match node with
    | none => .ok { context with frames := {} :: context.frames }
    | some node => do
      let binding ← context.bindIn context.frames node
      return { context with frames := { node, binding } :: context.frames }

/-- Puts another node into the current frame, or into a new frame where there is none. A node
without a binding is refused before the limit is checked. -/
def replace (node : Expr) : Except Error Context := do
  let binding ← context.bindIn context.frames.tail node
  match context.frames with
  | [] => context.push (some node)
  | _ :: outer => return { context with frames := { node, binding } :: outer }

/-- The collection the rows come from after a frame has been left. A frame inside a lambda body, the
outermost frame, and a binding without an owning collection leave it as it was. -/
def collectionAfter (left : Frame) (outer : List Frame) : Option String :=
  match left.binding.owner? context.model with
  | some owner => if outer.isEmpty || context.inLambdaBody then context.collection else owner
  | none => context.collection

/-- Leaves the current frame. -/
def pop : Context :=
  match context.frames with
  | [] => context
  | left :: outer =>
    { context with frames := outer, collection := context.collectionAfter left outer }

/-- Installs a substitution for a node. -/
def substitute (node replacement : Expr) : Context :=
  { context with substitutions := (node, replacement) :: context.substitutions }

/-- Removes the innermost substitution. -/
def endSubstitution : Context :=
  { context with substitutions := context.substitutions.tail }

/-- The innermost substitution for a node. -/
def substitution? (node : Expr) : Option Expr :=
  (context.substitutions.find? fun entry => entry.1 = node).map Prod.snd

/-- Writes into the journal that a hook is consulted now. -/
def consulting (point : Point) (hook : String) : Context :=
  let entry : Consultation := { point, hook, frame := context.frame, depth := context.depth }
  { context with journal := entry :: context.journal }

/-- The JSON form of a context: where the walk is, and what it has found. -/
def toValue : Value :=
  Value.ofMembers [
    ("depth", .ofUInt64 context.depth.toUInt64),
    ("node", .ofString? (context.node?.map Expr.text)),
    ("binding", context.binding.toValue),
    ("in_lambda", .bool context.inLambdaBody),
    ("parents", .array (context.parents.map fun frame => .ofString? (frame.node.map Expr.text))),
    ("collection", .ofString? context.collection),
    ("substitutions", .bool !context.substitutions.isEmpty),
    ("sourcing_calls", .ofUInt64 context.sourcingCalls.toUInt64),
    ("root", (context.root.map Root.toValue).getD .null)]

/-- The data reference under visit with the collection it reads from: the owning one, or what goes
by the name of the reference if no collection owns it alone. -/
def reading? : Option (DataReference × String) := do
  let reference ← context.binding.reference?
  return (reference, (context.binding.owner? context.model).getD reference.name)

end Context

end QueryRewriting.Rewriting
