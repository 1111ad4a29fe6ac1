import QueryRewriting.Schema.Model

/-!
Templates of query trees. A template is a tree written down as data, with placeholders for what is
known only where it is used: the row under test, the node under visit, the arguments of a
reference. Building a template makes new nodes throughout; only a placeholder and a shared tree
stand for a node that is already there.
-/

namespace QueryRewriting

open Json Schema

/-- A query tree with placeholders. -/
inductive Template where
  | constant (value : Value)
  | parameter (name : String) (type : QueryType)
  | member (target : Template) (name : String) (type : QueryType)
  | source (qualifier : Option String) (name : String) (args : List Template) (type : QueryType)
  | native (proxy : ProxyId) (name : String) (type : QueryType)
  | queryable (proxy : ProxyId) (element : QueryType) (expression : Template)
  | call (method : Method) (args : List Template)
  | step (start : Template) (method : Method) (more : List Template) (times : Nat)
  | lambda (param : String) (body : Template)
  | binary (op : BinaryOp) (left right : Template)
  | not (operand : Template) (times : Nat)
  | retyped (template : Template) (type : QueryType)
  | shared (name : String)
  | named (name : String)
  | function (qualifier : Option String) (name : String) (args : List Template)
  | property (target : Template) (name : String)
  | row
  | node
  | argument (place : Nat)
  deriving Inhabited

namespace Template

/-- What a template is built from: the model that its names refer to, the shared trees, and what
the placeholders stand for. -/
structure Site where
  model : Model
  shared : List (String × Expr) := []
  row : Option Expr := none
  node : Option Expr := none
  args : List Expr := []
  deriving Inhabited

/-- Building from a template fails where the model does not know a name. -/
abbrev Building := ExceptT Schema.Error Fresh

/-- What a placeholder stands for; `null` where there is nothing. -/
def given : Option Expr → Building Expr
  | some e => return e
  | none => liftM (Fresh.constant .null)

/-- Applies a step a number of times. -/
def repeatedly (step : Expr → Building Expr) : Nat → Expr → Building Expr
  | 0, e => return e
  | times + 1, e => do repeatedly step times (← step e)

mutual

/-- The tree of a template. Parts are built from left to right, and the arguments of a step that is
taken several times are built anew each time. -/
def build (site : Site) : Template → Building Expr
  | .constant value => liftM (Fresh.constant value)
  | .parameter name type => liftM (Fresh.parameter name type)
  | .member target name type => do
    let target ← build site target
    liftM (Fresh.member target name type)
  | .source qualifier name args type => do
    let args ← buildAll site args
    liftM (Fresh.source qualifier name args type)
  | .native proxy name type => liftM (Fresh.native proxy name type)
  | .queryable proxy element expression => do
    let expression ← build site expression
    liftM (Fresh.queryable proxy element expression)
  | .call method args => do
    let args ← buildAll site args
    liftM (Fresh.call method args)
  | .step start method more times => do
    let start ← build site start
    repeatedly (fun query => do
      let more ← buildAll site more
      liftM (Fresh.call method (query :: more))) times start
  | .lambda param body => do
    let body ← build site body
    liftM (Fresh.lambda param body)
  | .binary op left right => do
    let left ← build site left
    let right ← build site right
    liftM (Fresh.binary op left right)
  | .not operand times => do
    let operand ← build site operand
    repeatedly (fun e => liftM (Fresh.not e)) times operand
  | .retyped template type => do
    let e ← build site template
    liftM (Fresh.retyped e type)
  | .shared name => given (site.shared.lookup name)
  | .named name => site.model.sourceExpr name
  | .function qualifier name args => do
    let args ← buildAll site args
    site.model.functionExpr qualifier name args
  | .property target name => do
    let target ← build site target
    site.model.propertyExpr target name
  | .row => given site.row
  | .node => given site.node
  | .argument place => given site.args[place]?

/-- The trees of several templates. -/
def buildAll (site : Site) : List Template → Building (List Expr)
  | [] => return []
  | template :: rest => do
    let e ← build site template
    return e :: (← buildAll site rest)

end

end Template

end QueryRewriting
