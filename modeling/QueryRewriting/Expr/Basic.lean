import QueryRewriting.QueryType

/-!
Query trees. A node carries an identity and a static type next to what it is, so two nodes built
separately differ even where they look alike, and a node that is reached along several paths is
the same node on each of them. Data references are the leaves that have to be resolved; native
fragments are what a backend executes.
-/

namespace QueryRewriting

open Json

/-- The identity of a node. -/
abbrev NodeId := Nat

/-- The identity of a backend instance. Native fragments of one proxy can be executed together. -/
structure ProxyId where
  label : String
  deriving DecidableEq, Inhabited

/-- The query operators. -/
inductive Method where
  | filter
  | select
  | orderBy
  | orderByDescending
  | skip
  | take
  | count
  | first
  | any
  deriving DecidableEq, Inhabited

/-- The name of an operator. -/
def Method.name : Method → String
  | .filter => "where"
  | .select => "select"
  | .orderBy => "order_by"
  | .orderByDescending => "order_by_descending"
  | .skip => "skip"
  | .take => "take"
  | .count => "count"
  | .first => "first"
  | .any => "any"

/-- All operators. -/
def Method.all : List Method :=
  [.filter, .select, .orderBy, .orderByDescending, .skip, .take, .count, .first, .any]

/-- The operator of a name. -/
def Method.ofName? (name : String) : Option Method :=
  Method.all.find? fun method => method.name == name

/-- Whether an operator only selects a page of the rows. -/
def Method.isPaging : Method → Bool
  | .skip => true
  | .take => true
  | _ => false

/-- The static type of an operator call, from the types of its arguments. -/
def Method.resultType (method : Method) (args : List QueryType) : QueryType :=
  let source := args.head?.getD .any
  match method with
  | .filter | .orderBy | .orderByDescending | .skip | .take => source
  | .select =>
    let projected := args[1]?.getD .any
    match source with
    | .sequence _ => .sequence projected
    | _ => .queryable projected
  | .count => .int
  | .any => .bool
  | .first => source.element?.getD .any

/-- The binary operators. -/
inductive BinaryOp where
  | eq
  | ne
  | lt
  | le
  | gt
  | ge
  | and
  | or
  deriving DecidableEq, Inhabited

/-- The symbol of a binary operator. -/
def BinaryOp.symbol : BinaryOp → String
  | .eq => "=="
  | .ne => "!="
  | .lt => "<"
  | .le => "<="
  | .gt => ">"
  | .ge => ">="
  | .and => "&&"
  | .or => "||"

/-- All binary operators. -/
def BinaryOp.all : List BinaryOp := [.eq, .ne, .lt, .le, .gt, .ge, .and, .or]

/-- The binary operator of a symbol. -/
def BinaryOp.ofSymbol? (symbol : String) : Option BinaryOp :=
  BinaryOp.all.find? fun op => op.symbol == symbol

/-- The identity and the static type of a node. -/
structure Stamp where
  id : NodeId
  type : QueryType
  deriving DecidableEq, Inhabited

/-- A query tree. The tree of a queryable constant belongs to the constant and is not among its
children. -/
inductive Expr where
  | value (stamp : Stamp) (value : Value)
  | queryable (stamp : Stamp) (proxy : ProxyId) (element : QueryType) (expression : Expr)
  | parameter (stamp : Stamp) (name : String)
  | member (stamp : Stamp) (target : Expr) (name : String)
  | source (stamp : Stamp) (qualifier : Option String) (name : String) (args : List Expr)
  | native (stamp : Stamp) (proxy : ProxyId) (name : String)
  | call (stamp : Stamp) (method : Method) (args : List Expr)
  | lambda (stamp : Stamp) (param : String) (body : Expr)
  | binary (stamp : Stamp) (op : BinaryOp) (left right : Expr)
  | not (stamp : Stamp) (operand : Expr)
  deriving Inhabited

/-- The name of a source, after its namespace if one is given. -/
def qualifiedName (qualifier : Option String) (name : String) : String :=
  match qualifier with
  | some space => space ++ "." ++ name
  | none => name

namespace Expr

/-- The identity and type of a node. -/
def stamp : Expr → Stamp
  | .value stamp _ => stamp
  | .queryable stamp _ _ _ => stamp
  | .parameter stamp _ => stamp
  | .member stamp _ _ => stamp
  | .source stamp _ _ _ => stamp
  | .native stamp _ _ => stamp
  | .call stamp _ _ => stamp
  | .lambda stamp _ _ => stamp
  | .binary stamp _ _ _ => stamp
  | .not stamp _ => stamp

/-- The identity of a node. -/
def id (e : Expr) : NodeId := e.stamp.id

/-- The static type of a node. -/
def type (e : Expr) : QueryType := e.stamp.type

/-- A node of the same kind over the same children with another identity and type. -/
def restamp (stamp : Stamp) : Expr → Expr
  | .value _ content => .value stamp content
  | .queryable _ proxy element expression => .queryable stamp proxy element expression
  | .parameter _ name => .parameter stamp name
  | .member _ target name => .member stamp target name
  | .source _ qualifier name args => .source stamp qualifier name args
  | .native _ proxy name => .native stamp proxy name
  | .call _ method args => .call stamp method args
  | .lambda _ param body => .lambda stamp param body
  | .binary _ op left right => .binary stamp op left right
  | .not _ operand => .not stamp operand

/-- The direct children, in the order in which they are evaluated. -/
def children : Expr → List Expr
  | .value .. | .queryable .. | .parameter .. | .native .. => []
  | .member _ target _ => [target]
  | .source _ _ _ args => args
  | .call _ _ args => args
  | .lambda _ _ body => [body]
  | .binary _ _ left right => [left, right]
  | .not _ operand => [operand]

mutual

/-- A node and all its descendants, each before its own children. -/
def nodes : Expr → List Expr
  | .value stamp content => [.value stamp content]
  | .queryable stamp proxy element expression => [.queryable stamp proxy element expression]
  | .parameter stamp name => [.parameter stamp name]
  | .native stamp proxy name => [.native stamp proxy name]
  | .member stamp target name => .member stamp target name :: nodes target
  | .source stamp qualifier name args => .source stamp qualifier name args :: nodesOf args
  | .call stamp method args => .call stamp method args :: nodesOf args
  | .lambda stamp param body => .lambda stamp param body :: nodes body
  | .binary stamp op left right => .binary stamp op left right :: (nodes left ++ nodes right)
  | .not stamp operand => .not stamp operand :: nodes operand

/-- The nodes of several trees, one tree after the other. -/
def nodesOf : List Expr → List Expr
  | [] => []
  | e :: rest => nodes e ++ nodesOf rest

end

mutual

/-- Whether a node or one of its descendants passes a test. Nothing is looked at after the first one
that does. -/
def hasNode (test : Expr → Bool) : Expr → Bool
  | .value stamp content => test (.value stamp content)
  | .queryable stamp proxy element expression =>
    test (.queryable stamp proxy element expression)
  | .parameter stamp name => test (.parameter stamp name)
  | .native stamp proxy name => test (.native stamp proxy name)
  | .member stamp target name => test (.member stamp target name) || hasNode test target
  | .source stamp qualifier name args =>
    test (.source stamp qualifier name args) || anyHasNode test args
  | .call stamp method args => test (.call stamp method args) || anyHasNode test args
  | .lambda stamp param body => test (.lambda stamp param body) || hasNode test body
  | .binary stamp op left right =>
    test (.binary stamp op left right) || (hasNode test left || hasNode test right)
  | .not stamp operand => test (.not stamp operand) || hasNode test operand

/-- Whether a node of one of several trees passes a test. -/
def anyHasNode (test : Expr → Bool) : List Expr → Bool
  | [] => false
  | e :: rest => hasNode test e || anyHasNode test rest

end

mutual

theorem hasNode_eq_any (test : Expr → Bool) : (e : Expr) → hasNode test e = e.nodes.any test
  | .value .. | .queryable .. | .parameter .. | .native .. => by simp [hasNode, nodes]
  | .member _ target _ => by simp [hasNode, nodes, hasNode_eq_any test target]
  | .source _ _ _ args => by simp [hasNode, nodes, anyHasNode_eq_any test args]
  | .call _ _ args => by simp [hasNode, nodes, anyHasNode_eq_any test args]
  | .lambda _ _ body => by simp [hasNode, nodes, hasNode_eq_any test body]
  | .binary _ _ left right => by
    simp [hasNode, nodes, hasNode_eq_any test left, hasNode_eq_any test right]
  | .not _ operand => by simp [hasNode, nodes, hasNode_eq_any test operand]

theorem anyHasNode_eq_any (test : Expr → Bool) :
    (es : List Expr) → anyHasNode test es = (nodesOf es).any test
  | [] => rfl
  | e :: rest => by simp [anyHasNode, nodesOf, hasNode_eq_any test e, anyHasNode_eq_any test rest]

end

/-- Whether a node is a data reference. -/
def isSource : Expr → Bool
  | .source .. => true
  | _ => false

/-- Whether a node is a queryable constant. -/
def isQueryable : Expr → Bool
  | .queryable .. => true
  | _ => false

/-- Whether a node is a lambda. -/
def isLambda : Expr → Bool
  | .lambda .. => true
  | _ => false

/-- Whether a node is a `skip` or `take` call. -/
def isPaging : Expr → Bool
  | .call _ method _ => method.isPaging
  | _ => false

/-- Whether a data reference is left anywhere in a tree. -/
def hasDataReference (e : Expr) : Bool := e.hasNode isSource

/-- The tree without its outermost run of `skip` and `take` calls. -/
def stripPaging : Expr → Expr
  | .call stamp method (inner :: rest) =>
    if method.isPaging then stripPaging inner else .call stamp method (inner :: rest)
  | e => e

end Expr

end QueryRewriting
