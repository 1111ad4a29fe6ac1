import QueryRewriting.Expr.Identity

/-!
Building nodes. Every node that is built takes an identity from a supply, so it differs from every
node built before it from the same supply.
-/

namespace QueryRewriting

open Json

/-- The identities not yet taken are those from `next` on. -/
structure NodeSupply where
  next : NodeId := 0
  deriving DecidableEq, Inhabited

/-- A computation that may build nodes. -/
abbrev Fresh := StateM NodeSupply

namespace Fresh

/-- An unused identity with a static type. -/
def stamp (type : QueryType) : Fresh Stamp :=
  modifyGet fun supply => (⟨supply.next, type⟩, ⟨supply.next + 1⟩)

/-- The static type of a constant. -/
def valueType : Value → QueryType
  | .bool _ => .bool
  | .number (.integer ..) => .int
  | .number (.double _) => .float
  | .string _ => .string
  | .null | .array _ | .object _ => .any

/-- A constant; its type follows its value. -/
def constant (value : Value) : Fresh Expr := do
  return .value (← stamp (valueType value)) value

/-- A constant that holds a native query of a backend. -/
def queryable (proxy : ProxyId) (element : QueryType) (expression : Expr) : Fresh Expr := do
  return .queryable (← stamp (.queryable element)) proxy element expression

/-- A parameter. -/
def parameter (name : String) (type : QueryType) : Fresh Expr := do
  return .parameter (← stamp type) name

/-- An access to a member. -/
def member (target : Expr) (name : String) (type : QueryType) : Fresh Expr := do
  return .member (← stamp type) target name

/-- A data reference. -/
def source (qualifier : Option String) (name : String) (args : List Expr) (type : QueryType) :
    Fresh Expr := do
  return .source (← stamp type) qualifier name args

/-- A native fragment. -/
def native (proxy : ProxyId) (name : String) (type : QueryType) : Fresh Expr := do
  return .native (← stamp type) proxy name

/-- An operator call; its type follows its arguments. -/
def call (method : Method) (args : List Expr) : Fresh Expr := do
  return .call (← stamp (method.resultType (args.map Expr.type))) method args

/-- A lambda; its type is that of its body. -/
def lambda (param : String) (body : Expr) : Fresh Expr := do
  return .lambda (← stamp body.type) param body

/-- A binary operation; all of them are truth-valued. -/
def binary (op : BinaryOp) (left right : Expr) : Fresh Expr := do
  return .binary (← stamp .bool) op left right

/-- A negation. -/
def not (operand : Expr) : Fresh Expr := do
  return .not (← stamp .bool) operand

/-- The rows that satisfy a predicate. -/
def filter (query predicate : Expr) : Fresh Expr := call .filter [query, predicate]

/-- A page operator with a constant count. -/
def page (method : Method) (query : Expr) (count : UInt64) : Fresh Expr := do
  let count ← constant (.ofUInt64 count)
  call method [query, count]

/-- A copy of a node under a new identity with another static type. -/
def retyped (e : Expr) (type : QueryType) : Fresh Expr := do
  return e.restamp (← stamp type)

end Fresh

namespace Expr

/-- A list with its first items replaced by the given ones; the others stay. -/
def overlay : List Expr → List Expr → List Expr
  | [], _ => []
  | old, [] => old
  | _ :: old, new :: rest => new :: overlay old rest

/-- The node over other children, under another stamp. Children that are not given stay. -/
def replaceChildren (e : Expr) (stamp : Stamp) (given : List Expr) : Expr :=
  match e with
  | .member _ target name => .member stamp (given.headD target) name
  | .source _ qualifier name args => .source stamp qualifier name (overlay args given)
  | .call _ method args => .call stamp method (overlay args given)
  | .lambda _ param body => .lambda stamp param (given.headD body)
  | .binary _ op left right => .binary stamp op (given.headD left) (given.tail.headD right)
  | .not _ operand => .not stamp (given.headD operand)
  | leaf => leaf

/-- The node over other children with its static type kept. It stays the node it is when every
child does. -/
def withChildren (e : Expr) (given : List Expr) : Fresh Expr := do
  if e.children = given then return e
  else return e.replaceChildren (← Fresh.stamp e.type) given

end Expr

end QueryRewriting
