import QueryRewriting.Expr.Identity
import QueryRewriting.Expr.Text
import QueryRewriting.Evaluation.Order
import QueryRewriting.Evaluation.Store

/-!
The meaning of a sourced query tree over a store. A sequence of rows is an array. A lambda has a
meaning only as the argument of a query operator, where it is applied to the elements in turn, and
a parameter stands for the element of the innermost lambda that declares it.
-/

namespace QueryRewriting.Evaluation

open Json

/-- Why a tree has no value. -/
inductive EvalError where
  | unboundParameter (name : String)
  | noMembers (member : String) (value : Value)
  | notSourced (name : String)
  | foreignStore (name : String)
  | notStored (name : String)
  | missingSource (method : Method)
  | missingArgument (method : Method)
  | notASequence (method : Method) (value : Value)
  | notACount (method : Method) (value : Value)
  | notALambda (argument : Expr)
  | strayLambda
  deriving DecidableEq

/-- The text of an error. -/
def EvalError.message : EvalError → String
  | .unboundParameter name => s!"Unbound parameter '{name}'"
  | .noMembers member value => s!"Cannot access '{member}' on {value.text}"
  | .notSourced name => s!"Data reference '{name}' was not sourced"
  | .foreignStore name => s!"'{name}' belongs to another store"
  | .notStored name => s!"No rows stored for '{name}'"
  | .missingSource method => s!"'{method.name}' without a source"
  | .missingArgument method => s!"'{method.name}' needs an argument"
  | .notASequence method value => s!"'{method.name}' applied to a non-sequence: {value.text}"
  | .notACount method value => s!"'{method.name}' count is not a number: {value.text}"
  | .notALambda argument => s!"Expected a lambda, got {argument.text}"
  | .strayLambda => "Lambda outside a query operator"

/-- The values of parameters, the innermost first. -/
abbrev Scope := List (String × Value)

/-- A member of a row. A row without it has `null` there, and so has `null` itself. -/
def memberOf (name : String) : Value → Except EvalError Value
  | .object members => .ok ((Entries.find? members name).getD .null)
  | .null => .ok .null
  | other => .error (.noMembers name other)

/-- The rows of a native fragment, or its first row if the type of the fragment is no collection. -/
def nativeRows (store : Store) (type : QueryType) (proxy : ProxyId) (name : String) :
    Except EvalError Value :=
  if proxy ≠ store.proxy then .error (.foreignStore name)
  else match store.rows? name with
    | none => .error (.notStored name)
    | some rows => .ok (if type.isCollection then .array rows else rows.headD .null)

/-- A comparison of two values. -/
def compareBy (op : BinaryOp) (a b : Value) : Bool :=
  match op with
  | .eq => equal a b
  | .ne => !equal a b
  | .lt => rangeCompare? a b == some .lt
  | .le => (rangeCompare? a b).any Ordering.isLE
  | .gt => rangeCompare? a b == some .gt
  | .ge => (rangeCompare? a b).any Ordering.isGE
  | .and | .or => false

/-- The items whose verdict is true. -/
def kept (items verdicts : List Value) : List Value :=
  ((items.zip verdicts).filter fun entry => isTrue entry.2).map Prod.fst

/-- The items in the order of their keys; items with equal keys keep their order. -/
def sortedBy (compare : Value → Value → Ordering) (items keys : List Value) : List Value :=
  ((items.zip keys).mergeSort fun a b => (compare a.2 b.2).isLE).map Prod.fst

/-- The count of a page operator. -/
def pageCount (method : Method) : Value → Except EvalError Nat
  | .number value =>
    match value.toNat? with
    | some count => .ok count
    | none => .error (.notACount method (.number value))
  | other => .error (.notACount method other)

/-- A count of items as a value. -/
def countOf (items : List Value) : Value := .ofUInt64 items.length.toUInt64

mutual

/-- The value of a tree under the values of its parameters. -/
def eval (store : Store) : Expr → Scope → Except EvalError Value
  | .value _ content, _ => .ok content
  | .queryable _ _ _ expression, scope => eval store expression scope
  | .parameter _ name, scope =>
    match scope.lookup name with
    | some value => .ok value
    | none => .error (.unboundParameter name)
  | .member _ target name, scope => do memberOf name (← eval store target scope)
  | .source _ qualifier name _, _ => .error (.notSourced (qualifiedName qualifier name))
  | .native stamp proxy name, _ => nativeRows store stamp.type proxy name
  | .call _ method [], _ => .error (.missingSource method)
  | .call _ method (source :: rest), scope => do
    match ← eval store source scope with
    | .array items =>
      match method with
      | .count => return countOf items
      | .first => return items.headD .null
      | .any => return .bool (!items.isEmpty)
      | .skip => do
        let count ← pageCount method (← argument store method rest scope)
        return .array (items.drop count)
      | .take => do
        let count ← pageCount method (← argument store method rest scope)
        return .array (items.take count)
      | .filter => do
        return .array (kept items (← applied store method rest items scope))
      | .select => return .array (← applied store method rest items scope)
      | .orderBy => do
        return .array (sortedBy compareValues items (← applied store method rest items scope))
      | .orderByDescending => do
        let keys ← applied store method rest items scope
        return .array (sortedBy (fun a b => (compareValues a b).swap) items keys)
    | other => throw (.notASequence method other)
  | .lambda .., _ => .error .strayLambda
  | .binary _ op left right, scope => do
    let first ← eval store left scope
    match op with
    | .and =>
      if isTrue first then return .bool (isTrue (← eval store right scope))
      else return .bool false
    | .or =>
      if isTrue first then return .bool true
      else return .bool (isTrue (← eval store right scope))
    | op => return .bool (compareBy op first (← eval store right scope))
  | .not _ operand, scope => do return .bool (!isTrue (← eval store operand scope))

/-- The value of the argument of an operator. -/
def argument (store : Store) (method : Method) : List Expr → Scope → Except EvalError Value
  | [], _ => .error (.missingArgument method)
  | e :: _, scope => eval store e scope

/-- The values of the lambda argument of an operator for each of the items. -/
def applied (store : Store) (method : Method) :
    List Expr → List Value → Scope → Except EvalError (List Value)
  | [], _, _ => .error (.missingArgument method)
  | e :: _, items, scope => items.mapM fun item => apply store e item scope

/-- The value of a lambda for an item. -/
def apply (store : Store) : Expr → Value → Scope → Except EvalError Value
  | .lambda _ param body, item, scope => eval store body ((param, item) :: scope)
  | other, _, _ => .error (.notALambda other)

end

/-- The value of a closed tree. -/
def evaluate (store : Store) (e : Expr) : Except EvalError Value := eval store e []

end QueryRewriting.Evaluation
