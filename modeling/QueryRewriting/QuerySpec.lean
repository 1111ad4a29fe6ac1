import QueryRewriting.Pipeline
import QueryRewriting.Access.RowFilter

/-!
Query descriptions: the JSON form of a query over one named source. Operators apply in a fixed
order, whatever the order of the fields: filter, order, select, skip, take, and at most one of
count, first and any.
-/

namespace QueryRewriting

open Json Schema

/-- A comparison in a predicate. -/
inductive Comparison where
  | eq
  | ne
  | gt
  | gte
  | lt
  | lte
  deriving DecidableEq, Inhabited

namespace Comparison

/-- The operator of a comparison. -/
def op : Comparison → BinaryOp
  | .eq => .eq
  | .ne => .ne
  | .gt => .gt
  | .gte => .ge
  | .lt => .lt
  | .lte => .le

/-- The name of a comparison. -/
def name : Comparison → String
  | .eq => "eq"
  | .ne => "ne"
  | .gt => "gt"
  | .gte => "gte"
  | .lt => "lt"
  | .lte => "lte"

/-- Reads a comparison by its name. -/
def read : Reader Comparison :=
  Reader.constant ([eq, ne, gt, gte, lt, lte].map fun comparison => (comparison.name, comparison))

end Comparison

/-- A comparison of a field with a value. -/
structure Predicate where
  field : String
  comparison : Comparison
  value : Value
  deriving DecidableEq, Inhabited

/-- A sort key. -/
structure OrderKey where
  field : String
  descending : Bool := false
  deriving DecidableEq, Inhabited

/-- A query over one named source. -/
structure QuerySpec where
  source : String
  qualifier : Option String := none
  args : List Value := []
  filter : List Predicate := []
  order : List OrderKey := []
  select : Option String := none
  skip : Option UInt64 := none
  take : Option UInt64 := none
  count : Bool := false
  first : Bool := false
  any : Bool := false
  totalCount : Bool := false
  deriving DecidableEq, Inhabited

/-- Reads a predicate. Its value may be `null` but must be there. -/
def Predicate.read : Reader Predicate :=
  Reader.record ["field", "op", "value"] fun fields => do
    return {
      field := ← fields.required "field" Reader.string
      comparison := ← fields.required "op" Comparison.read
      value := ← fields.required "value" Reader.value }

/-- The JSON form of a predicate. -/
def Predicate.toValue (predicate : Predicate) : Value :=
  Value.ofMembers [("field", .string predicate.field),
    ("op", .string predicate.comparison.name), ("value", predicate.value)]

/-- Reads a sort key. -/
def OrderKey.read : Reader OrderKey :=
  Reader.record ["field", "descending"] fun fields => do
    return {
      field := ← fields.required "field" Reader.string
      descending := ← fields.orElse "descending" Reader.bool false }

/-- The JSON form of a sort key. -/
def OrderKey.toValue (key : OrderKey) : Value :=
  Value.ofMembers [("field", .string key.field), ("descending", .bool key.descending)]

namespace QuerySpec

/-- The names of the fields in declared order. -/
def fieldNames : List String :=
  ["from", "namespace", "args", "filter", "order", "select", "skip", "take", "count", "first",
   "any", "total_count"]

/-- Reads a page bound. -/
def readBound : Reader UInt64 := fun room document => Nat.toUInt64 <$> Reader.count room document

/-- Reads a query description. -/
def read : Reader QuerySpec :=
  Reader.record fieldNames fun fields => do
    return {
      source := ← fields.required "from" Reader.string
      qualifier := ← fields.optional "namespace" Reader.string
      args := ← fields.orElse "args" (Reader.list Reader.value) []
      filter := ← fields.orElse "filter" (Reader.list Predicate.read) []
      order := ← fields.orElse "order" (Reader.list OrderKey.read) []
      select := ← fields.optional "select" Reader.string
      skip := ← fields.optional "skip" readBound
      take := ← fields.optional "take" readBound
      count := ← fields.orElse "count" Reader.bool false
      first := ← fields.orElse "first" Reader.bool false
      any := ← fields.orElse "any" Reader.bool false
      totalCount := ← fields.orElse "total_count" Reader.bool false }

/-- The JSON form of a page bound. -/
def boundValue : Option UInt64 → Value
  | some bound => .ofUInt64 bound
  | none => .null

/-- The JSON form of a query description, with every field. -/
def toValue (spec : QuerySpec) : Value :=
  Value.ofMembers [
    ("from", .string spec.source),
    ("namespace", .ofString? spec.qualifier),
    ("args", .array spec.args),
    ("filter", .array (spec.filter.map Predicate.toValue)),
    ("order", .array (spec.order.map OrderKey.toValue)),
    ("select", .ofString? spec.select),
    ("skip", boundValue spec.skip),
    ("take", boundValue spec.take),
    ("count", .bool spec.count),
    ("first", .bool spec.first),
    ("any", .bool spec.any),
    ("total_count", .bool spec.totalCount)]

/-- The query description that a text holds. -/
def ofText (text : String) : Except RequestError QuerySpec :=
  match Reader.fromText read text with
  | .ok spec => .ok spec
  | .error error => .error (.invalid (.unreadable error))

/-- A step of building a query tree. -/
abbrev Building := ExceptT RequestError Fresh

/-- How many of the operators are asked for of which there may be only one. -/
def terminals (spec : QuerySpec) : Nat := [spec.count, spec.first, spec.any].count true

/-- Whether any operator is asked for. -/
def composes (spec : QuerySpec) : Bool :=
  !spec.filter.isEmpty || !spec.order.isEmpty || spec.select.isSome || spec.skip.isSome ||
    spec.take.isSome || spec.count || spec.first || spec.any

/-- An access to a field of a row. -/
def field (model : Model) (entity name : String) : Building Expr := do
  let row ← liftM (Fresh.parameter Access.rowParameter (.entity entity))
  match ← liftM (model.propertyExpr row name).run with
  | .ok access => return access
  | .error error => throw (.invalid (.schema error))

/-- A lambda over the rows. -/
def selector (model : Model) (entity name : String) : Building Expr := do
  let access ← field model entity name
  liftM (Fresh.lambda Access.rowParameter access)

/-- The test of one predicate. -/
def test (model : Model) (entity : String) (predicate : Predicate) : Building Expr := do
  let access ← field model entity predicate.field
  let value ← liftM (Fresh.constant predicate.value)
  liftM (Fresh.binary predicate.comparison.op access value)

/-- The conjunction of a test with further predicates. -/
def conjunction (model : Model) (entity : String) : Expr → List Predicate → Building Expr
  | body, [] => return body
  | body, predicate :: rest => do
    let next ← test model entity predicate
    let both ← liftM (Fresh.binary .and body next)
    conjunction model entity both rest

/-- Keeps the rows that satisfy all predicates. -/
def filtered (model : Model) (entity : String) (query : Expr) : List Predicate → Building Expr
  | [] => return query
  | predicate :: rest => do
    let body ← conjunction model entity (← test model entity predicate) rest
    let lambda ← liftM (Fresh.lambda Access.rowParameter body)
    liftM (Fresh.filter query lambda)

/-- Sorts by keys, the last one first. Sorting is stable, so the first key dominates. -/
def ordered (model : Model) (entity : String) (query : Expr) (keys : List OrderKey) :
    Building Expr :=
  keys.reverse.foldlM (fun query key => do
    let lambda ← selector model entity key.field
    liftM (Fresh.call (if key.descending then .orderByDescending else .orderBy) [query, lambda]))
    query

/-- Projects the rows to a property. -/
def projected (model : Model) (entity : String) (query : Expr) : Option String → Building Expr
  | none => return query
  | some property => do
    let lambda ← selector model entity property
    liftM (Fresh.call .select [query, lambda])

/-- Takes a page of the rows. -/
def paged (method : Method) (query : Expr) : Option UInt64 → Building Expr
  | none => return query
  | some bound => liftM (Fresh.page method query bound)

/-- The reference to the source. With an API root, a collection or singleton without a namespace is
addressed as a member of the root. -/
def reference (spec : QuerySpec) (element : Element) (apiRoot : Option String) : Fresh Expr := do
  let direct := do
    let args ← spec.args.mapM Fresh.constant
    Fresh.source spec.qualifier spec.source args element.logicalType
  match apiRoot with
  | none => direct
  | some root =>
    if element.isFunction || spec.qualifier.isSome then direct
    else
      let parameter ← Fresh.parameter root .any
      Fresh.member parameter spec.source element.logicalType

/-- The operator that ends the query. -/
def terminal? (spec : QuerySpec) : Option Method :=
  if spec.count then some .count
  else if spec.first then some .first
  else if spec.any then some .any
  else none

/-- The query tree of a description. -/
def toExpr (spec : QuerySpec) (model : Model) (apiRoot : Option String) : Building Expr := do
  if 1 < spec.terminals then throw (.invalid .severalTerminals)
  match model.resolve? spec.qualifier spec.source with
  | none => throw (.invalid (.unknownSource spec.source))
  | some element =>
    let query ← liftM (spec.reference element apiRoot)
    if spec.composes && !element.isMany then throw (.invalid (.notComposable spec.source))
    let query ← filtered model element.entity query spec.filter
    let query ← ordered model element.entity query spec.order
    let query ← projected model element.entity query spec.select
    let query ← paged .skip query spec.skip
    let query ← paged .take query spec.take
    match spec.terminal? with
    | none => return query
    | some method => liftM (Fresh.call method [query])

/-- What the description wants from its execution. -/
def options (spec : QuerySpec) : ExecutionOptions := { includeTotalCount := spec.totalCount }

/-- The request of a description. -/
def toRequest (spec : QuerySpec) (model : Model) (context : RequestContext)
    (apiRoot : Option String) : Building QueryRequest := do
  return { query := ← spec.toExpr model apiRoot, context, options := spec.options }

end QuerySpec

end QueryRewriting
