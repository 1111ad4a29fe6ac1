import QueryRewriting.Proofs.Access.Noninterference
import QueryRewriting.Proofs.Evaluation.Sorting
import QueryRewriting.QuerySpec

/-! What the answer to a query description is, said without query trees: the rows that a caller may
see, filtered, sorted by all keys at once, projected and cut to a page. -/
namespace QueryRewriting

open Json Evaluation Access

/-- The value of a field of a row: `null` where the row has no such field. -/
def fieldOf (name : String) (row : Value) : Value := (row.member? name).getD .null

/-- Whether a row satisfies a predicate. -/
def Predicate.holds (predicate : Predicate) (row : Value) : Bool :=
  compareBy predicate.comparison.op (fieldOf predicate.field row) predicate.value

/-- The order of rows by one key. -/
def OrderKey.compare (key : OrderKey) (a b : Value) : Ordering :=
  if key.descending then (compareValues (fieldOf key.field a) (fieldOf key.field b)).swap
  else compareValues (fieldOf key.field a) (fieldOf key.field b)

/-- The order of rows by several keys, the first one being the most significant. -/
def OrderKey.compareAll : List OrderKey → Value → Value → Ordering
  | [], _, _ => .eq
  | key :: rest, a, b => (key.compare a b).then (compareAll rest a b)

/-- The rows of a collection that a configuration lets a caller see. -/
def EngineConfig.visible (config : EngineConfig) (auth : Auth) (name : String) (rows : List Value) :
    List Value :=
  match config.rowSecurityFilter? with
  | none => rows
  | some security =>
    if security.isProtected name && !auth.isService then rows.filter (security.owns auth) else rows

namespace QuerySpec

variable (spec : QuerySpec)

/-- The rows that are asked for, without regard to pages. -/
def selected (rows : List Value) : List Value :=
  let satisfying := rows.filter fun row => spec.filter.all (·.holds row)
  let sorted := stableSort (OrderKey.compareAll spec.order) satisfying
  match spec.select with
  | none => sorted
  | some property => sorted.map (fieldOf property)

/-- The page of the rows that is asked for. -/
def page (rows : List Value) : List Value :=
  let rest := rows.drop (spec.skip.getD 0).toNat
  match spec.take with
  | none => rest
  | some bound => rest.take bound.toNat

/-- Whether the rows are projected to a navigation to many entities. -/
def selectsMany (model : Schema.Model) (entity : String) : Bool :=
  spec.select.any fun property => (model.propertyType? entity property).any QueryType.isCollection

/-- The result of rows of a query, with the count of all of them if it is asked for. -/
def resultOf (rows all : List Value) : QueryResult where
  shape := .sequence
  results := rows
  totalCount := if spec.totalCount then some all.length.toUInt64 else none
  collection := some spec.source

/-- The result of a query for a value. -/
def resultOfValue (value : Value) : QueryResult where
  shape := .scalar
  results := [value]
  collection := some spec.source

/-- The answer over the rows of an entity that a caller may see. The first one of the values of a
navigation to many entities has to be an array, whose items are the answer. -/
def answer? (model : Schema.Model) (entity : String) (rows : List Value) : Option QueryResult :=
  let all := spec.selected rows
  let rows := spec.page all
  if spec.count then some (spec.resultOfValue (countOf rows))
  else if spec.first then
    if spec.selectsMany model entity then
      (items? (rows.headD .null)).map fun items => spec.resultOf items items
    else some (spec.resultOfValue (rows.headD .null))
  else if spec.any then some (spec.resultOfValue (.bool (!rows.isEmpty)))
  else some (spec.resultOf rows all)

end QuerySpec

section Order

instance (key : OrderKey) : Std.TransCmp key.compare := by
  unfold OrderKey.compare
  cases key.descending with
  | false => exact transCmp_on compareValues (fieldOf key.field)
  | true => exact transCmp_swap_on compareValues (fieldOf key.field)

theorem compareAll_cons (key : OrderKey) (rest : List OrderKey) :
    OrderKey.compareAll (key :: rest) = compareLex key.compare (OrderKey.compareAll rest) := rfl

instance (keys : List OrderKey) : Std.TransCmp (OrderKey.compareAll keys) := by
  induction keys with
  | nil => exact { eq_swap := rfl, isLE_trans := fun _ _ => rfl }
  | cons key rest ih =>
    rw [compareAll_cons]
    infer_instance

/-- Sorting by one key after the other, the last one first, is sorting by all of them. -/
theorem foldl_stableSort (keys : List OrderKey) (rows : List Value) :
    keys.reverse.foldl (fun rows key => stableSort key.compare rows) rows =
      stableSort (OrderKey.compareAll keys) rows := by
  induction keys with
  | nil =>
    refine (List.mergeSort_of_pairwise ?_).symm
    exact List.pairwise_of_forall fun _ _ => rfl
  | cons key rest ih =>
    rw [List.reverse_cons, List.foldl_append, ih, compareAll_cons, ← stableSort_stableSort]
    rfl

end Order

end QueryRewriting
