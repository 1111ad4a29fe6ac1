import QueryRewriting.QueryType

/-!
Results of queries. A scalar is carried as a list of one value.
-/

namespace QueryRewriting

open Json

/-- Whether a query yields rows or a single value. -/
inductive Shape where
  | sequence
  | scalar
  deriving DecidableEq, Inhabited

/-- The shape of the result of a query of some type. -/
def Shape.of (type : QueryType) : Shape := if type.isCollection then .sequence else .scalar

/-- The name of a shape. -/
def Shape.name : Shape → String
  | .sequence => "sequence"
  | .scalar => "scalar"

/-- The JSON description of a type: its text, its form, and what results of it are like. -/
def QueryType.summary (type : QueryType) : Value :=
  Value.ofMembers [
    ("display", .string type.text), ("json", type.toValue),
    ("element", .ofString? (type.element?.map QueryType.text)),
    ("collection", .bool type.isCollection), ("entity", .ofString? type.entityName?),
    ("shape", .string (Shape.of type).name)]

/-- The result of a query, with the count of rows regardless of paging and the collection the rows
come from, where they are known. -/
structure QueryResult where
  shape : Shape
  results : List Value
  totalCount : Option UInt64 := none
  collection : Option String := none
  deriving DecidableEq, Inhabited

namespace QueryResult

/-- A result of rows. -/
def sequence (rows : List Value) : QueryResult := { shape := .sequence, results := rows }

/-- A result of one value. -/
def scalar (value : Value) : QueryResult := { shape := .scalar, results := [value] }

/-- The value of a scalar result. -/
def scalarValue? (result : QueryResult) : Option Value :=
  match result.shape with
  | .scalar => result.results.head?
  | .sequence => none

/-- The number of rows. -/
def size (result : QueryResult) : Nat := result.results.length

/-- The JSON form of a result. What is not known is left out. -/
def toValue (result : QueryResult) : Value :=
  let total := match result.totalCount with
    | some total => [("total_count", Value.ofUInt64 total)]
    | none => []
  let collection := match result.collection with
    | some collection => [("collection", Value.string collection)]
    | none => []
  Value.ofMembers ([("shape", .string result.shape.name), ("results", .array result.results)] ++
    total ++ collection)

end QueryResult

end QueryRewriting
