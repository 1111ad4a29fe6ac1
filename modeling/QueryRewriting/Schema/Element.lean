import QueryRewriting.QueryType

/-!
The named sources of a model: collections, singletons and composable functions.
-/

namespace QueryRewriting.Schema

open Json

/-- A declared parameter of a function. -/
structure Parameter where
  name : String
  type : QueryType
  deriving DecidableEq, Inhabited

/-- A composable function over entities. The collection its rows belong to may be fixed. -/
structure Function where
  name : String
  qualifier : Option String := none
  parameters : List Parameter := []
  returns : String
  returnsCollection : Bool := true
  entitySet : Option String := none
  deriving DecidableEq, Inhabited

/-- A named source. -/
inductive Element where
  | collection (name entity : String)
  | singleton (name entity : String)
  | function (definition : Function)
  deriving DecidableEq, Inhabited

namespace Element

/-- The name of a source. -/
def name : Element → String
  | .collection name _ => name
  | .singleton name _ => name
  | .function definition => definition.name

/-- The entity type of its rows. -/
def entity : Element → String
  | .collection _ entity => entity
  | .singleton _ entity => entity
  | .function definition => definition.returns

/-- Whether it stands for many rows. -/
def isMany : Element → Bool
  | .collection .. => true
  | .singleton .. => false
  | .function definition => definition.returnsCollection

/-- The static type of a reference to it. -/
def logicalType (element : Element) : QueryType :=
  if element.isMany then .queryable (.entity element.entity) else .entity element.entity

/-- The name of its kind. -/
def kind : Element → String
  | .collection .. => "collection"
  | .singleton .. => "singleton"
  | .function _ => "function"

/-- Whether it is a collection. -/
def isCollection : Element → Bool
  | .collection .. => true
  | _ => false

/-- Whether it is a function. -/
def isFunction : Element → Bool
  | .function _ => true
  | _ => false

/-- What a function says besides what every source does. -/
def functionMembers : Element → List (String × Value)
  | .function definition => [
      ("namespace", .ofString? definition.qualifier),
      ("entity_set", .ofString? definition.entitySet),
      ("parameters", .array (definition.parameters.map fun parameter =>
        .array [.string parameter.name, .string parameter.type.text]))]
  | _ => []

/-- The JSON form of a source in descriptions of a model. -/
def toValue (element : Element) : Value :=
  Value.ofMembers ([("kind", .string element.kind), ("name", .string element.name),
    ("entity_type", .string element.entity), ("logical_type", .string element.logicalType.text)] ++
    element.functionMembers)

end Element

/-- Reads a parameter. -/
def Parameter.read : Reader Parameter :=
  Reader.record ["name", "type"] fun fields => do
    return {
      name := ← fields.required "name" Reader.string
      type := ← fields.required "type" QueryType.read }

/-- The JSON form of a parameter. -/
def Parameter.toValue (parameter : Parameter) : Value :=
  Value.ofMembers [("name", .string parameter.name), ("type", parameter.type.toValue)]

/-- Reads a function. -/
def Function.read : Reader Function :=
  Reader.record
    ["name", "namespace", "parameters", "returns", "returns_collection", "entity_set"]
    fun fields => do
    return {
      name := ← fields.required "name" Reader.string
      qualifier := ← fields.optional "namespace" Reader.string
      parameters := ← fields.orElse "parameters" (Reader.list Parameter.read) []
      returns := ← fields.required "returns" Reader.string
      returnsCollection := ← fields.orElse "returns_collection" Reader.bool true
      entitySet := ← fields.optional "entity_set" Reader.string }

/-- The JSON form of a function. -/
def Function.toValue (definition : Function) : Value :=
  Value.ofMembers [
    ("name", .string definition.name),
    ("namespace", .ofString? definition.qualifier),
    ("parameters", .array (definition.parameters.map Parameter.toValue)),
    ("returns", .string definition.returns),
    ("returns_collection", .bool definition.returnsCollection),
    ("entity_set", .ofString? definition.entitySet)]

end QueryRewriting.Schema
