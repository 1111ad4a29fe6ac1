import QueryRewriting.QueryType

/-!
Entity types: named records of primitive fields and navigations to other entity types.
-/

namespace QueryRewriting.Schema

open Json

/-- The type of a field. A navigation leads to one entity or to many. -/
inductive FieldType where
  | string
  | int
  | bool
  | float
  | entity (target : String)
  | collection (target : String)
  deriving DecidableEq, Inhabited

namespace FieldType

/-- The name of the kind of a field type. -/
def name : FieldType → String
  | .string => "string"
  | .int => "int"
  | .bool => "bool"
  | .float => "float"
  | .entity _ => "entity"
  | .collection _ => "collection"

/-- The entity type that a navigation leads to. -/
def target? : FieldType → Option String
  | .entity target => some target
  | .collection target => some target
  | _ => none

/-- The static type of an access to a field. -/
def queryType : FieldType → QueryType
  | .string => .string
  | .int => .int
  | .bool => .bool
  | .float => .float
  | .entity target => .entity target
  | .collection target => .sequence (.entity target)

end FieldType

/-- A field of an entity type. -/
structure FieldDef where
  type : FieldType
  required : Bool := false
  deriving DecidableEq, Inhabited

/-- An entity type. -/
structure EntityType where
  name : String
  key : List String := []
  fields : Entries FieldDef
  deriving DecidableEq, Inhabited

/-- What is wrong with the key of an entity type, or with its name. -/
inductive EntityType.Flaw where
  | unnamed
  | keyNotDeclared (key entity : String)
  | keyNotRequired (key : String)
  | keyNotPrimitive (key : String)
  deriving DecidableEq

namespace EntityType

/-- A field by its name. -/
def field? (type : EntityType) (name : String) : Option FieldDef :=
  Entries.find? type.fields name

/-- The flaw of one key field: it must be declared, required and primitive. -/
def keyFlaw? (type : EntityType) (key : String) : Option Flaw :=
  match type.field? key with
  | none => some (.keyNotDeclared key type.name)
  | some definition =>
    if !definition.required then some (.keyNotRequired key)
    else if definition.type.target?.isSome then some (.keyNotPrimitive key)
    else none

/-- The first flaw of a type by itself, without the types its navigations lead to. -/
def flaw? (type : EntityType) : Option Flaw :=
  if type.name = "" then some .unnamed else type.key.findSome? type.keyFlaw?

end EntityType

namespace FieldDef

/-- The tags of the JSON form of a field type, and whether an entity goes with them. -/
inductive Tag where
  | plain (type : FieldType)
  | navigation (build : String → FieldType)

/-- The tags by name. -/
def tags : List (String × Tag) :=
  [("string", .plain .string), ("int", .plain .int), ("bool", .plain .bool),
   ("float", .plain .float), ("entity", .navigation .entity),
   ("collection", .navigation .collection)]

/-- Reads a field: an object with `type`, `required` and, for a navigation, `entity`. The members
that say the type are looked at only after all of them have been read, so each of them must
denote a value, known or not. -/
def read : Reader FieldDef
  | 0, _ => .error .tooDeep
  | room + 1, .object members => do
    let required ← Reader.knownMembers ["required"] members
    let required ← required.mapM fun (_, document) => Reader.bool room document
    let others ← members.filterM fun (name, document) => do
      if (← Reader.key name) = "required" then return false
      else
        let _ ← Reader.value room document
        return true
    match ← Reader.knownMembers ["type"] others with
    | [] => throw (.missingField "type")
    | (_, document) :: _ =>
      let type ← match ← Reader.constantNameOrPlace tags room document with
        | .plain type => pure type
        | .navigation build => do
          match ← Reader.knownMembers ["entity"] others with
          | [] => throw (.missingField "entity")
          | (_, target) :: _ => build <$> Reader.string room target
      return ⟨type, required.headD false⟩
  | _, _ => .error (.expected "an object")

/-- The JSON form of a field. -/
def toValue (definition : FieldDef) : Value :=
  let target := match definition.type.target? with
    | some target => [("entity", Value.string target)]
    | none => []
  Value.ofMembers (target ++
    [("required", .bool definition.required), ("type", .string definition.type.name)])

end FieldDef

namespace EntityType

/-- Reads an entity type. -/
def read : Reader EntityType :=
  Reader.record ["name", "key", "fields"] fun fields => do
    return {
      name := ← fields.required "name" Reader.string
      key := ← fields.orElse "key" (Reader.list Reader.string) []
      fields := ← fields.required "fields" (Reader.entries FieldDef.read) }

/-- The JSON form of an entity type in descriptions of a model: each field with its kind, its
target, its static type and whether it is required. -/
def summary (type : EntityType) : Value :=
  Value.ofMembers [
    ("name", .string type.name), ("key", .array (type.key.map .string)),
    ("fields", .array (type.fields.map fun (name, definition) => .array [
      .string name, .string definition.type.name, .ofString? definition.type.target?,
      .string definition.type.queryType.text, .bool definition.required]))]

/-- The JSON form of an entity type. -/
def toValue (type : EntityType) : Value :=
  Value.ofMembers [
    ("name", .string type.name),
    ("key", .array (type.key.map .string)),
    ("fields", .object (type.fields.map fun (name, definition) => (name, definition.toValue)))]

end EntityType

end QueryRewriting.Schema
