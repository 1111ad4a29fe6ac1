import QueryRewriting.Schema.Model

/-!
Model documents: the JSON form of a model. A document is taken as a whole or refused.
-/

namespace QueryRewriting.Schema

open Json

/-- A collection or singleton in a model document. -/
structure SourceEntry where
  name : String
  entity : String
  deriving DecidableEq, Inhabited

/-- A model document. -/
structure ModelDocument where
  space : String
  entityTypes : List EntityType := []
  collections : List SourceEntry := []
  singletons : List SourceEntry := []
  functions : List Function := []
  deriving DecidableEq, Inhabited

/-- Reads a collection or singleton. -/
def SourceEntry.read : Reader SourceEntry :=
  Reader.record ["name", "entity_type"] fun fields => do
    return {
      name := ← fields.required "name" Reader.string
      entity := ← fields.required "entity_type" Reader.string }

/-- The JSON form of a collection or singleton. -/
def SourceEntry.toValue (entry : SourceEntry) : Value :=
  Value.ofMembers [("name", .string entry.name), ("entity_type", .string entry.entity)]

namespace ModelDocument

/-- Reads a model document. -/
def read : Reader ModelDocument :=
  Reader.record ["namespace", "entity_types", "collections", "singletons", "functions"]
    fun fields => do
    return {
      space := ← fields.required "namespace" Reader.string
      entityTypes := ← fields.orElse "entity_types" (Reader.list EntityType.read) []
      collections := ← fields.orElse "collections" (Reader.list SourceEntry.read) []
      singletons := ← fields.orElse "singletons" (Reader.list SourceEntry.read) []
      functions := ← fields.orElse "functions" (Reader.list Function.read) [] }

/-- The JSON form of a model document. -/
def toValue (document : ModelDocument) : Value :=
  Value.ofMembers [
    ("namespace", .string document.space),
    ("entity_types", .array (document.entityTypes.map EntityType.toValue)),
    ("collections", .array (document.collections.map SourceEntry.toValue)),
    ("singletons", .array (document.singletons.map SourceEntry.toValue)),
    ("functions", .array (document.functions.map Function.toValue))]

/-- The sources of a document in the order in which they are added. -/
def elements (document : ModelDocument) : List Element :=
  document.collections.map (fun entry => .collection entry.name entry.entity) ++
  document.singletons.map (fun entry => .singleton entry.name entry.entity) ++
  document.functions.map .function

/-- The model of a document: types first, then sources, and navigations are checked at the end. -/
def toModel (document : ModelDocument) : Except Error Model := do
  let model ← document.entityTypes.foldlM Model.addEntityType { space := document.space }
  let model ← document.elements.foldlM Model.addElement model
  model.validate
  return model

end ModelDocument

/-- The origin of a model that was not read from a file. -/
def inlineOrigin : String := "<inline>"

/-- The model that a text describes. -/
def Model.ofText (text : String) : Except Error Model :=
  match Reader.fromText ModelDocument.read text with
  | .error error => .error (.malformed inlineOrigin (.invalidText error))
  | .ok document => document.toModel

/-- The model that the text of a file describes. A defect is reported as one of the file. -/
def Model.ofFile (path : String) (content : Except String String) : Except Error Model :=
  match content with
  | .error reason => .error (.malformed path (.unreadable reason))
  | .ok text =>
    match Model.ofText text with
    | .error (.malformed origin defect) => .error (.malformed path (.within origin defect))
    | result => result

end QueryRewriting.Schema
