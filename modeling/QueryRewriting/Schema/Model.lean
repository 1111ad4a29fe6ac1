import QueryRewriting.Expr.Build
import QueryRewriting.Schema.Element
import QueryRewriting.Schema.Error

/-!
The model that requests are bound to: entity types and named sources. It answers what a name
stands for, what type a property has, and which collection rows of a type belong to. A model is
built by adding to it, and what is added must fit what is there.
-/

namespace QueryRewriting.Schema

/-- Entity types and named sources in a namespace. -/
structure Model where
  space : String
  entityTypes : Entries EntityType := []
  elements : Entries Element := []
  deriving DecidableEq, Inhabited

namespace Model

variable (model : Model)

/-- Adds an entity type under a new name. -/
def addEntityType (type : EntityType) : Except Error Model :=
  match type.flaw? with
  | some flaw => .error (.malformed type.name (.flawedType flaw))
  | none =>
    if Entries.contains model.entityTypes type.name then .error (.duplicateElement type.name)
    else .ok { model with entityTypes := Entries.insert type.name type model.entityTypes }

/-- Whether a name stands for a collection. -/
def hasCollection (name : String) : Bool :=
  (Entries.find? model.elements name).any Element.isCollection

/-- The collection that a function fixes for its rows. -/
def entitySet? : Element → Option String
  | .function definition => definition.entitySet
  | _ => none

/-- Adds a named source over a known entity type. A function may fix a known collection. -/
def addElement (element : Element) : Except Error Model :=
  if !Entries.contains model.entityTypes element.entity then
    .error (.unknownEntityType element.entity)
  else match (entitySet? element).filter (!model.hasCollection ·) with
    | some set => .error (.unknownSource set)
    | none =>
      if Entries.contains model.elements element.name then .error (.duplicateElement element.name)
      else .ok { model with elements := Entries.insert element.name element model.elements }

/-- The entity types that navigations lead to, in the order of types and fields. -/
def navigationTargets : List String :=
  model.entityTypes.flatMap fun (_, type) =>
    type.fields.filterMap fun (_, definition) => definition.type.target?

/-- Checks that every navigation leads to a known entity type. -/
def validate : Except Error Unit :=
  match model.navigationTargets.find? (!Entries.contains model.entityTypes ·) with
  | some target => .error (.unknownEntityType target)
  | none => .ok ()

/-- The namespace that a source belongs to. -/
def spaceOf : Element → String
  | .function definition => definition.qualifier.getD model.space
  | _ => model.space

/-- The source of a name. A namespace that is given must be the source's own. -/
def resolve? (qualifier : Option String) (name : String) : Option Element := do
  let element ← Entries.find? model.elements name
  match qualifier with
  | none => some element
  | some space => if model.spaceOf element = space then some element else none

/-- The static type of a property. -/
def propertyType? (entity property : String) : Option QueryType := do
  let type ← Entries.find? model.entityTypes entity
  let definition ← type.field? property
  return definition.type.queryType

/-- The names of the collections of an entity type. -/
def collectionsOf (entity : String) : List String :=
  model.elements.filterMap fun (_, element) =>
    match element with
    | .collection name rows => if rows = entity then some name else none
    | _ => none

/-- The collection that rows of a type belong to: the only collection of the entity type. -/
def owner? (type : QueryType) : Option String := do
  let entity ← type.elementOrSelf.entityName?
  match model.collectionsOf entity with
  | [only] => some only
  | _ => none

/-- A reference to a source by its name. -/
def sourceExpr (name : String) : ExceptT Error Fresh Expr :=
  match model.resolve? none name with
  | some element => liftM (Fresh.source none name [] element.logicalType)
  | none => throw (.unknownSource name)

/-- A reference to a function with arguments. -/
def functionExpr (qualifier : Option String) (name : String) (args : List Expr) :
    ExceptT Error Fresh Expr :=
  match model.resolve? qualifier name with
  | some element => liftM (Fresh.source qualifier name args element.logicalType)
  | none => throw (.unknownSource name)

/-- An access to a property of an entity. -/
def propertyExpr (target : Expr) (property : String) : ExceptT Error Fresh Expr :=
  match target.type.entityName? with
  | none => throw (.unknownEntityType target.type.text)
  | some entity =>
    match model.propertyType? entity property with
    | some type => liftM (Fresh.member target property type)
    | none => throw (.unknownProperty entity property)

end Model

end QueryRewriting.Schema
