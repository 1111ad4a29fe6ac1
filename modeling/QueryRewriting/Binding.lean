import QueryRewriting.Expr.Text
import QueryRewriting.Schema.Model

/-!
What a node means in terms of the model. A binding is never stored in a node: it follows from the
node's shape, the model and the enclosing nodes. A source is bound to what it names, a member to
a property of what its target is bound to, and a lambda parameter to the elements of the
collection that the declaring lambda ranges over.
-/

namespace QueryRewriting

open Json Schema

/-- A named source with the arguments of the reference. -/
structure DataReference where
  qualifier : Option String
  name : String
  args : List Expr
  element : Element
  deriving DecidableEq, Inhabited

/-- The static type of what is referred to. -/
def DataReference.logicalType (reference : DataReference) : QueryType :=
  reference.element.logicalType

/-- The meaning of a node in the model. -/
inductive Binding where
  | unbound
  | reference (reference : DataReference)
  | property (of : Binding) (name : String) (type : QueryType)
  | element (of : Binding) (type : QueryType)
  deriving DecidableEq, Inhabited

namespace Binding

/-- The data reference that a binding is. -/
def reference? : Binding → Option DataReference
  | .reference target => some target
  | _ => none

/-- Whether a binding is a data reference. -/
def isReference (binding : Binding) : Bool := binding.reference?.isSome

/-- The name of the kind of a binding. -/
def kind : Binding → String
  | .unbound => "none"
  | .reference _ => "ref"
  | .property .. => "property"
  | .element .. => "element"

/-- The type of the bound data. -/
def logicalType? : Binding → Option QueryType
  | .unbound => none
  | .reference target => some target.logicalType
  | .property _ _ type => some type
  | .element _ type => some type

/-- The type of the elements of the bound data, or of the data itself if it has none. -/
def elementType? (binding : Binding) : Option QueryType :=
  binding.logicalType?.map QueryType.elementOrSelf

/-- The collection that the bound data belongs to. -/
def owner? (model : Model) : Binding → Option String
  | .unbound => none
  | .reference target =>
    match target.element with
    | .collection name _ => some name
    | .singleton name _ => some name
    | .function definition => definition.entitySet <|> model.owner? target.logicalType
  | .property _ _ type => model.owner? type
  | .element of _ => of.owner? model

/-- The JSON form of a binding. -/
def toValue : Binding → Value
  | .unbound => Value.ofMembers [("binding", .string "none")]
  | .reference target => Value.ofMembers [
      ("binding", .string "data_reference"), ("name", .string target.name),
      ("namespace", .ofString? target.qualifier),
      ("args", .array (target.args.map fun e => .string e.text)),
      ("element", .string target.element.kind), ("logical_type", .string target.logicalType.text)]
  | .property of name type => derived (.ofMembers [("property", .string name)]) type of.toValue
  | .element of type => derived (.string "collection_element") type of.toValue
where
  derived (kind : Value) (type : QueryType) (source : Value) : Value := Value.ofMembers [
    ("binding", .string "derived"), ("kind", kind), ("logical_type", .string type.text),
    ("source", source)]

/-- The binding of a property of bound data. -/
def propertyOf (model : Model) (source : Binding) (name : String) : Binding :=
  match source.logicalType? with
  | some (.entity entity) =>
    match model.propertyType? entity name with
    | some type => .property source name type
    | none => .unbound
  | _ => .unbound

/-- The binding of the elements of bound data. -/
def elementOf (source : Binding) : Binding :=
  match source.logicalType?.bind QueryType.element? with
  | some type => .element source type
  | none => .unbound

/-- A reference names no source of the model. -/
structure UnknownSource where
  name : String
  deriving DecidableEq

/-- The binding of a node, with the bindings of parameters given. -/
def ofNode (model : Model) (parameter : String → Except UnknownSource Binding) :
    Expr → Except UnknownSource Binding
  | .source _ qualifier name args =>
    match model.resolve? qualifier name with
    | some found => .ok (.reference { qualifier, name, args, element := found })
    | none => .error ⟨qualifiedName qualifier name⟩
  | .member _ target name => do
    return propertyOf model (← ofNode model parameter target) name
  | .parameter _ name => parameter name
  | _ => .ok .unbound

/-- Whether a node is a lambda over a parameter. -/
def declares (name : String) : Expr → Bool
  | .lambda _ param _ => param == name
  | _ => false

/-- The binding of a parameter under enclosing nodes, the innermost first. The innermost lambda
over the parameter decides: it must be an argument of the call around it, and the parameter then
stands for the elements of that call's first argument, bound where the call stands. -/
def ofParameter (model : Model) : List Expr → String → Except UnknownSource Binding
  | [], _ => .ok .unbound
  | frame :: outer, name =>
    if declares name frame then
      match outer with
      | .call _ _ (source :: more) :: around =>
        if frame ∈ source :: more then
          elementOf <$> ofNode model (fun inner => ofParameter model around inner) source
        else .ok .unbound
      | _ => .ok .unbound
    else ofParameter model outer name

/-- The binding of a node under enclosing nodes, the innermost first. -/
def bind (model : Model) (enclosing : List Expr) (node : Expr) : Except UnknownSource Binding :=
  ofNode model (ofParameter model enclosing) node

end Binding

end QueryRewriting
