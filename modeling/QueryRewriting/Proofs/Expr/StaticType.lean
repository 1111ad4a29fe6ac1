import QueryRewriting.Proofs.Expr.Children
import QueryRewriting.Schema.Model

/-! Trees whose static types are what a model says. Trees that are built with the operations of a
model are typed, and a typed node that is put together again from children of the same types is
typed as before. -/
namespace QueryRewriting

open Json Schema

/-- The type of the rows that a lambda next to a tree of some type ranges over. -/
def QueryType.rows (type : QueryType) : QueryType := type.element?.getD .any

theorem QueryType.eq_entity {type : QueryType} {entity : String}
    (named : type.entityName? = some entity) : type = .entity entity := by
  cases type with
  | entity name => exact congrArg QueryType.entity (Option.some.inj named)
  | _ => contradiction

namespace Schema.Model

variable {model : Model} {e : Expr} {supply after : NodeSupply}

theorem sourceExpr_ok {name : String}
    (built : (model.sourceExpr name).run.run supply = (.ok e, after)) :
    ∃ element, model.resolve? none name = some element ∧
      e = .source ⟨supply.next, element.logicalType⟩ none name [] := by
  unfold sourceExpr at built
  cases found : model.resolve? none name with
  | none =>
    rw [found] at built
    cases built
  | some element =>
    rw [found] at built
    cases built
    exact ⟨element, rfl, rfl⟩

theorem propertyExpr_ok {target : Expr} {property : String}
    (built : (model.propertyExpr target property).run.run supply = (.ok e, after)) :
    ∃ entity type, target.type.entityName? = some entity ∧
      model.propertyType? entity property = some type ∧
      e = .member ⟨supply.next, type⟩ target property := by
  unfold propertyExpr at built
  cases owner : target.type.entityName? with
  | none =>
    rw [owner] at built
    cases built
  | some entity =>
    rw [owner] at built
    dsimp only at built
    cases declared : model.propertyType? entity property with
    | none =>
      rw [declared] at built
      cases built
    | some type =>
      rw [declared] at built
      cases built
      exact ⟨entity, type, rfl, declared, rfl⟩

end Schema.Model

namespace Expr

/-- The types of parameters, the innermost first. -/
abbrev Parameters := List (String × QueryType)

/-- Trees that are built with the operations of a model where parameters have some types. A lambda
in the place of the tree ranges over rows of some type, which is that of its parameter: the elements
of the collection that it is an argument for. -/
inductive Fluent (model : Model) : Parameters → QueryType → Expr → Prop
  | source {scope : Parameters} {row : QueryType} {e : Expr} {after : NodeSupply} (name : String)
    (supply : NodeSupply) :
    (model.sourceExpr name).run.run supply = (.ok e, after) → Fluent model scope row e
  | property {scope : Parameters} {row : QueryType} {target e : Expr} {after : NodeSupply}
    (name : String) (supply : NodeSupply) :
    Fluent model scope .any target →
      (model.propertyExpr target name).run.run supply = (.ok e, after) → Fluent model scope row e
  | constant {scope : Parameters} {row : QueryType} (content : Value) (supply : NodeSupply) :
    Fluent model scope row ((Fresh.constant content).run supply).1
  | parameter {scope : Parameters} {row type : QueryType} (name : String) (supply : NodeSupply) :
    scope.lookup name = some type →
      Fluent model scope row ((Fresh.parameter name type).run supply).1
  | call {scope : Parameters} {row : QueryType} {source : Expr} {rest : List Expr}
    (method : Method) (supply : NodeSupply) :
    Fluent model scope .any source → (∀ e ∈ rest, Fluent model scope source.type.rows e) →
      Fluent model scope row ((Fresh.call method (source :: rest)).run supply).1
  | lambda {scope : Parameters} {row : QueryType} {body : Expr} (param : String)
    (supply : NodeSupply) :
    Fluent model ((param, row) :: scope) .any body →
      Fluent model scope row ((Fresh.lambda param body).run supply).1
  | binary {scope : Parameters} {row : QueryType} {left right : Expr} (op : BinaryOp)
    (supply : NodeSupply) :
    Fluent model scope .any left → Fluent model scope .any right →
      Fluent model scope row ((Fresh.binary op left right).run supply).1
  | not {scope : Parameters} {row : QueryType} {operand : Expr} (supply : NodeSupply) :
    Fluent model scope .any operand →
      Fluent model scope row ((Fresh.not operand).run supply).1

/-- Trees whose nodes carry the types that follow from a model and from the types of parameters,
data references and native fragments alike. -/
inductive Typed (model : Model) : Parameters → QueryType → Expr → Prop
  | value {scope : Parameters} {row : QueryType} {stamp : Stamp} {content : Value} :
    stamp.type = Fresh.valueType content → Typed model scope row (.value stamp content)
  | parameter {scope : Parameters} {row : QueryType} {stamp : Stamp} {name : String} :
    scope.lookup name = some stamp.type → Typed model scope row (.parameter stamp name)
  | member {scope : Parameters} {row : QueryType} {stamp : Stamp} {target : Expr}
    {name entity : String} :
    Typed model scope .any target → target.type.entityName? = some entity →
      model.propertyType? entity name = some stamp.type →
      Typed model scope row (.member stamp target name)
  | source {scope : Parameters} {row : QueryType} {stamp : Stamp} {name : String}
    {element : Element} :
    model.resolve? none name = some element → stamp.type = element.logicalType →
      Typed model scope row (.source stamp none name [])
  | native {scope : Parameters} {row : QueryType} {stamp : Stamp} {proxy : ProxyId} {name : String}
    {element : Element} :
    model.resolve? none name = some element → element.isFunction = false →
      stamp.type = element.logicalType → Typed model scope row (.native stamp proxy name)
  | call {scope : Parameters} {row : QueryType} {stamp : Stamp} {method : Method}
    {source : Expr} {rest : List Expr} :
    Typed model scope .any source → (∀ e ∈ rest, Typed model scope source.type.rows e) →
      stamp.type = method.resultType ((source :: rest).map Expr.type) →
      Typed model scope row (.call stamp method (source :: rest))
  | lambda {scope : Parameters} {row : QueryType} {stamp : Stamp} {param : String}
    {body : Expr} :
    Typed model ((param, row) :: scope) .any body → stamp.type = body.type →
      Typed model scope row (.lambda stamp param body)
  | binary {scope : Parameters} {row : QueryType} {stamp : Stamp} {op : BinaryOp}
    {left right : Expr} :
    Typed model scope .any left → Typed model scope .any right → stamp.type = .bool →
      Typed model scope row (.binary stamp op left right)
  | not {scope : Parameters} {row : QueryType} {stamp : Stamp} {operand : Expr} :
    Typed model scope .any operand → stamp.type = .bool →
      Typed model scope row (.not stamp operand)

variable {model : Model} {scope : Parameters} {row : QueryType} {e : Expr}

theorem Fluent.typed (fluent : Fluent model scope row e) : Typed model scope row e := by
  induction fluent with
  | source name supply built =>
    obtain ⟨element, found, rfl⟩ := Model.sourceExpr_ok built
    exact .source found rfl
  | property name supply _ built ih =>
    obtain ⟨entity, type, owner, declared, rfl⟩ := Model.propertyExpr_ok built
    exact .member ih owner declared
  | constant content supply => exact .value rfl
  | parameter name supply declared => exact .parameter declared
  | call method supply _ _ ih others => exact .call ih others rfl
  | lambda param supply _ ih => exact .lambda ih rfl
  | binary op supply _ _ first second => exact .binary first second rfl
  | not supply _ ih => exact .not ih rfl

/-- A tree is typed as it is where more parameters are declared around it. -/
theorem Typed.weaken (typed : Typed model scope row e) (outer : Parameters) :
    Typed model (scope ++ outer) row e := by
  induction typed with
  | value known => exact .value known
  | parameter declared =>
    apply Typed.parameter
    rw [List.lookup_append, declared]
    rfl
  | member _ owner declared ih => exact .member ih owner declared
  | source found typed => exact .source found typed
  | native found proper typed => exact .native found proper typed
  | call _ _ result ih others => exact .call ih others result
  | lambda _ known ih => exact .lambda ih known
  | binary _ _ truth first second => exact .binary first second truth
  | not _ truth ih => exact .not ih truth

section Reference

variable {stamp : Stamp} {qualifier : Option String} {name : String} {args : List Expr}

/-- A data reference is typed in the same way wherever it stands. -/
theorem Typed.anywhere (typed : Typed model scope row (.source stamp qualifier name args))
    (scope' : Parameters) (row' : QueryType) :
    Typed model scope' row' (.source stamp qualifier name args) := by
  cases typed with
  | source found known => exact .source found known

theorem Typed.logicalType_eq (typed : Typed model scope row (.source stamp qualifier name args))
    {element : Element} (resolved : model.resolve? qualifier name = some element) :
    stamp.type = element.logicalType := by
  cases typed with
  | source found known =>
    cases found.symm.trans resolved
    exact known

end Reference

/-- A tree that is typed wherever another one is, with the same type. -/
def Replaces (model : Model) (e tree : Expr) : Prop :=
  ∀ scope row, Typed model scope row e → Typed model scope row tree ∧ tree.type = e.type

theorem Replaces.refl (model : Model) (e : Expr) : Replaces model e e :=
  fun _ _ typed => ⟨typed, rfl⟩

theorem Replaces.trans {e tree other : Expr} (first : Replaces model e tree)
    (second : Replaces model tree other) : Replaces model e other := by
  intro scope row typed
  obtain ⟨typed, same⟩ := first scope row typed
  obtain ⟨typed, same'⟩ := second scope row typed
  exact ⟨typed, same'.trans same⟩

theorem Replaces.list {nodes trees : List Expr} (each : List.Forall₂ (Replaces model) nodes trees)
    (typed : ∀ e ∈ nodes, Typed model scope row e) :
    (∀ tree ∈ trees, Typed model scope row tree) ∧ trees.map Expr.type = nodes.map Expr.type := by
  induction each with
  | nil => exact ⟨typed, rfl⟩
  | cons first _ ih =>
    obtain ⟨here, below⟩ := List.forall_mem_cons.mp typed
    obtain ⟨here, same⟩ := first scope row here
    obtain ⟨below, others⟩ := ih below
    refine ⟨List.forall_mem_cons.mpr ⟨here, below⟩, ?_⟩
    rw [List.map_cons, List.map_cons, same, others]

/-- A node over children that replace those it had replaces the node. -/
theorem Replaces.replaceChildren {given : List Expr} (id : NodeId) (plain : e.isSource = false)
    (each : List.Forall₂ (Replaces model) e.children given) :
    Replaces model e (e.replaceChildren ⟨id, e.type⟩ given) := by
  intro scope row typed
  refine ⟨?_, type_replaceChildren e id given⟩
  have complete := each.length_eq.symm
  cases typed with
  | value known => exact .value known
  | parameter declared => exact .parameter declared
  | source => contradiction
  | native found proper known => exact .native found proper known
  | member target owner declared =>
    obtain ⟨tree, _, replaces, none, rfl⟩ := List.forall₂_cons_left_iff.mp each
    obtain ⟨target, same⟩ := replaces _ _ target
    exact .member target (same ▸ owner) declared
  | @call _ _ stamp method source rest first others result =>
    obtain ⟨tree, trees, replaces, below, rfl⟩ := List.forall₂_cons_left_iff.mp each
    obtain ⟨first, same⟩ := replaces _ _ first
    obtain ⟨others, types⟩ := Replaces.list below others
    have whole : overlay (source :: rest) (tree :: trees) = tree :: trees :=
      overlay_of_length_eq complete
    change Typed model scope row (.call ⟨id, stamp.type⟩ method (overlay (source :: rest) _))
    rw [whole]
    refine .call first (same ▸ others) ?_
    rw [List.map_cons, same, types, ← List.map_cons]
    exact result
  | lambda body known =>
    obtain ⟨tree, _, replaces, none, rfl⟩ := List.forall₂_cons_left_iff.mp each
    obtain ⟨body, same⟩ := replaces _ _ body
    exact .lambda body (known.trans same.symm)
  | binary left right truth =>
    obtain ⟨tree, _, replaces, rest, rfl⟩ := List.forall₂_cons_left_iff.mp each
    obtain ⟨other, _, replaces', none, rfl⟩ := List.forall₂_cons_left_iff.mp rest
    exact .binary (replaces _ _ left).1 (replaces' _ _ right).1 truth
  | not operand truth =>
    obtain ⟨tree, _, replaces, none, rfl⟩ := List.forall₂_cons_left_iff.mp each
    exact .not (replaces _ _ operand).1 truth

theorem Replaces.rebuilt {given : List Expr} (supply : NodeSupply) (plain : e.isSource = false)
    (each : List.Forall₂ (Replaces model) e.children given) :
    Replaces model e ((e.withChildren given).run supply).1 := by
  unfold withChildren
  split
  · exact .refl model e
  · exact .replaceChildren _ plain each

end Expr

end QueryRewriting
