import QueryRewriting.Access.RowFilter
import QueryRewriting.Proofs.Request.Ambient
import QueryRewriting.Proofs.Rewriting.Resolution

/-! Row security as a rule of a plan. -/
namespace QueryRewriting.Access.RowSecurity

open Rewriting Rewriting.Plan Schema

/-- The lambda that lets the rows of a user through. -/
def selector (security : RowSecurity) (entity : String) (field : QueryType) (user : Uuid) : Expr :=
  .lambda (.anonymous .bool) rowParameter
    (.binary (.anonymous .bool) .eq
      (.member (.anonymous field) (.parameter (.anonymous (.entity entity)) rowParameter)
        security.ownerField)
      (.value (.anonymous .string) (.string user.text)))

/-- What row security does about a reference: only nodes that stand for many rows are wrapped. -/
def rule (security : RowSecurity) (model : Model) (request : RequestContext) : RowRule :=
  fun target type =>
    if request.bypassesRowSecurity then .leave
    else if security.isProtected (((Binding.reference target).owner? model).getD target.name) &&
        type.isCollection then
      match request.auth.user?, model.propertyType? target.element.entity security.ownerField with
      | some user, some field => .wrap (security.selector target.element.entity field user)
      | _, _ => .refuse
    else .leave

/-- The owner field of a row is not taken for a source: the root does not go by the name of the row
parameter, or no source of the name of the field can stand in for it. -/
def Uncaptured (security : RowSecurity) (model : Model) (root : Option RootMember) : Prop :=
  root = some { root := rowParameter } → ∀ element entity field,
    model.resolve? none security.ownerField = some element → element.isFunction = false →
      model.propertyType? entity security.ownerField = some field →
        field.accepts element.logicalType = false

variable {security : RowSecurity} {plan : Plan}

theorem elementOrSelf_logicalType (element : Element) :
    element.logicalType.elementOrSelf = .entity element.entity := by
  unfold Element.logicalType
  split <;> rfl

/-- The test of ownership can be built where the owner field is declared. -/
theorem ownership_run (security : RowSecurity) (model : Model) (user : Uuid) (entity : String)
    (id : NodeId) (supply : NodeSupply) :
    ∃ result after, (security.ownership model user
        (.parameter ⟨id, .entity entity⟩ rowParameter)).run.run supply = (result, after) ∧
      match model.propertyType? entity security.ownerField with
      | none => ∃ error, result = .error error
      | some field => ∃ test member value, result = .ok (.binary ⟨test, .bool⟩ .eq
          (.member ⟨member, field⟩ (.parameter ⟨id, .entity entity⟩ rowParameter)
            security.ownerField)
          (.value ⟨value, .string⟩ (.string user.text))) := by
  unfold ownership Model.propertyExpr
  simp only [Expr.type, Expr.stamp, QueryType.entityName?]
  cases model.propertyType? entity security.ownerField with
  | none => exact ⟨_, _, rfl, _, rfl⟩
  | some field => exact ⟨_, _, rfl, _, _, _, rfl⟩

/-- What the filter answers about a reference. -/
theorem filter_run (security : RowSecurity) {context : Context} {target : DataReference}
    {node : Expr}
    (guarded : context.request.bypassesRowSecurity = false)
    (bound : context.binding = .reference target) (under : context.node? = some node)
    (ambient : Ambient) :
    ∃ answer after, (security.filter context).run.run ambient = (answer, after) ∧
      match security.rule context.model context.request target node.type with
      | .refuse => ∃ error, answer = .error error
      | .leave => answer = .ok none
      | .wrap selector => ∃ stamp lambda, stamp.type = node.type ∧ lambda.isLambda = true ∧
        lambda.erased = selector ∧ answer = .ok (some (.call stamp .filter [node, lambda])) := by
  have reading : context.reading? = some (target,
      ((Binding.reference target).owner? context.model).getD target.name) := by
    simp [Context.reading?, bound, Binding.reference?]
  have rows : rowType? context =
      if node.type.isCollection then some (.entity target.element.entity) else none := by
    simp [rowType?, under, bound, Binding.elementType?, Binding.logicalType?,
      DataReference.logicalType, elementOrSelf_logicalType]
  unfold RowSecurity.filter rule
  simp only [guarded, reading, rows, Bool.false_eq_true, if_false]
  cases covered : security.isProtected
      (((Binding.reference target).owner? context.model).getD target.name) with
  | false => exact ⟨_, _, rfl, rfl⟩
  | true =>
    cases many : node.type.isCollection with
    | false => exact ⟨_, _, rfl, rfl⟩
    | true =>
      simp only [Bool.not_true, Bool.false_eq_true, if_false, if_true, Bool.and_self]
      cases known : context.request.auth.user? with
      | none =>
        simp only [Auth.requireUser, known]
        exact ⟨_, _, rfl, _, rfl⟩
      | some user =>
        simp only [Auth.requireUser, known]
        obtain ⟨id, supply, row⟩ : ∃ id supply, (Fresh.parameter rowParameter
            (.entity target.element.entity)).run ambient.supply =
              (.parameter ⟨id, .entity target.element.entity⟩ rowParameter, supply) := ⟨_, _, rfl⟩
        obtain ⟨result, after, ran, built⟩ :=
          ownership_run security context.model user target.element.entity id supply
        rw [run_bind, Act.run_build, row]
        dsimp only
        rw [run_bind, Act.run_attempt _ ran]
        cases declared : context.model.propertyType? target.element.entity security.ownerField with
        | none =>
          simp only [declared] at built
          obtain ⟨error, rfl⟩ := built
          exact ⟨_, _, rfl, _, rfl⟩
        | some field =>
          simp only [declared] at built
          obtain ⟨test, member, value, rfl⟩ := built
          simp only [Except.mapError]
          rw [Act.run_build]
          simp only [restricted, under]
          exact ⟨_, _, rfl, ⟨after.next + 1, node.type⟩, .lambda ⟨after.next, .bool⟩ rowParameter _,
            rfl, rfl, rfl, rfl⟩

/-- A tree that is the selector but for its identities. -/
theorem shape_of_selector {entity : String} {field : QueryType} {user : Uuid} {lambda : Expr}
    (shape : lambda.erased = security.selector entity field user) :
    ∃ stamp test member row value, member.type = field ∧ lambda = .lambda stamp rowParameter
      (.binary test .eq (.member member (.parameter row rowParameter) security.ownerField)
        (.value value (.string user.text))) := by
  cases lambda with
  | lambda stamp param body =>
    cases body with
    | binary test op left right =>
      cases left with
      | member member inner name =>
        cases inner <;> cases right <;> simp_all [Expr.erased, selector, Stamp.anonymous]
      | _ => simp [Expr.erased, selector] at shape
    | _ => simp [Expr.erased, selector] at shape
  | _ => simp [Expr.erased, selector] at shape

/-- The owner field of the row is no reference. -/
theorem role_owner (uncaptured : security.Uncaptured plan.model plan.root) {entity : String}
    {member : Stamp} (declared : plan.model.propertyType? entity security.ownerField =
      some member.type)
    (row : Stamp) :
    plan.role (.member member (.parameter row rowParameter) security.ownerField) = .plain ∨
      plan.role (.member member (.parameter row rowParameter) security.ownerField) = .broken := by
  cases root : plan.root with
  | none => exact .inl (role_plain rfl (by simp [root]))
  | some access =>
    by_cases captured : rowParameter = access.root
    · have accessed : plan.role (.member member (.parameter row rowParameter) security.ownerField) =
          plan.accessRole member.type (some security.ownerField) := by
        simp only [Plan.role, root, Option.bind_some, RootMember.accessed?, captured, if_true]
        rfl
      rw [accessed]
      unfold Plan.accessRole
      cases found : plan.model.resolve? none security.ownerField with
      | none => exact .inr (by simp [found])
      | some element =>
        cases function : element.isFunction with
        | true => exact .inl (by simp [found, function])
        | false =>
          have refused := uncaptured (by rw [root, captured]) element entity member.type found
            function declared
          exact .inr (by simp [found, function, refused])
    · refine .inl (role_plain rfl ?_)
      intro other same
      cases root.symm.trans same
      simp [RootMember.accessed?, captured]

/-- The selector that is built holds no references. -/
theorem reached_selector (uncaptured : security.Uncaptured plan.model plan.root)
    {entity : String} {field : QueryType} {user : Uuid} {lambda : Expr}
    (declared : plan.model.propertyType? entity security.ownerField = some field)
    (shape : lambda.erased = security.selector entity field user) : plan.reached lambda = [] := by
  obtain ⟨stamp, test, member, row, value, rfl, rfl⟩ := shape_of_selector shape
  have owner : plan.reached
      (.member member (.parameter row rowParameter) security.ownerField) = [] := by
    rcases role_owner uncaptured declared row with role | role
    · rw [reached_plain role, Expr.children, List.flatMap_singleton,
        reached_plain (role_parameter _ _)]
      rfl
    · exact reached_broken role
  rw [reached_plain (role_lambda _ _ _), Expr.children, List.flatMap_singleton,
    reached_plain (role_binary _ _ _ _)]
  simp only [Expr.children, List.flatMap_cons, List.flatMap_nil, owner,
    reached_plain (role_value _ _), List.append_nil]

theorem selected?_eq (entity : String) (field : QueryType) (user : Uuid) :
    plan.selected? (security.selector entity field user) =
      ((plan.resolving (fun _ _ => none) [] (.member (.anonymous field)
          (.parameter (.anonymous (.entity entity)) rowParameter) security.ownerField)).map
        fun owner => .lambda (.anonymous .bool) rowParameter (.binary (.anonymous .bool) .eq owner
            (.value (.anonymous .string) (.string user.text)))) := by
  rw [selected?, selector, resolving_lambda, resolving_binary, resolving_leaf (role_value _ _) rfl]
  cases plan.resolving (fun _ _ => none) [] _ <;> rfl

/-- The selector is taken as it is, if the owner field is no access to the root. -/
theorem selected?_plain {entity : String} {field : QueryType}
    (role : plan.role (.member (.anonymous field)
      (.parameter (.anonymous (.entity entity)) rowParameter) security.ownerField) = .plain)
    (user : Uuid) : plan.selected? (security.selector entity field user) =
      some (security.selector entity field user) := by
  rw [selected?_eq, resolving_member rfl role, resolving_leaf (role_parameter _ _) rfl]
  rfl

/-- The selector is taken as it is, unless the owner field is taken for an unknown source. -/
theorem selected?_selector (uncaptured : security.Uncaptured plan.model plan.root)
    {entity : String} {field : QueryType}
    (declared : plan.model.propertyType? entity security.ownerField = some field) (user : Uuid) :
    plan.selected? (security.selector entity field user) = none ∨
      plan.selected? (security.selector entity field user) =
        some (security.selector entity field user) := by
  have declared : plan.model.propertyType? entity security.ownerField =
      some (Stamp.anonymous field).type := declared
  rcases role_owner uncaptured declared (.anonymous (.entity entity)) with role | role
  · exact .inr (selected?_plain role user)
  · rw [selected?_eq, resolving_broken rfl role]
    exact .inl rfl

/-- Whether rows of a collection are protected from a request. -/
def Covers (security : RowSecurity) (model : Model) (target : DataReference) : Prop :=
  security.isProtected (((Binding.reference target).owner? model).getD target.name) = true

/-- Only references that stand for many protected rows are wrapped, by the selector of a user. -/
theorem rule_wrap {model : Model} {request : RequestContext} {target : DataReference}
    {type : QueryType} {wrapping : Expr}
    (ruled : security.rule model request target type = .wrap wrapping) :
    (security.Covers model target ∧ type.isCollection = true) ∧ ∃ user field,
      request.auth.user? = some user ∧
      model.propertyType? target.element.entity security.ownerField = some field ∧
      wrapping = security.selector target.element.entity field user := by
  unfold rule at ruled
  split at ruled
  · contradiction
  · split at ruled
    · next both =>
      split at ruled
      · next user field known declared =>
        cases ruled
        exact ⟨by simpa [Covers] using both, user, field, known, declared, rfl⟩
      · contradiction
    · contradiction

/-- What becomes of a reference under row security alone: a fragment where rows are free to see or
the node does not stand for many rows, and else the rows of the user. -/
theorem sourced?_cases (uncaptured : security.Uncaptured plan.model plan.root)
    (secured : plan.rules = [security.rule plan.model plan.request])
    (guarded : plan.request.bypassesRowSecurity = false)
    {target : DataReference} {type : QueryType} {tree : Expr}
    (sourced : plan.sourced? target type = some tree) :
    (¬(security.Covers plan.model target ∧ type.isCollection = true) ∧
        tree = .native (.anonymous target.logicalType) plan.store.proxy target.name) ∨
      (security.Covers plan.model target ∧ type.isCollection = true) ∧
        ∃ user field, plan.request.auth.user? = some user ∧
          plan.model.propertyType? target.element.entity security.ownerField = some field ∧
          tree = .call (.anonymous type) .filter
            [.native (.anonymous target.logicalType) plan.store.proxy target.name,
              security.selector target.element.entity field user] := by
  unfold sourced? at sourced
  rw [secured, Option.bind_eq_some_iff] at sourced
  obtain ⟨fragment, stored, wrapped⟩ := sourced
  obtain rfl := fragment?_eq stored
  rcases wrapped?_cons wrapped with ⟨ruled, same⟩ | ⟨selector, chosen, ruled, selected, same⟩
  · cases same
    refine .inl ⟨?_, rfl⟩
    rintro ⟨covered, many⟩
    unfold Covers at covered
    simp only [rule, guarded, covered, many, Bool.false_eq_true, if_false, Bool.and_self,
      if_true] at ruled
    split at ruled <;> contradiction
  · cases same
    obtain ⟨covered, user, field, known, declared, rfl⟩ := rule_wrap ruled
    rcases selected?_selector uncaptured declared user with none | some
    · rw [none] at selected
      contradiction
    · cases some.symm.trans selected
      exact .inr ⟨covered, user, field, known, declared, rfl⟩

theorem applies (uncaptured : security.Uncaptured plan.model plan.root) :
    plan.Applies security.hook (security.rule plan.model plan.request) := by
  intro context ambient modelled requested
  rw [← modelled, ← requested]
  cases bypasses : context.request.bypassesRowSecurity with
  | true =>
    refine ⟨.ok none, ambient, ?_, ?_⟩
    · change (security.filter context).run.run ambient = _
      unfold RowSecurity.filter
      rw [bypasses]
      rfl
    · cases context.binding.reference? <;> simp [rule, bypasses]
  | false =>
    cases refers : context.binding.reference? with
    | none =>
      refine ⟨.ok none, ambient, ?_, rfl⟩
      change (security.filter context).run.run ambient = _
      unfold RowSecurity.filter Context.reading?
      rw [bypasses, refers]
      rfl
    | some target =>
      have bound : context.binding = .reference target := by
        cases binding : context.binding <;> simp_all [Binding.reference?]
      cases under : context.node? with
      | none =>
        refine ⟨_, _, rfl, fun node found => ?_⟩
        contradiction
      | some node =>
        obtain ⟨answer, after, ran, answered⟩ := filter_run security bypasses bound under ambient
        refine ⟨answer, after, ran, ?_⟩
        rintro _ ⟨⟩
        cases ruled : security.rule context.model context.request target node.type with
        | refuse | leave => simpa only [ruled] using answered
        | wrap selector =>
          simp only [ruled] at answered ⊢
          obtain ⟨stamp, lambda, typed, bodied, shape, rfl⟩ := answered
          obtain ⟨-, user, field, -, declared, rfl⟩ := rule_wrap ruled
          have declared : plan.model.propertyType? target.element.entity security.ownerField =
              some field := modelled ▸ declared
          exact ⟨stamp, lambda, typed, bodied, shape, reached_selector uncaptured declared shape,
            rfl⟩

end QueryRewriting.Access.RowSecurity
