import QueryRewriting.Proofs.QuerySpec.Stages

/-! The meaning of query descriptions. A pipeline over a store answers to the query tree of a
description with the page that is asked for of the rows that the caller may see. -/
namespace QueryRewriting.QuerySpec

open Json Schema Evaluation Access Rewriting Rewriting.Plan

variable {plan : Plan} {supply : NodeSupply}

/-- A query whose answer is that of its description over some rows. -/
structure Means (plan : Plan) (spec : QuerySpec) (entity : String) (rows : List Value)
    (query : Expr) : Prop where
  answers : ∃ tree, plan.resolve? [] query = some tree ∧
    (plan.store.answer? tree spec.options).map
        (fun answer => { answer with collection := some spec.source }) =
      spec.answer? plan.model entity rows
  reached : ∀ entry ∈ plan.reached query, entry.1.name = spec.source ∧
    ∃ entity, entry.1.element = .collection spec.source entity
  collected : plan.collected [] query none = some spec.source

variable {spec : QuerySpec} {entity : String} {query : Expr} {element : QueryType}
  {visible : List Value}

/-- Without a further operator the rows are the answer. -/
theorem Yields.means (ends : spec.terminal? = none)
    (yields : Yields plan spec.source query element (spec.page (spec.selected visible))
      (spec.selected visible)) : Means plan spec entity visible query where
  reached := yields.reached
  collected := yields.collected
  answers := by
    obtain ⟨tree, resolved, typed, found, stripped⟩ := yields.resolves
    refine ⟨tree, resolved, ?_⟩
    have none : spec.count = false ∧ spec.first = false ∧ spec.any = false := by
      unfold terminal? at ends
      grind
    unfold QuerySpec.answer?
    rw [Store.answer?_sequence (by rw [typed]; rfl), found, Store.total?, stripped]
    simp only [none, Bool.false_eq_true, if_false]
    cases counted : spec.totalCount <;>
      simp [items?, options, resultOf, counted, QueryResult.sequence]

/-- The operator that ends a description, and what is asked for then. -/
theorem ended_of_terminal? {method : Method} (ends : spec.terminal? = some method) :
    (method = .count ∧ spec.count = true) ∨
      (method = .first ∧ spec.count = false ∧ spec.first = true) ∨
      method = .any ∧ spec.count = false ∧ spec.first = false ∧ spec.any = true := by
  unfold terminal? at ends
  grind

/-- What becomes of a query with an operator that ends it operates on the page that it yields. -/
theorem Yields.operated {source : String} {page rows : List Value} {method : Method}
    (proper : method.isPaging = false) (yields : Yields plan source query element page rows)
    {stamp : Stamp} (typed : stamp.type = method.resultType [query.type]) :
    ∃ tree, plan.resolve? [] (.call stamp method [query]) = some tree ∧
      tree.type = method.resultType [.queryable element] ∧ tree.stripPaging = tree ∧
      value? plan.store tree [] = operate? method page none none := by
  obtain ⟨tree, resolved, -, found, -⟩ := yields.resolves
  refine ⟨.call (.anonymous stamp.type) method [tree], ?_, ?_,
    Expr.stripPaging_of_not_paging proper, ?_⟩
  · rw [resolve?] at resolved ⊢
    simp only [resolving_call, List.mapM_cons, List.mapM_nil, resolved]
    rfl
  · rw [← yields.typed]
    exact typed
  · rw [value?_call, found]
    rfl

/-- The answer of a query with an operator that ends it. -/
theorem Yields.ended {method : Method} (ends : spec.terminal? = some method)
    (many : element.isCollection = spec.selectsMany plan.model entity)
    (yields : Yields plan spec.source query element (spec.page (spec.selected visible))
      (spec.selected visible)) {stamp : Stamp}
    (typed : stamp.type = method.resultType [query.type]) :
    Means plan spec entity visible (.call stamp method [query]) where
  reached := by
    rw [reached_plain (role_call _ _ _), Expr.children, List.flatMap_singleton]
    exact yields.reached
  collected := by
    rw [collected_plain rfl (role_call _ _ _), ownerOf?_call, if_neg (by simp [Expr.isLambda])]
    exact yields.collected
  answers := by
    have ended := ended_of_terminal? ends
    have proper : method.isPaging = false := by
      rcases ended with ⟨rfl, -⟩ | ⟨rfl, -⟩ | ⟨rfl, -⟩ <;> rfl
    obtain ⟨tree, resolved, typed', unpaged, valued⟩ := yields.operated proper typed
    refine ⟨tree, resolved, ?_⟩
    unfold QuerySpec.answer?
    rcases ended with ⟨rfl, count⟩ | ⟨rfl, count, first⟩ | ⟨rfl, count, first, any⟩
    · rw [Store.answer?_scalar (by rw [typed']; rfl), valued, if_pos count]
      rfl
    · have shape : tree.type.isCollection = spec.selectsMany plan.model entity := by
        rw [typed']
        exact many
      simp only [count, first, ← shape, Bool.false_eq_true, if_false, if_true]
      cases several : tree.type.isCollection with
      | false =>
        rw [Store.answer?_scalar several, valued]
        rfl
      | true =>
        rw [Store.answer?_sequence several, Store.total?, unpaged, valued]
        simp only [operate?, Option.bind_some]
        cases items? ((spec.page (spec.selected visible)).headD .null) with
        | none => rfl
        | some items =>
          cases counted : spec.totalCount <;>
            simp [options, resultOf, counted, QueryResult.sequence]
    · rw [Store.answer?_scalar (by rw [typed']; rfl), valued]
      simp only [count, first, any, Bool.false_eq_true, if_false, if_true]
      rfl

/-- A page is taken of what is left once rows are skipped. -/
theorem page_eq (spec : QuerySpec) (rows : List Value) :
    spec.page rows = spec.take.elim (spec.skip.elim rows fun bound => rows.drop bound.toNat)
      fun bound => (spec.skip.elim rows fun bound => rows.drop bound.toNat).take bound.toNat := by
  unfold QuerySpec.page
  cases spec.skip <;> cases spec.take <;> rfl

section Building

variable {apiRoot : Option String}

/-- The reference of a description, directly or as a member of the root. -/
theorem role_built (rooted : ∀ root ∈ apiRoot, plan.root = some { root })
    (named : plan.model.resolve? spec.qualifier spec.source =
      some (.collection spec.source entity)) :
    ∃ target, plan.role ((spec.reference (.collection spec.source entity) apiRoot).run supply).1 =
        .reference target target.logicalType ∧
      ((spec.reference (.collection spec.source entity) apiRoot).run supply).1.type =
        .queryable (.entity entity) ∧
      target.name = spec.source ∧ target.element = .collection spec.source entity := by
  have direct (stamp : Stamp) (args : List Expr)
      (typed : stamp.type = .queryable (.entity entity)) :
      plan.role (.source stamp spec.qualifier spec.source args) = .reference
        ⟨spec.qualifier, spec.source, args, .collection spec.source entity⟩
        (.queryable (.entity entity)) := by
    unfold Plan.role
    simp only [named, typed]
  unfold QuerySpec.reference
  cases apiRoot with
  | none => exact ⟨_, direct _ _ rfl, rfl, rfl, rfl⟩
  | some root =>
    dsimp only
    split
    · exact ⟨_, direct _ _ rfl, rfl, rfl, rfl⟩
    · next unqualified =>
      have unqualified : spec.qualifier = none := by
        simpa [Element.isFunction] using unqualified
      rw [unqualified] at named
      refine ⟨⟨none, spec.source, [], .collection spec.source entity⟩, ?_, rfl, rfl, rfl⟩
      have accessed (member parameter : Stamp) (typed : member.type = .queryable (.entity entity)) :
          plan.role (.member member (.parameter parameter root) spec.source) =
            .reference ⟨none, spec.source, [], .collection spec.source entity⟩
              (.queryable (.entity entity)) := by
        unfold Plan.role
        rw [rooted root rfl]
        simp only [Option.bind_some, RootMember.accessed?, if_true, Plan.accessRole, named,
          Expr.type, Expr.stamp, typed]
        rw [if_neg (by simp [Element.isFunction])]
        exact if_pos (QueryType.accepts_refl _)
      exact accessed _ _ rfl

variable (rooted : ∀ root ∈ apiRoot, plan.root = some { root })
  (named : plan.model.resolve? spec.qualifier spec.source = some (.collection spec.source entity))
  (sources : ∀ target : DataReference, target.name = spec.source →
    target.element = .collection spec.source entity →
      ∃ tree, plan.sourced? target target.logicalType = some tree ∧
        tree.type = target.logicalType ∧ value? plan.store tree [] = some (.array visible))

include rooted named sources

theorem reference_yields :
    Yields plan spec.source ((spec.reference (.collection spec.source entity) apiRoot).run supply).1
      (.entity entity) visible visible := by
  obtain ⟨target, role, typed, name, element⟩ := role_built rooted named
  obtain ⟨tree, sourced, typed', found⟩ := sources target name element
  have many : target.logicalType = .queryable (.entity entity) := by
    unfold DataReference.logicalType
    rw [element]
    rfl
  refine ⟨typed, ⟨tree, ?_, typed'.trans many, found, ?_⟩, ?_, ?_⟩
  · rw [resolve?_reference rfl role, sourced]
  · rw [Expr.stripPaging_of_not_paging (isPaging_sourced sourced), found]
  · rw [reached_reference role]
    intro entry listed
    cases List.mem_singleton.mp listed
    exact ⟨name, entity, element⟩
  · rw [collected_reference rfl role, Binding.owner?, element]
    rfl

/-- Every query that a description is turned into has the answer of the description. -/
theorem toExpr_ends (apart : ∀ access, plan.root = some access → access.root ≠ rowParameter)
    (objects : ∀ row ∈ visible, isObject row = true) :
    Ends (spec.toExpr plan.model apiRoot) (fun query _ => Means plan spec entity visible query)
      (fun _ _ => True) supply := by
  unfold QuerySpec.toExpr
  dsimp only
  split
  · trivial
  · rw [named]
    dsimp only
    rw [ends_bind, ends_liftM]
    have yields : Yields plan spec.source
        ((spec.reference (.collection spec.source entity) apiRoot).run supply).1 (.entity entity)
        visible visible := reference_yields rooted named sources
    generalize (spec.reference (.collection spec.source entity) apiRoot).run supply = built
      at yields
    rw [if_neg (by simp [Element.isMany]), ends_bind]
    refine (filtered_ends apart plan.model yields objects spec.filter).mono ?_
      (fun _ _ fails => fails)
    intro query filtered yields
    have objects : ∀ row ∈ visible.filter fun row => spec.filter.all (·.holds row),
        isObject row = true := fun row listed => objects row (List.mem_filter.mp listed).1
    rw [ends_bind]
    refine (ordered_ends apart plan.model yields objects spec.order).mono ?_
      (fun _ _ fails => fails)
    intro query sorted yields
    rw [ends_bind]
    refine (projected_ends apart plan.model yields rfl
      (fun row listed => objects row (List.mem_mergeSort.mp listed)) spec.select).mono ?_
      (fun _ _ fails => fails)
    rintro query projected ⟨element, many, yields⟩
    have yields : Yields plan spec.source query element (spec.selected visible)
      (spec.selected visible) := yields
    rw [ends_bind]
    refine (paged_ends yields spec.skip List.drop (fun _ _ => ?_) rfl).mono ?_
      (fun _ _ fails => fails)
    · simp only [operate?, Option.bind_some, pageCount_ofUInt64]
      rfl
    intro query skipped yields
    rw [ends_bind]
    refine (paged_ends yields spec.take List.take (fun _ _ => ?_) rfl).mono ?_
      (fun _ _ fails => fails)
    · simp only [operate?, Option.bind_some, pageCount_ofUInt64]
      rfl
    intro query taken yields
    rw [← page_eq] at yields
    cases ends : spec.terminal? with
    | none => exact yields.means ends
    | some method =>
      dsimp only
      rw [ends_liftM]
      exact yields.ended ends many rfl

end Building

section Execution

variable {config : EngineConfig} {model : Model} {context : RequestContext} {store : Store}
  {rows : List Value}

section Rows

variable {security : RowSecurity} {target : DataReference}
  (collection : target.element = .collection target.name entity)

include collection

theorem isCollection_of_collection : target.logicalType.isCollection = true := by
  unfold DataReference.logicalType
  rw [collection]
  rfl

theorem owner_of_collection :
    ((Binding.reference target).owner? model).getD target.name = target.name := by
  rw [Binding.owner?, collection]
  rfl

/-- A stored collection is sourced as a fragment of the store. -/
theorem fragment?_of_stored (stored : plan.store.rows? target.name = some rows) :
    plan.fragment? target target.logicalType =
      some (.native (.anonymous target.logicalType) plan.store.proxy target.name) := by
  unfold Plan.fragment?
  refine if_pos ⟨QueryType.accepts_refl _, by rw [collection]; rfl, ?_⟩
  exact (congrArg Option.isSome stored).trans rfl

/-- The fragment of a stored collection has all of its rows. -/
theorem value?_of_stored (stored : store.rows? target.name = some rows) :
    value? store (.native (.anonymous target.logicalType) store.proxy target.name) [] =
      some (.array rows) := by
  rw [value?_own, stored, Option.map_some]
  exact congrArg some (if_pos (isCollection_of_collection collection))

/-- Rows that nothing guards from a caller are left alone. -/
theorem rule_of_unguarded
    (unguarded : (security.isProtected target.name && !context.auth.isService) = false) :
    security.rule model context target target.logicalType = .leave := by
  unfold RowSecurity.rule
  rw [owner_of_collection collection, isCollection_of_collection collection, Bool.and_true,
    RequestContext.bypassesRowSecurity]
  cases service : context.auth.isService <;> simp_all

/-- Of rows that are guarded a user gets their own. -/
theorem rule_of_guarded
    (guarded : (security.isProtected target.name && !context.auth.isService) = true)
    (declared : (model.propertyType? entity security.ownerField).isSome = true)
    (identified : context.auth.caller ≠ .anonymous) :
    ∃ field user, context.auth.user? = some user ∧
      security.rule model context target target.logicalType =
        .wrap (security.selector entity field user) := by
  obtain ⟨covered, bound⟩ := Bool.and_eq_true_iff.mp guarded
  rw [Bool.not_eq_true'] at bound
  obtain ⟨user, known⟩ : ∃ user, context.auth.user? = some user := by
    unfold Auth.user? Auth.isService at *
    cases caller : context.auth.caller <;> simp_all
  obtain ⟨field, typed⟩ := Option.isSome_iff_exists.mp declared
  refine ⟨field, user, known, ?_⟩
  unfold RowSecurity.rule
  rw [RequestContext.bypassesRowSecurity, bound, owner_of_collection collection, covered,
    isCollection_of_collection collection, known, collection]
  simp [Element.entity, typed]

/-- What becomes of a reference to a collection of objects has the rows that the caller may see. -/
theorem sourced_visible (apart : config.apiRoot ≠ rowParameter)
    (stored : store.rows? target.name = some rows) (objects : ∀ row ∈ rows, isObject row = true)
    (declared : ∀ security ∈ config.rowSecurityFilter?, security.isProtected target.name = true →
      (model.propertyType? entity security.ownerField).isSome = true)
    (identified : context.auth.caller ≠ .anonymous) :
    ∃ tree, (config.plan model context store).sourced? target target.logicalType = some tree ∧
      tree.type = target.logicalType ∧
      value? store tree [] = some (.array (config.visible context.auth target.name rows)) := by
  have all := value?_of_stored collection stored
  have fragment : (config.plan model context store).fragment? target target.logicalType =
      some (.native (.anonymous target.logicalType) store.proxy target.name) :=
    fragment?_of_stored collection stored
  unfold Plan.sourced?
  rw [fragment, Option.bind_some]
  cases secured : config.rowSecurityFilter? with
  | none =>
    have free : (config.plan model context store).rules = [] := by
      simp [EngineConfig.plan, secured]
    have visible : config.visible context.auth target.name rows = rows := by
      simp only [EngineConfig.visible, secured]
    rw [free, visible]
    exact ⟨_, rfl, rfl, all⟩
  | some security =>
    have ruled : (config.plan model context store).rules = [security.rule model context] := by
      simp [EngineConfig.plan, secured]
    have visible : config.visible context.auth target.name rows =
        if security.isProtected target.name && !context.auth.isService then
          rows.filter (security.owns context.auth) else rows := by
      simp only [EngineConfig.visible, secured]
    rw [ruled, visible]
    cases guarded : security.isProtected target.name && !context.auth.isService with
    | false =>
      rw [wrapped?_leave (rule_of_unguarded collection guarded)]
      exact ⟨_, rfl, rfl, all⟩
    | true =>
      have declared := declared security secured (Bool.and_eq_true_iff.mp guarded).1
      obtain ⟨field, user, known, wraps⟩ := rule_of_guarded collection guarded declared identified
      have selects : (config.plan model context store).selected?
          (security.selector entity field user) = some (security.selector entity field user) := by
        refine RowSecurity.selected?_plain (role_row ?_ _ _ _) user
        rintro access ⟨⟩
        exact apart
      rw [wrapped?_wrap wraps, selects]
      exact ⟨_, rfl, rfl, RowSecurity.value?_owned known stored objects
        (isCollection_of_collection collection) _⟩

end Rows

/-- A description has no answer only where the first one of values that are to be navigated to is no
array. -/
theorem answer?_eq_none {visible : List Value}
    (unanswered : spec.answer? model entity visible = none) :
    spec.first = true ∧ spec.selectsMany model entity = true ∧
      items? ((spec.page (spec.selected visible)).headD .null) = none := by
  unfold QuerySpec.answer? at unanswered
  dsimp only at unanswered
  split at unanswered
  · contradiction
  · split at unanswered
    · next first =>
      split at unanswered
      · next several => exact ⟨first, several, Option.map_eq_none_iff.mp unanswered⟩
      · contradiction
    · split at unanswered <;> contradiction

theorem isObject_visible (config : EngineConfig) (auth : Auth) (name : String)
    (objects : ∀ row ∈ rows, isObject row = true) :
    ∀ row ∈ config.visible auth name rows, isObject row = true := by
  intro row listed
  unfold EngineConfig.visible at listed
  split at listed
  · exact objects row listed
  · split at listed
    · exact objects row (List.mem_filter.mp listed).1
    · exact objects row listed

/-- The request of a description carries a query with the answer of the description. -/
theorem toRequest_ends {apiRoot : Option String} (apart : config.apiRoot ≠ rowParameter)
    (rooted : ∀ root ∈ apiRoot, root = config.apiRoot)
    (named : model.resolve? spec.qualifier spec.source = some (.collection spec.source entity))
    (stored : store.rows? spec.source = some rows) (objects : ∀ row ∈ rows, isObject row = true)
    (declared : ∀ security ∈ config.rowSecurityFilter?, security.isProtected spec.source = true →
      (model.propertyType? entity security.ownerField).isSome = true)
    (identified : context.auth.caller ≠ .anonymous) :
    Ends (spec.toRequest model context apiRoot)
      (fun request _ => ∃ query, request = { query, context, options := spec.options } ∧
        Means (config.plan model context store) spec entity
          (config.visible context.auth spec.source rows) query)
      (fun _ _ => True) supply := by
  have unrooted : ∀ access, (config.plan model context store).root = some access →
      access.root ≠ rowParameter := by
    rintro access ⟨⟩
    exact apart
  have addressed : ∀ root ∈ apiRoot, (config.plan model context store).root = some { root } := by
    rintro root member
    rw [rooted root member]
    rfl
  unfold QuerySpec.toRequest
  rw [ends_bind]
  refine (toExpr_ends addressed named (fun target name collection => ?_) unrooted
    (isObject_visible config context.auth spec.source objects)).mono ?_ (fun _ _ fails => fails)
  · rw [← name] at stored declared collection ⊢
    exact sourced_visible collection apart stored objects declared identified
  · intro query _ means
    exact ⟨query, rfl, means⟩

/-- A description that is turned into a request means what it says. Over a store of objects, for a
caller who is known and may read the source, the pipeline gives the answer over the visible rows, if
there is one, unless the query is too deep. -/
theorem execute_answers {apiRoot : Option String} {request : QueryRequest} {after : NodeSupply}
    (metrics : Telemetry.Metrics) {ambient : Ambient} (apart : config.apiRoot ≠ rowParameter)
    (rooted : ∀ root ∈ apiRoot, root = config.apiRoot)
    (named : model.resolve? spec.qualifier spec.source = some (.collection spec.source entity))
    (stored : store.rows? spec.source = some rows) (objects : ∀ row ∈ rows, isObject row = true)
    (declared : ∀ security ∈ config.rowSecurityFilter?, security.isProtected spec.source = true →
      (model.propertyType? entity security.ownerField).isSome = true)
    (identified : context.auth.caller ≠ .anonymous)
    (permitted :
      (config.readAuthorizer.effective spec.source spec.source).permits context.auth = true)
    (active : ambient.cancelled = false)
    (built : (spec.toRequest model context apiRoot).run.run supply = (.ok request, after)) :
    match ((config.pipeline model store).execute request metrics ambient).1 with
    | .ok result =>
      spec.answer? model entity (config.visible context.auth spec.source rows) = some result
    | .error error => error = .rewriting (.depthExceeded config.maxDepth) ∨
      spec.first = true ∧ spec.selectsMany model entity = true ∧
        items? ((spec.page (spec.selected
          (config.visible context.auth spec.source rows))).headD .null) = none := by
  let plan := config.plan model context store
  have uncaptured : ∀ security ∈ config.rowSecurityFilter?,
      security.Uncaptured model (some { root := config.apiRoot }) := by
    intro security _ same
    exact absurd (by simpa using same) apart
  have ends : Ends (spec.toRequest model context apiRoot) _ _ supply :=
    toRequest_ends apart rooted named stored objects declared identified
  obtain ⟨query, rfl, means⟩ := ends.done_of_ok built
  obtain ⟨tree, resolved, answers⟩ := means.answers
  have passes : plan.Passes (config.registry store.sourcer) query := by
    refine EngineConfig.plan_passes fun entry reached => ?_
    obtain ⟨name, entity, collection⟩ := means.reached entry reached
    rw [Binding.owner?, collection, name]
    exact permitted
  have ends := config.execute_ends model store ⟨query, context, spec.options⟩ metrics ambient
  revert ends
  generalize ((config.pipeline model store).execute ⟨query, context, spec.options⟩
    metrics ambient).1 = outcome
  cases outcome with
  | ok result =>
    rintro ⟨-, tree', collection, answer, walks, answered, rfl⟩
    obtain ⟨resolved', rfl⟩ := EngineConfig.walks_resolve uncaptured walks
    have same : tree = tree'.erased := Option.some.inj (resolved.symm.trans resolved')
    have collected : plan.collected [] query none = some spec.source := means.collected
    subst same
    have answered : plan.store.answer? tree' spec.options = some answer := answered
    rw [Store.answer?_erased, answered, Option.map_some] at answers
    exact answers.symm.trans (by rw [← collected])
  | error error =>
    intro fails
    rcases fails active with
      ⟨failure, collection, walks, rfl⟩ | ⟨tree', collection, walks, unanswered⟩
    · have deep := EngineConfig.walks_resolve uncaptured walks
        (by rw [show plan.resolve? [] query = some tree from resolved]; rfl) passes
      exact .inl (congrArg _ deep)
    · have unanswered : plan.store.answer? tree' spec.options = none := unanswered
      obtain ⟨resolved', -⟩ := EngineConfig.walks_resolve uncaptured walks
      have same : tree = tree'.erased := Option.some.inj (resolved.symm.trans resolved')
      subst same
      rw [Store.answer?_erased, unanswered] at answers
      exact .inr (answer?_eq_none answers.symm)

/-- A user gets a page of their own customers, and how many there are. -/
theorem own_customers_answered :
    let model : Model := {
      space := "shop"
      entityTypes := [("Customer", { name := "Customer", fields := [
        ("level", ⟨.int, true⟩), ("name", ⟨.string, true⟩), ("owner_id", ⟨.string, true⟩)] })]
      elements := [("Customers", .collection "Customers" "Customer")] }
    let config : EngineConfig := { rowSecurity := some { collections := ["Customers"] } }
    let context : RequestContext := .ofCaller (.user ⟨7⟩)
    let row (owner : Uuid) (name : String) (level : UInt64) : Value := .object
      [("level", .ofUInt64 level), ("name", .string name), ("owner_id", .string owner.text)]
    let rows := [row ⟨7⟩ "b" 2, row ⟨8⟩ "a" 2, row ⟨7⟩ "d" 3, row ⟨7⟩ "c" 1, row ⟨7⟩ "a" 2]
    let store : Store := Store.insert {} "Customers" rows
    let spec : QuerySpec := {
      source := "Customers"
      filter := [⟨"level", .lte, .ofUInt64 2⟩]
      select := some "name"
      take := some 2
      totalCount := true }
    let built := ((spec.toRequest model context (some config.apiRoot)).run.run {}).1
    let page : QueryResult := {
      shape := .sequence
      results := [.string "b", .string "c"]
      totalCount := some 3
      collection := some "Customers" }
    ∃ request, built = .ok request ∧
      ((config.pipeline model store).execute request {} {}).1 = .ok page ∧
        spec.answer? model "Customer" (config.visible context.auth "Customers" rows) =
          some page := by
  intro model config context row rows store spec built page
  have evaluated : (built.toOption.bind fun request =>
      ((config.pipeline model store).execute request {} {}).1.toOption) = some page := by
    decide +kernel
  obtain ⟨request, requested, executed⟩ := Option.bind_eq_some_iff.mp evaluated
  have requested : built = .ok request := eq_ok_of_toOption requested
  have executed : ((config.pipeline model store).execute request {} {}).1 = .ok page :=
    eq_ok_of_toOption executed
  have named : model.resolve? spec.qualifier spec.source =
      some (.collection spec.source "Customer") := rfl
  have stored : store.rows? spec.source = some rows := rfl
  have ran : (spec.toRequest model context (some config.apiRoot)).run.run {} =
      (.ok request, _) := Prod.ext requested rfl
  have active : ({} : Ambient).cancelled = false := rfl
  have apart : config.apiRoot ≠ rowParameter := by decide
  have answers := execute_answers {} apart (by simp) named stored (by decide) (by decide)
    (by decide) (by decide) active ran
  rw [executed] at answers
  exact ⟨request, requested, executed, answers⟩

/-- The first one of selected navigations to many entities is a sequence as well, and `null` is
none. -/
theorem absent_orders_unanswered :
    let model : Model := {
      space := "shop"
      entityTypes := [
        ("Customer", { name := "Customer", fields := [("Orders", ⟨.collection "Order", false⟩)] }),
        ("Order", { name := "Order", fields := [] })]
      elements := [("Customers", .collection "Customers" "Customer")] }
    let config : EngineConfig := {}
    let store : Store := Store.insert {} "Customers" [.object []]
    let spec : QuerySpec := { source := "Customers", select := some "Orders", first := true }
    let built := ((spec.toRequest model (.ofCaller .service) (some config.apiRoot)).run.run {}).1
    ∃ request, built = .ok request ∧
      ((config.pipeline model store).execute request {} {}).1 =
        .error (.execution (.sequenceProduced .null)) := by
  intro model config store spec built
  have evaluated : (built.toOption.map fun request =>
      ((config.pipeline model store).execute request {} {}).1) =
        some (.error (.execution (.sequenceProduced .null))) := by
    decide +kernel
  obtain ⟨request, requested, executed⟩ := Option.map_eq_some_iff.mp evaluated
  exact ⟨request, eq_ok_of_toOption requested, executed⟩

end Execution

end QueryRewriting.QuerySpec
