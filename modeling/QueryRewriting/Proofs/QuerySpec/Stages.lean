import QueryRewriting.Proofs.QuerySpec.Answer

/-! The stages of building a query tree from a description. Each of them does to the rows what it is
there for, and keeps to one source. -/
namespace QueryRewriting.QuerySpec

open Json Schema Evaluation Access Rewriting Rewriting.Plan

/-- A tree over the row that has a value for every row and refers to nothing. -/
structure Reads (plan : Plan) (e : Expr) (read : Value → Value) : Prop where
  resolves : ∃ tree, plan.resolve? [] e = some tree ∧ ∀ members,
    value? plan.store tree [(rowParameter, .object members)] = some (read (.object members))
  unreached : plan.reached e = []

/-- A query for rows: what it is resolved to has some rows, and some if no page is taken of them.
All references of the query are to the collection of a name. -/
structure Yields (plan : Plan) (name : String) (query : Expr) (element : QueryType)
    (rows all : List Value) : Prop where
  typed : query.type = .queryable element
  resolves : ∃ tree, plan.resolve? [] query = some tree ∧ tree.type = .queryable element ∧
    value? plan.store tree [] = some (.array rows) ∧
    value? plan.store tree.stripPaging [] = some (.array all)
  reached : ∀ entry ∈ plan.reached query, entry.1.name = name ∧
    ∃ entity, entry.1.element = .collection name entity
  collected : plan.collected [] query none = some name

variable {plan : Plan} {supply : NodeSupply}

/-- A constant is the same for all rows. -/
theorem reads_value (stamp : Stamp) (content : Value) :
    Reads plan (.value stamp content) fun _ => content where
  resolves := ⟨.value (.anonymous stamp.type) content, resolving_leaf (role_value _ _) rfl,
    fun _ => rfl⟩
  unreached := by
    rw [reached_plain (role_value _ _)]
    rfl

/-- A binary operation combines what its sides read. -/
theorem Reads.binary {left right : Expr} {first second combined : Value → Value} {op : BinaryOp}
    (reads : Reads plan left first) (others : Reads plan right second) (stamp : Stamp)
    (combines : ∀ row, combine? op (first row) (some (second row)) = some (combined row)) :
    Reads plan (.binary stamp op left right) combined where
  resolves := by
    obtain ⟨tree, resolved, values⟩ := reads.resolves
    obtain ⟨tree', resolved', values'⟩ := others.resolves
    refine ⟨.binary (.anonymous stamp.type) op tree tree', ?_, fun members => ?_⟩
    · rw [resolve?] at resolved resolved' ⊢
      rw [resolving_binary, resolved, resolved']
      rfl
    · rw [value?_binary, values, values', Option.bind_some, combines]
  unreached := by
    rw [reached_plain (role_binary _ _ _ _)]
    simp [Expr.children, reads.unreached, others.unreached]

section Tests

variable (apart : ∀ access, plan.root = some access → access.root ≠ rowParameter)

include apart

/-- A field of the row is no access to the root. -/
theorem role_row (member row : Stamp) (name : String) :
    plan.role (.member member (.parameter row rowParameter) name) = .plain := by
  refine role_plain rfl fun access root => ?_
  simp only [RootMember.accessed?]
  rw [if_neg fun same => apart access root same.symm]

/-- A field of the row reads the field. -/
theorem reads_field (member row : Stamp) (name : String) :
    Reads plan (.member member (.parameter row rowParameter) name) (fieldOf name) where
  resolves := by
    refine ⟨.member (.anonymous member.type) (.parameter (.anonymous row.type) rowParameter) name,
      ?_, fun members => ?_⟩
    · rw [resolve?, resolving_member rfl (role_row apart member row name),
        resolving_leaf (role_parameter _ _) rfl]
      rfl
    · rw [value?_member, value?_parameter, List.lookup_cons_self]
      rfl
  unreached := by
    rw [reached_plain (role_row apart member row name), Expr.children, List.flatMap_singleton,
      reached_plain (role_parameter _ _)]
    rfl

theorem field_ends (model : Model) (entity name : String) :
    Ends (QuerySpec.field model entity name)
      (fun access _ => Reads plan access (fieldOf name) ∧
        model.propertyType? entity name = some access.type)
      (fun _ _ => True) supply := by
  have entered : (Fresh.parameter rowParameter (.entity entity)).run supply =
      (.parameter ⟨supply.next, .entity entity⟩ rowParameter, ⟨supply.next + 1⟩) := rfl
  unfold QuerySpec.field
  rw [ends_bind, ends_liftM, entered]
  unfold Model.propertyExpr
  simp only [Expr.type, Expr.stamp, QueryType.entityName?]
  cases model.propertyType? entity name with
  | none => trivial
  | some type => exact ⟨reads_field apart _ _ _, rfl⟩

/-- The test of a predicate. -/
theorem test_ends (model : Model) (entity : String) (predicate : Predicate) :
    Ends (QuerySpec.test model entity predicate)
      (fun test _ => Reads plan test fun row => .bool (predicate.holds row))
      (fun _ _ => True) supply := by
  unfold QuerySpec.test
  rw [ends_bind]
  refine (field_ends apart model entity predicate.field).mono ?_ (fun _ _ fails => fails)
  rintro access middle ⟨reads, -⟩
  rw [ends_bind, ends_liftM]
  refine reads.binary (reads_value _ predicate.value) _ fun row => ?_
  unfold Predicate.holds
  cases predicate.comparison <;> rfl

/-- Further predicates are conjoined to a test. -/
theorem conjunction_ends (model : Model) (entity : String) (predicates : List Predicate)
    {body : Expr} {holds : Value → Bool} (reads : Reads plan body fun row => .bool (holds row)) :
    Ends (QuerySpec.conjunction model entity body predicates)
      (fun body _ => Reads plan body fun row =>
        .bool (holds row && predicates.all (·.holds row)))
      (fun _ _ => True) supply := by
  induction predicates generalizing body holds supply with
  | nil =>
    simp only [List.all_nil, Bool.and_true]
    exact reads
  | cons predicate rest ih =>
    unfold QuerySpec.conjunction
    rw [ends_bind]
    refine (test_ends apart model entity predicate).mono ?_ (fun _ _ fails => fails)
    intro test middle tests
    rw [ends_bind, ends_liftM]
    have combines (row : Value) : combine? .and (.bool (holds row))
        (some (.bool (predicate.holds row))) = some (.bool (holds row && predicate.holds row)) := by
      cases holds row <;> simp [combine?]
    have both : Reads plan _ fun row => .bool (holds row && predicate.holds row) :=
      reads.binary tests ⟨middle.next, .bool⟩ combines
    simp only [List.all_cons, ← Bool.and_assoc]
    exact ih both

end Tests

/-- An argument of an operator call adds nothing to where rows come from. -/
theorem collected_call {stamp : Stamp} {method : Method} {query argument : Expr}
    (silent : ∀ before, plan.collected [] argument before = before) :
    plan.collected [] (.call stamp method [query, argument]) none =
      plan.collected [] query none := by
  rw [collected_plain rfl (role_call _ _ _), ownerOf?_call, if_neg (by simp [Expr.isLambda])]
  simp [Expr.children, silent]

/-- An operator with a lambda over the rows. -/
theorem Yields.applied {name : String} {query body : Expr} {element element' : QueryType}
    {rows all rows' : List Value} {read : Value → Value} {method : Method}
    (yields : Yields plan name query element rows all) (reads : Reads plan body read)
    (objects : ∀ row ∈ rows, isObject row = true) (proper : method.isPaging = false)
    (lambda : Stamp) {stamp : Stamp} (typed : stamp.type = .queryable element')
    (operates : ∀ argument, operate? method rows argument (some (rows.map read)) =
      some (.array rows')) :
    Yields plan name (.call stamp method [query, .lambda lambda rowParameter body]) element'
      rows' rows' where
  typed
  resolves := by
    obtain ⟨tree, resolved, -, found, -⟩ := yields.resolves
    obtain ⟨body', resolved', values⟩ := reads.resolves
    have images : rows.mapM (fun row => image? plan.store
        (.lambda (.anonymous lambda.type) rowParameter body') row []) = some (rows.map read) := by
      rw [mapM_eq_some_iff, List.forall₂_map_right_iff, List.forall₂_same]
      intro row listed
      cases row with
      | object members => rw [image?_lambda, values]
      | _ => exact absurd (objects _ listed) (by simp [isObject])
    have valued : value? plan.store (.call (.anonymous stamp.type) method
        [tree, .lambda (.anonymous lambda.type) rowParameter body']) [] = some (.array rows') := by
      rw [value?_call, found, Option.bind_some, items?, Option.bind_some]
      simp only [List.head?_cons, Option.bind_some, images, operates]
    refine ⟨_, ?_, ?_, valued, ?_⟩
    · rw [resolve?] at resolved resolved' ⊢
      simp only [resolving_call, List.mapM_cons, List.mapM_nil, resolving_lambda,
        resolved, resolved']
      rfl
    · exact typed
    · rw [Expr.stripPaging_of_not_paging (by simpa [Expr.isPaging] using proper)]
      exact valued
  reached := by
    rw [reached_plain (role_call _ _ _)]
    simp only [Expr.children, List.flatMap_cons, List.flatMap_nil,
      reached_plain (role_lambda _ _ _), reads.unreached, List.append_nil]
    exact yields.reached
  collected := by
    rw [collected_call fun before => ?_]
    · exact yields.collected
    · rw [collected_plain rfl (role_lambda _ _ _)]
      rfl

/-- An operator that takes a page of the rows. -/
theorem Yields.page {name : String} {query : Expr} {element : QueryType}
    {rows all rows' : List Value} {method : Method} {bound : UInt64}
    (yields : Yields plan name query element rows all) (paging : method.isPaging = true)
    (count : Stamp) {stamp : Stamp} (typed : stamp.type = .queryable element)
    (operates : ∀ images, operate? method rows (some (.ofUInt64 bound)) images =
      some (.array rows')) :
    Yields plan name (.call stamp method [query, .value count (.ofUInt64 bound)]) element
      rows' all where
  typed
  resolves := by
    obtain ⟨tree, resolved, -, found, stripped⟩ := yields.resolves
    refine ⟨.call (.anonymous stamp.type) method
      [tree, .value (.anonymous count.type) (.ofUInt64 bound)], ?_, typed, ?_, ?_⟩
    · rw [resolve?] at resolved ⊢
      simp only [resolving_call, List.mapM_cons, List.mapM_nil, resolved,
        resolving_leaf (role_value _ _) rfl]
      rfl
    · rw [value?_call, found, Option.bind_some, items?, Option.bind_some]
      simp only [List.head?_cons, Option.bind_some, value?_value, operates]
    · rw [Expr.stripPaging_call paging]
      exact stripped
  reached := by
    rw [reached_plain (role_call _ _ _)]
    simp only [Expr.children, List.flatMap_cons, List.flatMap_nil, reached_plain (role_value _ _),
      List.append_nil]
    exact yields.reached
  collected := by
    rw [collected_call fun before => ?_]
    · exact yields.collected
    · rw [collected_plain rfl (role_value _ _)]
      rfl

section Stages

variable (apart : ∀ access, plan.root = some access → access.root ≠ rowParameter) (model : Model)
  {name entity : String} {query : Expr} {element : QueryType} {rows all : List Value}

include apart

theorem filtered_ends (yields : Yields plan name query element rows rows)
    (objects : ∀ row ∈ rows, isObject row = true) (predicates : List Predicate) :
    Ends (QuerySpec.filtered model entity query predicates)
      (fun query _ => let kept := rows.filter fun row => predicates.all (·.holds row)
        Yields plan name query element kept kept)
      (fun _ _ => True) supply := by
  cases predicates with
  | nil =>
    simp only [List.all_nil, List.filter_true]
    exact yields
  | cons predicate rest =>
    unfold QuerySpec.filtered
    rw [ends_bind]
    refine (test_ends apart model entity predicate).mono ?_ (fun _ _ fails => fails)
    intro test tested tests
    rw [ends_bind]
    refine (conjunction_ends apart model entity rest tests).mono ?_ (fun _ _ fails => fails)
    intro body conjoined reads
    rw [ends_bind, ends_liftM, ends_liftM]
    refine yields.applied reads objects rfl _ yields.typed fun _ => ?_
    simp only [operate?, Option.map_some, kept_map, isTrue_bool, List.all_cons]

theorem selector_ends (entity name : String) :
    Ends (QuerySpec.selector model entity name)
      (fun lambda _ => ∃ stamp body, lambda = .lambda stamp rowParameter body ∧
        Reads plan body (fieldOf name) ∧ model.propertyType? entity name = some stamp.type)
      (fun _ _ => True) supply := by
  unfold QuerySpec.selector
  rw [ends_bind]
  refine (field_ends apart model entity name).mono ?_ (fun _ _ fails => fails)
  rintro body built ⟨reads, declared⟩
  rw [ends_liftM]
  exact ⟨_, body, rfl, reads, declared⟩

/-- Sorting by some keys, one after the other. -/
theorem sorted_ends (yields : Yields plan name query element rows rows)
    (objects : ∀ row ∈ rows, isObject row = true) (keys : List OrderKey) :
    Ends (keys.foldlM (fun query key => do
        let lambda ← selector model entity key.field
        liftM (Fresh.call (if key.descending then .orderByDescending else .orderBy)
          [query, lambda]))
        query)
      (fun query _ => let sorted := keys.foldl (fun rows key => stableSort key.compare rows) rows
        Yields plan name query element sorted sorted)
      (fun _ _ => True) supply := by
  induction keys generalizing query rows supply with
  | nil => exact yields
  | cons key rest ih =>
    rw [List.foldlM_cons, ends_bind, ends_bind]
    refine (selector_ends apart model entity key.field).mono ?_ (fun _ _ fails => fails)
    rintro _ selected ⟨lambda, body, rfl, reads, -⟩
    rw [ends_liftM]
    refine ih ?_ fun row listed => objects row (List.mem_mergeSort.mp listed)
    have compares : key.compare = fun a b =>
        if key.descending then (compareValues (fieldOf key.field a) (fieldOf key.field b)).swap
        else compareValues (fieldOf key.field a) (fieldOf key.field b) := rfl
    cases descending : key.descending <;>
    · refine yields.applied reads objects rfl _ yields.typed fun _ => ?_
      simp only [operate?, Option.map_some, sortedBy_map, compares, descending]
      rfl

theorem ordered_ends (yields : Yields plan name query element rows rows)
    (objects : ∀ row ∈ rows, isObject row = true) (keys : List OrderKey) :
    Ends (QuerySpec.ordered model entity query keys)
      (fun query _ => let sorted := stableSort (OrderKey.compareAll keys) rows
        Yields plan name query element sorted sorted)
      (fun _ _ => True) supply := by
  rw [← foldl_stableSort]
  exact sorted_ends apart model yields objects keys.reverse

theorem projected_ends (yields : Yields plan name query element rows rows)
    (plain : element.isCollection = false) (objects : ∀ row ∈ rows, isObject row = true)
    (property : Option String) :
    Ends (QuerySpec.projected model entity query property)
      (fun query _ => ∃ element',
        element'.isCollection = (property.any fun name =>
          (model.propertyType? entity name).any QueryType.isCollection) ∧
        let projected := match property with
          | none => rows
          | some name => rows.map (fieldOf name)
        Yields plan name query element' projected projected)
      (fun _ _ => True) supply := by
  cases property with
  | none => exact ⟨element, plain, yields⟩
  | some property =>
    unfold QuerySpec.projected
    rw [ends_bind]
    refine (selector_ends apart model entity property).mono ?_ (fun _ _ fails => fails)
    rintro _ selected ⟨lambda, body, rfl, reads, declared⟩
    rw [ends_liftM]
    refine ⟨lambda.type, ?_, ?_⟩
    · rw [Option.any_some, declared, Option.any_some]
    · refine yields.applied reads objects rfl _ ?_ fun _ => rfl
      change Method.resultType .select [query.type, lambda.type] = _
      rw [yields.typed]
      rfl

end Stages

theorem pageCount_ofUInt64 (method : Method) (bound : UInt64) :
    pageCount method (.ofUInt64 bound) = .ok bound.toNat := by
  unfold pageCount Value.ofUInt64
  simp only [toNat?_ofUInt64]

/-- A page operator skips or takes some of the rows. -/
theorem paged_ends {name : String} {query : Expr} {element : QueryType} {rows all : List Value}
    (yields : Yields plan name query element rows all) (bound : Option UInt64) {method : Method}
    (cut : Nat → List Value → List Value)
    (operates : ∀ bound images, operate? method rows (some (.ofUInt64 bound)) images =
      some (.array (cut bound.toNat rows))) (paging : method.isPaging = true) :
    Ends (QuerySpec.paged method query bound)
      (fun query _ => Yields plan name query element
        (bound.elim rows fun bound => cut bound.toNat rows) all)
      (fun _ _ => True) supply := by
  cases bound with
  | none => exact yields
  | some bound =>
    unfold QuerySpec.paged
    rw [ends_liftM]
    refine yields.page paging _ ?_ (operates bound)
    cases method with
    | skip | take => exact yields.typed
    | _ => contradiction

end QueryRewriting.QuerySpec
