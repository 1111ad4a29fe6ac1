import QueryRewriting.Proofs.Access.SourceAddresses
import QueryRewriting.QuerySpec

/-! The two ways of addressing the source of a description. Whether its query is built on a member
of the root parameter or on a reference of its own, the trees are alike, so that requests for them
come to the same. -/
namespace QueryRewriting.QuerySpec

open Json Schema Access

/-- Trees that are alike have been built, of nodes that exist. -/
structure Built (root : String) (model : Model) (allowed : Bool) (before before' : NodeSupply)
    (e e' : Expr) (after after' : NodeSupply) : Prop where
  twin : e.Twin root model allowed e'
  later : before.next ≤ after.next
  later' : before'.next ≤ after'.next
  issued : e.Issued after
  issued' : e'.Issued after'

variable {root : String} {model : Model} {allowed : Bool} {e e' : Expr}
  {start start' supply supply' after after' : NodeSupply}

namespace Built

/-- What was built earlier is there once more has been built. -/
theorem trans (built : Built root model allowed start start' e e' supply supply')
    (later : supply.next ≤ after.next) (later' : supply'.next ≤ after'.next) :
    Built root model allowed start start' e e' after after' where
  twin := built.twin
  later := Nat.le_trans built.later later
  later' := Nat.le_trans built.later' later'
  issued := built.issued.later later
  issued' := built.issued'.later later'

/-- A node may be built next, over children that are there. -/
theorem node (twin : e.Twin root model allowed e') (later : start.next ≤ supply.next)
    (later' : start'.next ≤ supply'.next) (next : e.id = supply.next) (next' : e'.id = supply'.next)
    (below : ∀ child ∈ e.children, child.Issued supply)
    (below' : ∀ child ∈ e'.children, child.Issued supply') :
    Built root model allowed start start' e e' ⟨supply.next + 1⟩ ⟨supply'.next + 1⟩ where
  twin := twin
  later := Nat.le_succ_of_le later
  later' := Nat.le_succ_of_le later'
  issued := .node (next ▸ Nat.lt_succ_self _) fun child member =>
    (below child member).later (Nat.le_succ _)
  issued' := .node (next' ▸ Nat.lt_succ_self _) fun child member =>
    (below' child member).later (Nat.le_succ _)

/-- A call of an operator with an argument may be built over rows that are there. -/
theorem pair (rows : Built root model allowed start start' e e' supply supply')
    {argument argument' : Expr}
    (built : Built root model false supply supply' argument argument' after after')
    (method : Method) (either : method.isPaging = true ∨ argument.isLambda = true) :
    Built root model allowed start start' ((Fresh.call method [e, argument]).run after).1
      ((Fresh.call method [e', argument']).run after').1 ⟨after.next + 1⟩
      ⟨after'.next + 1⟩ := by
  have rows := rows.trans built.later built.later'
  apply node
  · apply Expr.Twin.pair ?_ method rows.twin built.twin either
    change method.resultType [e.type, argument.type] = method.resultType [e'.type, argument'.type]
    rw [rows.twin.type_eq, built.twin.type_eq]
  · exact rows.later
  · exact rows.later'
  · rfl
  · rfl
  · exact List.forall_mem_cons.mpr ⟨rows.issued, List.forall_mem_singleton.mpr built.issued⟩
  · exact List.forall_mem_cons.mpr ⟨rows.issued', List.forall_mem_singleton.mpr built.issued'⟩

/-- A call of an operator without an argument may be built over rows that are there. -/
theorem call (rows : Built root model allowed start start' e e' supply supply') (method : Method) :
    Built root model allowed start start' ((Fresh.call method [e]).run supply).1
      ((Fresh.call method [e']).run supply').1 ⟨supply.next + 1⟩ ⟨supply'.next + 1⟩ := by
  apply node
  · apply Expr.Twin.call ?_ method rows.twin
    change method.resultType [e.type] = method.resultType [e'.type]
    rw [rows.twin.type_eq]
  · exact rows.later
  · exact rows.later'
  · rfl
  · rfl
  · exact List.forall_mem_singleton.mpr rows.issued
  · exact List.forall_mem_singleton.mpr rows.issued'

end Built

section Rows

/-- A parameter for a row is built alike. -/
theorem row_built (type : QueryType) : Built root model allowed supply supply'
    (.parameter ⟨supply.next, type⟩ rowParameter) (.parameter ⟨supply'.next, type⟩ rowParameter)
    ⟨supply.next + 1⟩ ⟨supply'.next + 1⟩ := by
  apply Built.node (.parameter (by rfl) rowParameter) (Nat.le_refl _) (Nat.le_refl _) rfl rfl
  · exact List.forall_mem_nil _
  · exact List.forall_mem_nil _

theorem constant_built (content : Value) : Built root model allowed supply supply'
    ((Fresh.constant content).run supply).1 ((Fresh.constant content).run supply').1
    ⟨supply.next + 1⟩ ⟨supply'.next + 1⟩ := by
  apply Built.node (.value (by rfl) content) (Nat.le_refl _) (Nat.le_refl _) rfl rfl
  · exact List.forall_mem_nil _
  · exact List.forall_mem_nil _

/-- A binary operation may be built over its sides. -/
theorem Built.binary {right right' : Expr}
    (first : Built root model false start start' e e' supply supply')
    (second : Built root model false supply supply' right right' after after') (op : BinaryOp) :
    Built root model allowed start start' ((Fresh.binary op e right).run after).1
      ((Fresh.binary op e' right').run after').1 ⟨after.next + 1⟩ ⟨after'.next + 1⟩ := by
  have first := first.trans second.later second.later'
  apply node (.binary (by rfl) op first.twin second.twin) first.later first.later' rfl rfl
  · exact List.forall_mem_cons.mpr ⟨first.issued, List.forall_mem_singleton.mpr second.issued⟩
  · exact List.forall_mem_cons.mpr ⟨first.issued', List.forall_mem_singleton.mpr second.issued'⟩

theorem Built.lambda (body : Built root model false start start' e e' supply supply') :
    Built root model allowed start start' ((Fresh.lambda rowParameter e).run supply).1
      ((Fresh.lambda rowParameter e').run supply').1 ⟨supply.next + 1⟩ ⟨supply'.next + 1⟩ := by
  have typed : (⟨supply.next, e.type⟩ : Stamp).type = (⟨supply'.next, e'.type⟩ : Stamp).type :=
    body.twin.type_eq
  apply node (.lambda typed rowParameter body.twin) body.later body.later' rfl rfl
  · exact List.forall_mem_singleton.mpr body.issued
  · exact List.forall_mem_singleton.mpr body.issued'

variable (entity : String)

/-- An access to a field of a row is built alike. -/
theorem field_built (name : String) : Lockstep (field model entity name) (field model entity name)
    (Built root model false supply supply') supply supply' := by
  unfold field
  rw [lockstep_liftM_bind]
  set row := ((Fresh.parameter rowParameter (.entity entity)).run supply).1
  set row' := ((Fresh.parameter rowParameter (.entity entity)).run supply').1
  have typed : row.type.entityName? = some entity := rfl
  have typed' : row'.type.entityName? = some entity := rfl
  unfold Model.propertyExpr
  rw [typed, typed']
  dsimp only
  cases model.propertyType? entity name with
  | none => exact lockstep_throw _
  | some type =>
    have rows : Built root model false supply supply' row row' ⟨supply.next + 1⟩
      ⟨supply'.next + 1⟩ := row_built (.entity entity)
    apply Built.node (.member (by rfl) rows.twin name) rows.later rows.later' rfl rfl
    · exact List.forall_mem_singleton.mpr rows.issued
    · exact List.forall_mem_singleton.mpr rows.issued'

theorem selector_built (name : String) :
    Lockstep (selector model entity name) (selector model entity name)
      (fun lambda lambda' after after' =>
        Built root model false supply supply' lambda lambda' after after' ∧ lambda.isLambda = true)
      supply supply' := by
  unfold selector
  apply (field_built entity name).bind
  intro body body' after after' built
  exact ⟨built.lambda, rfl⟩

theorem test_built (predicate : Predicate) :
    Lockstep (test model entity predicate) (test model entity predicate)
      (Built root model false supply supply') supply supply' := by
  unfold test
  apply (field_built entity predicate.field).bind
  intro access access' after after' built
  rw [lockstep_liftM_bind, lockstep_liftM]
  exact built.binary (constant_built predicate.value) _

theorem conjunction_built (predicates : List Predicate)
    (body : Built root model false start start' e e' supply supply') :
    Lockstep (conjunction model entity e predicates) (conjunction model entity e' predicates)
      (Built root model false start start') supply supply' := by
  induction predicates generalizing e e' supply supply' with
  | nil => exact body
  | cons predicate rest ih =>
    unfold conjunction
    apply (test_built entity predicate).bind
    intro next next' after after' built
    rw [lockstep_liftM_bind]
    exact ih (body.binary built .and)

variable (query : Built root model true start start' e e' supply supply')

include query

theorem filtered_built (predicates : List Predicate) :
    Lockstep (filtered model entity e predicates) (filtered model entity e' predicates)
      (Built root model true start start') supply supply' := by
  cases predicates with
  | nil => exact query
  | cons predicate rest =>
    unfold filtered
    apply (test_built entity predicate).bind
    intro first first' tested tested' built
    apply (conjunction_built entity rest built).bind
    intro body body' after after' built
    rw [lockstep_liftM_bind, lockstep_liftM]
    exact query.pair built.lambda .filter (.inr rfl)

theorem sorted_built (keys : List OrderKey) :
    let sorted (query : Expr) (key : OrderKey) : Building Expr := do
      let lambda ← selector model entity key.field
      liftM (Fresh.call (if key.descending then .orderByDescending else .orderBy) [query, lambda])
    Lockstep (keys.foldlM sorted e) (keys.foldlM sorted e') (Built root model true start start')
      supply supply' := by
  intro sorted
  induction keys generalizing e e' supply supply' with
  | nil => exact query
  | cons key rest ih =>
    rw [List.foldlM_cons, List.foldlM_cons]
    have first : Lockstep (sorted e key) (sorted e' key) (Built root model true start start') supply
        supply' := by
      apply (selector_built entity key.field).bind
      rintro lambda lambda' after after' ⟨built, bodied⟩
      rw [lockstep_liftM]
      exact query.pair built _ (.inr bodied)
    apply first.bind
    intro next next' after after' built
    exact ih built

theorem ordered_built (keys : List OrderKey) :
    Lockstep (ordered model entity e keys) (ordered model entity e' keys)
      (Built root model true start start') supply supply' :=
  sorted_built entity query keys.reverse

theorem projected_built (property : Option String) :
    Lockstep (projected model entity e property) (projected model entity e' property)
      (Built root model true start start') supply supply' := by
  cases property with
  | none => exact query
  | some property =>
    unfold projected
    apply (selector_built entity property).bind
    rintro lambda lambda' after after' ⟨built, bodied⟩
    rw [lockstep_liftM]
    exact query.pair built .select (.inr bodied)

omit entity in
theorem paged_built {method : Method} (paging : method.isPaging = true) (bound : Option UInt64) :
    Lockstep (paged method e bound) (paged method e' bound) (Built root model true start start')
      supply supply' := by
  cases bound with
  | none => exact query
  | some bound =>
    unfold paged
    rw [lockstep_liftM]
    exact query.pair (constant_built (.ofUInt64 bound)) method (.inl paging)

end Rows

/-- Constants are built of nodes that exist. -/
theorem constants_issued (values : List Value) (supply : NodeSupply) :
    let built := (values.mapM Fresh.constant).run supply
    supply.next ≤ built.2.next ∧ ∀ arg ∈ built.1, arg.Issued built.2 := by
  induction values generalizing supply with
  | nil => exact ⟨Nat.le_refl _, List.forall_mem_nil _⟩
  | cons value rest ih =>
    obtain ⟨later, issued⟩ := ih ⟨supply.next + 1⟩
    have first : ((Fresh.constant value).run supply).1.Issued ⟨supply.next + 1⟩ :=
      .node (Nat.lt_succ_self _) (List.forall_mem_nil _)
    rw [List.mapM_cons]
    exact ⟨Nat.le_of_succ_le later, List.forall_mem_cons.mpr ⟨first.later later, issued⟩⟩

variable {spec : QuerySpec} {element : Element}

/-- A reference of its own is built of nodes that exist. -/
theorem direct_run (spec : QuerySpec) (element : Element) (supply : NodeSupply) :
    ∃ id args, ((spec.reference element none).run supply).1 =
        .source ⟨id, element.logicalType⟩ spec.qualifier spec.source args ∧
      supply.next ≤ ((spec.reference element none).run supply).2.next ∧
      ((spec.reference element none).run supply).1.Issued
        ((spec.reference element none).run supply).2 := by
  obtain ⟨later, issued⟩ := constants_issued spec.args supply
  refine ⟨_, _, rfl, Nat.le_succ_of_le later, ?_⟩
  apply Expr.Issued.node (Nat.lt_succ_self _)
  intro arg member
  exact (issued arg member).later (Nat.le_succ _)

/-- The two ways of addressing a source are alike. -/
theorem reference_built (found : model.resolve? spec.qualifier spec.source = some element) :
    Built root model true supply supply' ((spec.reference element (some root)).run supply).1
      ((spec.reference element none).run supply').1
      ((spec.reference element (some root)).run supply).2
      ((spec.reference element none).run supply').2 := by
  obtain ⟨id', args', same', later', issued'⟩ := direct_run spec element supply'
  by_cases direct : (element.isFunction || spec.qualifier.isSome) = true
  · have unrooted : spec.reference element (some root) = spec.reference element none :=
      if_pos direct
    rw [unrooted]
    obtain ⟨id, args, same, later, issued⟩ := direct_run spec element supply
    refine ⟨?_, later, later', issued, issued'⟩
    rw [same, same']
    exact .source (by rfl) spec.qualifier spec.source args args'
  · have rooted : spec.reference element (some root) = (do
        let parameter ← Fresh.parameter root .any
        Fresh.member parameter spec.source element.logicalType) := if_neg direct
    obtain ⟨proper, unqualified⟩ : element.isFunction = false ∧ spec.qualifier = none := by
      simpa using direct
    rw [rooted]
    refine ⟨?_, Nat.le_add_right supply.next 2, later', ?_, issued'⟩
    · rw [same']
      rw [unqualified] at found ⊢
      exact .rooted found proper (by rfl) (by rfl)
    · apply Expr.Issued.node (Nat.lt_succ_self _)
      refine List.forall_mem_singleton.mpr (.node ?_ (List.forall_mem_nil _))
      exact Nat.lt_succ_of_lt (Nat.lt_succ_self _)

/-- The queries that are built in the two ways are alike, or cannot be built for the same reason. -/
theorem toExpr_built (spec : QuerySpec) (model : Model) (root : String) :
    Lockstep (spec.toExpr model (some root)) (spec.toExpr model none)
      (Built root model true supply supply') supply supply' := by
  unfold toExpr
  dsimp only
  by_cases several : 1 < spec.terminals
  · simp only [several, if_true]
    rfl
  · simp only [several, if_false]
    cases found : model.resolve? spec.qualifier spec.source with
    | none => exact lockstep_throw _
    | some element =>
      dsimp only
      rw [lockstep_liftM_bind]
      by_cases misfit : (spec.composes && !element.isMany) = true
      · simp only [misfit, if_true]
        rfl
      · simp only [misfit]
        apply (filtered_built element.entity (reference_built found) spec.filter).bind
        intro _ _ _ _ query
        apply (ordered_built element.entity query spec.order).bind
        intro _ _ _ _ query
        apply (projected_built element.entity query spec.select).bind
        intro _ _ _ _ query
        apply (paged_built query rfl spec.skip).bind
        intro _ _ _ _ query
        apply (paged_built query rfl spec.take).bind
        intro _ _ _ _ query
        cases spec.terminal? with
        | none => exact query
        | some method => exact query.call method

end QueryRewriting.QuerySpec

namespace QueryRewriting.EngineConfig

open Json Schema Evaluation

/-- How a description addresses its source makes no difference. Built on a member of the configured
root or on a reference of its own, its query cannot be built for the same reason, or requests for
what is built have the same result or the same error, whatever identities the nodes take. -/
theorem addresses_agree (config : EngineConfig) (model : Model) (store : Store) (spec : QuerySpec)
    (context : RequestContext) (options : ExecutionOptions) (metrics : Telemetry.Metrics)
    (ambient : Ambient) (supply supply' : NodeSupply) :
    let answer (query : Expr) (after : NodeSupply) : Except RequestError QueryResult :=
      ((config.pipeline model store).execute { query, context, options } metrics
        { ambient with supply := after }).1
    Lockstep (spec.toExpr model (some config.apiRoot)) (spec.toExpr model none)
      (fun query query' after after' => answer query after = answer query' after')
      supply supply' := by
  intro answer
  apply (spec.toExpr_built model config.apiRoot).mono
  intro query query' after after' built
  apply config.executes_alike
  · exact built.twin
  · rfl
  · rfl
  · exact built.issued
  · exact built.issued'
  · rfl

/-- A user finds the own customer by either address, and no other one. -/
example :
    let model : Model := {
      space := "shop"
      entityTypes := [("Customer", {
        name := "Customer"
        fields := [("name", ⟨.string, true⟩), ("owner_id", ⟨.string, true⟩)] })]
      elements := [("Customers", .collection "Customers" "Customer")] }
    let config : EngineConfig := { rowSecurity := some { collections := ["Customers"] } }
    let row (owner : Uuid) (name : String) : Value :=
      .object [("name", .string name), ("owner_id", .string owner.text)]
    let store : Store := Store.insert {} "Customers" [row ⟨7⟩ "Ada", row ⟨8⟩ "Ada", row ⟨7⟩ "Ben"]
    let spec : QuerySpec := { source := "Customers", filter := [⟨"name", .eq, .string "Ada"⟩] }
    let answer (root : Option String) :=
      let built := (spec.toRequest model (.ofCaller (.user ⟨7⟩)) root).run.run {}
      built.1.bind fun request =>
        ((config.pipeline model store).execute request {} { supply := built.2 }).1
    answer (some config.apiRoot) = answer none ∧
      (answer none).map QueryResult.results = .ok [row ⟨7⟩ "Ada"] := by
  decide +kernel

end QueryRewriting.EngineConfig
