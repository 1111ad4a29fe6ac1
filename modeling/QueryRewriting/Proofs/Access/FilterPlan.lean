import QueryRewriting.Proofs.Access.Substitution
import QueryRewriting.Proofs.Rewriting.Stacking
import QueryRewriting.Proofs.Template

/-! Collection filters as rules of a plan. A predicate is a function of the row: what it builds for
the rows of a reference is the same tree whenever it is asked, identities aside. So a filter wraps a
reference with one selector, and a list of filters is accepted if each of them is. -/
namespace QueryRewriting.Access.CollectionFilter

open Rewriting Rewriting.Plan Schema Evaluation

/-- The predicates of a filter build by the form of the row: the identities that nodes happen to have
make no difference to the tree. -/
def BuildsByForm (rows : CollectionFilter) : Prop :=
  ∀ name predicate, Entries.find? rows.predicates name = some predicate → ∀ type id id',
    ((predicate (.parameter ⟨id, type⟩ rowParameter)).run ⟨id + 1⟩).1.erased =
      ((predicate (.parameter ⟨id', type⟩ rowParameter)).run ⟨id' + 1⟩).1.erased

/-- What a predicate builds for the rows of a reference, identities aside. -/
def form (predicate : RowPredicate) (target : DataReference) : Expr :=
  ((predicate (.parameter ⟨0, target.logicalType.elementOrSelf⟩ rowParameter)).run ⟨1⟩).1.erased

/-- What a filter does about a reference: it refuses to wrap it with anything but a truth. -/
def rule (rows : CollectionFilter) (model : Model) : RowRule := fun target type =>
  match rows.restriction? model target type with
  | none => .leave
  | some predicate =>
    if (form predicate target).type = .bool then
      .wrap (.lambda (.anonymous .bool) rowParameter (form predicate target))
    else .refuse

/-- The plan of collection filters over a store. -/
def plan (filters : List CollectionFilter) (model : Model) (request : RequestContext)
    (store : Store) : Plan where
  model
  request
  store
  rules := filters.map fun rows => rows.rule model

variable {rows : CollectionFilter} {filters filters' : List CollectionFilter} {model : Model}
  {request : RequestContext} {store : Store} {context : Context} {target : DataReference}
  {type : QueryType} {predicate : RowPredicate}

/-- Predicates that are given as templates all build by the form of the row. -/
theorem BuildsByForm.of_templates
    (each : ∀ entry ∈ rows.predicates, ∃ template site,
      entry.2 = Template.predicate template site) : rows.BuildsByForm := by
  intro name predicate found type id id'
  obtain ⟨template, site, rfl⟩ := each (name, predicate) (Entries.mem_of_find? found)
  have rowed : (Expr.parameter ⟨id, type⟩ rowParameter).erased =
      (Expr.parameter ⟨id', type⟩ rowParameter).erased := rfl
  exact template.predicate_alike site rowed ⟨id + 1⟩ ⟨id' + 1⟩

theorem BuildsByForm.eq_form (byForm : rows.BuildsByForm)
    (concerned : rows.restriction? model target type = some predicate) (id : NodeId) :
    ((predicate (.parameter ⟨id, target.logicalType.elementOrSelf⟩ rowParameter)).run
      ⟨id + 1⟩).1.erased = form predicate target := by
  obtain ⟨name, found⟩ := found_of_restriction concerned
  exact byForm name predicate found _ id 0

theorem ReferenceFree.rule (free : rows.ReferenceFree) (model : Model) :
    RowRule.ReferenceFree (rows.rule model) := by
  intro target type selector ruled
  unfold CollectionFilter.rule at ruled
  split at ruled
  · contradiction
  · next predicate concerned =>
    split at ruled
    · cases ruled
      obtain ⟨name, found⟩ := found_of_restriction concerned
      have body : (form predicate target).hasDataReference = false := by
        rw [form, Expr.hasDataReference_erased]
        exact free name predicate found _ _
      simp [Expr.hasDataReference_eq (.lambda _ _ _), Expr.isSource, Expr.children, body]
    · contradiction

theorem filter_nodeless (absent : context.node? = none) (ambient : Ambient) :
    (rows.filter context).run.run ambient = (.ok none, ambient) := by
  unfold filter
  cases context.reading? with
  | none => rfl
  | some reading =>
    have none : rowType? context = none := by simp [rowType?, absent]
    dsimp only
    rw [none]
    cases Entries.find? rows.predicates reading.2 <;> rfl

theorem binding_of_reference? (refers : context.binding.reference? = some target) :
    context.binding = .reference target := by
  cases binding : context.binding <;> simp_all [Binding.reference?]

theorem rule_of_concerned (concerned : rows.restriction? model target type = some predicate) :
    rows.rule model target type = if (form predicate target).type = .bool then
      .wrap (.lambda (.anonymous .bool) rowParameter (form predicate target)) else .refuse := by
  unfold rule
  rw [concerned]

theorem applies (free : rows.ReferenceFree) (byForm : rows.BuildsByForm) {plan : Plan}
    (unrooted : plan.root = none) : plan.Applies rows.hook (rows.rule plan.model) := by
  intro context ambient modelled _
  rw [← modelled]
  cases refers : context.binding.reference? with
  | none => exact ⟨_, _, filter_unbound refers, rfl⟩
  | some target =>
    cases under : context.node? with
    | none =>
      refine ⟨_, _, filter_nodeless under ambient, fun node found => ?_⟩
      contradiction
    | some node =>
      have ran : (rows.filter context).run.run ambient = _ :=
        filter_run (binding_of_reference? refers) under
      cases concerned : rows.restriction? context.model target node.type with
      | none =>
        rw [concerned] at ran
        refine ⟨_, _, ran, ?_⟩
        rintro _ ⟨⟩
        simp only [rule, concerned]
      | some predicate =>
        have same := byForm.eq_form concerned ambient.supply.next
        have ruled := rule_of_concerned concerned
        rw [← same, Expr.type_erased] at ruled
        rw [concerned] at ran
        dsimp only at ran
        generalize (predicate (.parameter ⟨ambient.supply.next, target.logicalType.elementOrSelf⟩
          rowParameter)).run ⟨ambient.supply.next + 1⟩ = built at ran ruled
        split at ran
        · next truth =>
          rw [if_pos truth] at ruled
          refine ⟨_, _, ran, ?_⟩
          rintro _ ⟨⟩
          rw [ruled]
          refine ⟨⟨built.2.next + 1, node.type⟩, .lambda ⟨built.2.next, .bool⟩ rowParameter built.1,
            rfl, rfl, rfl, reached_free unrooted ?_, rfl⟩
          rw [← Expr.hasDataReference_erased]
          exact free.rule context.model target node.type _ ruled
        · next untrue =>
          rw [if_neg untrue] at ruled
          refine ⟨_, _, ran, ?_⟩
          rintro _ ⟨⟩
          rw [ruled]
          exact ⟨_, rfl⟩

theorem frank (rows : CollectionFilter) (context : Context) (ambient : Ambient)
    {error : Rewriting.Error} {after : Ambient}
    (ran : (rows.filter context).run.run ambient = (.error error, after)) :
    error.isDepthExceeded = false := by
  cases refers : context.binding.reference? with
  | none =>
    rw [filter_unbound refers] at ran
    cases ran
  | some target =>
    cases under : context.node? with
    | none =>
      rw [filter_nodeless under] at ran
      cases ran
    | some node =>
      rw [filter_run (binding_of_reference? refers) under] at ran
      dsimp only at ran
      split at ran
      · cases ran
      · split at ran
        · cases ran
        · cases ran
          rfl

/-- Collection filters over a store carry out their plan. -/
theorem filtersAlone (free : ∀ rows ∈ filters, rows.ReferenceFree)
    (byForm : ∀ rows ∈ filters, rows.BuildsByForm) :
    (plan filters model request store).FiltersAlone (registry filters store) where
  realizes := by
    refine ⟨rfl, rfl, ?_, rfl⟩
    unfold registry plan
    rw [List.forall₂_map_left_iff, List.forall₂_map_right_iff, List.forall₂_same]
    exact fun rows member => applies (free rows member) (byForm rows member) rfl
  unrooted := rfl
  uninspected := rfl
  free := List.forall_mem_map.mpr fun rows member => (free rows member).rule model
  frank := List.forall_mem_map.mpr fun rows _ context ambient _ _ => rows.frank context ambient

/-- Collection filters are accepted together exactly where each of them is accepted alone. -/
theorem accepts_each (nonempty : filters ≠ []) (free : ∀ rows ∈ filters, rows.ReferenceFree)
    (query : Expr) (maxDepth : Nat) :
    (plan filters model request store).Accepts query maxDepth ↔
      ∀ rows ∈ filters, (plan [rows] model request store).Accepts query maxDepth := by
  have unrooted : (plan [] model request store).root = none := rfl
  have listed : filters.map (fun rows => rows.rule model) ≠ [] := by simpa using nonempty
  have freely := List.forall_mem_map.mpr fun rows member => (free rows member).rule model
  exact (Plan.accepts_iff unrooted listed freely maxDepth).trans List.forall_mem_map

/-- A list of collection filters needs no more depth than each filter of it: a walk with all of them
succeeds exactly where the walks with each one of them do. -/
theorem accepted_together (filters : List CollectionFilter) (store : Store) (query : Expr)
    (model : Model) (request : RequestContext) (maxDepth : Nat) (ambient : Ambient)
    (surroundings : CollectionFilter → Ambient) (nonempty : filters ≠ [])
    (free : ∀ rows ∈ filters, rows.ReferenceFree) (byForm : ∀ rows ∈ filters, rows.BuildsByForm) :
    (run (registry filters store) query { model, request, maxDepth } ambient).1.isOk = true ↔
      ∀ rows ∈ filters, (run (registry [rows] store) query { model, request, maxDepth }
        (surroundings rows)).1.isOk = true := by
  have together : (run (registry filters store) query { model, request, maxDepth }
      ambient).1.isOk = true ↔ (plan filters model request store).Accepts query maxDepth :=
    Plan.isOk_run_iff (filtersAlone free byForm) query maxDepth ambient
  have alone (rows : CollectionFilter) (member : rows ∈ filters) :
      (run (registry [rows] store) query { model, request, maxDepth }
        (surroundings rows)).1.isOk = true ↔
          (plan [rows] model request store).Accepts query maxDepth :=
    Plan.isOk_run_iff (filtersAlone (List.forall_mem_singleton.mpr (free rows member))
      (List.forall_mem_singleton.mpr (byForm rows member))) query maxDepth (surroundings rows)
  rw [together, accepts_each nonempty free, forall₂_congr alone]

/-- Forty filters need no more than the eight frames that one of them needs, and no fewer. -/
theorem orders_stacked :
    let model : Model := {
      space := "shop"
      entityTypes := [("Order", { name := "Order", fields := [("open", { type := .bool })] })]
      elements := [("Orders", .collection "Orders" "Order")] }
    let store : Store := { collections := [("Orders", [])] }
    let orders (test : Template) : CollectionFilter := ⟨[("Orders", test.predicate { model })]⟩
    let opened := orders (.member .row "open" .bool)
    let known := orders (.binary .eq .row .row)
    let filters := known :: List.replicate 39 opened
    let query : Expr := .call ⟨0, .int⟩ .count
      [.source ⟨1, .queryable (.entity "Order")⟩ none "Orders" []]
    (run (registry filters store) query { model, request := .ofCaller .service, maxDepth := 8 }
        { supply := ⟨2⟩ }).1.isOk = true ∧
      (run (registry filters store) query { model, request := .ofCaller .service, maxDepth := 7 }
        { supply := ⟨2⟩ }).1.isOk = false := by
  intro model store orders opened known filters query
  have free : ∀ rows ∈ filters, rows.ReferenceFree := by
    intro rows listed
    rcases List.mem_cons.mp listed with rfl | listed
    · refine .of_entries fun entry member stamp supply => ?_
      cases List.mem_singleton.mp member
      rfl
    · cases List.eq_of_mem_replicate listed
      refine .of_entries fun entry member stamp supply => ?_
      cases List.mem_singleton.mp member
      rfl
  have byForm : ∀ rows ∈ filters, rows.BuildsByForm := by
    have templates (test : Template) : (orders test).BuildsByForm :=
      .of_templates (List.forall_mem_singleton.mpr ⟨test, { model }, rfl⟩)
    intro rows listed
    rcases List.mem_cons.mp listed with rfl | listed
    · exact templates _
    · cases List.eq_of_mem_replicate listed
      exact templates _
  have together (maxDepth : Nat) := accepted_together filters store query model
    (.ofCaller .service) maxDepth { supply := ⟨2⟩ } (fun _ => { supply := ⟨2⟩ })
    (List.cons_ne_nil _ _) free byForm
  constructor
  · refine (together 8).mpr fun rows listed => ?_
    rcases List.mem_cons.mp listed with rfl | listed
    · decide +kernel
    · cases List.eq_of_mem_replicate listed
      decide +kernel
  · have alone : (run (registry [known] store) query
        { model, request := .ofCaller .service, maxDepth := 7 } { supply := ⟨2⟩ }).1.isOk =
          false := by
      decide +kernel
    rw [Bool.eq_false_iff]
    intro succeeds
    rw [(together 7).mp succeeds known List.mem_cons_self] at alone
    contradiction

end QueryRewriting.Access.CollectionFilter
