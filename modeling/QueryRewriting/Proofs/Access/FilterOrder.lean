import QueryRewriting.Proofs.Access.FilterPlan
import QueryRewriting.Proofs.Access.Noninterference

/-! Row filters commute in effect. In another order filters nest their `where` calls otherwise, and
the trees differ wherever a reference occurs. But a row gets through all the calls if each selector
lets it through, and rows that get through keep their order; so the trees have the same value
wherever both have one. -/
namespace QueryRewriting

open Json Schema Evaluation

namespace Rewriting.Plan

open Access Access.RowSecurity

variable {plan : Plan} {target : DataReference} {type : QueryType} {rules rules' : List RowRule}
  {store : Store} {scope : Scope} {current tree tree' : Expr}

/-- Whether the selectors that rules have for a reference all let a row through. -/
def admits (store : Store) (target : DataReference) (type : QueryType) (scope : Scope)
    (rules : List RowRule) (row : Value) : Bool :=
  rules.all fun rule =>
    match rule target type with
    | .wrap selector => (image? store selector row scope).any isTrue
    | .refuse | .leave => true

/-- A sequence narrowed down to some of its items. -/
def narrowed (keep : Value → Bool) : Value → Value
  | .array items => .array (items.filter keep)
  | other => other

theorem narrowed_true (value : Value) : narrowed (fun _ => true) value = value := by
  cases value <;> simp [narrowed]

/-- The items that a `where` call lets through. -/
theorem narrowed_of_filter {stamp : Stamp} {selector : Expr} {value : Value}
    (found : value? store (.call stamp .filter [current, selector]) scope = some value) :
    ∃ items, value? store current scope = some (.array items) ∧
      value = .array (items.filter fun row => (image? store selector row scope).any isTrue) := by
  simp only [value?_call, List.head?_cons, Option.bind_some, operate?, Option.bind_eq_some_iff,
    Option.map_eq_some_iff] at found
  obtain ⟨items, ⟨base, known, listed⟩, verdicts, visited, rfl⟩ := found
  cases base with
  | array =>
    cases listed
    exact ⟨items, known, by rw [kept_eq_filter visited]⟩
  | _ => contradiction

/-- Filters narrow what they wrap down to the rows that all of them admit. -/
theorem value?_wrapped (unrooted : plan.root = none)
    (free : ∀ rule ∈ rules, RowRule.ReferenceFree rule) {value : Value}
    (wrapped : plan.wrapped? target type rules current = some tree)
    (found : value? store tree scope = some value) :
    ∃ base, value? store current scope = some base ∧
      value = narrowed (admits store target type scope rules) base := by
  induction rules generalizing current with
  | nil =>
    cases wrapped
    exact ⟨value, found, (narrowed_true value).symm⟩
  | cons rule rest ih =>
    obtain ⟨freely, others⟩ := List.forall_mem_cons.mp free
    rcases wrapped?_cons wrapped with
      ⟨ruled, wrapped⟩ | ⟨selector, chosen, ruled, selected, wrapped⟩
    · obtain ⟨base, known, rfl⟩ := ih others wrapped
      refine ⟨base, known, ?_⟩
      congr 1
      funext row
      simp [admits, ruled]
    · rw [selected?_free unrooted (freely target type selector ruled)] at selected
      cases selected
      obtain ⟨base, known, rfl⟩ := ih others wrapped
      obtain ⟨items, inner, rfl⟩ := narrowed_of_filter known
      refine ⟨_, inner, ?_⟩
      simp only [narrowed, List.filter_filter, image?_erased]
      congr 2
      funext row
      simp [admits, ruled, Bool.and_comm]

/-- Filters change the type of what they wrap to that of the node if they wrap it at all. -/
theorem type_wrapped (wrapped : plan.wrapped? target type rules current = some tree) :
    (∀ rule ∈ rules, rule target type = .leave) ∧ tree.type = current.type ∨
      (∃ rule ∈ rules, rule target type ≠ .leave) ∧ tree.type = type := by
  induction rules generalizing current with
  | nil =>
    cases wrapped
    exact .inl ⟨nofun, rfl⟩
  | cons rule rest ih =>
    rcases wrapped?_cons wrapped with ⟨ruled, wrapped⟩ | ⟨selector, chosen, ruled, -, wrapped⟩
    · rcases ih wrapped with ⟨left, typed⟩ | ⟨⟨other, listed, wraps⟩, typed⟩
      · exact .inl ⟨List.forall_mem_cons.mpr ⟨ruled, left⟩, typed⟩
      · exact .inr ⟨⟨other, List.mem_cons_of_mem _ listed, wraps⟩, typed⟩
    · have wraps : ∃ rule' ∈ rule :: rest, rule' target type ≠ .leave :=
        ⟨rule, List.mem_cons_self, by simp [ruled]⟩
      rcases ih wrapped with ⟨-, typed⟩ | ⟨-, typed⟩ <;> exact .inr ⟨wraps, typed⟩

theorem isLambda_wrapped (wrapped : plan.wrapped? target type rules current = some tree)
    (plain : current.isLambda = false) : tree.isLambda = false := by
  induction rules generalizing current with
  | nil =>
    cases wrapped
    exact plain
  | cons rule rest ih =>
    rcases wrapped?_cons wrapped with ⟨-, wrapped⟩ | ⟨selector, chosen, -, -, wrapped⟩
    · exact ih wrapped plain
    · exact ih wrapped rfl

/-- In whatever order filters are asked, a reference becomes trees with the same value. -/
theorem sourced?_perm (unrooted : plan.root = none)
    (free : ∀ rule ∈ rules, RowRule.ReferenceFree rule) (perm : rules.Perm rules')
    (sourced : (plan.ruled rules).sourced? target type = some tree)
    (sourced' : (plan.ruled rules').sourced? target type = some tree') :
    Alike store store tree tree' := by
  obtain ⟨fragment, stored, wrapped⟩ := Option.bind_eq_some_iff.mp sourced
  obtain ⟨fragment', stored', wrapped'⟩ := Option.bind_eq_some_iff.mp sourced'
  have free' : ∀ rule ∈ rules', RowRule.ReferenceFree rule :=
    fun rule member => free rule (perm.mem_iff.mpr member)
  cases fragment?_eq stored
  cases fragment?_eq stored'
  refine .of_values ?_ (isLambda_wrapped wrapped rfl) ?_
  · rcases type_wrapped wrapped with ⟨left, typed⟩ | ⟨⟨rule, listed, wraps⟩, typed⟩ <;>
    rcases type_wrapped wrapped' with ⟨left', typed'⟩ | ⟨⟨rule', listed', wraps'⟩, typed'⟩
    · exact typed.trans typed'.symm
    · exact (wraps' (left rule' (perm.mem_iff.mpr listed'))).elim
    · exact (wraps (left' rule (perm.mem_iff.mp listed))).elim
    · exact typed.trans typed'.symm
  · intro scope value found value' found'
    obtain ⟨base, known, rfl⟩ := value?_wrapped (root_ruled unrooted rules) free wrapped found
    obtain ⟨base', known', rfl⟩ := value?_wrapped (root_ruled unrooted rules') free' wrapped' found'
    cases known.symm.trans known'
    congr 1
    funext row
    exact perm.all_eq

/-- So does a tree. -/
theorem resolve?_perm (unrooted : plan.root = none)
    (free : ∀ rule ∈ rules, RowRule.ReferenceFree rule) (perm : rules.Perm rules') {e : Expr}
    (resolved : (plan.ruled rules).resolve? [] e = some tree)
    (resolved' : (plan.ruled rules').resolve? [] e = some tree') :
    Alike plan.store plan.store tree tree' := by
  have roles (e : Expr) : (plan.ruled rules').role e = (plan.ruled rules).role e := rfl
  refine Alike.resolved roles (fun node _ _ => .refl _ _) ?_ resolved resolved'
  intro node _ target type tree tree' _ sourced sourced'
  exact sourced?_perm unrooted free perm sourced sourced'

end Rewriting.Plan

namespace Access.CollectionFilter

open Rewriting Rewriting.Plan Access.RowSecurity

/-- The order in which collection filters are registered makes no difference to whether a walk
succeeds, to the collection it finds and to how often it asks the sourcer. The trees it returns have
the same value wherever both have one. -/
theorem reordered {filters filters' : List CollectionFilter} (store : Store) (query : Expr)
    (model : Model) (request : RequestContext) (maxDepth : Nat) (ambient ambient' : Ambient)
    (perm : filters.Perm filters') (free : ∀ rows ∈ filters, rows.ReferenceFree)
    (byForm : ∀ rows ∈ filters, rows.BuildsByForm) :
    (run (registry filters store) query { model, request, maxDepth } ambient).1.isOk =
        (run (registry filters' store) query { model, request, maxDepth } ambient').1.isOk ∧
      ∀ tree after tree' after',
        run (registry filters store) query { model, request, maxDepth } ambient =
          (.ok tree, after) →
        run (registry filters' store) query { model, request, maxDepth } ambient' =
          (.ok tree', after') →
        after.context.collection = after'.context.collection ∧
          after.context.sourcingCalls = after'.context.sourcingCalls ∧
          ∀ scope value value', eval store tree scope = .ok value →
            eval store tree' scope = .ok value' → value = value' := by
  have free' : ∀ rows ∈ filters', rows.ReferenceFree :=
    fun rows member => free rows (perm.mem_iff.mpr member)
  have byForm' : ∀ rows ∈ filters', rows.BuildsByForm :=
    fun rows member => byForm rows (perm.mem_iff.mpr member)
  have alone : (plan filters model request store).FiltersAlone (registry filters store) :=
    filtersAlone free byForm
  have alone' : (plan filters' model request store).FiltersAlone (registry filters' store) :=
    filtersAlone free' byForm'
  have freely : ∀ rule ∈ filters.map fun rows => rows.rule model, RowRule.ReferenceFree rule :=
    alone.free
  have shuffled : (filters.map fun rows => rows.rule model).Perm
      (filters'.map fun rows => rows.rule model) := perm.map _
  have unrooted : (plan [] model request store).root = none := rfl
  constructor
  · rw [Bool.eq_iff_iff]
    have same := Plan.accepts_perm (e := query) unrooted freely shuffled maxDepth
    exact (Plan.isOk_run_iff alone query maxDepth ambient).trans
      (same.trans (Plan.isOk_run_iff alone' query maxDepth ambient').symm)
  · intro tree after tree' after' ran ran'
    obtain ⟨resolved, found, asked⟩ := Plan.outcome_of_run alone ran
    obtain ⟨resolved', found', asked'⟩ := Plan.outcome_of_run alone' ran'
    refine ⟨?_, ?_, ?_⟩
    · have modelled : (plan filters model request store).model =
          (plan filters' model request store).model := rfl
      rw [found, found']
      exact Plan.collected_congr modelled (fun _ => rfl) query none
    · rw [← Context.length_asked, asked, ← Context.length_asked, asked']
    · intro scope value value' evaluates evaluates'
      have alike : Alike store store tree.erased tree'.erased :=
        Plan.resolve?_perm unrooted freely shuffled resolved resolved'
      have agree := alike.values scope
      rw [value?_erased, value?_erased] at agree
      have known : value? store tree scope = some value := congrArg Except.toOption evaluates
      have known' : value? store tree' scope = some value' := congrArg Except.toOption evaluates'
      exact agree value known value' known'

/-- The orders that are open and paid, whichever filter comes first. -/
theorem open_orders_reordered :
    let model : Model := {
      space := "shop"
      entityTypes := [("Order",
        { name := "Order", fields := [("open", { type := .bool }), ("paid", { type := .bool })] })]
      elements := [("Orders", .collection "Orders" "Order")] }
    let row (isOpen isPaid : Bool) : Value :=
      .object [("open", .bool isOpen), ("paid", .bool isPaid)]
    let store : Store :=
      { collections := [("Orders", [row true false, row true true, row false true])] }
    let only (field : String) : CollectionFilter :=
      ⟨[("Orders", (Template.member .row field .bool).predicate { model })]⟩
    let opened := only "open"
    let paid := only "paid"
    let orders (id : Nat) : Expr := .source ⟨id, .queryable (.entity "Order")⟩ none "Orders" []
    let query : Expr := .call ⟨0, .queryable (.entity "Order")⟩ .filter
      [orders 1, .lambda ⟨2, .bool⟩ "o" (.call ⟨3, .bool⟩ .any [orders 4])]
    ∃ tree after tree' after' value,
      run (registry [opened, paid] store) query
          { model, request := .ofCaller .service, maxDepth := 16 } { supply := ⟨5⟩ } =
        (.ok tree, after) ∧
      run (registry [paid, opened] store) query
          { model, request := .ofCaller .service, maxDepth := 16 } { supply := ⟨5⟩ } =
        (.ok tree', after') ∧
      eval store tree [] = .ok value ∧ eval store tree' [] = .ok value ∧
      after.context.collection = after'.context.collection ∧
      after.context.sourcingCalls = after'.context.sourcingCalls := by
  intro model row store only opened paid orders query
  have predicate (field : String) : (only field).ReferenceFree ∧ (only field).BuildsByForm := by
    refine ⟨.of_entries fun entry member stamp supply => ?_,
      .of_templates (List.forall_mem_singleton.mpr ⟨.member .row field .bool, { model }, rfl⟩)⟩
    cases List.mem_singleton.mp member
    rfl
  have predicates (rows : CollectionFilter) (listed : rows ∈ [opened, paid]) :
      rows.ReferenceFree ∧ rows.BuildsByForm := by
    simp only [List.mem_cons, List.not_mem_nil, or_false] at listed
    rcases listed with rfl | rfl
    · exact predicate "open"
    · exact predicate "paid"
  have outcome (ended : Except Rewriting.Error Expr × Walk.State)
      (evaluates : ended.1.toOption.any (fun tree => (eval store tree []).isOk) = true) :
      ∃ tree after value, ended = (.ok tree, after) ∧ eval store tree [] = .ok value := by
    rcases ended with ⟨error | tree, after⟩
    · contradiction
    · cases known : eval store tree [] with
      | error error => simp [Except.toOption, known, Except.isOk, Except.toBool] at evaluates
      | ok value => exact ⟨tree, after, value, rfl, known⟩
  have first : (run (registry [opened, paid] store) query
      { model, request := .ofCaller .service, maxDepth := 16 }
        { supply := ⟨5⟩ }).1.toOption.any (fun tree => (eval store tree []).isOk) = true := by
    decide +kernel
  have second : (run (registry [paid, opened] store) query
      { model, request := .ofCaller .service, maxDepth := 16 }
        { supply := ⟨5⟩ }).1.toOption.any (fun tree => (eval store tree []).isOk) = true := by
    decide +kernel
  have agrees := (reordered store query model (.ofCaller .service) 16 { supply := ⟨5⟩ }
    { supply := ⟨5⟩ } (.swap paid opened []) (fun rows listed => (predicates rows listed).1)
    (fun rows listed => (predicates rows listed).2)).2
  obtain ⟨tree, after, value, ran, evaluates⟩ := outcome _ first
  obtain ⟨tree', after', value', ran', evaluates'⟩ := outcome _ second
  obtain ⟨collection, calls, same⟩ := agrees tree after tree' after' ran ran'
  have equal := same [] value value' evaluates evaluates'
  exact ⟨tree, after, tree', after', value, ran, ran', evaluates, equal ▸ evaluates', collection,
    calls⟩

end Access.CollectionFilter

end QueryRewriting
