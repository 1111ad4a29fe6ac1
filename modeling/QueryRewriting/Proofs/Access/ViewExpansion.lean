import QueryRewriting.Proofs.Access.Inlining
import QueryRewriting.Proofs.Rewriting.Costs

/-! Expanding views in the course of a walk is inlining them before it. A walk with views, collection
filters and read policies over a store makes of a query the one thing that `Walked` allows, so it
makes the same of the query with its views inlined, and asks the sourcer as often. -/
namespace QueryRewriting.Access.Views

open Rewriting Rewriting.Walk Schema Evaluation

/-- Views, read policies and collection filters over a store, and no other hooks. -/
def registry (views : Views) (readers : List ReadAuthorizer) (filters : List CollectionFilter)
    (store : Store) : Registry where
  inspectors := readers.map ReadAuthorizer.hook
  expanders := [views.hook]
  filters := filters.map CollectionFilter.hook
  sourcer := some store.sourcer

variable {views : Views} {readers : List ReadAuthorizer} {filters : List CollectionFilter}
  {store : Store} {model : Model} {before : Recording} {node e : Expr} {target : DataReference}

/-- What is substituted are data references that exist. -/
structure Keyed (model : Model) (state : Recording) : Prop where
  modelled : state.context.model = model
  keys : ∀ entry ∈ state.context.substitutions,
    entry.1.isSource = true ∧ entry.1.id < state.ambient.supply.next

/-- A tree of nodes that exist, none of which is substituted. -/
structure Clear (model : Model) (e : Expr) (state : Recording) : Prop
    extends Keyed model state where
  issued : e.Issued state.ambient.supply
  apart : ∀ entry ∈ state.context.substitutions, entry.1 ∉ e.nodes

section Clear

variable {after : Recording}

theorem Keyed.onward (keyed : Keyed model before) (onward : Onward before after) :
    Keyed model after := by
  have same : after.context.substitutions = before.context.substitutions :=
    congrArg (·.substitutions) onward.setting
  constructor
  · exact (congrArg (·.model) onward.setting : after.context.model = _).trans keyed.modelled
  · rw [same]
    intro entry member
    obtain ⟨source, exists_⟩ := keyed.keys entry member
    exact ⟨source, Nat.lt_of_lt_of_le exists_ onward.issued⟩

theorem Clear.onward (clear : Clear model e before) (onward : Onward before after) :
    Clear model e after where
  toKeyed := clear.toKeyed.onward onward
  issued := clear.issued.later onward.issued
  apart := by
    rw [show after.context.substitutions = before.context.substitutions from
      congrArg (·.substitutions) onward.setting]
    exact clear.apart

theorem Keyed.entered {node : Option Expr} {entered : Context} (keyed : Keyed model before)
    (pushed : before.context.push node = .ok entered) :
    Keyed model { before with context := entered } := by
  rw [Context.push_frames pushed]
  exact ⟨keyed.modelled, keyed.keys⟩

theorem Clear.entered {node : Option Expr} {entered : Context} (clear : Clear model e before)
    (pushed : before.context.push node = .ok entered) :
    Clear model e { before with context := entered } := by
  refine ⟨clear.toKeyed.entered pushed, clear.issued, ?_⟩
  rw [Context.push_frames pushed]
  exact clear.apart

theorem Clear.child {child : Expr} (clear : Clear model e before) (below : child ∈ e.children) :
    Clear model child before where
  toKeyed := clear.toKeyed
  issued := clear.issued.child below
  apart := by
    intro entry member inside
    exact clear.apart entry member (Expr.mem_nodes_of_child below inside)

/-- Nothing is substituted in what is built of trees in which nothing is. -/
theorem Composed.clear {given : List Expr} {tree : Expr} {later : NodeSupply}
    (composed : Composed given before.ambient.supply tree later) (keyed : Keyed model before)
    (each : ∀ arg ∈ given, Clear model arg before)
    (same : after.context.setting = before.context.setting)
    (issued : later.next ≤ after.ambient.supply.next) : Clear model tree after := by
  have onward : Onward before after := ⟨same, Nat.le_trans composed.later issued⟩
  refine ⟨keyed.onward onward, composed.issued.later issued, ?_⟩
  rw [show after.context.substitutions = before.context.substitutions from
    congrArg (·.substitutions) same]
  intro entry member inside
  obtain ⟨source, exists_⟩ := keyed.keys entry member
  rcases composed.references entry.1 inside source with fresh | ⟨arg, listed, inside⟩
  · exact absurd fresh (Nat.not_le_of_lt exists_)
  · exact (each arg listed).apart entry member inside

theorem Keyed.substitute (keyed : Keyed model before) (source : node.isSource = true)
    (issued : node.id < before.ambient.supply.next) (current : Expr) :
    Keyed model { before with context := before.context.substitute node current } where
  modelled := keyed.modelled
  keys := List.forall_mem_cons.mpr ⟨⟨source, issued⟩, keyed.keys⟩

/-- Nothing is substituted in the selector that a filter makes with a predicate. -/
theorem clear_selector {predicate : RowPredicate} {type : QueryType} {built : Expr}
    {later : NodeSupply} (structural : Structural (fun row => [row]) (ofPredicate predicate))
    (keyed : Keyed model before)
    (building : (predicate (.parameter ⟨before.ambient.supply.next, type⟩ rowParameter)).run
      ⟨before.ambient.supply.next + 1⟩ = (built, later))
    (same : after.context.setting = before.context.setting)
    (issued : later.next + 2 ≤ after.ambient.supply.next) :
    Clear model (.lambda ⟨later.next, .bool⟩ rowParameter built) after := by
  have composed := structural.on_row building
  have selector : Composed [] before.ambient.supply (.lambda ⟨later.next, .bool⟩ rowParameter built)
      ⟨later.next + 1⟩ := by
    apply Composed.node composed.later (Nat.lt_succ_self _)
    intro child below
    cases List.mem_singleton.mp below
    exact composed.weaken (Nat.le_succ _)
  exact selector.clear keyed (fun _ absent => absurd absent List.not_mem_nil) same
    (Nat.le_of_succ_le issued)

theorem Clear.unsubstituted (clear : Clear model e before) :
    before.context.substitution? e = none := by
  unfold Context.substitution?
  rw [Option.map_eq_none_iff, List.find?_eq_none]
  intro entry member same
  apply clear.apart entry member
  rw [of_decide_eq_true same]
  exact e.mem_nodes_self

theorem Keyed.unsubstituted (keyed : Keyed model before) (plain : e.isSource = false) :
    before.context.substitution? e = none :=
  CollectionFilter.substitution?_of_plain plain fun entry member => (keyed.keys entry member).1

end Clear

section Frame

variable {binding : Binding} {outer : List Frame} {visit revisit : Expr → Walk Expr}

/-- Filters that have nothing to say leave what there is. -/
theorem costs_unfiltered {current : Expr} {rest : List CollectionFilter}
    (idle : ∀ rows ∈ rest, ∀ context, context.setting = before.context.setting →
      ∀ ambient offered after, (rows.filter context).run.run ambient = (.ok offered, after) →
        offered = none ∧ after = ambient) :
    Costs (filtered revisit node (rest.map CollectionFilter.hook) current)
      (fun tree calls => calls = 0 ∧ tree = current) before := by
  induction rest generalizing before with
  | nil => exact costs_pure ⟨rfl, rfl⟩
  | cons rows rest ih =>
    obtain ⟨here, below⟩ := List.forall_mem_cons.mp idle
    rw [List.map_cons]
    unfold filtered
    apply costs_consult (by simp)
    intro offered ambient ran
    obtain ⟨rfl, rfl⟩ := here (before.context.consulting .filter rows.hook.name) rfl _ _ _ ran
    exact ⟨Nat.le_refl _, ih below⟩

/-- Sourcing does not go by views and policies. -/
theorem source_eq : source (registry views readers filters store) =
    source (CollectionFilter.registry filters store) := rfl

theorem drifts_sourcing (current : Expr) :
    Drifts issuing (source (CollectionFilter.registry filters store) current) := by
  refine follows_source (fun sourcer found mode => drifts_consult fun context => ?_)
    (fun _ _ => Nat.le_refl _) current
  cases found
  exact Store.source_drifts _ _ _

/-- What is no reference of its frame any more is not sourced. -/
theorem costs_settled {current : Expr}
    (other : before.context.binding.reference? = none ∨ before.context.node? ≠ some current) :
    Costs (source (registry views readers filters store) current)
      (fun tree calls => calls = 0 ∧ tree = current) before := by
  rw [source_eq]
  exact (CollectionFilter.yields_settled other).costs (drifts_sourcing current)

/-- A reference in its frame is sourced as the fragment of the store. -/
theorem costs_fragment (under : before.context.node? = some node)
    (here : before.context.binding = .reference target) :
    Costs (source (registry views readers filters store) node)
      (fun tree calls => calls = 1 ∧
        CollectionFilter.Settles (CollectionFilter.fragment store target) tree) before := by
  rw [source_eq]
  exact (CollectionFilter.yields_fragment under here).costs (drifts_sourcing node)

/-- What is left to do in the frame of a node once it is inspected. -/
def concluded (registry : Registry) (revisit : Expr → Walk Expr) (node : Expr)
    (isReference : Bool) (rewritten : Expr) : Walk Expr := do
  let expanded ← expansion registry node isReference
  let current ← expandedOr revisit rewritten expanded
  let current ← filtered revisit node registry.filters current
  source registry current

theorem costs_inFrame {made good : Expr → Nat → Prop}
    (frames : before.context.frames = ⟨some node, binding⟩ :: outer)
    (below : Costs (descended visit node binding.isReference) made before)
    (above : ∀ rewritten calls middle, Onward before middle → made rewritten calls →
      Costs (concluded (registry views readers filters store) revisit node binding.isReference
        rewritten) (fun tree more => good tree (calls + more)) middle) :
    Costs (inFrame (registry views readers filters store) visit revisit node) good before := by
  have normal : Walk.normalize (registry views readers filters store) node = pure () := rfl
  have here : before.context.binding = binding := Context.binding_of_frames frames
  have under : before.context.node? = some node := Context.node?_of_frames frames
  have drifts : ∀ hook ∈ (registry views readers filters store).inspectors.reverse,
      ∀ context, (hook.run context).Drifts issuing := by
    intro hook member context
    obtain ⟨reader, -, rfl⟩ := List.mem_map.mp (List.mem_reverse.mp member)
    exact Act.drifts_pure _
  rw [inFrame, normal, pure_bind]
  unfold Costs normalized
  rw [ends_bind, ends_context, ends_bind, ends_context, here, under]
  apply below.bind
  intro rewritten calls middle onward left
  apply (costs_inspect node drifts).bind_free
  intro _ last later _
  exact above rewritten calls last (onward.trans later) left

/-- A node that is no reference, in a frame of its own, is put together again from what becomes of
its children. -/
theorem costs_plain {room : Nat} {made : List Expr → Nat → Prop} (plain : node.isSource = false)
    (free : before.context.substitution? node = none)
    (below : ∀ entered, before.context.push (some node) = .ok entered →
      Costs (node.children.mapM (Walk.visit (registry views readers filters store) room)) made
        { before with context := entered }) :
    Costs (Walk.visit (registry views readers filters store) (room + 1) node)
      (fun tree calls => ∃ given, made given calls ∧
        ∃ supply, tree = ((node.withChildren given).run supply).1) before := by
  unfold Costs
  rw [ends_visit free]
  apply costs_nested
  intro entered pushed
  obtain ⟨binding, frames, bound⟩ := Context.entered_some pushed
  have unreferenced : binding.isReference = false := by
    rw [← Context.isSource_of_bindIn bound, plain]
  have unbound := Context.unbound_of_bindIn bound plain
  apply costs_inFrame frames
  · rw [descended, unreferenced, if_neg Bool.false_ne_true]
    exact costs_children (below entered pushed)
  · rintro rewritten calls middle onward ⟨given, left, supply, rfl⟩
    have here (context : Context) (same : context.setting = entered.setting) :
        context.binding.reference? = none := by
      rw [show context.binding = context.setting.binding from rfl, same,
        show entered.setting.binding = entered.binding from rfl, Context.binding_of_frames frames]
      exact unbound
    rw [unreferenced]
    unfold concluded expansion
    rw [if_neg Bool.false_ne_true, pure_bind, expandedOr, pure_bind]
    apply (costs_unfiltered ?_).bind_free
    · rintro _ last later rfl
      refine (costs_settled (.inl (here _ (later.setting.trans onward.setting)))).mono ?_
      rintro tree more ⟨rfl, rfl⟩
      exact ⟨given, left, supply, rfl⟩
    · intro rows _ context same ambient offered after ran
      rw [CollectionFilter.filter_unbound (here context (same.trans onward.setting))] at ran
      cases ran
      exact ⟨rfl, rfl⟩

end Frame

section Reference

open CollectionFilter

/-- A visit comes to what `Walked` allows wherever nothing in the tree is substituted. -/
def Rewrites (views : Views) (filters : List CollectionFilter) (store : Store) (model : Model)
    (visit : Expr → Walk Expr) : Prop :=
  ∀ e before, Clear model e before →
    Costs (visit e) (fun tree calls =>
      Walked views filters store model [e.erased] [tree.erased] calls) before

/-- What a walk makes of several trees. -/
def Becomes (views : Views) (filters : List CollectionFilter) (store : Store) (model : Model)
    (es trees : List Expr) (calls : Nat) : Prop :=
  Walked views filters store model (es.map Expr.erased) (trees.map Expr.erased) calls

theorem becomes_nil : Becomes views filters store model [] [] 0 := .nil

theorem becomes_cons {e tree : Expr} {es trees : List Expr} {calls others : Nat}
    (first : Walked views filters store model [e.erased] [tree.erased] calls)
    (rest : Becomes views filters store model es trees others) :
    Becomes views filters store model (e :: es) (tree :: trees) (calls + others) :=
  first.cons rest

/-- A visit puts what stands for a reference in its place in what a filter offers for it, and walks
the selector. -/
def Fills (views : Views) (filters : List CollectionFilter) (store : Store) (model : Model)
    (visit : Expr → Walk Expr) : Prop :=
  ∀ node target current sourced shape stamp reference selector before, Keyed model before →
    before.context.substitution? node = some current →
    node = .source reference target.qualifier target.name target.args →
    model.resolve? target.qualifier target.name = some target.element →
    Standing store target node current sourced shape → Clear model selector before →
    Costs (visit (.call stamp .filter [node, selector]))
      (fun tree calls => ∃ picked more,
        Walked views filters store model [selector.erased] [picked] more ∧
        Settles (.call (.anonymous stamp.type) .filter [shape, picked]) tree ∧
        calls = sourced.length + more) before

theorem costs_standing {current shape : Expr} {sourced : List Expr} {stamp : Stamp}
    (same : node = .source stamp target.qualifier target.name target.args)
    (resolved : before.context.model.resolve? target.qualifier target.name = some target.element)
    (standing : Standing store target node current sourced shape) :
    Costs (nested (some current) (source (registry views readers filters store) current))
      (fun tree calls => calls = sourced.length ∧ Settles shape tree) before := by
  rw [source_eq]
  exact (yields_standing same resolved standing).costs
    (follows_nested (fun _ within => within) _ (drifts_sourcing current))

theorem fills_visit {room : Nat}
    (rewrites : Rewrites views filters store model
      (Walk.visit (registry views readers filters store) room)) :
    Fills views filters store model
      (Walk.visit (registry views readers filters store) (room + 1)) := by
  intro node target current sourced shape stamp reference selector before keyed found same resolved
    standing clear
  have first (state : Recording) (agrees : Agrees state.context before.context) :
      Costs (Walk.visit (registry views readers filters store) room node)
        (fun tree calls => calls = sourced.length ∧ Settles shape tree) state := by
    cases room with
    | zero => trivial
    | succ room =>
      unfold Costs
      rw [ends_visit_substituted ((agrees.substitution?_eq _).trans found)]
      rw [← keyed.modelled, ← agrees.model_eq] at resolved
      exact costs_standing same resolved standing
  have both (entered : Context)
      (pushed : before.context.push (some (.call stamp .filter [node, selector])) = .ok entered) :
      Costs ([node, selector].mapM (Walk.visit (registry views readers filters store) room))
        (fun given calls => ∃ filled picked more, given = [filled, picked] ∧ Settles shape filled ∧
          Walked views filters store model [selector.erased] [picked.erased] more ∧
          calls = sourced.length + more) { before with context := entered } := by
    simp only [List.mapM_cons, List.mapM_nil, bind_assoc, pure_bind]
    apply (first _ (.of_push pushed)).bind
    rintro filled calls middle onward ⟨rfl, settles⟩
    apply (rewrites selector middle ((clear.entered pushed).onward onward)).bind
    intro picked more last _ walked
    exact costs_pure ⟨filled, picked, more, rfl, settles, walked, rfl⟩
  apply (costs_plain rfl (keyed.unsubstituted rfl) both).mono
  rintro tree calls ⟨_, ⟨filled, picked, more, rfl, ⟨free, rfl⟩, walked, rfl⟩, supply, rfl⟩
  have settled := walked.settled picked.erased List.mem_cons_self
  rw [Expr.hasDataReference_erased] at settled
  refine ⟨picked.erased, more, walked, ⟨?_, ?_⟩, rfl⟩
  · exact Expr.hasDataReference_withChildren supply rfl (.cons free (.cons settled .nil))
  · rw [Expr.erased_withChildren]
    rfl


theorem fills_revisit {room : Nat}
    (fills : Fills views filters store model
      (Walk.visit (registry views readers filters store) room)) :
    Fills views filters store model
      (Walk.revisit (registry views readers filters store) (room + 1)) := by
  intro node target current sourced shape stamp reference selector before keyed found same resolved
    standing clear
  unfold Walk.revisit
  apply costs_nested
  intro entered pushed
  apply fills node target current sourced shape stamp reference selector _ (keyed.entered pushed)
    _ same resolved standing (clear.entered pushed)
  rw [(Agrees.of_push pushed).substitution?_eq, found]

/-- A walk is in the frame of a reference. -/
structure Referring (model : Model) (target : DataReference) (node : Expr)
    (state : Recording) : Prop where
  clear : Clear model node state
  under : state.context.node? = some node
  here : state.context.binding = .reference target
  shape : ∃ stamp, node = .source stamp target.qualifier target.name target.args
  resolved : model.resolve? target.qualifier target.name = some target.element

theorem Referring.onward {after : Recording} (referring : Referring model target node before)
    (onward : Onward before after) : Referring model target node after where
  clear := referring.clear.onward onward
  under := (Context.node?_of_setting onward.setting).trans referring.under
  here := (Context.binding_of_setting onward.setting).trans referring.here
  shape := referring.shape
  resolved := referring.resolved

theorem Referring.asked (referring : Referring model target node before) (point : Point)
    (hook : String) (answer : Answer) :
    Referring model target node (before.inquired point hook answer before.ambient) :=
  referring.onward ⟨rfl, Nat.le_refl _⟩

theorem Referring.isSource (referring : Referring model target node before) :
    node.isSource = true := by
  obtain ⟨stamp, rfl⟩ := referring.shape
  rfl

/-- A reference that nothing has been made of is sourced; anything else is left as it is. -/
theorem costs_unwrapped {current shape : Expr} {sourced : List Expr}
    (referring : Referring model target node before)
    (standing : Standing store target node current sourced shape) :
    Costs (source (registry views readers filters store) current)
      (fun tree calls => calls = sourced.length ∧ Settles shape tree) before := by
  cases standing with
  | itself => exact costs_fragment referring.under referring.here
  | settled free =>
    have other : before.context.node? ≠ some current := by
      rw [referring.under]
      rintro ⟨⟩
      have plain := Expr.isSource_of_hasDataReference free
      rw [referring.isSource] at plain
      contradiction
    apply (costs_settled (.inr other)).mono
    rintro tree calls ⟨rfl, rfl⟩
    exact ⟨rfl, free, rfl⟩

/-- In the frame of a reference each filter puts a `where` call around what the filters before have
made of it, with what comes of its selector. -/
theorem costs_filters {revisit : Expr → Walk Expr}
    (fills : Fills views filters store model revisit) {rest : List CollectionFilter}
    (regular : ∀ rows ∈ rest, Regular rows) {current shape : Expr} {sourced : List Expr}
    (referring : Referring model target node before)
    (standing : Standing store target node current sourced shape) :
    Costs (filtered revisit node (rest.map CollectionFilter.hook) current >>=
        source (registry views readers filters store))
      (fun tree calls => ∃ selectors selected more,
        List.Forall₂ (Selects target) (restrictions rest model target node.type) selectors ∧
        Walked views filters store model selectors selected more ∧
        tree.erased = wrapped node.type shape selected ∧ calls = sourced.length + more)
      before := by
  induction rest generalizing before current shape sourced with
  | nil =>
    rw [List.map_nil, filtered, pure_bind]
    apply (costs_unwrapped referring standing).mono
    rintro tree calls ⟨rfl, -, rfl⟩
    exact ⟨[], [], 0, .nil, .nil, rfl, rfl⟩
  | cons rows rest ih =>
    obtain ⟨here, below⟩ := List.forall_mem_cons.mp regular
    rw [List.map_cons, filtered, bind_assoc]
    apply costs_consult (by simp)
    intro offered ambient ran
    have modelled := referring.clear.modelled
    have asked := referring.asked .filter rows.hook.name (.offer offered)
    rcases filter_restricts asked.here asked.under ran with
      ⟨rfl, rfl, unconcerned⟩ | ⟨predicate, built, later, concerned, building, -, rfl, rfl⟩
    · refine ⟨Nat.le_refl _, ?_⟩
      have same : restrictions (rows :: rest) model target node.type =
          restrictions rest model target node.type := by
        rw [← modelled]
        exact List.filterMap_cons_none unconcerned
      rw [same]
      exact ih below asked standing
    · obtain ⟨name, found⟩ := CollectionFilter.found_of_restriction concerned
      have structural := here name predicate found
      obtain ⟨stamp, same⟩ := referring.shape
      have source := referring.isSource
      have issued := referring.clear.issued.id_lt
      have keyed := referring.clear.toKeyed.substitute source issued current
      have grown : before.ambient.supply.next ≤ later.next + 2 :=
        Nat.le_trans (structural.on_row building).later (Nat.le_add_right _ 2)
      refine ⟨grown, ?_⟩
      dsimp only
      rw [if_neg (standing.ne_offered source _ _), bind_assoc]
      apply (costs_checkType _ _ _).bind_free
      intro _ checked onward _
      rw [bind_assoc]
      have reached := onward.issued
      have onward : Onward before checked := ⟨onward.setting, Nat.le_trans grown reached⟩
      have clear : Clear model (.lambda ⟨later.next, .bool⟩ rowParameter built)
          { checked with context := checked.context.substitute node current } := by
        refine clear_selector structural keyed building ?_ reached
        exact congrArg (·.substitute node current) onward.setting
      have keyed : Keyed model
          { checked with context := checked.context.substitute node current } := clear.toKeyed
      apply Costs.bind
      · apply costs_substituting
        exact fills node target current sourced shape ⟨later.next + 1, node.type⟩ stamp _ _ keyed
          (by simp) same referring.resolved standing clear
      · rintro tree calls last later ⟨picked, more, walked, settles, rfl⟩
        -- That walk has sourced the reference, so the other filters find it settled.
        apply (ih below (referring.onward (onward.trans later)) (.settled settles.1)).mono
        rintro result others ⟨selectors, selected, further, selects, walks, whole, rfl⟩
        have listed : restrictions (rows :: rest) model target node.type =
            predicate :: restrictions rest model target node.type := by
          rw [← modelled]
          exact List.filterMap_cons_some concerned
        rw [settles.2] at whole
        refine ⟨_, _, _, ?_, walked.cons walks, whole, ?_⟩
        · rw [listed]
          exact .cons ⟨built, ⟨_, _, by rw [building]⟩, rfl⟩ selects
        · rw [List.length_nil, Nat.zero_add, Nat.add_assoc]

/-- Filters that spare views leave what has become of a view alone. -/
theorem costs_spared {revisit : Expr → Walk Expr} {current : Expr}
    (referring : Referring model target node before)
    (spared : ∀ rows ∈ filters, views.Spares model rows) (viewed : views.defines target.name = true) :
    Costs (filtered revisit node (filters.map CollectionFilter.hook) current)
      (fun tree calls => calls = 0 ∧ tree = current) before := by
  apply costs_unfiltered
  intro rows listed context unchanged ambient offered after ran
  have bound : context.binding = .reference target :=
    (Context.binding_of_setting unchanged).trans referring.here
  have under : context.node? = some node :=
    (Context.node?_of_setting unchanged).trans referring.under
  have modelled : context.model = model :=
    (congrArg (·.model) unchanged : context.model = _).trans referring.clear.modelled
  have unconcerned : rows.restriction? context.model target node.type = none := by
    have spares := spared rows listed target.qualifier target.name target.element viewed
      referring.resolved
    rw [modelled]
    exact (congrArg (if node.type.isCollection then · else none) spares).trans (ite_self none)
  rcases filter_restricts bound under ran with ⟨idle, same, -⟩ | ⟨_, _, _, concerned, -⟩
  · exact ⟨idle, same⟩
  · rw [unconcerned] at concerned
    contradiction

/-- A view in its frame is expanded, what its definition builds is walked, and nothing else is done.
-/
theorem costs_viewed {revisit : Expr → Walk Expr} {definition : ViewDefinition}
    (structural : views.AllStructural model) (spared : ∀ rows ∈ filters, views.Spares model rows)
    (again : Rewrites views filters store model revisit)
    (referring : Referring model target node before)
    (found : Entries.find? views.definitions target.name = some definition) :
    Costs (concluded (registry views readers filters store) revisit node true node)
      (fun tree calls => Walked views filters store model [node.erased] [tree.erased] calls)
      before := by
  have only : (registry views readers filters store).expanders.reverse = [views.hook] := rfl
  unfold concluded expansion
  rw [if_pos rfl, only, replacement?, bind_assoc]
  apply costs_consult (by simp)
  intro offered ambient ran
  have asked := referring.asked .expand views.hook.name (.offer offered)
  obtain ⟨built, supply, building, rfl, rfl⟩ := expand_defined asked.here found ran
  obtain ⟨stamp, same⟩ := referring.shape
  have arguments : ∀ arg ∈ target.args, arg ∈ node.children := by
    rw [same]
    exact fun arg listed => listed
  rw [asked.clear.modelled] at building
  have composed := (structural _ _ found).composes target.args before.ambient.supply
    (fun arg listed => referring.clear.issued.child (arguments arg listed)) built supply building
  have other : built ≠ node :=
    composed.ne_above arguments referring.clear.issued.id_lt referring.isSource
  refine ⟨composed.later, ?_⟩
  dsimp only
  rw [if_neg other, bind_assoc]
  apply (costs_checkType _ _ _).bind_free
  intro _ checked onward _
  rw [pure_bind]
  have reached := onward.issued
  have onward : Onward before checked := ⟨onward.setting, Nat.le_trans composed.later reached⟩
  have clear : Clear model built checked :=
    composed.clear referring.clear.toKeyed
      (fun arg listed => referring.clear.child (arguments arg listed)) onward.setting reached
  apply (again built checked clear).bind
  intro tree calls middle later walked
  have there := referring.onward (onward.trans later)
  apply (costs_spared there spared (Option.isSome_of_eq_some found)).bind_free
  rintro _ last final rfl
  have settled := walked.settled _ List.mem_cons_self
  rw [Expr.hasDataReference_erased] at settled
  apply (costs_unwrapped (there.onward final) (.settled settled)).mono
  rintro result more ⟨rfl, -, result_eq⟩
  rw [result_eq, same]
  exact .view ⟨definition, target.args, _, built, supply, found,
    (Expr.erasedAll_eq_map _).symm, building, rfl⟩ walked .nil

/-- Any other reference in its frame is sourced and wrapped. -/
theorem costs_stored {revisit : Expr → Walk Expr}
    (fills : Fills views filters store model revisit) (regular : ∀ rows ∈ filters, Regular rows)
    (referring : Referring model target node before) (stored : views.defines target.name = false) :
    Costs (concluded (registry views readers filters store) revisit node true node)
      (fun tree calls => Walked views filters store model [node.erased] [tree.erased] calls)
      before := by
  have only : (registry views readers filters store).expanders.reverse = [views.hook] := rfl
  unfold concluded expansion
  rw [if_pos rfl, only, replacement?, bind_assoc]
  apply costs_consult (by simp)
  intro offered ambient ran
  have asked := referring.asked .expand views.hook.name (.offer offered)
  have idle := expand_undefined asked.here stored before.ambient
  cases idle.symm.trans ran
  refine ⟨Nat.le_refl _, ?_⟩
  dsimp only
  rw [replacement?, pure_bind, expandedOr, pure_bind]
  obtain ⟨stamp, same⟩ := referring.shape
  apply (costs_filters fills regular asked .itself).mono
  rintro tree calls ⟨selectors, selected, more, selects, walked, whole, rfl⟩
  rw [whole, same]
  rw [same] at selects
  have single : Walked views filters store model
      [.source (.anonymous stamp.type) target.qualifier target.name (Expr.erasedAll target.args)]
      [wrapped stamp.type (fragment store target) selected] (1 + more + 0) :=
    .reference stored referring.resolved selects walked .nil
  exact single

theorem rewrites_visit {room : Nat} (structural : views.AllStructural model)
    (regular : ∀ rows ∈ filters, Regular rows) (spared : ∀ rows ∈ filters, views.Spares model rows)
    (rewrites : Rewrites views filters store model
      (Walk.visit (registry views readers filters store) room))
    (again : Rewrites views filters store model
      (Walk.revisit (registry views readers filters store) room))
    (fills : Fills views filters store model
      (Walk.revisit (registry views readers filters store) room)) :
    Rewrites views filters store model
      (Walk.visit (registry views readers filters store) (room + 1)) := by
  intro e before clear
  by_cases source : e.isSource = true
  · unfold Costs
    rw [ends_visit clear.unsubstituted]
    apply costs_nested
    intro entered pushed
    obtain ⟨binding, frames, bound⟩ := Context.entered_some pushed
    obtain ⟨target, rfl⟩ := Binding.ofNode_of_isSource source (Context.bindIn_ok bound)
    obtain ⟨-, shape⟩ := Context.bindIn_reference bound rfl
    have inside := clear.entered pushed
    have referring : Referring model target e { before with context := entered } := by
      constructor
      · exact inside
      · exact Context.node?_of_frames frames
      · exact Context.binding_of_frames frames
      · obtain ⟨stamp, same, -⟩ := shape
        exact ⟨stamp, same⟩
      · obtain ⟨_, -, resolved⟩ := shape
        rwa [inside.modelled] at resolved
    have unchanged : Costs (descended (Walk.visit (registry views readers filters store) room) e
        (Binding.reference target).isReference) (fun rewritten calls => rewritten = e ∧ calls = 0)
        { before with context := entered } := costs_pure ⟨rfl, rfl⟩
    apply costs_inFrame frames unchanged
    rintro rewritten calls middle onward ⟨rfl, rfl⟩
    simp only [Nat.zero_add]
    have there := referring.onward onward
    cases found : Entries.find? views.definitions target.name with
    | some definition => exact costs_viewed structural spared again there found
    | none => exact costs_stored fills regular there (by simp [defines, Entries.contains, found])
  · have plain : e.isSource = false := by simpa using source
    have below (entered : Context) (pushed : before.context.push (some e) = .ok entered) :
        Costs (e.children.mapM (Walk.visit (registry views readers filters store) room))
          (Becomes views filters store model e.children) { before with context := entered } := by
      apply costs_mapM becomes_nil becomes_cons
      intro child member state onward
      exact rewrites child state (((clear.entered pushed).onward onward).child member)
    apply (costs_plain plain clear.unsubstituted below).mono
    rintro tree calls ⟨given, walked, supply, rfl⟩
    rw [Expr.erased_withChildren, ← Expr.overChildren_erased]
    refine .rebuilt (by rw [Expr.isSource_erased, plain]) ?_ .nil
    rw [Expr.children_erased]
    exact walked

theorem rewrites_revisit {room : Nat}
    (rewrites : Rewrites views filters store model
      (Walk.visit (registry views readers filters store) room)) :
    Rewrites views filters store model
      (Walk.revisit (registry views readers filters store) (room + 1)) := by
  intro e before clear
  unfold Walk.revisit
  apply costs_nested
  intro entered pushed
  exact rewrites e _ (clear.entered pushed)

/-- By induction on the frames that may still be entered. -/
theorem rewrites_walk (structural : views.AllStructural model)
    (regular : ∀ rows ∈ filters, Regular rows) (spared : ∀ rows ∈ filters, views.Spares model rows)
    (room : Nat) :
    Rewrites views filters store model
        (Walk.visit (registry views readers filters store) room) ∧
      Rewrites views filters store model
        (Walk.revisit (registry views readers filters store) room) ∧
      Fills views filters store model
        (Walk.visit (registry views readers filters store) room) ∧
      Fills views filters store model
        (Walk.revisit (registry views readers filters store) room) := by
  induction room with
  | zero =>
    refine ⟨?_, ?_, ?_, ?_⟩
    · intro e before clear
      trivial
    · intro e before clear
      trivial
    · intro node target current sourced shape stamp reference selector before _ _ _ _ _ _
      trivial
    · intro node target current sourced shape stamp reference selector before _ _ _ _ _ _
      trivial
  | succ room ih =>
    obtain ⟨rewrites, again, fills, fillsAgain⟩ := ih
    exact ⟨rewrites_visit structural regular spared rewrites again fillsAgain,
      rewrites_revisit rewrites, fills_visit rewrites, fills_revisit fills⟩

end Reference

/-- What a walk that succeeds has made of a query, and how often it has asked the sourcer. -/
theorem walked_of_run (structural : views.AllStructural model)
    (regular : ∀ rows ∈ filters, Regular rows) (spared : ∀ rows ∈ filters, views.Spares model rows)
    {query tree : Expr} {request : RequestContext} {maxDepth : Nat} {ambient : Ambient}
    {after : State} (issued : query.Issued ambient.supply)
    (ran : run (registry views readers filters store) query { model, request, maxDepth } ambient =
      (.ok tree, after)) :
    Walked views filters store model [query.erased] [tree.erased] after.context.sourcingCalls := by
  have clear : Clear model query { context := { model, request, maxDepth }, ambient } :=
    ⟨⟨rfl, fun _ absent => absurd absent List.not_mem_nil⟩, issued,
      fun _ absent => absurd absent List.not_mem_nil⟩
  have walked : Costs (whole (registry views readers filters store) query)
      (fun tree calls => Walked views filters store model [query.erased] [tree.erased] calls)
      { context := { model, request, maxDepth }, ambient } := by
    unfold Costs
    rw [ends_whole]
    exact (rewrites_walk structural regular spared _).2.1 query _ clear
  obtain ⟨inquiries, ran⟩ := recorded_of_run ran
  obtain ⟨-, calls, counted, walked⟩ := Ends.done_of_ok walked ran
  dsimp only at counted
  rw [counted]
  simpa [Context.sourcingCalls] using walked

/-- Expanding views in the course of a walk is inlining them before it: if both rewrites succeed,
they come to the same tree, identities aside, with as many calls of the sourcer. -/
theorem expansion_inlines (views : Views) (readers : List ReadAuthorizer)
    (filters : List CollectionFilter) (store : Store) (model : Model)
    (structural : views.AllStructural model) (regular : ∀ rows ∈ filters, Regular rows)
    (spared : ∀ rows ∈ filters, views.Spares model rows) (query query' : Expr)
    (inlined : Inlined views model query.erased query'.erased)
    (request : RequestContext) (maxDepth maxDepth' : Nat) (ambient ambient' : Ambient)
    (issued : query.Issued ambient.supply) (issued' : query'.Issued ambient'.supply)
    {tree tree' : Expr} {after after' : State}
    (ran : run (registry views readers filters store) query { model, request, maxDepth } ambient =
      (.ok tree, after))
    (ran' : run (registry views readers filters store) query'
      { model, request, maxDepth := maxDepth' } ambient' = (.ok tree', after')) :
    tree.erased = tree'.erased ∧
      after.context.sourcingCalls = after'.context.sourcingCalls := by
  have walked := walked_of_run structural regular spared issued ran
  have walked' := walked_of_run structural regular spared issued' ran'
  have through := walked.inlined structural (.cons inlined .nil)
  obtain ⟨same, calls⟩ := through.unique structural regular walked'
  exact ⟨List.head_eq_of_cons_eq same, calls⟩

/-- The first rows of the orders as a view of a number, and past orders as a view by it. -/
theorem recent_inlined :
    let model : Model := {
      space := "shop"
      entityTypes := [("Order", { name := "Order", fields := [("open", { type := .bool })] })]
      elements := [
        ("Orders", .collection "Orders" "Order"),
        ("Past", .collection "Past" "Order"),
        ("Recent", .function { name := "Recent", returns := "Order" })] }
    let store : Store := { collections := [("Orders", [])] }
    let views : Views := ⟨[
      ("Past", fun _ _ => liftM do
        let count ← Fresh.constant (.ofUInt64 5)
        Fresh.source none "Recent" [count] (.queryable (.entity "Order"))),
      ("Recent", fun _ args => liftM do
        let orders ← Fresh.source none "Orders" [] (.queryable (.entity "Order"))
        Fresh.call .take (orders :: args))]⟩
    let opened : CollectionFilter := ⟨[("Orders", fun row => Fresh.member row "open" .bool)]⟩
    let reader : ReadAuthorizer := { default := .authenticated }
    let rows (id : Nat) (name : String) (args : List Expr) : Expr :=
      .source ⟨id, .queryable (.entity "Order")⟩ none name args
    let count (id : Nat) (count : UInt64) : Expr := .value ⟨id, .int⟩ (.ofUInt64 count)
    let first (id : Nat) (limit : Expr) : Expr :=
      .call ⟨id, .queryable (.entity "Order")⟩ .take [rows (id + 1) "Orders" [], limit]
    let query (many past : Expr) : Expr := .call ⟨0, .queryable (.entity "Order")⟩ .filter
      [many, .lambda ⟨1, .bool⟩ "o" (.call ⟨2, .bool⟩ .any [past])]
    ∃ tree tree' after after',
      run (registry views [reader] [opened] store)
        (query (rows 3 "Recent" [count 4 7]) (rows 5 "Past" []))
        { model, request := .ofCaller .service, maxDepth := 32 } { supply := ⟨9⟩ } =
          (.ok tree, after) ∧
      run (registry views [reader] [opened] store)
        (query (first 3 (count 5 7)) (first 6 (count 8 5)))
        { model, request := .ofCaller .service, maxDepth := 16 } { supply := ⟨9⟩ } =
          (.ok tree', after') ∧
      tree.erased = tree'.erased ∧
        after.context.sourcingCalls = after'.context.sourcingCalls := by
  intro model store views opened reader rows count first query
  have structural : views.AllStructural model := by
    intro name definition found
    have member := Entries.mem_of_find? found
    simp only [views, List.mem_cons, Prod.mk.injEq, List.not_mem_nil, or_false] at member
    rcases member with ⟨-, rfl⟩ | ⟨-, rfl⟩
    · constructor
      · intro args supply _ tree after ran
        cases ran
        apply Composed.node (Nat.le_succ _) (Nat.lt_succ_self _)
        intro child below
        cases List.mem_singleton.mp below
        exact Composed.node (Nat.le_refl _) (Nat.lt_add_of_pos_right Nat.two_pos)
          fun _ absent => absurd absent List.not_mem_nil
      · intro args args' supply supply' tree tree' after after' _ ran ran'
        cases ran
        cases ran'
        rfl
    · constructor
      · intro args supply issued tree after ran
        cases ran
        apply Composed.node (Nat.le_succ _) (Nat.lt_succ_self _)
        intro child below
        rcases List.mem_cons.mp below with rfl | listed
        · exact Composed.node (Nat.le_refl _) (Nat.lt_add_of_pos_right Nat.two_pos)
            fun _ absent => absurd absent List.not_mem_nil
        · exact .given listed (issued child listed) (Nat.le_add_right _ 2)
      · intro args args' supply supply' tree tree' after after' form ran ran'
        cases ran
        cases ran'
        have form : args.map Expr.erased = args'.map Expr.erased := form
        simp only [Expr.erased, Expr.erasedAll, Expr.erasedAll_eq_map, form]
        rfl
  have regular : ∀ rows ∈ [opened], Regular rows := by
    intro rows member name predicate found
    cases List.mem_singleton.mp member
    cases List.mem_singleton.mp (Entries.mem_of_find? found)
    constructor
    · intro row supply issued tree after ran
      cases ran
      apply Composed.node (Nat.le_refl _) (Nat.lt_succ_self _)
      intro child below
      cases List.mem_singleton.mp below
      exact .given (List.mem_singleton.mpr rfl) (issued row (List.mem_singleton.mpr rfl))
        (Nat.le_succ _)
    · intro row row' supply supply' tree tree' after after' form ran ran'
      cases ran
      cases ran'
      have form : row.erased = row'.erased := List.head_eq_of_cons_eq form
      simp only [Expr.erased, form]
  have spared : ∀ rows ∈ [opened], views.Spares model rows := by
    intro rows member qualifier name element viewed resolved
    cases List.mem_singleton.mp member
    obtain ⟨definition, found⟩ := Option.isSome_iff_exists.mp viewed
    have listed := Entries.mem_of_find? found
    simp only [views, List.mem_cons, Prod.mk.injEq, List.not_mem_nil, or_false] at listed
    have resolved := Model.resolve?_unqualified resolved
    rcases listed with ⟨rfl, -⟩ | ⟨rfl, -⟩
    · have known : model.resolve? none "Past" = some (.collection "Past" "Order") := rfl
      cases known.symm.trans resolved
      rfl
    · have known : model.resolve? none "Recent" =
          some (.function { name := "Recent", returns := "Order" }) := rfl
      cases known.symm.trans resolved
      rfl
  have inlined : Inlined views model
      (query (rows 3 "Recent" [count 4 7]) (rows 5 "Past" [])).erased
      (query (first 3 (count 5 7)) (first 6 (count 8 5))).erased := by
    have firstRows (many : UInt64) : Inlined views model
        (rows 0 "Recent" [count 0 many]).erased (first 0 (count 0 many)).erased := by
      apply Inlined.view
      · exact ⟨_, [count 0 many], ⟨0⟩, _, _, rfl, rfl, rfl, rfl⟩
      · have free : (first 0 (count 0 many)).hasNode views.isView = false := rfl
        exact .of_unviewed free
    have past : Inlined views model (rows 0 "Past" []).erased (first 0 (count 0 5)).erased := by
      apply Inlined.view
      · exact ⟨_, [], ⟨0⟩, _, _, rfl, rfl, rfl, rfl⟩
      · exact firstRows 5
    have test : Inlined views model (Expr.call ⟨0, .bool⟩ .any [rows 0 "Past" []]).erased
        (Expr.call ⟨0, .bool⟩ .any [first 0 (count 0 5)]).erased :=
      @Inlined.kept _ _ _ [_] rfl (.cons past .nil)
    have selector : Inlined views model
        (Expr.lambda ⟨0, .bool⟩ "o" (.call ⟨0, .bool⟩ .any [rows 0 "Past" []])).erased
        (Expr.lambda ⟨0, .bool⟩ "o" (.call ⟨0, .bool⟩ .any [first 0 (count 0 5)])).erased :=
      @Inlined.kept _ _ _ [_] rfl (.cons test .nil)
    exact @Inlined.kept _ _ _ [_, _] rfl (.cons (firstRows 7) (.cons selector .nil))
  have succeeds : (run (registry views [reader] [opened] store)
        (query (rows 3 "Recent" [count 4 7]) (rows 5 "Past" []))
        { model, request := .ofCaller .service, maxDepth := 32 } { supply := ⟨9⟩ }).1.isOk =
          true := by
    decide +kernel
  have succeeds' : (run (registry views [reader] [opened] store)
        (query (first 3 (count 5 7)) (first 6 (count 8 5)))
        { model, request := .ofCaller .service, maxDepth := 16 } { supply := ⟨9⟩ }).1.isOk =
          true := by
    decide +kernel
  obtain ⟨tree, after, ran⟩ := exists_of_isOk succeeds
  obtain ⟨tree', after', ran'⟩ := exists_of_isOk succeeds'
  refine ⟨tree, tree', after, after', ran, ran', ?_⟩
  refine expansion_inlines views [reader] [opened] store model structural regular spared _ _
    inlined (.ofCaller .service) 32 16 { supply := ⟨9⟩ } { supply := ⟨9⟩ } ?_ ?_ ran ran'
  · simp [Expr.Issued, query, rows, count, Expr.nodes, Expr.nodesOf, Expr.id, Expr.stamp]
  · simp [Expr.Issued, query, rows, count, first, Expr.nodes, Expr.nodesOf, Expr.id, Expr.stamp]

/-- A predicate that holds the reference it is asked about. While the selector is walked the
reference is substituted there as well; inlining the view among its arguments makes it another node,
and the one that the predicate holds is filtered once more. -/
theorem held_customers_differ :
    let model : Model := {
      space := "shop"
      entityTypes := [
        ("Customer", { name := "Customer", fields := [] }),
        ("Order", { name := "Order", fields := [] })]
      elements := [
        ("Customers", .collection "Customers" "Customer"),
        ("Orders", .collection "Orders" "Order"),
        ("Recent", .collection "Recent" "Order")] }
    let store : Store := { collections := [("Customers", []), ("Orders", [])] }
    let views : Views := ⟨[
      ("Recent", fun _ _ => liftM (Fresh.source none "Orders" [] (.queryable (.entity "Order"))))]⟩
    let orders (id : Nat) (name : String) : Expr :=
      .source ⟨id, .queryable (.entity "Order")⟩ none name []
    let customers (id : Nat) (arg : Expr) : Expr :=
      .source ⟨id, .queryable (.entity "Customer")⟩ none "Customers" [arg]
    let held : Expr := customers 1 (orders 0 "Recent")
    let known : CollectionFilter := ⟨[("Customers", fun _ => Fresh.call .any [held])]⟩
    (∀ rows ∈ [known], views.Spares model rows) ∧
      Inlined views model held.erased (customers 3 (orders 2 "Orders")).erased ∧
      ∃ tree tree' after after',
        run (registry views [] [known] store) held { model, request := {}, maxDepth := 16 }
          { supply := ⟨4⟩ } = (.ok tree, after) ∧
        run (registry views [] [known] store) (customers 3 (orders 2 "Orders"))
          { model, request := {}, maxDepth := 16 } { supply := ⟨4⟩ } = (.ok tree', after') ∧
        tree.erased ≠ tree'.erased ∧
        after.context.sourcingCalls = 2 ∧ after'.context.sourcingCalls = 3 := by
  intro model store views orders customers held known
  refine ⟨?_, ?_, ?_⟩
  · intro rows member qualifier name element viewed resolved
    cases List.mem_singleton.mp member
    obtain ⟨definition, found⟩ := Option.isSome_iff_exists.mp viewed
    cases List.mem_singleton.mp (Entries.mem_of_find? found)
    have known : model.resolve? none "Recent" = some (.collection "Recent" "Order") := rfl
    cases known.symm.trans (Model.resolve?_unqualified resolved)
    rfl
  · have recent : Inlined views model (orders 0 "Recent").erased (orders 0 "Orders").erased := by
      apply Inlined.view
      · exact ⟨_, [], ⟨0⟩, _, _, rfl, rfl, rfl, rfl⟩
      · have free : (orders 0 "Orders").hasNode views.isView = false := rfl
        exact .of_unviewed free
    exact @Inlined.kept _ _ _ [_] rfl (.cons recent .nil)
  · generalize ran : run (registry views [] [known] store) held
      { model, request := {}, maxDepth := 16 } { supply := ⟨4⟩ } = walked
    generalize ran' : run (registry views [] [known] store) (customers 3 (orders 2 "Orders"))
      { model, request := {}, maxDepth := 16 } { supply := ⟨4⟩ } = walked'
    have differ : walked.1.toOption.map Expr.erased ≠ walked'.1.toOption.map Expr.erased := by
      rw [← ran, ← ran']
      decide +kernel
    have succeeds : walked.1.isOk = true ∧ walked'.1.isOk = true := by
      rw [← ran, ← ran']
      decide +kernel
    have counted : walked.2.context.sourcingCalls = 2 ∧ walked'.2.context.sourcingCalls = 3 := by
      rw [← ran, ← ran']
      decide +kernel
    clear ran ran'
    obtain ⟨tree, after, rfl⟩ := exists_of_isOk succeeds.1
    obtain ⟨tree', after', rfl⟩ := exists_of_isOk succeeds.2
    refine ⟨tree, tree', after, after', rfl, rfl, ?_, counted⟩
    intro same
    exact differ (congrArg some same)

end QueryRewriting.Access.Views
