import QueryRewriting.Access.ReadPolicy
import QueryRewriting.Access.View
import QueryRewriting.Proofs.Binding
import QueryRewriting.Proofs.Evaluation.Backend
import QueryRewriting.Proofs.Expr.Children
import QueryRewriting.Proofs.Rewriting.Drift

/-! Views that are defined by each other have no rows. Expanding one of them leads to another, and
nothing but the limit on frames ends this: a reference is expanded before any filter is asked about
it, so no substitution is in force on the way down, and what a definition builds is never the node
that it stands for. -/
namespace QueryRewriting.Access.Views

open Rewriting Rewriting.Walk Schema

/-- Whether a node is a reference to a view. -/
def isView (views : Views) : Expr → Bool
  | .source _ _ name _ => views.defines name
  | _ => false

/-- Whether a tree refers to a view outside of the arguments of references. -/
def refersIn (views : Views) (e : Expr) : Bool := e.outerReferences.any views.isView

/-- Of arguments that exist a definition builds a tree of nodes that exist from then on, and the node
at its root is new. -/
def BuildsAnew (definition : ViewDefinition) (model : Model) : Prop :=
  ∀ args supply, (∀ arg ∈ args, arg.Issued supply) →
    ∀ tree after, (definition model args).run.run supply = (.ok tree, after) →
      supply.next ≤ tree.id ∧ tree.Issued after

/-- Every view is defined by views again, over nodes that are new each time. -/
structure Circular (views : Views) (model : Model) : Prop where
  anew : ∀ name definition, Entries.find? views.definitions name = some definition →
    BuildsAnew definition model
  refers : ∀ name definition, Entries.find? views.definitions name = some definition →
    ∀ args supply, (∀ arg ∈ args, arg.Issued supply) →
      ∀ tree after, (definition model args).run.run supply = (.ok tree, after) →
        views.refersIn tree = true

variable {views : Views} {model : Model}

theorem refersIn_plain {e : Expr} (plain : e.isSource = false) :
    views.refersIn e = e.children.any views.refersIn := by
  unfold refersIn
  rw [Expr.outerReferences_eq plain, List.any_flatMap]

theorem expand_undefined {context : Context} {target : DataReference}
    (bound : context.binding = .reference target) (stored : views.defines target.name = false)
    (ambient : Ambient) : (views.expand context).run.run ambient = (.ok none, ambient) := by
  have absent : Entries.find? views.definitions target.name = none :=
    Option.isNone_iff_eq_none.mp (by simpa [defines, Entries.contains] using stored)
  unfold expand
  rw [bound]
  simp only [Binding.reference?, absent]
  rfl

/-- In the frame of a view what the definition builds of the arguments is offered. -/
theorem expand_defined {context : Context} {target : DataReference} {definition : ViewDefinition}
    (bound : context.binding = .reference target)
    (found : Entries.find? views.definitions target.name = some definition) {ambient : Ambient}
    {offered : Option Expr} {after : Ambient}
    (ran : (views.expand context).run.run ambient = (.ok offered, after)) :
    ∃ tree supply, (definition context.model target.args).run.run ambient.supply =
      (.ok tree, supply) ∧ offered = some tree ∧ after = { ambient with supply } := by
  unfold expand at ran
  rw [bound] at ran
  simp only [Binding.reference?, found] at ran
  rcases built : (definition context.model target.args).run.run ambient.supply with ⟨tree, supply⟩
  rw [← bind_pure_comp, run_bind, Act.run_attempt _ built] at ran
  cases tree with
  | error error => cases ran
  | ok tree =>
    cases ran
    exact ⟨tree, supply, rfl, rfl, rfl⟩

/-- In the frame of a view a new tree is offered, which refers to a view again. -/
theorem expand_run (circular : views.Circular model) (context : Context) {target : DataReference}
    (modelled : context.model = model) (bound : context.binding = .reference target)
    (viewed : views.defines target.name = true) {ambient : Ambient}
    (issued : ∀ arg ∈ target.args, arg.Issued ambient.supply) :
    match (views.expand context).run.run ambient with
    | (.ok offered, after) => ∃ tree, offered = some tree ∧ ambient.supply.next ≤ tree.id ∧
        tree.Issued after.supply ∧ views.refersIn tree = true
    | (.error _, _) => True := by
  obtain ⟨definition, found⟩ := Option.isSome_iff_exists.mp viewed
  subst modelled
  split
  · next offered after ran =>
    obtain ⟨tree, supply, built, rfl, rfl⟩ := expand_defined bound found ran
    obtain ⟨fresh, issuedTree⟩ := circular.anew _ _ found _ _ issued _ _ built
    exact ⟨tree, rfl, fresh, issuedTree, circular.refers _ _ found _ _ issued _ _ built⟩
  · trivial

/-- The views take no identity back where no definition does. -/
theorem expand_drifts {context : Context}
    (issues : ∀ entry ∈ views.definitions, ∀ args, (entry.2 context.model args).run.Issues) :
    (views.expand context).Drifts issuing := by
  unfold expand
  split
  · exact Act.drifts_pure _
  · split
    · exact Act.drifts_pure _
    · next definition found =>
      exact (Act.drifts_attempt _ (issues _ (Entries.mem_of_find? found) _)).map _

section Descent

variable {α β : Type} {before : Recording}

/-- A step that fails. -/
def Fails (step : Walk α) (before : Recording) : Prop :=
  Ends step (fun _ _ => False) (fun _ _ => True) before

theorem Fails.first {step : Walk α} (fails : Fails step before) (next : α → Walk β) :
    Fails (step >>= next) before := by
  unfold Fails
  rw [ends_bind]
  exact Ends.weaken fails fun _ _ never => never.elim

theorem fails_after {step : Walk α} {next : α → Walk β} {passes : α → Recording → Prop}
    (first : Ends step passes (fun _ _ => True) before)
    (rest : ∀ value middle, passes value middle → Fails (next value) middle) :
    Fails (step >>= next) before := by
  unfold Fails
  rw [ends_bind]
  exact first.weaken rest

theorem fails_nested {node : Option Expr} {step : Walk α}
    (inside : ∀ entered, before.context.push node = .ok entered →
      Fails step { before with context := entered }) : Fails (nested node step) before := by
  unfold Fails
  rw [ends_nested]
  split
  · next entered pushed => exact inside entered pushed
  · trivial

/-- The walk has come to a tree of nodes that exist, and no filter has been asked on the way. -/
structure Descends (model : Model) (e : Expr) (state : Recording) : Prop where
  modelled : state.context.model = model
  bare : state.context.substitutions = []
  issued : e.Issued state.ambient.supply

theorem Descends.onward {e : Expr} {after : Recording} (descends : Descends model e before)
    (onward : Onward before after) : Descends model e after where
  modelled := (congrArg (·.model) onward.setting : after.context.model = _).trans descends.modelled
  bare :=
    (congrArg (·.substitutions) onward.setting : after.context.substitutions = _).trans descends.bare
  issued := descends.issued.later onward.issued

/-- A visit that fails for every tree which refers to a view. -/
def Refuses (views : Views) (model : Model) (visit : Expr → Walk Expr) : Prop :=
  ∀ e before, Descends model e before → views.refersIn e = true → Fails (visit e) before

/-- The first child that refers to a view is come to, unless one before it fails. -/
theorem fails_mapM {visit : Expr → Walk Expr} (follows : ∀ e, Follows .onward (visit e))
    (refuses : Refuses views model visit)
    {nodes : List Expr} (descends : ∀ node ∈ nodes, Descends model node before)
    (refers : nodes.any views.refersIn = true) : Fails (nodes.mapM visit) before := by
  induction nodes generalizing before with
  | nil => contradiction
  | cons node rest ih =>
    rw [List.mapM_cons]
    obtain ⟨here, below⟩ := List.forall_mem_cons.mp descends
    by_cases refersHere : views.refersIn node = true
    · exact (refuses node before here refersHere).first _
    · apply fails_after (ends_onward (follows node))
      intro tree middle onward
      apply Fails.first
      apply ih
      · intro other member
        exact (below other member).onward onward
      · simpa [refersHere] using refers

end Descent

section Frames

variable {registry : Registry} {before : Recording} {e : Expr} {binding : Binding}
  {outer : List Frame}
  {visit revisit : Expr → Walk Expr}

/-- A view in its frame is expanded into a new tree that refers to a view again. -/
theorem ends_expansion (expanders : registry.expanders = [views.hook])
    (circular : views.Circular model) (descends : Descends model e before)
    {target : DataReference} (bound : before.context.binding = .reference target)
    (shape : ∃ stamp, e = .source stamp target.qualifier target.name target.args)
    (viewed : views.defines target.name = true) :
    Ends (expansion registry e true)
      (fun offered after => ∃ tree, offered = some tree ∧ views.refersIn tree = true ∧
        Descends model tree after)
      (fun _ _ => True) before := by
  obtain ⟨stamp, rfl⟩ := shape
  have issued : ∀ arg ∈ target.args, arg.Issued before.ambient.supply :=
    fun arg member => descends.issued.child member
  have answer := expand_run circular (before.context.consulting .expand views.hook.name)
    descends.modelled bound viewed issued
  unfold expansion
  rw [if_pos rfl, expanders]
  simp only [List.reverse_cons, List.reverse_nil, List.nil_append, replacement?, ends_bind,
    ends_consult]
  rw [show views.hook.run = views.expand from rfl]
  revert answer
  rcases (views.expand (before.context.consulting .expand views.hook.name)).run.run before.ambient
    with ⟨_ | offered, after⟩
  · exact fun _ => trivial
  · rintro ⟨tree, rfl, fresh, exists_, refers⟩
    have other : tree ≠ .source stamp target.qualifier target.name target.args := by
      rintro rfl
      exact Nat.not_lt_of_le fresh descends.issued.id_lt
    simp only [if_neg other, ends_bind, ends_checkType, ends_pure]
    split
    · exact ⟨tree, rfl, refers, descends.modelled, descends.bare, exists_⟩
    · trivial

/-- The frame of a view fails once its expansion is walked, if no inspector rejects it before. -/
theorem fails_viewed (expanders : registry.expanders = [views.hook])
    (drifts : registry.Drifts issuing) (circular : views.Circular model)
    (again : Refuses views model revisit) (descends : Descends model e before)
    (refers : views.refersIn e = true) (source : e.isSource = true)
    (frames : before.context.frames = ⟨some e, binding⟩ :: outer)
    (bound : before.context.bindIn outer e = .ok binding) :
    Fails (normalized registry visit revisit e) before := by
  obtain ⟨target, rfl⟩ := Binding.ofNode_of_isSource source (Context.bindIn_ok bound)
  obtain ⟨-, shape⟩ := Context.bindIn_reference bound rfl
  have here : before.context.binding = .reference target := Context.binding_of_frames frames
  have viewed : views.defines target.name = true := by
    obtain ⟨stamp, rfl, -⟩ := shape
    simpa [refersIn, Expr.outerReferences, isView] using refers
  have reference : (Binding.reference target).isReference = true := rfl
  unfold normalized
  simp only [Fails, ends_bind, ends_context, Context.node?_of_frames frames, here, reference,
    Option.getD_some, descended, if_true, ends_pure]
  refine Ends.weaken (ends_onward ((advancing drifts).follows_inspect _)) fun _ middle onward => ?_
  have stays : middle.context.binding = .reference target :=
    (Context.binding_of_setting onward.setting).trans here
  obtain ⟨stamp, shaped, -⟩ := shape
  refine Ends.weaken (ends_expansion expanders circular (descends.onward onward) stays
    ⟨stamp, shaped⟩ viewed) ?_
  rintro _ after ⟨tree, rfl, refersAgain, descendsAgain⟩
  exact Ends.weaken (again tree after descendsAgain refersAgain) fun _ _ never => never.elim

/-- Another frame fails at its children. -/
theorem fails_plain (follows : ∀ e, Follows .onward (visit e)) (refuses : Refuses views model visit)
    (descends : Descends model e before) (refers : views.refersIn e = true)
    (plain : e.isSource = false) (frames : before.context.frames = ⟨some e, binding⟩ :: outer)
    (bound : before.context.bindIn outer e = .ok binding) :
    Fails (normalized registry visit revisit e) before := by
  have unbound : binding.isReference = false := by rw [← Context.isSource_of_bindIn bound, plain]
  have below : Fails (children visit e) before := by
    apply Fails.first
    apply fails_mapM follows refuses
    · intro child member
      exact ⟨descends.modelled, descends.bare, descends.issued.child member⟩
    · rwa [← refersIn_plain plain]
  unfold normalized
  simp only [Fails, ends_bind, ends_context, Context.node?_of_frames frames,
    Context.binding_of_frames frames, unbound, Option.getD_some, descended, Bool.false_eq_true,
    if_false]
  exact Ends.weaken below fun _ _ never => never.elim

/-- No visit makes anything of a tree that refers to a view, by induction on the frames that may
still be entered. -/
theorem refuses_walk (normalizers : registry.normalizers = [])
    (expanders : registry.expanders = [views.hook]) (drifts : registry.Drifts issuing)
    (circular : views.Circular model) (room : Nat) :
    Refuses views model (Walk.visit registry room) ∧
      Refuses views model (Walk.revisit registry room) := by
  induction room with
  | zero => exact ⟨fun _ _ _ _ => trivial, fun _ _ _ _ => trivial⟩
  | succ room ih =>
    obtain ⟨each, again⟩ := ih
    constructor
    · intro e before descends refers
      unfold Fails
      rw [ends_visit (Context.substitution?_of_bare descends.bare e)]
      apply fails_nested
      intro entered pushed
      obtain ⟨binding, frames, bound⟩ := Context.entered_some pushed
      have inside : Descends model e { before with context := entered } := by
        constructor
        · rw [Context.push_frames pushed]
          exact descends.modelled
        · rw [Context.push_frames pushed]
          exact descends.bare
        · exact descends.issued
      have normal : Walk.normalize registry e = pure () := by
        simp [Walk.normalize, normalizers, replacement?]
      rw [inFrame, normal, pure_bind]
      by_cases source : e.isSource = true
      · exact fails_viewed expanders drifts circular again inside refers source frames bound
      · exact fails_plain ((advancing drifts).follows_visit room) each inside refers
          (by simpa using source) frames bound
    · intro e before descends refers
      unfold Walk.revisit
      apply fails_nested
      intro entered pushed
      cases Context.push_none pushed
      exact each e _ ⟨descends.modelled, descends.bare, descends.issued⟩ refers

end Frames

/-- Views that are all defined by views again cannot be read, whatever inspectors, filters and the
sourcer do and however deep a walk may go: a query that refers to one of them is refused. -/
theorem circular_refused (registry : Registry) (normalizers : registry.normalizers = [])
    (expanders : registry.expanders = [views.hook]) (drifts : registry.Drifts issuing)
    (model : Model) (circular : views.Circular model) (query : Expr)
    (refers : views.refersIn query = true) (request : RequestContext) (maxDepth : Nat)
    (ambient : Ambient) (issued : query.Issued ambient.supply) :
    ∃ error after, run registry query { model, request, maxDepth } ambient =
      (.error error, after) := by
  have fails :
      Fails (whole registry query) { context := { model, request, maxDepth }, ambient } := by
    unfold Fails
    rw [ends_whole]
    exact (refuses_walk normalizers expanders drifts circular _).2 query _ ⟨rfl, rfl, issued⟩ refers
  rcases ran : run registry query { model, request, maxDepth } ambient with ⟨error | tree, after⟩
  · exact ⟨error, after, rfl⟩
  · obtain ⟨inquiries, ran⟩ := recorded_of_run ran
    exact (fails.done_of_ok ran).elim

/-- Past orders are the recent ones, and recent orders are the first few of the past ones. -/
theorem recent_refused :
    let model : Model := {
      space := "shop"
      entityTypes := [("Order", { name := "Order", fields := [] })]
      elements := [
        ("Orders", .collection "Orders" "Order"),
        ("Past", .collection "Past" "Order"),
        ("Recent", .collection "Recent" "Order")] }
    let store : Evaluation.Store :=
      { collections := [("Orders", []), ("Past", []), ("Recent", [])] }
    let views : Views := ⟨[
      ("Past", fun _ _ => liftM (Fresh.source none "Recent" [] (.queryable (.entity "Order")))),
      ("Recent", fun _ _ => liftM do
        let past ← Fresh.source none "Past" [] (.queryable (.entity "Order"))
        Fresh.page .take past 5)]⟩
    let registry : Registry := {
      inspectors := [ReadAuthorizer.hook { default := .authenticated }]
      expanders := [views.hook]
      sourcer := some store.sourcer }
    let rows (id : Nat) (name : String) : Expr :=
      .source ⟨id, .queryable (.entity "Order")⟩ none name []
    let query : Expr := .call ⟨0, .queryable (.entity "Order")⟩ .filter [rows 1 "Orders",
      .lambda ⟨2, .bool⟩ "o" (.call ⟨3, .bool⟩ .any [rows 4 "Recent"])]
    ∃ error after, run registry query
      { model, request := .ofCaller .service, maxDepth := 64 } { supply := ⟨5⟩ } =
        (.error error, after) := by
  intro model store views registry rows query
  have each : ∀ entry ∈ views.definitions, ∀ model args supply, ∃ tree next,
      (entry.2 model args).run.run supply = (.ok tree, ⟨next⟩) ∧ supply.next ≤ tree.id ∧
        tree.Issued ⟨next⟩ ∧ views.refersIn tree = true := by
    intro entry member _ args supply
    simp only [views, List.mem_cons, List.not_mem_nil, or_false] at member
    rcases member with rfl | rfl
    · refine ⟨rows supply.next "Recent", supply.next + 1, rfl, Nat.le_refl _, ?_, rfl⟩
      simp [Expr.Issued, rows, Expr.nodes, Expr.nodesOf, Expr.id, Expr.stamp]
    · refine ⟨.call ⟨supply.next + 2, .queryable (.entity "Order")⟩ .take
        [rows supply.next "Past", .value ⟨supply.next + 1, .int⟩ (.ofUInt64 5)],
        supply.next + 3, rfl, Nat.le_add_right _ _, ?_, rfl⟩
      simp [Expr.Issued, rows, Expr.nodes, Expr.nodesOf, Expr.id, Expr.stamp]
  have circular : views.Circular model := by
    constructor
    · intro name definition found args supply _ tree after ran
      obtain ⟨built, next, runs, fresh, issued, -⟩ :=
        each _ (Entries.mem_of_find? found) model args supply
      cases runs.symm.trans ran
      exact ⟨fresh, issued⟩
    · intro name definition found args supply _ tree after ran
      obtain ⟨built, next, runs, -, -, refers⟩ := each _ (Entries.mem_of_find? found) model args supply
      cases runs.symm.trans ran
      exact refers
  have drifts : registry.Drifts issuing := by
    constructor
    · intro hook member
      contradiction
    · intro hook member context
      cases List.mem_singleton.mp member
      exact Act.drifts_pure _
    · intro hook member context
      cases List.mem_singleton.mp member
      apply expand_drifts
      intro entry member args supply
      obtain ⟨tree, next, runs, fresh, issued, -⟩ := each entry member context.model args supply
      rw [runs]
      exact Nat.le_of_lt (Nat.lt_of_le_of_lt fresh issued.id_lt)
    · intro hook member
      contradiction
    · intro sourcer found mode context
      cases found
      exact Evaluation.Store.source_drifts _ _ _
  refine circular_refused registry rfl rfl drifts model circular query rfl _ 64 _ ?_
  simp [Expr.Issued, query, rows, Expr.nodes, Expr.nodesOf, Expr.id, Expr.stamp]

end QueryRewriting.Access.Views
