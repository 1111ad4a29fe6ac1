import QueryRewriting.Proofs.Rewriting.Realization

/-! What inspectors are shown. Without expanders and filters a walk shows every node of the query to
all inspectors, each node after its children: the node as it is normalized, with the binding that it
has under the nodes around it as they were submitted. A walk that fails has shown the first of them. -/
namespace QueryRewriting.Rewriting

open Access Schema Walk

/-- The consultations of inspectors, the first one first. -/
def Context.inspections (context : Context) : List Consultation :=
  (context.journal.filter fun entry => entry.point matches .inspect).reverse

namespace Context

variable {context entered : Context}

theorem inspections_of_journal (same : entered.journal = context.journal) :
    entered.inspections = context.inspections := by
  unfold inspections
  rw [same]

theorem inspections_consulting {point : Point} (other : point ≠ .inspect) (hook : String) :
    (context.consulting point hook).inspections = context.inspections := by
  cases point with
  | inspect => contradiction
  | normalize | expand | filter | source => rfl

theorem inspections_inspect (hook : String) : (context.consulting .inspect hook).inspections =
    context.inspections ++ [⟨.inspect, hook, context.frame, context.depth⟩] := by
  unfold inspections consulting
  rw [List.filter_cons_of_pos rfl, List.reverse_cons]

end Context

namespace Plan

variable (plan : Plan)

/-- The nodes of a tree that are visited, in the order in which they are inspected. Each one comes
with the nodes around it, the innermost first. -/
def places (around : List Expr) (e : Expr) : List (List Expr) :=
  (match plan.role e with
    | .plain => e.children.attach.flatMap fun child => places (e :: around) child.1
    | _ => []) ++ [e :: around]
termination_by sizeOf e
decreasing_by exact Expr.sizeOf_lt_of_mem_children child.2

/-- What inspectors of some names are shown of a tree. -/
def sights (inspectors : List String) (around : List Expr) (e : Expr) :
    List (String × List Expr) :=
  (plan.places around e).flatMap fun place => inspectors.map fun name => (name, place)

/-- An inspector has been shown the node of a place. -/
structure Shown (sight : String × List Expr) (entry : Consultation) : Prop where
  hook : entry.hook = sight.1
  depth : entry.depth = sight.2.length + 1
  frame : ∃ e around node, sight.2 = e :: around ∧ entry.frame.node = some node ∧
    plan.Normal e node entry.frame.binding ∧
    Binding.bind plan.model around node = .ok entry.frame.binding

variable {plan}

theorem places_plain {e : Expr} {around : List Expr} (role : plan.role e = .plain) :
    plan.places around e =
      e.children.flatMap (plan.places (e :: around)) ++ [e :: around] := by
  rw [places, role]
  simp only [List.flatMap_subtype, List.unattach_attach]

theorem places_leaf {e : Expr} {around : List Expr} (role : plan.role e ≠ .plain) :
    plan.places around e = [e :: around] := by
  unfold places
  split
  · contradiction
  · rfl

theorem sights_plain {inspectors : List String} {e : Expr} {around : List Expr}
    (role : plan.role e = .plain) : plan.sights inspectors around e =
      e.children.flatMap (plan.sights inspectors (e :: around)) ++
        inspectors.map fun name => (name, e :: around) := by
  unfold sights
  rw [places_plain role, List.flatMap_append, List.flatMap_assoc, List.flatMap_singleton]

theorem sights_reference {inspectors : List String} {e : Expr} {around : List Expr}
    {target : DataReference} {type : QueryType} (role : plan.role e = .reference target type) :
    plan.sights inspectors around e = inspectors.map fun name => (name, e :: around) := by
  unfold sights
  rw [places_leaf (by simp [role]), List.flatMap_singleton]

variable (plan) in
/-- Inspectors are shown some sights in turn. A step that fails has shown the first of them. -/
def showing : Account (List (String × List Expr)) where
  done sights before after := ∃ seen,
    after.context.inspections = before.context.inspections ++ seen ∧
      List.Forall₂ plan.Shown sights seen
  failed sights _ before after := ∃ part seen, part <+: sights ∧
    after.context.inspections = before.context.inspections ++ seen ∧
      List.Forall₂ plan.Shown part seen
  idle := []
  join first rest := first ++ rest
  idle_join _ := rfl
  join_idle := List.append_nil
  done_idle _ _ := ⟨[], (List.append_nil _).symm, .nil⟩
  done_join := by
    rintro first rest before middle after ⟨seen, shown, matching⟩ ⟨more, further, alike⟩
    refine ⟨seen ++ more, ?_, List.rel_append matching alike⟩
    rw [further, shown, List.append_assoc]
  failed_first := by
    rintro first rest error before after ⟨part, seen, early, shown⟩
    exact ⟨part, seen, early.trans (List.prefix_append _ _), shown⟩
  failed_rest := by
    rintro first rest error before middle after - ⟨seen, shown, matching⟩
      ⟨part, more, early, further, alike⟩
    refine ⟨first ++ part, seen ++ more, ?_, ?_, List.rel_append matching alike⟩
    · exact (List.prefix_append_right_inj _).mpr early
    · rw [further, shown, List.append_assoc]

theorem showing_unstacked : plan.showing.Unstacked :=
  ⟨fun _ _ _ => .rfl, fun _ _ _ _ => .rfl⟩

variable (plan) in
/-- A step shows inspectors some sights in turn and hands the setting back, or it fails after the
first of them. -/
abbrev Shows {α : Type} (step : Walk α) (sights : List (String × List Expr)) (before : Recording) :
    Prop :=
  plan.showing.Charges sights step (fun _ => True) before

section Rules

variable {α : Type} {before : Recording} {step : Walk α} {sights : List (String × List Expr)}

/-- A failure before inspectors are shown anything. -/
theorem failed_unshown {error : Error} {after : Recording}
    (same : after.context.inspections = before.context.inspections) :
    plan.showing.failed sights error before after :=
  ⟨[], [], List.nil_prefix, by rw [same, List.append_nil], .nil⟩

theorem shows_kept (kept : Keeps (fun context => (context.setting, context.inspections)) step) :
    plan.Shows step [] before := by
  apply (kept before).mono
  · intro value after same
    obtain ⟨setting, inspections⟩ := Prod.mk.inj same
    exact ⟨setting, ⟨[], by rw [inspections, List.append_nil], .nil⟩, trivial⟩
  · intro error after same
    obtain ⟨-, inspections⟩ := Prod.mk.inj same
    exact failed_unshown inspections

theorem shows_mapM {visit : Expr → Walk Expr} {each : Expr → List (String × List Expr)}
    {nodes : List Expr}
    (visits : ∀ node ∈ nodes, ∀ state, state.context.setting = before.context.setting →
      plan.Shows (visit node) (each node) state) :
    plan.Shows (nodes.mapM visit) (nodes.flatMap each) before :=
  (Account.charges_mapM List.flatMap_nil (fun _ _ => List.flatMap_cons) visits).mono
    fun _ _ => trivial

end Rules

section Frame

variable {registry : Registry} {before : Recording} {e node : Expr} {binding : Binding}
  {outer : List Frame} {around : List Expr}

/-- The frames of some nodes with the unbound one around them all. -/
structure Within (around : List Expr) (context : Context) : Prop where
  nodes : context.frames.filterMap Frame.node = around
  depth : context.depth = around.length + 1

/-- Inspectors are shown the node of the frame one after the other. -/
theorem shows_inspect (frames : before.context.frames = ⟨some node, binding⟩ :: outer)
    (deep : before.context.depth = around.length + 2) (normal : plan.Normal e node binding)
    (bound : Binding.bind plan.model around node = .ok binding) (inspectors : List (Hook Bool)) :
    plan.Shows (Walk.inspect node inspectors)
      ((inspectors.map Hook.name).map fun name => (name, e :: around)) before := by
  induction inspectors generalizing before with
  | nil => exact Account.charges_pure trivial
  | cons hook rest ih =>
    have frame : before.context.frame = ⟨some node, binding⟩ := Context.frame_of_frames frames
    have shown : plan.Shown (hook.name, e :: around)
        ⟨.inspect, hook.name, before.context.frame, before.context.depth⟩ := by
      refine ⟨rfl, deep, e, around, node, rfl, ?_, ?_, ?_⟩ <;> rw [frame]
      · exact normal
      · exact bound
    have asked : plan.Shows (consult .verdict .inspect hook) [(hook.name, e :: around)] before := by
      apply (ends_consult _ _ _).mpr
      have seen : (before.context.consulting .inspect hook.name).inspections = _ :=
        Context.inspections_inspect hook.name
      split
      · exact ⟨rfl, ⟨_, seen, .cons shown .nil⟩, trivial⟩
      · exact ⟨_, _, List.prefix_rfl, seen, .cons shown .nil⟩
    refine asked.bind fun passes middle same _ => ?_
    have frames : middle.context.frames = ⟨some node, binding⟩ :: outer :=
      (congrArg (·.frames) same : middle.context.frames = before.context.frames).trans frames
    have deep : middle.context.depth = around.length + 2 := by
      rw [← deep]
      exact (congrArg Context.depth same : middle.context.setting.depth = _)
    cases passes with
    | true => exact ih frames deep
    | false =>
      unfold Account.Charges
      simp only [Bool.false_eq_true, if_false, ends_bind, ends_context, ends_event]
      exact failed_unshown rfl

/-- The walk of a query shows its sights from every state in which nothing is substituted. -/
def Watches (plan : Plan) (registry : Registry) (visit : Expr → Walk Expr) : Prop :=
  ∀ e around before, before.context.model = plan.model → before.context.substitutions = [] →
    Within around before.context →
    plan.Shows (visit e) (plan.sights (registry.inspectors.reverse.map Hook.name) around e) before

/-- A registry of a normalizer for the root of a plan, inspectors and a sourcer. -/
structure Inspecting (plan : Plan) (registry : Registry) : Prop where
  normalizers : registry.normalizers = (plan.root.map RootMember.hook).toList
  expanders : registry.expanders = []
  filters : registry.filters = []

theorem keeps_normalize (registry : Registry) (node : Expr) :
    Keeps Context.inspections (Walk.normalize registry node) := by
  refine Follows.bind (follows_replacement? (fun hook _ => keeps_consult ?_ hook) _)
    fun offered => ?_
  · exact fun _ _ => Context.inspections_consulting (by simp) _
  · cases offered with
    | none => exact follows_pure _
    | some normalized =>
      apply follows_trying
      intro before context replaced
      apply Context.inspections_of_journal
      rw [Context.replace_frames replaced]

/-- Without expanders and filters, what follows the visits of the children shows the node itself. -/
theorem shows_judged {revisit : Expr → Walk Expr} (inspecting : plan.Inspecting registry)
    (frames : before.context.frames = ⟨some node, binding⟩ :: outer)
    (deep : outer.length = around.length + 1)
    (bound : Binding.bind plan.model around node = .ok binding) (normal : plan.Normal e node binding)
    (rewritten : Expr) :
    plan.Shows (do
        Walk.inspect node registry.inspectors.reverse
        let expanded ← expansion registry node binding.isReference
        let current ← expandedOr revisit rewritten expanded
        let current ← filtered revisit node registry.filters current
        source registry current)
      ((registry.inspectors.reverse.map Hook.name).map fun name => (name, e :: around))
      before := by
  have depth : before.context.depth = around.length + 2 := by
    rw [Context.depth, frames, List.length_cons, deep]
  rw [← List.append_nil ((registry.inspectors.reverse.map Hook.name).map _)]
  refine (shows_inspect frames depth normal bound _).bind fun _ after _ _ => ?_
  rw [expansion_of_none inspecting.expanders, pure_bind, expandedOr, pure_bind,
    inspecting.filters, filtered, pure_bind]
  apply shows_kept
  apply follows_source
  · intro sourcer _ mode
    exact keeps_consult (fun _ _ => Prod.ext rfl (Context.inspections_consulting (by simp) _)) _
  · intro root before
    rfl

/-- The visits of its children show what is below a node. -/
theorem shows_children {visit : Expr → Walk Expr} (watches : plan.Watches registry visit)
    (modelled : before.context.model = plan.model) (bare : before.context.substitutions = [])
    (frames : before.context.frames = ⟨some node, binding⟩ :: outer)
    (nodes : outer.filterMap Frame.node = around) (deep : outer.length = around.length + 1) :
    plan.Shows (children visit node) (node.children.flatMap
      (plan.sights (registry.inspectors.reverse.map Hook.name) (node :: around))) before := by
  have visited : plan.Shows (node.children.mapM visit) (node.children.flatMap
      (plan.sights (registry.inspectors.reverse.map Hook.name) (node :: around))) before := by
    refine shows_mapM fun child member state same => ?_
    apply watches
    · exact (congrArg (·.model) same : state.context.model = _).trans modelled
    · exact (congrArg (·.substitutions) same : state.context.substitutions = _).trans bare
    · have placed : state.context.frames = ⟨some node, binding⟩ :: outer :=
        (congrArg (·.frames) same : state.context.frames = before.context.frames).trans frames
      constructor
      · rw [placed, ← nodes]
        rfl
      · rw [Context.depth, placed, List.length_cons, deep, List.length_cons]
  exact (Account.charges_children visited).mono fun _ _ => trivial

theorem shows_normalized {visit revisit : Expr → Walk Expr}
    (inspecting : plan.Inspecting registry) (watches : plan.Watches registry visit)
    (modelled : before.context.model = plan.model)
    (bare : before.context.substitutions = [])
    (frames : before.context.frames = ⟨some node, binding⟩ :: outer)
    (nodes : outer.filterMap Frame.node = around) (deep : outer.length = around.length + 1)
    (bound : before.context.bindIn outer node = .ok binding) (normal : plan.Normal e node binding) :
    plan.Shows (Walk.normalized registry visit revisit e)
      (plan.sights (registry.inspectors.reverse.map Hook.name) around e) before := by
  have here : before.context.binding = binding := Context.binding_of_frames frames
  have under : before.context.node? = some node := Context.node?_of_frames frames
  have bound : Binding.bind plan.model around node = .ok binding := by
    rw [← modelled, ← nodes]
    exact Context.bindIn_ok bound
  have becomes := normal
  unfold Walk.normalized Shows Account.Charges
  rw [ends_bind, ends_context, ends_bind, ends_context, here, under, Option.getD_some]
  unfold Normal at becomes
  cases role : plan.role e with
  | broken =>
    rw [role] at becomes
    exact becomes.elim
  | reference target type =>
    rw [role] at becomes
    obtain ⟨rfl, -, -⟩ := becomes
    rw [sights_reference role]
    simp only [descended, Binding.isReference, Binding.reference?, Option.isSome_some, if_true,
      pure_bind]
    exact shows_judged inspecting frames deep bound normal node
  | plain =>
    rw [role] at becomes
    obtain ⟨rfl, unbound⟩ := becomes
    rw [sights_plain role]
    have plain : binding.isReference = false := by rw [Binding.isReference, unbound]; rfl
    simp only [descended, plain, Bool.false_eq_true, if_false]
    have visited := shows_children watches modelled bare frames nodes deep
    refine visited.bind fun rewritten middle same _ => ?_
    rw [← plain]
    exact shows_judged inspecting ((congrArg (·.frames) same :).trans frames) deep bound normal
      rewritten

theorem shows_inFrame {visit revisit : Expr → Walk Expr} (inspecting : plan.Inspecting registry)
    (watches : plan.Watches registry visit) (modelled : before.context.model = plan.model)
    (bare : before.context.substitutions = [])
    (frames : before.context.frames = ⟨some e, binding⟩ :: outer)
    (nodes : outer.filterMap Frame.node = around) (deep : outer.length = around.length + 1)
    (bound : before.context.bindIn outer e = .ok binding) :
    let sights := plan.sights (registry.inspectors.reverse.map Hook.name) around e
    Ends (inFrame registry visit revisit e)
      (fun _ after => after.context.surroundings = before.context.surroundings ∧
        plan.showing.done sights before after ∧ True)
      (fun error after => plan.showing.failed sights error before after) before := by
  intro sights
  rw [inFrame, ends_bind]
  apply ((normalize_settles inspecting.normalizers modelled frames bound).and
    (keeps_normalize registry e before)).mono
  · rintro - middle ⟨⟨node, binding, same, bound, normal⟩, quiet⟩
    let reframed : Context := { before.context with frames := ⟨some node, binding⟩ :: outer }
    have setting : middle.context.setting = reframed.setting := Context.setting_of_substance same
    have model : middle.context.model = before.context.model := congrArg (·.model) setting
    have bound : middle.context.bindIn outer node = .ok binding := by
      rw [Context.bindIn_eq_of_model model]
      exact bound
    have shown : plan.Shows (Walk.normalized registry visit revisit e) sights middle :=
      shows_normalized inspecting watches (model.trans modelled)
        ((congrArg (·.substitutions) setting : middle.context.substitutions = _).trans bare)
        (congrArg (·.frames) setting) nodes deep bound normal
    have unseen : plan.showing.done [] before middle :=
      ⟨[], by rw [quiet, List.append_nil], .nil⟩
    have around : middle.context.surroundings = before.context.surroundings :=
      (Context.surroundings_eq setting).trans (Context.surroundings_framed frames)
    apply Ends.mono shown
    · rintro tree after ⟨still, seen, -⟩
      exact ⟨(Context.surroundings_eq still).trans around, plan.showing.done_join unseen seen,
        trivial⟩
    · intro error after shown
      exact plan.showing.failed_rest around unseen shown
  · rintro error after ⟨-, quiet⟩
    exact failed_unshown quiet

/-- By induction on the frames that may still be entered. -/
theorem watches_walk (inspecting : plan.Inspecting registry) (room : Nat) :
    plan.Watches registry (Walk.visit registry room) := by
  induction room with
  | zero =>
    intro e around before _ _ _
    exact failed_unshown rfl
  | succ room ih =>
    intro e around before modelled bare within
    apply (ends_visit (Context.substitution?_of_bare bare e)).mpr
    refine Account.charges_framed showing_unstacked (fun _ _ => failed_unshown rfl) ?_
    intro entered pushed
    obtain ⟨binding, frames, bound⟩ := Context.entered_some pushed
    have model : entered.model = plan.model := by
      rw [Context.push_frames pushed]
      exact modelled
    have unsubstituted : entered.substitutions = [] := by
      rw [Context.push_frames pushed]
      exact bare
    exact shows_inFrame inspecting ih model unsubstituted frames within.nodes within.depth bound

end Frame

/-- A walk that only normalizes, inspects and sources shows inspectors the sights of the query, all
of them if it succeeds. -/
theorem inspections_of_run {registry : Registry} (inspecting : plan.Inspecting registry)
    (query : Expr) (request : RequestContext) (maxDepth : Nat) (ambient : Ambient) :
    let sights := plan.sights (registry.inspectors.reverse.map Hook.name) [] query
    let walked := run registry query { model := plan.model, request, maxDepth } ambient
    ∃ part, part <+: sights ∧ List.Forall₂ plan.Shown part walked.2.context.inspections ∧
      (walked.1.isOk = true → part = sights) := by
  intro sights walked
  have shown : plan.Shows (whole registry query) sights
      { context := { model := plan.model, request, maxDepth }, ambient } := by
    apply (ends_whole _ _).mpr
    cases maxDepth - ({ model := plan.model, request, maxDepth } : Context).depth with
    | zero => exact failed_unshown rfl
    | succ room =>
      refine Account.charges_nested showing_unstacked (fun _ _ => failed_unshown rfl) ?_
      intro entered pushed
      cases Context.push_none pushed
      exact watches_walk inspecting room query [] _ rfl rfl ⟨rfl, rfl⟩
  rcases ran : walked with ⟨error | tree, after⟩
  · obtain ⟨inquiries, ran⟩ := recorded_of_run ran
    obtain ⟨part, seen, early, inspections, matching⟩ := Ends.failed_of_error shown ran
    refine ⟨part, early, ?_, ?_⟩
    · rw [inspections]
      exact matching
    · intro never
      contradiction
  · obtain ⟨inquiries, ran⟩ := recorded_of_run ran
    obtain ⟨-, ⟨seen, inspections, matching⟩, -⟩ := Ends.done_of_ok shown ran
    refine ⟨sights, List.prefix_rfl, ?_, fun _ => rfl⟩
    rw [inspections]
    exact matching

end Plan

end QueryRewriting.Rewriting
