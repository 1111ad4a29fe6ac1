import QueryRewriting.Proofs.Rewriting.Realization

/-! What visits come to, and what filters make of a reference with the visits of what they offer:
one `where` call after the other around what stands for the reference. -/
namespace QueryRewriting.Rewriting

open Access Schema Walk

namespace Plan

variable {plan : Plan} {registry : Registry} {before : Recording} {context : Context}

/-- The nodes of all frames can be bound wherever such nodes enclose them. -/
def FramesBind (plan : Plan) (frames : List Frame) : Prop :=
  ∀ frame ∈ frames, ∀ node, frame.node = some node → node.binds plan.model = true

/-- What a visit of a tree comes to. -/
structure Resolved (plan : Plan) (before : Context) (e tree : Expr) (after : Context) : Prop where
  ready : plan.Ready after
  resolve : plan.resolve? before.substitutions e = some tree.erased
  collection : after.collection = if Context.inLambda before.frames then before.collection
    else plan.collected before.substitutions e before.collection

/-- Why a visit may fail: a tree that can be resolved and that all inspectors pass is too deep. -/
def Excused (plan : Plan) (registry : Registry) (before : Context) (e : Expr) (error : Error) :
    Prop :=
  (plan.resolve? before.substitutions e).isSome = true → plan.Passes registry e →
    plan.FramesBind before.frames → error = .depthExceeded before.maxDepth

/-- A step carries out the plan for a tree. -/
def Carries (plan : Plan) (registry : Registry) (e : Expr) (step : Walk Expr) (before : Recording) :
    Prop :=
  Ends step (fun tree after => plan.Resolved before.context e tree after.context)
    (fun error _ => plan.Excused registry before.context e error) before

theorem binds_of_role {e : Expr} (role : ∃ target type, plan.role e = .reference target type) :
    e.binds plan.model = true := by
  obtain ⟨target, type, role⟩ := role
  cases e with
  | source stamp qualifier name args =>
    simp only [Plan.role] at role
    split at role
    · next found => simp [Expr.binds, found]
    · contradiction
  | member stamp inner name =>
    cases inner with
    | parameter => rfl
    | _ => simp [Plan.role, RootMember.accessed?, accessRole] at role
  | _ => simp [Plan.role, RootMember.accessed?, accessRole] at role

/-- A tree that can be resolved can be bound. -/
theorem binds_of_resolve {under : Substitutions} {e : Expr}
    (resolved : (plan.resolve? under e).isSome = true)
    (standing : ∀ entry ∈ under, plan.Stands entry.1 entry.2) : e.binds plan.model = true := by
  induction e using Expr.ofChildren with
  | step e ih =>
    cases found : substitute? under e with
    | some substitute =>
      obtain ⟨entry, first, -⟩ := Option.map_eq_some_iff.mp found
      have same : entry.1 = e := by simpa using List.find?_some first
      exact binds_of_role (same ▸ (standing entry (List.mem_of_find?_eq_some first)).1)
    | none =>
      cases role : plan.role e with
      | broken => simp [resolve?, resolving_broken found role] at resolved
      | reference target type => exact binds_of_role ⟨target, type, role⟩
      | plain =>
        rw [Expr.binds_eq (isSource_of_plain role), List.all_eq_true]
        intro child member
        refine ih child member ?_
        rw [resolve?, resolving_plain found role, Option.isSome_map] at resolved
        exact isSome_of_mapM resolved member

theorem Ready.bindIn (ready : plan.Ready context) {node : Expr} {frames : List Frame}
    (binds : node.binds plan.model = true) (outer : plan.FramesBind frames) :
    ∃ binding, context.bindIn frames node = .ok binding := by
  refine Context.bindIn_of_binds (ready.model_eq ▸ binds) fun frame member node shape => ?_
  rw [ready.model_eq]
  exact outer frame member node shape

theorem Passes.of_reached {e child : Expr} (passes : plan.Passes registry e)
    (below : ∀ reached ∈ plan.reached child, reached ∈ plan.reached e) :
    plan.Passes registry child := by
  intro hook listed context ambient modelled requested refers
  refine passes hook listed context ambient modelled requested fun target bound => ?_
  obtain ⟨type, member⟩ := refers target bound
  exact ⟨type, below _ member⟩

section Visits

variable {visit revisit : Expr → Walk Expr}

/-- Visiting trees in turn carries out the plan for all of them. -/
theorem visits_resolve (kept : ∀ node, Keeps Context.setting (visit node))
    (each : ∀ node before, plan.Ready before.context → before.context.frames ≠ [] →
      plan.Carries registry node (visit node) before)
    (nodes : List Expr) (ready : plan.Ready before.context)
    (inside : before.context.frames ≠ []) :
    Ends (nodes.mapM visit)
      (fun trees after => after.context.setting = before.context.setting ∧
        plan.Ready after.context ∧
        nodes.mapM (plan.resolve? before.context.substitutions) = some (trees.map Expr.erased) ∧
        after.context.collection = if Context.inLambda before.context.frames then
          before.context.collection else nodes.foldl (fun found node =>
            plan.collected before.context.substitutions node found) before.context.collection)
      (fun error _ => (nodes.mapM (plan.resolve? before.context.substitutions)).isSome = true →
        (∀ node ∈ nodes, plan.Passes registry node) → plan.FramesBind before.context.frames →
        error = .depthExceeded before.context.maxDepth) before := by
  induction nodes generalizing before with
  | nil => exact ⟨rfl, ready, rfl, by simp⟩
  | cons node rest ih =>
    simp only [List.mapM_cons, ends_bind, ends_pure]
    refine ((kept node before).and (each node before ready inside)).mono ?_ ?_
    · rintro tree middle ⟨same, resolved⟩
      have frames : middle.context.frames = before.context.frames := congrArg (·.frames) same
      have under : middle.context.substitutions = before.context.substitutions :=
        congrArg (·.substitutions) same
      have limit : middle.context.maxDepth = before.context.maxDepth := congrArg (·.maxDepth) same
      refine (ih resolved.ready (frames ▸ inside)).mono ?_ ?_
      · rintro trees after ⟨same', next, others, collection⟩
        rw [under] at others collection
        rw [frames, resolved.collection] at collection
        refine ⟨same'.trans same, next, ?_, ?_⟩
        · simp [resolved.resolve, others]
        · rw [collection]
          split <;> simp
      · intro error after excuse resolvable passes binds
        rw [under, frames, limit] at excuse
        refine excuse ?_ (fun other member => passes other (List.mem_cons_of_mem _ member)) binds
        cases visited : rest.mapM (plan.resolve? before.context.substitutions) with
        | some values => rfl
        | none => simp [visited] at resolvable
    · rintro error after ⟨-, excuse⟩ resolvable passes binds
      refine excuse ?_ (passes node List.mem_cons_self) binds
      cases visited : plan.resolve? before.context.substitutions node with
      | some value => rfl
      | none => simp [visited] at resolvable

/-- What filters have made of a reference so far: itself, or a call around something sourced. -/
def Made (node current : Expr) : Prop :=
  current = node ∨ ∃ stamp inner selector,
    current.erased = .call stamp .filter [inner, selector] ∧ inner.isSource = false

theorem call_of_erased {current : Expr} {stamp : Stamp} {method : Method} {args : List Expr}
    (shape : current.erased = .call stamp method args) :
    ∃ stamp args, current = .call stamp method args := by
  cases current <;> simp_all [Expr.erased]

theorem isSource_standing {substitute tree : Expr}
    (stands : plan.standing? substitute = some tree) :
    tree.isSource = false := by
  unfold standing? at stands
  split at stands
  · split at stands
    · unfold fragment? at stands
      split at stands
      · cases stands
        rfl
      · contradiction
    · contradiction
  · next other =>
    cases stands
    cases substitute with
    | source => exact (other _ _ _ _ rfl).elim
    | _ => rfl

/-- What a filter offers for a reference is resolved to a call around what stands for the
reference. -/
theorem resolve_offered {under : Substitutions} {node current lambda : Expr} {stamp : Stamp}
    (stands : ∀ entry ∈ (node, current) :: under, plan.Stands entry.1 entry.2)
    (unreached : plan.reached lambda = []) :
    plan.resolve? ((node, current) :: under) (.call stamp .filter [node, lambda]) =
      (plan.standing? current).bind fun inner => (plan.selected? lambda.erased).map fun selector =>
        .call (.anonymous stamp.type) .filter [inner, selector] := by
  have free :
      substitute? ((node, current) :: under) (.call stamp .filter [node, lambda]) = none := by
    simp only [substitute?, Option.map_eq_none_iff, List.find?_eq_none, decide_eq_true_eq]
    rintro entry member same
    have source := (stands entry member).2.1
    rw [same] at source
    contradiction
  have first : plan.resolving plan.sourced? ((node, current) :: under) node =
      plan.standing? current := resolving_substituted (by simp [substitute?])
  have second : plan.resolving plan.sourced? ((node, current) :: under) lambda =
      plan.selected? lambda.erased :=
    resolving_unreached unreached (fun entry member => (stands entry member).1) _
  rw [resolve?, resolving_plain free (role_call _ _ _)]
  simp only [Expr.children, List.mapM_cons, List.mapM_nil, first, second]
  cases plan.standing? current <;> cases plan.selected? lambda.erased <;> rfl

theorem ownerOf?_call (stamp : Stamp) (method : Method) (args : List Expr) :
    plan.ownerOf? (.call stamp method args) = none := rfl

theorem substitute?_of_role {under : Substitutions} {e : Expr}
    (stands : ∀ entry ∈ under, plan.Stands entry.1 entry.2)
    (plain : ∀ target type, plan.role e ≠ .reference target type) : substitute? under e = none := by
  simp only [substitute?, Option.map_eq_none_iff, List.find?_eq_none, decide_eq_true_eq]
  rintro entry member rfl
  obtain ⟨target, type, role⟩ := (stands entry member).1
  exact plain target type role

/-- A reference without an owner leaves the collection alone, whatever stands for it. -/
theorem collected_offered {under : Substitutions} {node current lambda : Expr} {stamp : Stamp}
    (stands : ∀ entry ∈ (node, current) :: under, plan.Stands entry.1 entry.2)
    (unreached : plan.reached lambda = []) (bodied : lambda.isLambda = true)
    (unowned : plan.ownerOf? node = none) (found : Option String) :
    plan.collected ((node, current) :: under) (.call stamp .filter [node, lambda]) found =
      found := by
  have plain (target : DataReference) (type : QueryType) :
      plan.role lambda ≠ .reference target type := by
    intro role
    rw [reached_reference role] at unreached
    contradiction
  have first : plan.collected ((node, current) :: under) node found = found := by
    have idle : plan.ownerOf? current = none := by
      have shape : current = node ∨ ∃ stamp args, current = .call stamp .filter args :=
        (stands _ List.mem_cons_self).2.2
      rcases shape with rfl | ⟨stamp, args, rfl⟩
      · exact unowned
      · rfl
    rw [collected_substituted (show substitute? ((node, current) :: under) node = some current by
      simp [substitute?]), idle]
    rfl
  have second : plan.collected ((node, current) :: under) lambda found = found := by
    have free := substitute?_of_role stands plain
    cases role : plan.role lambda with
    | reference target type => exact (plain target type role).elim
    | plain => rw [collected_plain free role, if_pos bodied]
    | broken =>
      unfold collected
      rw [free, role]
  have free := substitute?_of_role stands (e := .call stamp .filter [node, lambda]) (by simp)
  rw [collected_plain free (role_call _ _ _), ownerOf?_call, if_neg (by simp [Expr.isLambda])]
  simp only [Expr.children, List.foldl_cons, List.foldl_nil, first, second]
  rfl

/-- What a filter's offer comes to is a call again, and stands for the reference from now on. -/
theorem made_offered {under : Substitutions} {node current lambda tree : Expr} {stamp : Stamp}
    (stands : ∀ entry ∈ (node, current) :: under, plan.Stands entry.1 entry.2)
    (unreached : plan.reached lambda = [])
    (resolved : plan.resolve? ((node, current) :: under) (.call stamp .filter [node, lambda]) =
      some tree.erased) :
    Made node tree ∧ ∃ inner selector, plan.standing? current = some inner ∧
      plan.selected? lambda.erased = some selector ∧
      plan.standing? tree = some (.call (.anonymous stamp.type) .filter [inner, selector]) := by
  rw [resolve_offered stands unreached, Option.bind_eq_some_iff] at resolved
  obtain ⟨inner, standing, resolved⟩ := resolved
  obtain ⟨selector, selected, shape⟩ := Option.map_eq_some_iff.mp resolved
  obtain ⟨stamp, args, rfl⟩ := call_of_erased shape.symm
  exact ⟨.inr ⟨_, inner, selector, shape.symm, isSource_standing standing⟩, inner, selector,
    standing, selected, congrArg some shape.symm⟩

/-- What a filter offers for a reference is neither the reference nor what has been made of it. -/
theorem Made.ne_offered {node current lambda : Expr} (made : Made node current)
    (source : node.isSource = true) (stamp : Stamp) :
    ¬(Expr.call stamp .filter [node, lambda] = node ∨
      Expr.call stamp .filter [node, lambda] = current) := by
  have other : Expr.call stamp .filter [node, lambda] ≠ node := by
    intro same
    rw [← same] at source
    contradiction
  rintro (same | rfl)
  · exact other same
  · rcases made with same | ⟨_, inner, _, shape, sourced⟩
    · exact other same
    · -- what is made is a call around something sourced, an offer one around the reference itself
      simp only [Expr.erased, Expr.erasedAll, Expr.call.injEq, List.cons.injEq] at shape
      rw [← shape.2.2.1, Expr.isSource_erased, source] at sourced
      contradiction

/-- What has been made of a reference may stand for it. -/
theorem Made.stands {node current : Expr} {target : DataReference} {type : QueryType}
    (made : Made node current) (source : node.isSource = true)
    (role : plan.role node = .reference target type) : plan.Stands node current := by
  refine ⟨⟨target, type, role⟩, source, made.imp_right ?_⟩
  rintro ⟨_, inner, selector, shape, -⟩
  exact call_of_erased shape

theorem Ready.substitute (ready : plan.Ready context) {node current : Expr}
    (stands : plan.Stands node current) : plan.Ready (context.substitute node current) :=
  ⟨ready.model_eq, ready.request_eq, ready.rooted,
    List.forall_mem_cons.mpr ⟨stands, ready.standing⟩⟩

/-- What filters have made of a reference in its frame. -/
structure Filtered (plan : Plan) (rules : List RowRule) (node : Expr) (target : DataReference)
    (outer : List Frame) (current : Expr) (before : Context) (tree : Expr) (after : Context) :
    Prop where
  setting : after.setting = before.setting
  ready : plan.Ready after
  made : Made node tree
  standing : (plan.standing? current).bind (plan.wrapped? target node.type rules) =
    plan.standing? tree
  collection : Context.inLambda outer = true ∨ plan.ownerOf? node = none →
    after.collection = before.collection

/-- Why filters may fail on a reference that they let through. -/
def Unfiltered (plan : Plan) (registry : Registry) (rules : List RowRule) (node : Expr)
    (target : DataReference) (current : Expr) (before : Context) (error : Error) : Prop :=
  ((plan.standing? current).bind (plan.wrapped? target node.type rules)).isSome = true →
    plan.Passes registry node → plan.FramesBind before.frames →
    error = .depthExceeded before.maxDepth

section Offered

variable {rule : RowRule} {rules : List RowRule} {node current lambda tree : Expr}
  {target : DataReference} {outer : List Frame} {stamp : Stamp} {asked after : Context}

/-- What the other filters make of a walked offer is what all of them make of the reference. -/
theorem wrapped?_offered (typed : stamp.type = node.type) (unreached : plan.reached lambda = [])
    (stands : ∀ entry ∈ (node, current) :: asked.substitutions, plan.Stands entry.1 entry.2)
    (ruled : rule target node.type = .wrap lambda.erased)
    (resolved : plan.resolve? ((node, current) :: asked.substitutions)
      (.call stamp .filter [node, lambda]) = some tree.erased) :
    (plan.standing? current).bind (plan.wrapped? target node.type (rule :: rules)) =
      (plan.standing? tree).bind (plan.wrapped? target node.type rules) := by
  obtain ⟨-, inner, selector, standing, selected, stood⟩ := made_offered stands unreached resolved
  rw [standing, stood, Option.bind_some, Option.bind_some, wrapped?_wrap ruled, selected,
    Option.bind_some, typed]

/-- The walk of an offer leaves the collection alone where filters have to. -/
theorem Resolved.collection_offered
    (resolved : plan.Resolved (asked.substitute node current) (.call stamp .filter [node, lambda])
      tree after)
    (frames : asked.frames = ⟨some node, .reference target⟩ :: outer)
    (stands : ∀ entry ∈ (node, current) :: asked.substitutions, plan.Stands entry.1 entry.2)
    (bodied : lambda.isLambda = true) (unreached : plan.reached lambda = [])
    (idle : Context.inLambda outer = true ∨ plan.ownerOf? node = none) :
    after.collection = asked.collection := by
  refine resolved.collection.trans ?_
  split
  · rfl
  · next outside =>
    refine collected_offered stands unreached bodied (idle.resolve_left fun within => ?_) _
    refine outside ?_
    change Context.inLambda asked.frames = true
    rw [frames]
    simp only [Context.inLambda, List.any_cons, Bool.or_eq_true]
    exact .inr within

/-- The walk of an offer may fail only where filters may. -/
theorem Excused.unfiltered {error : Error} (unreached : plan.reached lambda = [])
    (stands : ∀ entry ∈ (node, current) :: asked.substitutions, plan.Stands entry.1 entry.2)
    (ruled : rule target node.type = .wrap lambda.erased)
    (excuse : plan.Excused registry (asked.substitute node current)
      (.call stamp .filter [node, lambda]) error) :
    plan.Unfiltered registry (rule :: rules) node target current asked error := by
  intro resolvable passes binds
  refine excuse ?_ (passes.of_reached ?_) binds
  · change (plan.resolve? ((node, current) :: asked.substitutions) _).isSome = true
    rw [resolve_offered stands unreached]
    cases standing : plan.standing? current <;>
      cases selected : plan.selected? lambda.erased <;>
      simp_all [wrapped?_wrap ruled]
  · rw [reached_plain (role_call _ _ _)]
    simp [Expr.children, unreached]

end Offered

/-- Filters make of a reference what the plan says. -/
theorem filtered_resolves {node : Expr} {target : DataReference} {outer : List Frame}
    (before : Recording) (kept : ∀ node, Keeps Context.setting (revisit node))
    (again : ∀ node before, plan.Ready before.context →
      plan.Carries registry node (revisit node) before)
    {filters : List TreeHook} {rules : List RowRule}
    (applies : List.Forall₂ plan.Applies filters rules) (ready : plan.Ready before.context)
    (frames : before.context.frames = ⟨some node, .reference target⟩ :: outer)
    (source : node.isSource = true) (role : plan.role node = .reference target node.type)
    {current : Expr} (made : Made node current) :
    Ends (filtered revisit node filters current)
      (fun tree after =>
        plan.Filtered rules node target outer current before.context tree after.context)
      (fun error _ => plan.Unfiltered registry rules node target current before.context error)
      before := by
  induction applies generalizing before current with
  | nil =>
    refine ⟨rfl, ready, made, ?_, fun _ => rfl⟩
    cases plan.standing? current <;> rfl
  | @cons hook rule filters rules applies _ ih =>
    have refers : before.context.binding.reference? = some target := by
      rw [Context.binding_of_frames frames, Binding.reference?]
    obtain ⟨answer, ambient, run, answered⟩ := applies.answers ready.model_eq ready.request_eq refers
      (Context.node?_of_frames frames) before.ambient
    have asked : plan.Ready (before.context.consulting .filter hook.name) := ready.of_substance rfl
    unfold filtered
    rw [ends_bind, ends_consult_of_run run]
    cases ruled : rule target node.type with
    | refuse =>
      rw [ruled] at answered
      obtain ⟨error, rfl⟩ := answered
      intro resolvable
      cases stands : plan.standing? current <;> simp [stands, wrapped?_refuse ruled] at resolvable
    | leave =>
      rw [ruled] at answered
      subst answered
      have same : plan.wrapped? target node.type (rule :: rules) =
          plan.wrapped? target node.type rules := funext (wrapped?_leave ruled)
      refine (ih (before.inquired .filter hook.name (.offer none) ambient) asked frames made).mono
        ?_ ?_
      · intro tree after filtered
        exact { filtered with standing := same ▸ filtered.standing }
      · intro error after unfiltered
        rw [Unfiltered, same]
        exact unfiltered
    | wrap selector =>
      rw [ruled] at answered
      obtain ⟨stamp, lambda, typed, bodied, rfl, unreached, rfl⟩ := answered
      have accepted : node.type.accepts (Expr.call stamp .filter [node, lambda]).type = true := by
        rw [show (Expr.call stamp .filter [node, lambda]).type = node.type from typed]
        exact node.type.accepts_refl
      dsimp only
      rw [if_neg (made.ne_offered source stamp), ends_bind, ends_checkType, if_pos accepted,
        ends_bind, ends_substituting]
      have substituted := asked.substitute (made.stands source role)
      refine ((kept _ _).and (again _ _ substituted)).mono ?_ ?_
      · rintro tree after ⟨same, resolved⟩
        have same : after.context.endSubstitution.setting = before.context.setting :=
          (congrArg Context.endSubstitution same :
            after.context.setting.endSubstitution = before.context.setting)
        have inside : after.context.endSubstitution.frames = before.context.frames :=
          congrArg (·.frames) same
        have wrapping : (plan.standing? current).bind
              (plan.wrapped? target node.type (rule :: rules)) =
            (plan.standing? tree).bind (plan.wrapped? target node.type rules) :=
          wrapped?_offered typed unreached substituted.standing ruled resolved.resolve
        refine (ih { after with context := after.context.endSubstitution }
          (ready.of_setting same resolved.ready.rooted) (inside.trans frames)
          (made_offered substituted.standing unreached resolved.resolve).1).mono ?_ ?_
        · intro final last rest
          refine ⟨rest.setting.trans same, rest.ready, rest.made, wrapping.trans rest.standing, ?_⟩
          intro idle
          exact (rest.collection idle).trans
            (resolved.collection_offered frames substituted.standing bodied unreached idle)
        · intro error last unfiltered resolvable passes binds
          have limit : after.context.endSubstitution.maxDepth = before.context.maxDepth :=
            congrArg (·.maxDepth) same
          rw [wrapping] at resolvable
          rw [← limit]
          exact unfiltered resolvable passes (inside ▸ binds)
      · rintro error after ⟨-, excuse⟩
        exact excuse.unfiltered unreached substituted.standing ruled

end Visits

end Plan

end QueryRewriting.Rewriting
