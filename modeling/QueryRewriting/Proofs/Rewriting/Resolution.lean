import QueryRewriting.Proofs.Rewriting.Filtering

/-! A walk carries out its plan. Where the hooks of a registry realize a plan, a walk that succeeds
returns what `Plan.resolve?` says, up to identities, and finds the collection that `Plan.collected`
says. A walk over a tree that can be resolved and that all inspectors pass only fails for depth. -/
namespace QueryRewriting.Rewriting

open Access Schema Walk

namespace Plan

variable {plan : Plan} {registry : Registry} {before : Recording} {context : Context}

section Visits

variable {visit revisit : Expr → Walk Expr}

theorem collectionAfter_eq {left : Frame} {outer : List Frame}
    (frames : context.frames = left :: outer) (around : outer ≠ []) :
    context.collectionAfter left outer = if Context.inLambda outer then context.collection
      else (left.binding.owner? context.model <|> context.collection) := by
  have inside : context.inLambdaBody = Context.inLambda outer := by
    simp [Context.inLambdaBody, Context.parents, frames, Context.inLambda]
  have nonempty : outer.isEmpty = false := by simpa using around
  unfold Context.collectionAfter
  rw [inside, nonempty]
  cases left.binding.owner? context.model <;> cases Context.inLambda outer <;> rfl

/-- Outside of lambdas a node belongs to the collection that its binding belongs to. -/
theorem ownerOf?_eq {node : Expr} {binding : Binding} {outer : List Frame}
    (modelled : context.model = plan.model) (bound : context.bindIn outer node = .ok binding)
    (alone : Context.inLambda outer = false ∨ binding.isReference = true) :
    plan.ownerOf? node = binding.owner? plan.model := by
  have unenclosed : Binding.ofNode plan.model (fun _ => .ok .unbound) node = .ok binding := by
    rw [← modelled]
    rcases alone with outside | refers
    · exact Context.ofNode_of_lambdaFree outside bound
    · obtain ⟨target, refers⟩ := Option.isSome_iff_exists.mp refers
      obtain ⟨rfl, stamp, rfl, found⟩ := Context.bindIn_reference bound refers
      exact Binding.ofNode_source stamp found
  unfold ownerOf?
  rw [unenclosed]

theorem standing?_reference {node : Expr} {target : DataReference} {outer : List Frame}
    (modelled : context.model = plan.model)
    (bound : context.bindIn outer node = .ok (.reference target)) :
    plan.standing? node = plan.fragment? target node.type := by
  obtain ⟨-, stamp, rfl, found⟩ := Context.bindIn_reference bound rfl
  rw [modelled] at found
  simp only [standing?, found]
  rfl

theorem inspectors_pass {e : Expr} (passes : plan.Passes registry e) (ready : plan.Ready context)
    (refers : ∀ target, context.binding.reference? = some target →
      ∃ type, (target, type) ∈ plan.reached e) :
    ∀ hook ∈ registry.inspectors.reverse, ∀ other ambient, other.substance = context.substance →
      ∃ after, (hook.run other).run.run ambient = (.ok true, after) := by
  intro hook listed other ambient same
  have ready := ready.of_substance same
  refine passes hook (List.mem_reverse.mp listed) other ambient ready.model_eq ready.request_eq ?_
  intro target bound
  have frames : other.frames = context.frames := congrArg (·.frames) same
  refine refers target ?_
  simpa [Context.binding, Context.frame, frames] using bound

/-- What a walk has come to in the frame of a node, which is left next. -/
structure Framed (plan : Plan) (before : Context) (outer : List Frame) (left : Frame)
    (e tree : Expr) (after : Context) : Prop where
  ready : plan.Ready after
  resolve : plan.resolve? before.substitutions e = some tree.erased
  collection : after.collectionAfter left outer = if Context.inLambda outer then before.collection
    else plan.collected before.substitutions e before.collection

theorem framed_plain {node : Expr} {binding : Binding} {outer : List Frame}
    (modelled : context.model = plan.model)
    (frames : context.frames = ⟨some node, binding⟩ :: outer)
    (bound : context.bindIn outer node = .ok binding) (role : plan.role node = .plain)
    {under : Substitutions} (free : substitute? under node = none) (found : Option String) :
    let below := if Context.inLambda context.frames then found
      else node.children.foldl (fun found child => plan.collected under child found) found
    (if Context.inLambda outer then below else (binding.owner? plan.model <|> below)) =
      if Context.inLambda outer then found else plan.collected under node found := by
  have within : Context.inLambda context.frames = (node.isLambda || Context.inLambda outer) := by
    simp [frames, Context.inLambda]
  rw [collected_plain free role, within]
  cases inside : Context.inLambda outer with
  | true => simp
  | false =>
    rw [← ownerOf?_eq modelled bound (.inl inside)]
    cases lambda : node.isLambda with
    | false => simp
    | true =>
      cases node with
      | lambda => rfl
      | _ => contradiction

/-- In the frame of a node without a role of its own. -/
theorem normalized_plain (realizes : plan.Realizes registry)
    (kept : ∀ node, Keeps Context.setting (visit node))
    (each : ∀ node before, plan.Ready before.context → before.context.frames ≠ [] →
      plan.Carries registry node (visit node) before)
    {entered node : Expr} {binding : Binding} {outer : List Frame}
    (ready : plan.Ready before.context)
    (frames : before.context.frames = ⟨some node, binding⟩ :: outer) (around : outer ≠ [])
    (bound : before.context.bindIn outer node = .ok binding)
    (role : plan.role node = .plain) (unbound : binding.reference? = none)
    (free : substitute? before.context.substitutions node = none) :
    Ends (normalized registry visit revisit entered)
      (fun tree after =>
        plan.Framed before.context outer ⟨some node, binding⟩ node tree after.context)
      (fun error _ => plan.Excused registry before.context node error) before := by
  have here : before.context.binding = binding := Context.binding_of_frames frames
  have under : before.context.node? = some node := Context.node?_of_frames frames
  have plain : binding.isReference = false := by simp [Binding.isReference, unbound]
  have modelled := ready.model_eq
  have placed := frames
  unfold normalized descended children
  simp only [ends_bind, ends_context, here, under, Option.getD_some, plain, Bool.false_eq_true,
    if_false]
  refine (visits_resolve kept each node.children ready (by simp [frames])).mono ?_ ?_
  · rintro trees visited ⟨same, ready, resolved, collection⟩
    rw [ends_build]
    have built := Expr.erased_withChildren node trees visited.ambient.supply
    generalize ((node.withChildren trees).run visited.ambient.supply).1 = rewritten at built ⊢
    have unbound : visited.context.binding.reference? = none := by
      have frames : visited.context.frames = before.context.frames := congrArg (·.frames) same
      rw [show visited.context.binding = binding by
        simpa [Context.binding, Context.frame, frames] using here]
      exact unbound
    refine (inspect_resolves node registry.inspectors.reverse).mono ?_ ?_
    · rintro - inspected looked
      rw [expansion_of_none realizes.expanders, ends_pure, expandedOr, ends_pure]
      have ready := ready.of_substance looked
      have unbound : inspected.context.binding.reference? = none := by
        have frames : inspected.context.frames = visited.context.frames :=
          congrArg (·.frames) looked
        simpa [Context.binding, Context.frame, frames] using unbound
      refine (filtered_plain realizes.filters ready unbound).mono ?_ (fun _ _ never => never.elim)
      rintro current passed ⟨idle, rfl⟩
      have same : passed.context.setting = before.context.setting :=
        (Context.setting_of_substance (idle.trans looked)).trans same
      have stillFrames : passed.context.frames = ⟨some node, binding⟩ :: outer :=
        (congrArg (·.frames) same).trans frames
      refine ((keeps_sourcing registry _ passed).and (source_resolves realizes
        (ready.of_substance idle) stillFrames (Context.bindIn_of_setting same bound))).mono ?_ ?_
      · rintro tree final ⟨same', next, found, ⟨target, rfl, -⟩ | ⟨-, rfl⟩⟩
        · contradiction
        · have frames : final.context.frames = ⟨some node, binding⟩ :: outer :=
            (congrArg (·.frames) same').trans stillFrames
          refine ⟨next, ?_, ?_⟩
          · rw [built, resolve?_plain free role, resolved]
            rfl
          · rw [collectionAfter_eq frames around, next.model_eq, found,
              show passed.context.collection = visited.context.collection from
                (congrArg (·.collection) (idle.trans looked)), collection]
            exact framed_plain modelled placed bound role free _
      · rintro error after ⟨-, target, rfl, -⟩
        contradiction
    · intro error after fails resolvable passes binds
      exact (fails (inspectors_pass passes ready (by simp [unbound]))).elim
  · intro error after excuse resolvable passes binds
    rw [resolve?, resolving_plain free role, Option.isSome_map] at resolvable
    refine excuse resolvable (fun child member => passes.of_reached fun reached below => ?_) ?_
    · rw [reached_plain role]
      exact List.mem_flatMap.mpr ⟨child, member, below⟩
    · exact binds

/-- What has been made of a reference is taken for what stands for it. -/
theorem Made.standing? {node current : Expr} (made : Made node current) (wrapped : current ≠ node) :
    plan.standing? current = some current.erased := by
  rcases made with same | ⟨_, _, _, shape, -⟩
  · exact (wrapped same).elim
  · obtain ⟨stamp, args, rfl⟩ := call_of_erased shape
    rfl

/-- Once filters have passed, what has been made of a reference is sourced. -/
theorem filtered_framed (realizes : plan.Realizes registry) {e node current : Expr}
    {target : DataReference} {outer : List Frame} (around : outer ≠ [])
    (frames : context.frames = ⟨some node, .reference target⟩ :: outer)
    (bound : context.bindIn outer node = .ok (.reference target))
    (role : plan.role e = .reference target node.type)
    (free : substitute? context.substitutions e = none)
    (owner : plan.ownerOf? node = (Binding.reference target).owner? plan.model)
    (resolve : plan.resolve? context.substitutions e =
      (plan.standing? node).bind (plan.wrapped? target node.type plan.rules))
    (passed : plan.Filtered plan.rules node target outer node context current before.context) :
    Ends (source registry current)
      (fun tree after => plan.Framed context outer ⟨some node, .reference target⟩ e tree after.context)
      (fun _ _ => plan.resolve? context.substitutions e = none) before := by
  have bound := Context.bindIn_of_setting passed.setting bound
  have placed : before.context.frames = ⟨some node, .reference target⟩ :: outer :=
    (congrArg (·.frames) passed.setting).trans frames
  rw [passed.standing] at resolve
  refine ((keeps_sourcing registry _ before).and
    (source_resolves realizes passed.ready placed bound)).mono ?_ ?_
  · rintro tree final ⟨kept, next, found, outcome⟩
    have placed : final.context.frames = ⟨some node, .reference target⟩ :: outer :=
      (congrArg (·.frames) kept).trans placed
    refine ⟨next, ?_, ?_⟩
    · rw [resolve]
      rcases outcome with ⟨_, ⟨⟩, rfl, fragment⟩ | ⟨other, rfl⟩
      · rw [standing?_reference passed.ready.model_eq bound, fragment]
      · exact passed.made.standing? (other rfl)
    · rw [collectionAfter_eq placed around, next.model_eq, found, collected_reference free role]
      have collection := passed.collection
      rw [owner] at collection
      cases inside : Context.inLambda outer with
      | true => exact collection (.inl inside)
      | false =>
        cases owned : (Binding.reference target).owner? plan.model with
        | none => exact collection (.inr owned)
        | some name => rfl
  · rintro error after ⟨-, _, ⟨⟩, rfl, missing⟩
    rw [resolve, standing?_reference passed.ready.model_eq bound, missing]

/-- In the frame of a reference. -/
theorem normalized_reference (realizes : plan.Realizes registry)
    (kept : ∀ node, Keeps Context.setting (revisit node))
    (again : ∀ node before, plan.Ready before.context →
      plan.Carries registry node (revisit node) before)
    {entered e node : Expr} {target : DataReference} {outer : List Frame}
    (ready : plan.Ready before.context)
    (frames : before.context.frames = ⟨some node, .reference target⟩ :: outer) (around : outer ≠ [])
    (bound : before.context.bindIn outer node = .ok (.reference target))
    (role : plan.role e = .reference target node.type) (source : node.isSource = true)
    (free : substitute? before.context.substitutions e = none) :
    Ends (normalized registry visit revisit entered)
      (fun tree after =>
        plan.Framed before.context outer ⟨some node, .reference target⟩ e tree after.context)
      (fun error _ => plan.Excused registry before.context e error) before := by
  have here : before.context.binding = .reference target := Context.binding_of_frames frames
  have under : before.context.node? = some node := Context.node?_of_frames frames
  obtain ⟨_, ⟨⟩, known⟩ := role_of_bound ready.model_eq source bound
  have owner := ownerOf?_eq ready.model_eq bound (.inr rfl)
  have sourced : plan.resolve? before.context.substitutions e =
      (plan.standing? node).bind (plan.wrapped? target node.type plan.rules) := by
    rw [resolve?_reference free role, standing?_reference ready.model_eq bound]
    rfl
  unfold normalized descended
  simp only [ends_bind, ends_context, here, under, Option.getD_some, Binding.isReference,
    Binding.reference?, Option.isSome_some, if_true, ends_pure]
  refine (inspect_resolves node registry.inspectors.reverse).mono ?_ ?_
  · rintro - inspected looked
    rw [expansion_of_none realizes.expanders, ends_pure, expandedOr, ends_pure]
    have same := Context.setting_of_substance looked
    have placed : inspected.context.frames = ⟨some node, .reference target⟩ :: outer :=
      (congrArg (·.frames) looked).trans frames
    refine (filtered_resolves inspected kept again realizes.filters (ready.of_substance looked)
      placed source known (.inl rfl)).mono ?_ ?_
    · intro current passed filtered
      have unchanged : inspected.context.collection = before.context.collection :=
        congrArg (·.collection) looked
      refine (filtered_framed realizes around frames bound role free owner sourced
        { filtered with
          setting := filtered.setting.trans same
          collection := fun idle => (filtered.collection idle).trans unchanged }).mono
        (fun _ _ framed => framed) ?_
      intro error after broken resolvable
      rw [broken] at resolvable
      contradiction
    · intro error after excuse resolvable passes binds
      rw [sourced] at resolvable
      have limit : inspected.context.maxDepth = before.context.maxDepth :=
        congrArg (·.maxDepth) looked
      rw [Unfiltered, placed, ← frames, limit] at excuse
      refine excuse resolvable (passes.of_reached fun reached below => ?_) binds
      rw [reached_reference known] at below
      rw [reached_reference role]
      exact below
  · intro error after fails resolvable passes binds
    refine (fails (inspectors_pass passes ready fun other refers => ?_)).elim
    rw [here] at refers
    cases refers
    exact ⟨node.type, by simp [reached_reference role]⟩

theorem inFrame_resolves (realizes : plan.Realizes registry)
    (keptEach : ∀ node, Keeps Context.setting (visit node))
    (each : ∀ node before, plan.Ready before.context → before.context.frames ≠ [] →
      plan.Carries registry node (visit node) before)
    (keptAgain : ∀ node, Keeps Context.setting (revisit node))
    (again : ∀ node before, plan.Ready before.context →
      plan.Carries registry node (revisit node) before)
    {node : Expr} {binding : Binding} {outer : List Frame} (ready : plan.Ready before.context)
    (frames : before.context.frames = ⟨some node, binding⟩ :: outer) (around : outer ≠ [])
    (bound : before.context.bindIn outer node = .ok binding)
    (free : substitute? before.context.substitutions node = none) :
    Ends (inFrame registry visit revisit node)
      (fun tree after => ∃ left, after.context.frames = left :: outer ∧
        plan.Framed before.context outer left node tree after.context)
      (fun error _ => plan.Excused registry before.context node error) before := by
  rw [inFrame, ends_bind]
  have ready' := ready
  refine (((returning registry).within_normalize node before).and
    (normalize_resolves realizes ready frames bound)).mono ?_ ?_
  · rintro - middle ⟨within, ready, collection, normal, binding, placed, rebound, becomes⟩
    have same : middle.context.surroundings = before.context.surroundings :=
      within (by simp [frames])
    have under : middle.context.substitutions = before.context.substitutions :=
      congrArg (·.substitutions) same
    have limit : middle.context.maxDepth = before.context.maxDepth := congrArg (·.maxDepth) same
    have free' : substitute? middle.context.substitutions node = none := under ▸ free
    have framed (left : Frame) (tree : Expr) (after : Context)
        (framed : plan.Framed middle.context outer left node tree after) :
        plan.Framed before.context outer left node tree after := by
      refine ⟨framed.ready, under ▸ framed.resolve, ?_⟩
      rw [framed.collection, collection, under]
    have excused (error : Error) (binds : normal.binds plan.model = true)
        (excuse : plan.Excused registry middle.context node error) :
        plan.Excused registry before.context node error := by
      intro resolvable passes bindable
      rw [← limit]
      refine excuse (under ▸ resolvable) passes ?_
      intro frame member inner shape
      rw [placed] at member
      rcases List.mem_cons.mp member with rfl | member
      · cases shape
        exact binds
      · exact bindable frame (by simp [frames, member]) inner shape
    have kept := (returning registry).follows_normalized keptEach keptAgain node middle
    cases role : plan.role node with
    | broken => simp only [Normal, role] at becomes
    | plain =>
      simp only [Normal, role] at becomes
      obtain ⟨rfl, unbound⟩ := becomes
      refine (kept.and (normalized_plain realizes keptEach each ready placed around rebound role
        unbound free')).mono ?_ ?_
      · rintro tree after ⟨same', done⟩
        exact ⟨_, (congrArg (·.frames) same').trans placed, framed _ _ _ done⟩
      · rintro error after ⟨-, excuse⟩ resolvable
        exact excused error (binds_of_resolve resolvable ready'.standing) excuse resolvable
    | reference target type =>
      simp only [Normal, role] at becomes
      obtain ⟨rfl, rfl, source⟩ := becomes
      refine (kept.and (normalized_reference realizes keptAgain again ready placed around rebound
        role source free')).mono ?_ ?_
      · rintro tree after ⟨same', done⟩
        exact ⟨_, (congrArg (·.frames) same').trans placed, framed _ _ _ done⟩
      · rintro error after ⟨-, excuse⟩
        obtain ⟨_, -, known⟩ := role_of_bound ready.model_eq source rebound
        exact excused error (binds_of_role ⟨_, _, known⟩) excuse
  · rintro error after ⟨-, broken⟩ resolvable
    rw [resolve?_broken free broken] at resolvable
    contradiction

end Visits

theorem Ready.pop (ready : plan.Ready context) : plan.Ready context.pop := by
  unfold Context.pop
  split
  · exact ready
  · exact ⟨ready.model_eq, ready.request_eq, ready.rooted, ready.standing⟩

theorem collection_pop {left : Frame} {outer : List Frame}
    (frames : context.frames = left :: outer) :
    context.pop.collection = context.collectionAfter left outer := by
  unfold Context.pop
  rw [frames]

/-- A visit of a node that something stands for right now. -/
theorem substituted_carries (realizes : plan.Realizes registry) (ready : plan.Ready before.context)
    (around : before.context.frames ≠ []) {node substitute : Expr}
    (found : substitute? before.context.substitutions node = some substitute) :
    plan.Carries registry node (nested (some substitute) (source registry substitute)) before := by
  obtain ⟨entry, first, rfl⟩ := Option.map_eq_some_iff.mp found
  have same : entry.1 = node := by simpa using List.find?_some first
  obtain ⟨role, source, shape⟩ := ready.standing entry (List.mem_of_find?_eq_some first)
  rw [same] at role source shape
  unfold Carries
  rw [ends_nested]
  split
  · next context pushed =>
    obtain ⟨binding, bound, rfl⟩ := Context.push_some pushed
    let entered : Recording := { before with context := { before.context with
      frames := ⟨some entry.2, binding⟩ :: before.context.frames } }
    have inside : plan.Ready entered.context :=
      ⟨ready.model_eq, ready.request_eq, ready.rooted, ready.standing⟩
    refine ((keeps_sourcing registry _ entered).and
      (source_resolves realizes inside rfl bound)).mono ?_ ?_
    · rintro tree after ⟨kept, next, unchanged, outcome⟩
      have placed : after.context.frames = ⟨some entry.2, binding⟩ :: before.context.frames :=
        congrArg (·.frames) kept
      refine ⟨next.pop, ?_, ?_⟩
      · rw [resolve?_substituted found]
        rcases outcome with ⟨target, rfl, -, fragment⟩ | ⟨other, rfl⟩
        · rw [standing?_reference ready.model_eq bound, fragment]
        · rcases shape with same | ⟨stamp, args, call⟩
          · rw [same] at bound
            obtain ⟨target, rfl⟩ := Binding.ofNode_of_isSource source (Context.bindIn_ok bound)
            exact (other rfl rfl).elim
          · rw [call]
            rfl
      · rw [collection_pop placed, collectionAfter_eq placed around, next.model_eq, unchanged,
          collected_substituted found]
        cases outside : Context.inLambda before.context.frames with
        | true => rfl
        | false => rw [ownerOf?_eq ready.model_eq bound (.inl outside)]
    · rintro error after ⟨-, target, rfl, -, missing⟩ resolvable
      rw [resolve?_substituted found, standing?_reference ready.model_eq bound,
        missing] at resolvable
      contradiction
  · next error refused =>
    intro resolvable passes binds
    refine Context.push_error refused ?_
    rintro _ ⟨⟩
    rcases shape with same | ⟨stamp, args, call⟩
    · rw [same]
      exact ready.bindIn (binds_of_role role) binds
    · rw [call]
      exact ⟨.unbound, Context.bindIn_of_ofNode rfl⟩

/-- A visit of a node that nothing stands for, in a frame of its own. -/
theorem framed_carries {step : Walk Expr} {node : Expr} (ready : plan.Ready before.context)
    (inside : ∀ binding, before.context.bindIn before.context.frames node = .ok binding →
      let entered : Recording := { before with context := { before.context with
        frames := ⟨some node, binding⟩ :: before.context.frames } }
      Ends step
        (fun tree after => ∃ left, after.context.frames = left :: before.context.frames ∧
          plan.Framed entered.context before.context.frames left node tree after.context)
        (fun error _ => plan.Excused registry entered.context node error) entered) :
    plan.Carries registry node (nested (some node) step) before := by
  have bindable (resolvable : (plan.resolve? before.context.substitutions node).isSome = true) :
      node.binds plan.model = true := binds_of_resolve resolvable ready.standing
  unfold Carries
  rw [ends_nested]
  split
  · next context pushed =>
    obtain ⟨binding, bound, rfl⟩ := Context.push_some pushed
    refine (inside binding bound).mono ?_ ?_
    · rintro tree after ⟨left, placed, framed⟩
      exact ⟨framed.ready.pop, framed.resolve, (collection_pop placed).trans framed.collection⟩
    · intro error after excuse resolvable passes binds
      refine excuse resolvable passes fun frame member inner shape => ?_
      rcases List.mem_cons.mp member with rfl | member
      · cases shape
        exact bindable resolvable
      · exact binds frame member inner shape
  · next error refused =>
    intro resolvable passes binds
    refine Context.push_error refused ?_
    rintro _ ⟨⟩
    exact ready.bindIn (bindable resolvable) binds

/-- A visit under an unbound frame comes to what the visit comes to. -/
theorem unbound_carries {step : Walk Expr} {node : Expr} (ready : plan.Ready before.context)
    (kept : Keeps Context.setting step)
    (carries : ∀ before, plan.Ready before.context → before.context.frames ≠ [] →
      plan.Carries registry node step before) :
    plan.Carries registry node (nested none step) before := by
  unfold Carries
  rw [ends_nested]
  split
  · next context pushed =>
    cases Context.push_none pushed
    let entered : Recording :=
      { before with context := { before.context with frames := {} :: before.context.frames } }
    have inside : plan.Ready entered.context :=
      ⟨ready.model_eq, ready.request_eq, ready.rooted, ready.standing⟩
    refine ((kept entered).and (carries entered inside (by simp [entered]))).mono ?_ ?_
    · rintro tree after ⟨same, resolved⟩
      have placed : after.context.frames = {} :: before.context.frames := congrArg (·.frames) same
      refine ⟨resolved.ready.pop, resolved.resolve, ?_⟩
      rw [collection_pop placed]
      exact resolved.collection
    · rintro error after ⟨-, excuse⟩ resolvable passes binds
      refine excuse resolvable passes fun frame member inner shape => ?_
      rcases List.mem_cons.mp member with rfl | member
      · contradiction
      · exact binds frame member inner shape
  · next error refused => exact fun _ _ _ => Context.push_error refused (by simp)

/-- Every visit carries out the plan for its tree. -/
theorem walk_carries (realizes : plan.Realizes registry) (room : Nat) :
    (∀ node before, plan.Ready before.context → before.context.frames ≠ [] →
      plan.Carries registry node (visit registry room node) before) ∧
    ∀ node before, plan.Ready before.context →
      plan.Carries registry node (revisit registry room node) before := by
  induction room with
  | zero =>
    exact ⟨fun _ _ _ _ _ _ _ => rfl, fun _ _ _ _ _ _ => rfl⟩
  | succ room ih =>
    obtain ⟨each, again⟩ := ih
    refine ⟨fun node before ready around => ?_, fun node before ready =>
      unbound_carries ready (keeps_visit registry room node) (each node)⟩
    unfold Carries
    cases found : before.context.substitution? node with
    | some substitute =>
      rw [ends_visit_substituted found]
      exact substituted_carries realizes ready around found
    | none =>
      rw [ends_visit found]
      refine framed_carries ready fun binding bound => ?_
      exact inFrame_resolves realizes (keeps_visit registry room) each (keeps_revisit registry room)
        again ⟨ready.model_eq, ready.request_eq, ready.rooted, ready.standing⟩ rfl around bound
        found

/-- A successful walk returns what the plan says and finds the collection that it says; a walk over
a tree that can be resolved and that all inspectors pass fails for its depth only. -/
theorem run_resolves (realizes : plan.Realizes registry) (query : Expr) (maxDepth : Nat)
    (ambient : Ambient) :
    match run registry query { model := plan.model, request := plan.request, maxDepth } ambient with
    | (.ok tree, after) => plan.resolve? [] query = some tree.erased ∧
      after.context.collection = plan.collected [] query none
    | (.error error, _) => (plan.resolve? [] query).isSome = true → plan.Passes registry query →
      error = .depthExceeded maxDepth := by
  have start : plan.Ready { model := plan.model, request := plan.request, maxDepth } :=
    ⟨rfl, rfl, nofun, nofun⟩
  have walked : Ends (whole registry query)
      (fun tree after => plan.resolve? [] query = some tree.erased ∧
        after.context.collection = plan.collected [] query none)
      (fun error _ => (plan.resolve? [] query).isSome = true → plan.Passes registry query →
        error = .depthExceeded maxDepth)
      { context := { model := plan.model, request := plan.request, maxDepth }, ambient } := by
    rw [ends_whole]
    refine ((walk_carries realizes _).2 query _ start).mono ?_ ?_
    · intro tree after resolved
      exact ⟨resolved.resolve, resolved.collection⟩
    · intro error after excuse resolvable passes
      exact excuse resolvable passes nofun
  split
  · next tree after ran =>
    obtain ⟨inquiries, ran⟩ := recorded_of_run ran
    exact walked.done_of_ok ran
  · next error after ran =>
    obtain ⟨inquiries, ran⟩ := recorded_of_run ran
    exact walked.failed_of_error ran

end Plan

end QueryRewriting.Rewriting
