import QueryRewriting.Proofs.Evaluation.Backend
import QueryRewriting.Proofs.Rewriting.Plan
import QueryRewriting.Proofs.Rewriting.Stack

/-! The hooks of a registry that realize a plan, and what becomes of a node in its own frame: it is
normalized, passes the inspectors and is sourced as the plan says. -/
namespace QueryRewriting.Rewriting

open Access Schema Walk

namespace Plan

variable (plan : Plan)

/-- A filter that follows a rule about every data reference and leaves all other nodes alone. The
selectors it builds are lambdas without references. -/
def Applies (hook : TreeHook) (rule : RowRule) : Prop :=
  ∀ context ambient, context.model = plan.model → context.request = plan.request →
    ∃ answer after, (hook.run context).run.run ambient = (answer, after) ∧
      match context.binding.reference? with
      | none => answer = .ok none
      | some target => ∀ node, context.node? = some node →
        match rule target node.type with
        | .refuse => ∃ error, answer = .error error
        | .leave => answer = .ok none
        | .wrap selector => ∃ stamp lambda, stamp.type = node.type ∧ lambda.isLambda = true ∧
          lambda.erased = selector ∧ plan.reached lambda = [] ∧
          answer = .ok (some (.call stamp .filter [node, lambda]))

/-- The hooks of a registry do what a plan says. -/
structure Realizes (registry : Registry) : Prop where
  normalizers : registry.normalizers = (plan.root.map RootMember.hook).toList
  expanders : registry.expanders = []
  filters : List.Forall₂ plan.Applies registry.filters plan.rules
  sourcer : registry.sourcer = some plan.store.sourcer

/-- All inspectors pass what is no reference, and the references of a tree. -/
def Passes (registry : Registry) (e : Expr) : Prop :=
  ∀ hook ∈ registry.inspectors, ∀ context ambient,
    context.model = plan.model → context.request = plan.request →
    (∀ target, context.binding.reference? = some target → ∃ type, (target, type) ∈ plan.reached e) →
    ∃ after, (hook.run context).run.run ambient = (.ok true, after)

/-- A data reference may be substituted by itself, or by what filters have made of it. -/
def Stands (e substitute : Expr) : Prop :=
  (∃ target type, plan.role e = .reference target type) ∧ e.isSource = true ∧
    (substitute = e ∨ ∃ stamp args, substitute = .call stamp .filter args)

/-- What holds between the steps of a walk that carries out a plan. -/
structure Ready (context : Context) : Prop where
  model_eq : context.model = plan.model
  request_eq : context.request = plan.request
  rooted : ∀ root, context.root = some root → root.proxy = plan.store.proxy
  standing : ∀ entry ∈ context.substitutions, plan.Stands entry.1 entry.2

variable {plan} {registry : Registry} {before : Recording} {context : Context}

theorem Ready.of_setting {earlier : Context} (ready : plan.Ready earlier)
    (same : context.setting = earlier.setting)
    (rooted : ∀ root, context.root = some root → root.proxy = plan.store.proxy) :
    plan.Ready context where
  model_eq := (congrArg (·.model) same : context.model = _).trans ready.model_eq
  request_eq := (congrArg (·.request) same : context.request = _).trans ready.request_eq
  rooted := rooted
  standing := by
    have kept : context.substitutions = earlier.substitutions := congrArg (·.substitutions) same
    rw [kept]
    exact ready.standing

theorem Ready.of_substance {earlier : Context} (ready : plan.Ready earlier)
    (same : context.substance = earlier.substance) : plan.Ready context := by
  refine ready.of_setting (Context.setting_of_substance same) ?_
  have kept : context.root = earlier.root := congrArg (·.root) same
  rw [kept]
  exact ready.rooted

/-- A context in which a tree has been served is as ready as before. -/
theorem Ready.served {target : DataReference} {node tree : Expr} {after : Context}
    (ready : plan.Ready context)
    (served : plan.store.Served target node context tree after) : plan.Ready after := by
  refine ready.of_setting served.setting_eq ?_
  obtain ⟨mode, root, rfl, own⟩ := served.onward
  intro found same
  exact (own found same).elim id (ready.rooted found)

/-- A plan has a fragment exactly for what its store serves under a root of its own. -/
theorem fragment?_of_served {target : DataReference} {node tree : Expr} {after : Context}
    (served : plan.store.Served target node context tree after) :
    plan.fragment? target node.type = some tree.erased := by
  rw [served.erased_eq]
  exact if_pos ⟨served.accepted, served.proper, served.stored⟩

theorem fragment?_of_unserved {target : DataReference} {node : Expr} {error : Error}
    (ready : plan.Ready context)
    (unserved : plan.store.Unserved target node context.root error) :
    plan.fragment? target node.type = none := by
  refine if_neg fun accepted => ?_
  generalize rooted : context.root = root at unserved
  cases unserved with
  | missing absent => exact absent accepted.2
  | mistyped refused => exact Bool.false_ne_true (refused.symm.trans accepted.1)
  | foreign other => exact other (ready.rooted _ rooted).symm

/-- What the sourcing of a tree in the frame of a node comes to. -/
theorem source_resolves (realizes : plan.Realizes registry) (ready : plan.Ready before.context)
    {node current : Expr} {binding : Binding} {outer : List Frame}
    (frames : before.context.frames = ⟨some node, binding⟩ :: outer)
    (bound : before.context.bindIn outer node = .ok binding) :
    Ends (source registry current)
      (fun tree after => plan.Ready after.context ∧
        after.context.collection = before.context.collection ∧
        ((∃ target, binding = .reference target ∧ current = node ∧
            plan.fragment? target node.type = some tree.erased) ∨
          (binding.isReference = true → current ≠ node) ∧ tree = current))
      (fun _ _ => ∃ target, binding = .reference target ∧ current = node ∧
        plan.fragment? target node.type = none) before := by
  have here : before.context.binding = binding := Context.binding_of_frames frames
  have under : before.context.node? = some node := Context.node?_of_frames frames
  cases refers : binding.reference? with
  | none =>
    rw [ends_source_settled (.inl (by rw [here, refers]))]
    exact ⟨ready, rfl, .inr ⟨by simp [Binding.isReference, refers], rfl⟩⟩
  | some target =>
    obtain ⟨rfl, -⟩ := Context.bindIn_reference bound refers
    by_cases same : current = node
    · subst same
      refine (plan.store.ends_source realizes.sourcer under (by rw [here, refers])).mono ?_ ?_
      · rintro tree after served
        exact ⟨ready.served served, served.collection_eq,
          .inl ⟨target, rfl, rfl, fragment?_of_served served⟩⟩
      · rintro error after unserved
        exact ⟨target, rfl, rfl, fragment?_of_unserved ready unserved⟩
    · have other : before.context.node? ≠ some current := by
        rw [under]
        rintro ⟨⟩
        exact same rfl
      rw [ends_source_settled (.inr other)]
      exact ⟨ready, rfl, .inr ⟨fun _ => same, rfl⟩⟩

/-- The answer of the normalizer about a node. -/
theorem normalize_run (access : RootMember) {node : Expr} (under : context.node? = some node)
    (ambient : Ambient) :
    ∃ answer after, (access.normalize context).run.run ambient = (answer, after) ∧
      match access.accessed? node with
      | none => answer = .ok none
      | some name =>
        match context.model.resolve? none name with
        | none => answer = .error (.unknownSource name)
        | some element =>
          if element.isFunction then answer = .ok none
          else ∃ id, id < after.supply.next ∧
            answer = .ok (some (.source ⟨id, element.logicalType⟩ none name [])) := by
  unfold RootMember.normalize
  rw [under, Option.bind_some]
  cases access.accessed? node with
  | none => exact ⟨_, _, rfl, rfl⟩
  | some name =>
    dsimp only
    cases context.model.resolve? none name with
    | none => exact ⟨_, _, rfl, rfl⟩
    | some element =>
      dsimp only
      split
      · exact ⟨_, _, rfl, rfl⟩
      · exact ⟨_, _, rfl, _, Nat.lt_succ_self _, rfl⟩

/-- A reference that is bound is known to the plan by its binding. -/
theorem role_of_bound {node : Expr} {binding : Binding} {outer : List Frame}
    (modelled : context.model = plan.model) (source : node.isSource = true)
    (bound : context.bindIn outer node = .ok binding) :
    ∃ target, binding = .reference target ∧ plan.role node = .reference target node.type := by
  obtain ⟨target, rfl⟩ := Binding.ofNode_of_isSource source (Context.bindIn_ok bound)
  obtain ⟨-, stamp, rfl, found⟩ := Context.bindIn_reference bound rfl
  rw [modelled] at found
  exact ⟨target, rfl, by simp only [Plan.role, found]; rfl⟩

/-- What a node has become in its frame once it is normalized: the reference that it stands for, or
what it was. -/
def Normal (plan : Plan) (e node : Expr) (binding : Binding) : Prop :=
  match plan.role e with
  | .plain => node = e ∧ binding.reference? = none
  | .broken => False
  | .reference target type => binding = .reference target ∧ node.type = type ∧ node.isSource = true

theorem normal_self {node : Expr} {binding : Binding} {outer : List Frame}
    (modelled : context.model = plan.model) (bound : context.bindIn outer node = .ok binding)
    (proper : node.isSource = true ∨ plan.role node = .plain) : plan.Normal node node binding := by
  unfold Normal
  rcases proper with source | role
  · obtain ⟨target, rfl, role⟩ := role_of_bound modelled source bound
    rw [role]
    exact ⟨rfl, rfl, source⟩
  · rw [role]
    refine ⟨rfl, ?_⟩
    cases refers : binding.reference? with
    | none => rfl
    | some target =>
      obtain ⟨-, stamp, rfl, -⟩ := Context.bindIn_reference bound refers
      have proper := isSource_of_plain role
      contradiction

/-- What a node is normalized to: nothing else if it is normal, or the reference it stands for. -/
def Normalized (plan : Plan) (node : Expr) : Option Expr → Prop
  | none => node.isSource = true ∨ plan.role node = .plain
  | some offered => ∃ id name element, plan.model.resolve? none name = some element ∧
      offered = .source ⟨id, element.logicalType⟩ none name [] ∧
      plan.role node = .reference { qualifier := none, name, args := [], element }
        element.logicalType

theorem normalized_of_unaccessed {node : Expr}
    (unaccessed : plan.root.bind (·.accessed? node) = none) : plan.Normalized node none := by
  cases node with
  | source => exact .inl rfl
  | _ => exact .inr (by simp [Plan.role, unaccessed, accessRole])

theorem role_of_accessed {node : Expr} {name : String}
    (accessed : plan.root.bind (·.accessed? node) = some name) :
    plan.role node = plan.accessRole node.type (some name) := by
  obtain ⟨access, -, found⟩ := Option.bind_eq_some_iff.mp accessed
  cases node with
  | member => simp [Plan.role, accessed]
  | _ => cases found

/-- The normalizer of a plan offers what the plan says. -/
theorem replacement_normalizes (modelled : before.context.model = plan.model) {node : Expr}
    (under : before.context.node? = some node) :
    Ends (replacement? .normalize node (plan.root.map RootMember.hook).toList)
      (fun offered after => after.context.substance = before.context.substance ∧
        plan.Normalized node offered)
      (fun _ _ => plan.role node = .broken) before := by
  cases root : plan.root with
  | none => exact ⟨rfl, normalized_of_unaccessed (by simp [root])⟩
  | some access =>
    have asked : (before.context.consulting .normalize access.hook.name).node? = some node := under
    obtain ⟨answer, after, run, answered⟩ := normalize_run access asked before.ambient
    rw [show (before.context.consulting .normalize access.hook.name).model = plan.model from
      modelled] at answered
    simp only [Option.map_some, Option.toList_some, replacement?]
    rw [ends_bind, ends_consult_of_run run]
    cases accessed : access.accessed? node with
    | none =>
      simp only [accessed] at answered
      subst answered
      exact ⟨rfl, normalized_of_unaccessed (by simp [root, accessed])⟩
    | some name =>
      have role := role_of_accessed (by rw [root]; exact accessed)
      simp only [accessed] at answered
      unfold accessRole at role
      cases found : plan.model.resolve? none name with
      | none =>
        simp only [found] at answered role
        subst answered
        exact role
      | some element =>
        simp only [found] at answered role
        split at role
        · next function =>
          rw [if_pos function] at answered
          subst answered
          exact ⟨rfl, .inr role⟩
        · next proper =>
          rw [if_neg proper] at answered
          obtain ⟨id, -, rfl⟩ := answered
          have other : Expr.source ⟨id, element.logicalType⟩ none name [] ≠ node := by
            rintro rfl
            cases accessed
          have typed : (Expr.source ⟨id, element.logicalType⟩ none name []).type =
              element.logicalType := rfl
          dsimp only
          rw [if_neg other, ends_bind, ends_checkType, typed]
          by_cases accepted : node.type.accepts element.logicalType = true
          · rw [if_pos accepted] at role
            rw [if_pos accepted, ends_pure]
            exact ⟨rfl, id, name, element, found, rfl, role⟩
          · rw [if_neg accepted] at role
            rw [if_neg accepted]
            exact role

/-- Normalizing changes nothing of substance but the frame, which is that of the normal node then. -/
theorem normalize_settles
    (normalizers : registry.normalizers = (plan.root.map RootMember.hook).toList)
    (modelled : before.context.model = plan.model)
    {node : Expr} {binding : Binding} {outer : List Frame}
    (frames : before.context.frames = ⟨some node, binding⟩ :: outer)
    (bound : before.context.bindIn outer node = .ok binding) :
    Ends (normalize registry node)
      (fun _ after => ∃ normal binding,
        after.context.substance =
          { before.context.substance with frames := ⟨some normal, binding⟩ :: outer } ∧
        before.context.bindIn outer normal = .ok binding ∧ plan.Normal node normal binding)
      (fun _ _ => plan.role node = .broken) before := by
  have alone : registry.normalizers.reverse = (plan.root.map RootMember.hook).toList := by
    rw [normalizers]
    cases plan.root <;> rfl
  unfold Walk.normalize
  rw [alone, ends_bind]
  refine (replacement_normalizes modelled (Context.node?_of_frames frames)).mono ?_
    fun _ _ broken => broken
  rintro (_ | offered) after ⟨same, normalized⟩
  · refine ⟨node, binding, ?_, bound, normal_self modelled bound normalized⟩
    rw [same, ← frames]
    rfl
  · obtain ⟨id, name, element, found, rfl, role⟩ := normalized
    let target : DataReference := { qualifier := none, name, args := [], element }
    have placed : after.context.frames = ⟨some node, binding⟩ :: outer :=
      (congrArg (·.frames) same).trans frames
    have kept : after.context.model = before.context.model := congrArg (·.model) same
    have known : after.context.model.resolve? target.qualifier target.name =
        some target.element := (kept.trans modelled) ▸ found
    have rebound : after.context.bindIn outer
        (.source ⟨id, element.logicalType⟩ none name []) = .ok (.reference target) :=
      Context.bindIn_of_ofNode (Binding.ofNode_source _ known)
    let frame : Frame := ⟨some (.source ⟨id, element.logicalType⟩ none name []), .reference target⟩
    have reframed : ({ after.context with frames := frame :: outer } : Context).substance =
        { before.context.substance with frames := frame :: outer } :=
      congrArg (fun context : Context => { context with frames := frame :: outer }) same
    dsimp only
    rw [ends_trying, Context.replace_of_bound placed rebound]
    refine ⟨_, .reference target, reframed, Context.bindIn_eq_of_model kept ▸ rebound, ?_⟩
    unfold Normal
    rw [role]
    exact ⟨rfl, rfl, rfl⟩

theorem normalize_resolves (realizes : plan.Realizes registry) (ready : plan.Ready before.context)
    {node : Expr} {binding : Binding} {outer : List Frame}
    (frames : before.context.frames = ⟨some node, binding⟩ :: outer)
    (bound : before.context.bindIn outer node = .ok binding) :
    Ends (normalize registry node)
      (fun _ after => plan.Ready after.context ∧
        after.context.collection = before.context.collection ∧
        ∃ normal binding, after.context.frames = ⟨some normal, binding⟩ :: outer ∧
          after.context.bindIn outer normal = .ok binding ∧ plan.Normal node normal binding)
      (fun _ _ => plan.role node = .broken) before := by
  refine (normalize_settles realizes.normalizers ready.model_eq frames bound).weaken ?_
  rintro - after ⟨normal, binding, same, bound, becomes⟩
  have reframed : plan.Ready { before.context with frames := ⟨some normal, binding⟩ :: outer } :=
    ⟨ready.model_eq, ready.request_eq, ready.rooted, ready.standing⟩
  have modelled : after.context.model = before.context.model := congrArg (·.model) same
  refine ⟨reframed.of_substance same, congrArg (·.collection) same, normal, binding,
    congrArg (·.frames) same, ?_, becomes⟩
  rw [Context.bindIn_eq_of_model modelled]
  exact bound

/-- Inspectors fail a walk only if one of them does not pass. -/
theorem inspect_resolves (node : Expr) (inspectors : List (Hook Bool)) :
    Ends (Walk.inspect node inspectors)
      (fun _ after => after.context.substance = before.context.substance)
      (fun _ _ => ¬∀ hook ∈ inspectors, ∀ context ambient,
        context.substance = before.context.substance →
          ∃ after, (hook.run context).run.run ambient = (.ok true, after)) before := by
  induction inspectors generalizing before with
  | nil => rfl
  | cons hook rest ih =>
    unfold Walk.inspect
    rw [ends_bind]
    rcases run : (hook.run (before.context.consulting .inspect hook.name)).run.run before.ambient
      with ⟨answer, after⟩
    rw [ends_consult_of_run run]
    have refusal (refused : answer ≠ .ok true) : ¬∀ hook' ∈ hook :: rest, ∀ context ambient,
        context.substance = before.context.substance →
          ∃ after, (hook'.run context).run.run ambient = (.ok true, after) := by
      intro passes
      obtain ⟨_, passed⟩ := passes hook List.mem_cons_self
        (before.context.consulting .inspect hook.name) before.ambient rfl
      rw [passed] at run
      exact refused (congrArg Prod.fst run).symm
    rcases answer with error | _ | _
    · exact refusal (by simp)
    · dsimp only
      rw [if_neg Bool.false_ne_true, ends_bind, ends_context, ends_bind, ends_event]
      exact refusal (by simp)
    · refine ih.mono (fun _ _ same => same) (fun _ _ fails passes => fails ?_)
      exact fun hook member => passes hook (List.mem_cons_of_mem _ member)

section Filters

variable {hook : TreeHook} {rule : RowRule}

/-- A filter that follows a rule leaves what is no reference alone. -/
theorem Applies.ignores (applies : plan.Applies hook rule) (modelled : context.model = plan.model)
    (requested : context.request = plan.request) (plain : context.binding.reference? = none)
    (ambient : Ambient) :
    ∃ after, (hook.run (context.consulting .filter hook.name)).run.run ambient =
      (.ok none, after) := by
  obtain ⟨answer, after, run, answered⟩ :=
    applies (context.consulting .filter hook.name) ambient modelled requested
  rw [show (context.consulting .filter hook.name).binding.reference? = none from plain] at answered
  exact ⟨after, answered ▸ run⟩

/-- A filter that follows a rule does what the rule says in the frame of a reference. -/
theorem Applies.answers (applies : plan.Applies hook rule) (modelled : context.model = plan.model)
    (requested : context.request = plan.request) {node : Expr} {target : DataReference}
    (refers : context.binding.reference? = some target) (under : context.node? = some node)
    (ambient : Ambient) :
    ∃ answer after, (hook.run (context.consulting .filter hook.name)).run.run ambient =
        (answer, after) ∧
      match rule target node.type with
      | .refuse => ∃ error, answer = .error error
      | .leave => answer = .ok none
      | .wrap selector => ∃ stamp lambda, stamp.type = node.type ∧ lambda.isLambda = true ∧
        lambda.erased = selector ∧ plan.reached lambda = [] ∧
        answer = .ok (some (.call stamp .filter [node, lambda])) := by
  obtain ⟨answer, after, run, answered⟩ :=
    applies (context.consulting .filter hook.name) ambient modelled requested
  rw [show (context.consulting .filter hook.name).binding.reference? = some target from refers]
    at answered
  exact ⟨answer, after, run, answered node under⟩

/-- Filters leave what is no reference alone. -/
theorem filtered_plain {revisit : Expr → Walk Expr} {node current : Expr} {filters : List TreeHook}
    {rules : List RowRule} (applies : List.Forall₂ plan.Applies filters rules)
    (ready : plan.Ready before.context) (plain : before.context.binding.reference? = none) :
    Ends (filtered revisit node filters current)
      (fun tree after => after.context.substance = before.context.substance ∧ tree = current)
      (fun _ _ => False) before := by
  induction applies generalizing before with
  | nil => exact ⟨rfl, rfl⟩
  | cons applies _ ih =>
    obtain ⟨after, run⟩ := applies.ignores ready.model_eq ready.request_eq plain before.ambient
    unfold filtered
    rw [ends_bind, ends_consult_of_run run]
    exact ih (ready.of_substance rfl) plain

end Filters

end Plan

end QueryRewriting.Rewriting
