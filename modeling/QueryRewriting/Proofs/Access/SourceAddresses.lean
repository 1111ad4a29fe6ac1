import QueryRewriting.Proofs.Access.ParameterNames
import QueryRewriting.Proofs.Config
import QueryRewriting.Proofs.Request.Lockstep
import QueryRewriting.Proofs.Rewriting.Parallel

/-! How the source of the rows is addressed makes no difference to a walk. Two walks under the same
hooks keep in step over trees that are alike, where the rows of one may come from a member of the
root parameter: the normalizer makes the reference of it that the other tree has, before anything
else looks at it. -/
namespace QueryRewriting

open Schema Rewriting Walk Evaluation

namespace Expr.Twin

variable {root : String} {model : Model} {allowed : Bool} {e e' : Expr}

/-- A reference is alike to a reference wherever it is. -/
theorem of_source (twin : e.Twin root model allowed e') (source : e.isSource = true) :
    e.Twin root model false e' := by
  cases twin with
  | source typed qualifier name args args' => exact .source typed qualifier name args args'
  | _ => contradiction

/-- Unless one is a reference and the other is not, nodes that are alike access the same member. -/
theorem accessed?_eq {access : Access.RootMember} (twin : e.Twin access.root model allowed e')
    (settled : e.isSource = e'.isSource) : access.accessed? e' = access.accessed? e := by
  cases twin with
  | rooted => contradiction
  | member _ below => cases below <;> rfl
  | _ => rfl

/-- A store has the same answers to trees that are alike. -/
theorem alike (twin : e.Twin root model false e') (store : Store) : store.Alike e e' where
  type_eq := twin.type_eq
  value_eq := (twin.eval_eq store []).1
  stripped_eq := (twin.stripPaging.eval_eq store []).1

end Expr.Twin

namespace Access

open Views (Clear Composed Keyed)

namespace RootMember

/-- Lambdas that are alike, without members of the root. -/
structure Picks (access : RootMember) (model : Model) (lambda lambda' : Expr) : Prop where
  twin : lambda.Twin access.root model false lambda'
  bodied : lambda.isLambda = true

theorem picksAlike_rowSecurity (access : RootMember) (model : Model) (security : RowSecurity) :
    SelectsAlike (access.Picks model) security.hook security.hook := by
  intro e e' context other matching ambient ambient'
  rw [← RowFilter.over_security]
  apply security.filterOver_lockstep matching
    (Offers (access.Picks model) e e' ambient.supply ambient'.supply)
  · intro after after'
    exact .none
  · intro source user field type test test' after after' tests tests'
    unfold restrictedOver
    rw [matching.framed.node?, matching.framed'.node?]
    have composed := (composed_ownerTest tests (issued_row (Nat.lt_succ_self _))).on_row
    have composed' := (composed_ownerTest tests' (issued_row (Nat.lt_succ_self _))).on_row
    refine .some source rfl rfl ⟨?_, rfl⟩ (composed_selector composed)
      (composed_selector composed')
    obtain ⟨rfl, -⟩ := tests
    obtain ⟨rfl, -⟩ := tests'
    apply Expr.Twin.lambda (by rfl)
    apply Expr.Twin.binary (by rfl)
    · exact .member (by rfl) (.parameter (by rfl) _) _
    · exact .value (by rfl) _

/-- The hooks over a store of which the normalizer looks for members of the root. -/
structure Equipped (access : RootMember) (model : Model) (store : Store) (registry : Registry) :
    Prop extends Akin store registry registry where
  normalizers : registry.normalizers = [access.hook]
  filters : ∀ filter ∈ registry.filters, SelectsAlike (access.Picks model) filter filter

variable {access : RootMember} {model : Model} {store : Store} {registry : Registry}
  {allowed : Bool} {e e' : Expr} {before before' after after' : Recording}

/-- A member of the root is offered as a reference, and a reference as nothing else. -/
theorem normalizer_rooted {member reference : Expr} {context other : Context} {name : String}
    {element : Element} (under : context.node? = some member)
    (under' : other.node? = some reference) (accessed : access.accessed? member = some name)
    (unaccessed : access.accessed? reference = none)
    (found : context.model.resolve? none name = some element) (proper : element.isFunction = false)
    (ambient ambient' : Ambient) :
    Lockstep (access.hook.run context) (access.hook.run other)
      (fun answer answer' after _ => answer' = none ∧ ∃ id, id < after.supply.next ∧
        answer = some (.source ⟨id, element.logicalType⟩ none name [])) ambient ambient' := by
  obtain ⟨answer, after, run, answers⟩ := Plan.normalize_run access under ambient
  obtain ⟨answer', after', run', answers'⟩ := Plan.normalize_run access under' ambient'
  simp only [accessed, found, proper, Bool.false_eq_true, if_false] at answers
  obtain ⟨id, issued, rfl⟩ := answers
  simp only [unaccessed] at answers'
  subst answers'
  unfold Lockstep
  change (access.hook.run _).run.run _ = _ at run run'
  rw [run, run']
  exact ⟨rfl, id, issued, rfl⟩

/-- A member of the root on one side becomes the reference that the other side has. -/
theorem replacement_rooted
    (across : Across access model allowed e e' before.context before'.context)
    (unsettled : e.isSource ≠ e'.isSource) :
    Lockstep (replacement? .normalize e [access.hook]) (replacement? .normalize e' [access.hook])
      (fun answer answer' after after' => (Idle before after ∧ Idle before' after') ∧
        NormalForms (Expr.Twin access.root model allowed) model e e' after.ambient.supply
          after'.ambient.supply answer answer')
      before before' := by
  have twin := across.twin
  cases twin with
  | @rooted stamp stamp' below name element args found proper typed typed' =>
    set member : Expr := .member stamp (.parameter below access.root) name
    set reference : Expr := .source stamp' none name args
    have asked : (before.context.consulting .normalize access.hook.name).node? = some member :=
      across.framed.node?
    have asked' : (before'.context.consulting .normalize access.hook.name).node? =
        some reference := across.framed'.node?
    have answered := normalizer_rooted asked asked' (if_pos rfl) rfl (across.modelled ▸ found)
      proper before.ambient before'.ambient
    simp only [replacement?]
    apply (lockstep_consult answered).bind
    rintro answer answer' after after' ⟨⟨rfl, id, issued, rfl⟩, idle, idle'⟩
    have apart : Expr.source ⟨id, element.logicalType⟩ none name [] ≠ member :=
      fun same => by contradiction
    have kept : (Expr.source ⟨id, element.logicalType⟩ none name []).type = member.type :=
      typed.symm
    dsimp only
    rw [if_neg apart, checkType_of_type_eq _ kept, pure_bind]
    exact ⟨⟨idle, idle'⟩, .first rfl rfl found issued (.source typed'.symm none name [] args)⟩
  | _ => exact absurd rfl unsettled

/-- Both walks make the same of a node that is a reference in both of them or in none. -/
theorem replacement_settled
    (across : Across access model allowed e e' before.context before'.context)
    (settled : e.isSource = e'.isSource) :
    Lockstep (replacement? .normalize e [access.hook]) (replacement? .normalize e' [access.hook])
      (fun answer answer' after after' => (Idle before after ∧ Idle before' after') ∧
        access.Normalized model e after.ambient.supply after'.ambient.supply answer answer')
      before before' := by
  apply replacement_of_answered rfl across.twin.type_eq settled
  have asked : (before.context.consulting .normalize access.hook.name).node? = some e :=
    across.framed.node?
  have asked' : (before'.context.consulting .normalize access.hook.name).node? = some e' :=
    across.framed'.node?
  have answers := Plan.normalize_run access asked before.ambient
  have answers' := Plan.normalize_run access asked' before'.ambient
  rw [across.twin.accessed?_eq settled] at answers'
  have modelled : (before.context.consulting .normalize access.hook.name).model = model :=
    across.modelled
  have modelled' : (before'.context.consulting .normalize access.hook.name).model = model :=
    across.model.trans across.modelled
  rw [modelled] at answers
  rw [modelled'] at answers'
  exact lockstep_of_answered answers answers' fun name accessed => accessed

/-- Nodes that are alike are normalized to nodes that are alike. -/
theorem replacement_alike (equipped : access.Equipped model store registry)
    (across : Across access model allowed e e' before.context before'.context) :
    Lockstep (replacement? .normalize e registry.normalizers.reverse)
      (replacement? .normalize e' registry.normalizers.reverse)
      (fun answer answer' after after' => (Idle before after ∧ Idle before' after') ∧
        NormalForms (Expr.Twin access.root model allowed) model e e' after.ambient.supply
          after'.ambient.supply answer answer')
      before before' := by
  rw [equipped.normalizers, List.reverse_singleton]
  by_cases settled : e.isSource = e'.isSource
  · apply (replacement_settled across settled).mono
    rintro answer answer' after after' ⟨idle, normalized⟩
    refine ⟨idle, normalForms_of_normalized settled ?_ normalized⟩
    exact fun id id' type name => .source (by rfl) none name [] []
  · exact replacement_rooted across settled

/-- Nodes correspond if they are alike, and a member of the root may do so where no lambda is
around. -/
def Equipped.correspondence (equipped : access.Equipped model store registry) :
    Correspondence model store registry registry where
  Around := Bool
  inside allowed e _ := allowed && !e.isLambda
  pairs := Expr.Twin access.root model
  normal _ _ _ := True
  visitable := Expr.Twin access.root model
  makes _ := Expr.Twin access.root model false
  selects := access.Picks model
  level allowed context other := Parallel access model context other ∧
    (allowed = true → ∀ node ∈ context.around, node.isLambda = false)
  facing := Across access model
  akin := equipped.toAkin
  filters := List.forall₂_same.mpr equipped.filters
  normalizes _ across _ := replacement_alike equipped across
  inside_plain plain := by rw [plain, Bool.not_false, Bool.and_true]
  visitable_pairs twin := twin
  visitable_normal _ := trivial
  visitable_children twin _ plain := twin.children plain
  makes_pairs twin := twin.of_false _
  makes_settled twin := twin.isSource_eq
  makes_reference twin source := twin.of_source source
  makes_native _ _ _ _ proxy name := .native (by rfl) proxy name
  makes_rebuilt supply supply' twin _ plain each shapes :=
    twin.withChildren plain each shapes supply supply'
  selects_visitable picks := picks.twin.of_false _
  selects_pairs twin _ typed picks := .pair typed .filter twin picks.twin (.inr picks.bodied)
  selects_normal _ _ _ _ _ _ _ := trivial
  level_beside level := level.1.toBeside
  level_bound level twin := level.1.bound twin level.2
  level_unframed level beside pushed pushed' := by
    refine ⟨level.1.unframed beside pushed pushed', ?_⟩
    rw [Context.around_push_none pushed]
    exact level.2
  level_setting level same same' found := by
    refine ⟨level.1.of_setting same same' found, ?_⟩
    rw [Context.around_of_setting same]
    exact level.2
  facing_entered level twin beside pushed pushed' :=
    level.1.across twin level.2 beside pushed pushed'
  facing_beside across := across.toBeside
  facing_framed across := ⟨across.framed, across.framed'⟩
  facing_pairs across := across.twin
  facing_matching := Across.matching
  facing_setting := Across.of_setting
  facing_reframed across twin := across.reframed twin
  facing_substitute current current' across := across.substitute current current'
  facing_level across placed := by
    refine ⟨across.parallel placed, ?_⟩
    rw [across.framed.around, Bool.and_eq_true, Bool.not_eq_true']
    rintro ⟨allows, unbodied⟩
    exact List.forall_mem_cons.mpr ⟨unbodied, across.bare allows⟩
  facing_pop := Across.collection_pop

/-- Walks of queries that are alike keep in step. -/
theorem whole_formed (equipped : access.Equipped model store registry)
    (twin : e.Twin access.root model true e') (request : RequestContext) (maxDepth : Nat)
    {ambient ambient' : Ambient} (issued : e.Issued ambient.supply)
    (issued' : e'.Issued ambient'.supply) :
    Lockstep (whole registry e) (whole registry e')
      (fun tree tree' after after' => tree.Twin access.root model false tree' ∧
        after'.context.collection = after.context.collection)
      { context := { model, request, maxDepth }, ambient }
      { context := { model, request, maxDepth }, ambient := ambient' } := by
  have parallel : Parallel access model { model, request, maxDepth }
      { model, request, maxDepth } := {
    root := rfl
    collection := rfl
    model := rfl
    request := rfl
    maxDepth := rfl
    depth := rfl
    modelled := rfl
    flanked := .nil }
  have level : equipped.correspondence.level true { model, request, maxDepth }
      { model, request, maxDepth } :=
    ⟨parallel, fun _ _ absent => absurd absent List.not_mem_nil⟩
  apply (equipped.correspondence.whole_lockstep twin level issued issued').mono
  intro tree tree' after after' made
  exact ⟨made.makes, made.found.collection⟩

end RootMember

end Access

namespace EngineConfig

open Access RootMember

variable (config : EngineConfig) {model : Model} {store : Store}

theorem registry_drifts (store : Store) : (config.registry store.sourcer).Drifts issuing := by
  rw [← registryOver_rowParameter]
  exact config.registryOver_drifts store (.inl rfl) config.rowFilters_issues rowParameter

theorem registry_equipped (model : Model) (store : Store) :
    config.rootMember.Equipped model store (config.registry store.sourcer) where
  inspectors := rfl
  judges hook member := ⟨config.readAuthorizer, List.mem_singleton.mp member⟩
  expanders := rfl
  expanders' := rfl
  sourcer := rfl
  sourcer' := rfl
  drifts := config.registry_drifts store
  drifts' := config.registry_drifts store
  normalizers := rfl
  filters hook member := by
    obtain ⟨security, -, rfl⟩ := Option.map_eq_some_iff.mp (Option.mem_toList.mp member)
    exact picksAlike_rowSecurity _ model security

/-- Walks of requests whose queries are alike come to the same. -/
theorem walks_alike {request request' : QueryRequest}
    (twin : request.query.Twin config.apiRoot model true request'.query)
    (context : request'.context = request.context) {ambient ambient' : Ambient}
    (issued : request.query.Issued ambient.supply) (issued' : request'.query.Issued ambient'.supply)
    (cancelled : CancelledAlike ambient ambient') :
    Pipeline.WalksAlike (config.pipeline model store) (config.pipeline model store) store request
      request' ambient ambient' := by
  set pipeline := config.pipeline model store
  have formed : Lockstep (whole pipeline.registry request.query)
      (whole pipeline.registry request'.query)
      (fun tree tree' after after' => tree.Twin config.apiRoot model false tree' ∧
        after'.context.collection = after.context.collection)
      { context := pipeline.walking request, ambient }
      { context := pipeline.walking request', ambient := ambient' } := by
    unfold Pipeline.walking
    rw [context]
    exact whole_formed (config.registry_equipped model store) twin request.context config.maxDepth
      issued issued'
  have quiet (request : QueryRequest) (ambient : Ambient) : CancelledAlike
      (run pipeline.registry request.query (pipeline.walking request) ambient).2.ambient ambient :=
    run_quiet registry_quiet _ _ ambient
  have kept := quiet request ambient
  have kept' := quiet request' ambient'
  unfold Pipeline.WalksAlike
  unfold run recorded at *
  unfold Lockstep at formed
  generalize (whole pipeline.registry request.query).run.run _ = walk at *
  generalize (whole pipeline.registry request'.query).run.run _ = walk' at *
  rcases walk with ⟨_ | tree, walked⟩ <;> rcases walk' with ⟨_ | tree', walked'⟩
  · exact formed
  · exact formed
  · exact formed
  · exact ⟨formed.1.alike store, formed.2.symm,
      kept.trans (cancelled.trans kept'.symm)⟩

/-- Requests whose queries are alike have the same result, or the same error. -/
theorem executes_alike {request request' : QueryRequest}
    (twin : request.query.Twin config.apiRoot model true request'.query)
    (context : request.context = request'.context) (options : request.options = request'.options)
    {ambient ambient' : Ambient} (issued : request.query.Issued ambient.supply)
    (issued' : request'.query.Issued ambient'.supply) (cancelled : CancelledAlike ambient ambient')
    (metrics metrics' : Telemetry.Metrics) :
    ((config.pipeline model store).execute request metrics ambient).1 =
      ((config.pipeline model store).execute request' metrics' ambient').1 := by
  -- What the pipeline writes to the log leaves the supplies as they are.
  let started (other other' : Ambient) : Prop :=
    CancelledAlike other other' ∧ other.supply = ambient.supply ∧ other'.supply = ambient'.supply
  have unlogged : Pipeline.Unlogged started := fun _ _ _ _ alike => alike
  have backend : (config.pipeline model store).executor = store.executor := rfl
  have start : started ambient ambient' := ⟨cancelled, rfl, rfl⟩
  apply Pipeline.execute_eq rfl rfl backend backend context options unlogged ?_ start
  rintro other other' ⟨cancelled, supply, supply'⟩
  refine ⟨cancelled, config.walks_alike twin context.symm ?_ ?_ cancelled⟩
  · rw [supply]
    exact issued
  · rw [supply']
    exact issued'

end EngineConfig

end QueryRewriting
