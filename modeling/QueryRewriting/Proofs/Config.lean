import QueryRewriting.Config
import QueryRewriting.Proofs.Access.RowSecurity
import QueryRewriting.Proofs.Request.Pipeline

/-! The pipeline and the plan that a configuration describes: the hooks of the configuration over a
store carry out the plan, and none of them cancels a request. -/
namespace QueryRewriting.EngineConfig

open Access Rewriting Evaluation Schema

variable (config : EngineConfig)

/-- The way in which the hooks of a configuration resolve the references of a request. -/
def plan (model : Model) (request : RequestContext) (store : Store) : Plan where
  model
  request
  root := some { root := config.apiRoot }
  store
  rules := (config.rowSecurityFilter?.map fun security => security.rule model request).toList

/-- The pipeline of a configuration over a store. -/
def pipeline (model : Model) (store : Store) : Pipeline where
  model
  registry := config.registry store.sourcer
  executor := store.executor
  maxDepth := config.maxDepth

variable {config} {model : Model} {request : RequestContext} {store : Store}

theorem plan_realizes (uncaptured : ∀ security ∈ config.rowSecurityFilter?,
      security.Uncaptured model (some { root := config.apiRoot })) :
    (config.plan model request store).Realizes (config.registry store.sourcer) where
  normalizers := rfl
  expanders := rfl
  filters := by
    unfold registry plan
    cases secured : config.rowSecurityFilter? with
    | none => exact .nil
    | some security => exact .cons (RowSecurity.applies (uncaptured security secured)) .nil
  sourcer := rfl

/-- What a walk of the pipeline comes to. -/
theorem walks_resolve (uncaptured : ∀ security ∈ config.rowSecurityFilter?,
      security.Uncaptured model (some { root := config.apiRoot })) {request : QueryRequest}
    {result : Except Rewriting.Error Expr} {collection : Option String}
    (walks : (config.pipeline model store).Walks request result collection) :
    let plan := config.plan model request.context store
    match result with
    | .ok tree => plan.resolve? [] request.query = some tree.erased ∧
      collection = plan.collected [] request.query none
    | .error failure => (plan.resolve? [] request.query).isSome = true →
      plan.Passes (config.registry store.sourcer) request.query →
        failure = .depthExceeded config.maxDepth := by
  intro plan
  obtain ⟨ambient, walked, walk, rfl⟩ := walks
  have walk : run (config.registry store.sourcer) request.query
      { model := plan.model, request := plan.request, maxDepth := config.maxDepth } ambient =
        (result, walked) := walk
  have realizes : plan.Realizes (config.registry store.sourcer) := plan_realizes uncaptured
  have resolves := plan.run_resolves realizes request.query config.maxDepth ambient
  rw [walk] at resolves
  cases result <;> exact resolves

/-- The inspector passes queries whose references may all be read. -/
theorem plan_passes {query : Expr}
    (permitted : ∀ entry ∈ (config.plan model request store).reached query,
      (config.readAuthorizer.effective entry.1.name
        (((Binding.reference entry.1).owner? model).getD entry.1.name)).permits request.auth =
          true) :
    (config.plan model request store).Passes (config.registry store.sourcer) query := by
  intro hook listed context ambient modelled requested reached
  cases List.mem_singleton.mp listed
  refine ⟨ambient, ?_⟩
  have passes : config.readAuthorizer.inspect context = true := by
    unfold ReadAuthorizer.inspect Context.reading?
    cases refers : context.binding.reference? with
    | none => rfl
    | some target =>
      obtain ⟨type, member⟩ := reached target refers
      have bound : context.binding = .reference target := by
        cases binding : context.binding <;> simp_all [Binding.reference?]
      have may := permitted _ member
      rw [bound, modelled, requested]
      exact may
  change (Except.ok (config.readAuthorizer.inspect context), ambient) = _
  rw [passes]

theorem quiet_normalize (access : RootMember) (context : Context) :
    (access.normalize context).Quiet := by
  unfold RootMember.normalize
  split
  · exact Act.quiet_pure _
  · split
    · exact Act.quiet_throw _
    · split
      · exact Act.quiet_pure _
      · exact (Act.quiet_build _).map _

theorem quiet_filter (security : RowSecurity) (context : Context) :
    (security.filter context).Quiet := by
  unfold RowSecurity.filter
  split
  · exact Act.quiet_pure _
  · split
    · exact Act.quiet_pure _
    · split
      · exact Act.quiet_pure _
      · split
        · exact Act.quiet_pure _
        · refine (Act.quiet_build _).bind fun row => ?_
          split
          · exact Act.quiet_throw _
          · exact (Act.quiet_attempt _ _).bind fun _ => Act.quiet_build _

theorem quiet_source (store : Store) (mode : SourceMode) (context : Context) :
    (store.source mode context).Quiet := by
  unfold Store.source
  split
  · exact Act.quiet_pure _
  · split
    · exact Act.quiet_pure _
    · exact (Act.quiet_build _).map _

theorem registry_quiet : (config.registry store.sourcer).Quiet where
  normalizers hook member context := by
    cases List.mem_singleton.mp member
    exact quiet_normalize _ context
  inspectors hook member context := by
    cases List.mem_singleton.mp member
    exact Act.quiet_pure _
  expanders _ := nofun
  filters hook member context := by
    obtain ⟨security, -, rfl⟩ := Option.map_eq_some_iff.mp (Option.mem_toList.mp member)
    exact quiet_filter security context
  sourcer sourcer found mode context := by
    cases found
    exact quiet_source store mode context

theorem execute_ends (config : EngineConfig) (model : Model) (store : Store)
    (request : QueryRequest)
    (metrics : Telemetry.Metrics) (ambient : Ambient) :
    match ((config.pipeline model store).execute request metrics ambient).1 with
    | .ok result => ambient.cancelled = false ∧
      (config.pipeline model store).Answers store request result
    | .error error => ambient.cancelled = false →
      (config.pipeline model store).Fails store request error :=
  Pipeline.execute_ends rfl rfl registry_quiet metrics ambient

end QueryRewriting.EngineConfig
