import QueryRewriting.Proofs.Config
import QueryRewriting.Proofs.Request.Lockstep
import QueryRewriting.Proofs.Rewriting.Gates

/-! The service role. Read policies let it read everything and row security lets it see all rows, so
that neither leaves a trace in its requests: what a configuration says about access makes no
difference to them. -/
namespace QueryRewriting

open Schema Rewriting Walk Evaluation

namespace Access

theorem ReadPolicy.permits_service (policy : ReadPolicy) {auth : Auth}
    (service : auth.isService = true) : policy.permits auth = true := by
  unfold permits
  rw [service, Bool.true_or]

/-- A read authorizer as a gate. -/
def ReadAuthorizer.gate (authorizer : ReadAuthorizer) (notice : Notice) : Gate notice :=
  .ofVerdict notice authorizer.hook.name authorizer.inspect fun _ => rfl

theorem ReadAuthorizer.inspect_service (authorizer : ReadAuthorizer) {context : Context}
    (service : context.request.auth.isService = true) : authorizer.inspect context = true := by
  unfold inspect
  cases context.reading? with
  | none => rfl
  | some reading => exact ReadPolicy.permits_service _ service

theorem RowSecurity.filter_service (security : RowSecurity) {context : Context}
    (service : context.request.auth.isService = true) :
    security.filter context = return none := by
  unfold filter
  rw [show context.request.bypassesRowSecurity = true from service]
  rfl

theorem RootMember.hook_consistent (access : RootMember) (notice : Notice) :
    access.hook.Consistent notice := by
  apply Hook.consistent (fun _ => rfl)
  intro context
  change (access.normalize context).Heedless notice
  unfold normalize
  split
  · exact Act.heedless_pure none
  · split
    · exact Act.heedless_throw _
    · split
      · exact Act.heedless_pure none
      · exact (Act.heedless_build _).map some

end Access

theorem Evaluation.Store.sourcer_consistent (store : Store) (notice : Notice) (mode : SourceMode) :
    (store.sourcer.hook mode).Consistent notice := by
  apply Hook.consistent (fun _ => rfl)
  intro context
  change (store.source mode context).Heedless notice
  unfold Store.source
  split
  · exact Act.heedless_pure none
  · split
    · exact Act.heedless_pure none
    · exact (Act.heedless_build _).map some

namespace EngineConfig

open Access

variable (config : EngineConfig) {model : Model} {store : Store} {notice : Notice}
  {request : RequestContext}

/-- The configuration without its restrictions on access. -/
def unrestricted : EngineConfig :=
  { config with defaultPolicy := .allow, policies := [], rowSecurity := none }

/-- The hooks of a configuration over a store that do not restrict access. -/
def addressing (store : Store) : Registry where
  normalizers := [RootMember.hook { root := config.apiRoot }]
  sourcer := some store.sourcer

theorem addressing_consistent (store : Store) : (config.addressing store).Consistent notice where
  normalizers hook listed := by
    cases List.mem_singleton.mp listed
    exact RootMember.hook_consistent _ notice
  expanders _ none := absurd none List.not_mem_nil
  filters _ none := absurd none List.not_mem_nil
  sourcer sourcer found mode := by
    cases found
    exact store.sourcer_consistent notice mode

/-- For the service role row security has nothing to do. -/
theorem filters_service (service : request.auth.isService = true) (store : Store) :
    Padded notice request (config.registry store.sourcer).filters [] := by
  unfold registry
  cases config.rowSecurityFilter? with
  | none => exact .nil
  | some security =>
    apply Padded.idle ?_ .nil
    intro context ambient requested
    refine ⟨ambient, ?_, notice.equivalence.refl ambient⟩
    have service : context.request.auth.isService = true := by rw [requested, service]
    change (security.filter context).run.run ambient = _
    rw [security.filter_service service]
    rfl

theorem registry_guarded (service : request.auth.isService = true) (store : Store) :
    Registry.Guarded [config.readAuthorizer.gate notice] request (config.registry store.sourcer)
      (config.addressing store) where
  normalizers := rfl
  inspectors := rfl
  expanders := rfl
  filters := config.filters_service service store
  sourcer := rfl
  consistent := config.addressing_consistent store

/-- The walk of a service request is the one without restrictions on access. -/
theorem run_service (service : request.auth.isService = true) (store : Store) (query : Expr)
    {context : Context} {ambient ambient' : Ambient} (alike : notice.alike ambient ambient')
    (requested : context.request = request) :
    let ran := run (config.registry store.sourcer) query context ambient
    let record := recorded (config.addressing store).watched query context ambient'
    ran.1 = record.1 ∧ Near notice ran.2 record.2.toState := by
  apply run_passing (config.registry_guarded service store) ?_ query alike requested
  intro gate listed context requested
  cases List.mem_singleton.mp listed
  apply ReadAuthorizer.inspect_service
  rw [requested, service]

/-- Two walks of a service request under configurations that only differ in their restrictions on
access. -/
theorem run_unrestricted (service : request.auth.isService = true) (store : Store) (query : Expr)
    {context : Context} {ambient ambient' : Ambient} (alike : notice.alike ambient ambient')
    (requested : context.request = request) :
    let ran := run (config.registry store.sourcer) query context ambient
    let freely := run (config.unrestricted.registry store.sourcer) query context ambient'
    ran.1 = freely.1 ∧ Near notice ran.2 freely.2 := by
  obtain ⟨same, near⟩ := config.run_service service store query alike requested
  obtain ⟨same', near'⟩ := config.unrestricted.run_service service store query
    (notice.equivalence.refl ambient') requested
  refine ⟨same.trans same'.symm, near.substance.trans near'.substance.symm, ?_⟩
  exact notice.equivalence.trans near.alike (notice.equivalence.symm near'.alike)

/-- What a configuration says about access does not affect the service role: its queries are
rewritten to the same tree, with the same originating collection and as many calls of the sourcer,
or fail with the same error, and its requests have the same result or the same error. -/
theorem service_unaffected {request : QueryRequest}
    (service : request.context.auth.isService = true) (metrics : Telemetry.Metrics)
    (ambient : Ambient) :
    let context : Context := { model, request := request.context, maxDepth := config.maxDepth }
    let ran := run (config.registry store.sourcer) request.query context ambient
    let freely := run (config.unrestricted.registry store.sourcer) request.query context ambient
    ran.1 = freely.1 ∧
      ran.2.context.collection = freely.2.context.collection ∧
      ran.2.context.sourcingCalls = freely.2.context.sourcingCalls ∧
      ((config.pipeline model store).execute request metrics ambient).1 =
        ((config.unrestricted.pipeline model store).execute request metrics ambient).1 := by
  intro context ran freely
  obtain ⟨same, near⟩ := config.run_unrestricted service store request.query
    (Notice.all.equivalence.refl ambient) (show context.request = request.context from rfl)
  refine ⟨same, ?_, ?_, ?_⟩
  · exact near.same Context.collection fun _ => rfl
  · exact near.same Context.sourcingCalls Context.sourcingCalls_substance
  · -- The logs of the two pipelines differ, which no hook notices.
    have unlogged : Pipeline.Unlogged Notice.unwritten.alike := fun _ _ _ _ alike => alike
    have backend (config : EngineConfig) :
        (config.pipeline model store).executor = store.executor := rfl
    apply Pipeline.execute_eq rfl rfl (backend config) (backend config.unrestricted) rfl rfl
      unlogged ?_ (Notice.unwritten.equivalence.refl ambient)
    intro ambient ambient' alike
    have cancelled {ambient other : Ambient} (alike : Notice.unwritten.alike ambient other) :
        CancelledAlike ambient other := (congrArg (·.cancelled) alike :)
    refine ⟨cancelled alike, ?_⟩
    obtain ⟨same, near⟩ := config.run_unrestricted service store request.query alike
      (show context.request = request.context from rfl)
    apply Pipeline.walksAlike_of_eq store same
    · exact near.same Context.collection fun _ => rfl
    · exact cancelled near.alike

/-- The service role is served orders that nobody else may read, as if there were no restrictions. -/
theorem orders_served :
    let model : Model := {
      space := "shop"
      entityTypes := [("Order",
        { name := "Order", fields := [("Id", ⟨.int, true⟩), ("owner_id", ⟨.string, true⟩)] })]
      elements := [("Orders", .collection "Orders" "Order")] }
    let config : EngineConfig := {
      defaultPolicy := .deny
      rowSecurity := some { collections := ["Orders"] } }
    let store : Store := Store.insert {} "Orders" [.null]
    let orders : Expr := .source ⟨0, .queryable (.entity "Order")⟩ none "Orders" []
    let request : QueryRequest := { query := orders, context := .ofCaller .service }
    let answer (config : EngineConfig) :=
      ((config.pipeline model store).execute request {} { supply := ⟨1⟩ }).1
    request.context.auth.isService = true ∧ config.unrestricted ≠ config ∧
      answer config = answer config.unrestricted ∧ (answer config).toOption.isSome = true := by
  intro model config store orders request answer
  have service : request.context.auth.isService = true := by decide
  obtain ⟨-, -, -, same⟩ :=
    @service_unaffected config model store request service {} { supply := ⟨1⟩ }
  exact ⟨service, by decide, same, by decide +kernel⟩

end EngineConfig

end QueryRewriting
