import QueryRewriting.Proofs.Request.Pipeline
import QueryRewriting.Proofs.Rewriting.Lockstep

/-! Two requests side by side. Pipelines without request filters over one store answer alike where
their walks come to the same collection and to trees that have the same values. -/
namespace QueryRewriting

open Json Evaluation Rewriting

/-- Of two surroundings both are cancelled, or neither is. -/
def CancelledAlike (ambient other : Ambient) : Prop := ambient.cancelled = other.cancelled

section Rules

variable {ε σ τ α β : Type} {done : α → β → σ → τ → Prop} {before : σ} {before' : τ}

theorem lockstep_get {next : σ → ExceptT ε (StateM σ) α} {next' : τ → ExceptT ε (StateM τ) β} :
    Lockstep (get >>= next) (get >>= next') done before before' ↔
      Lockstep (next before) (next' before') done before before' := .rfl

/-- Steps keep in step with a handler that throws what it has caught. -/
theorem lockstep_tryCatch {step : ExceptT ε (StateM σ) α} {other : ExceptT ε (StateM τ) β}
    {handler : ε → ExceptT ε (StateM σ) α} {handler' : ε → ExceptT ε (StateM τ) β}
    (level : Lockstep step other done before before')
    (throws : ∀ error state, Ends (handler error) (fun _ _ => False)
      (fun thrown _ => thrown = error) state)
    (throws' : ∀ error state, Ends (handler' error) (fun _ _ => False)
      (fun thrown _ => thrown = error) state) :
    Lockstep (tryCatch step handler) (tryCatch other handler') done before before' := by
  rw [lockstep_iff_ends] at level ⊢
  rw [ends_tryCatch]
  apply level.mono
  · intro value after ends
    rw [ends_tryCatch]
    exact ends.mono (fun _ _ good => good) fun _ _ none => none.elim
  · intro error after ends
    apply (throws error after).mono
    · exact fun _ _ none => none.elim
    · rintro thrown _ rfl
      rw [ends_tryCatch]
      apply ends.mono
      · exact fun _ _ none => none
      · rintro error' after' rfl
        exact (throws' _ _).mono (fun _ _ none => none) fun _ _ same => same.symm

end Rules

namespace Evaluation.Store

variable {store : Store} {tree tree' : Expr} {ambient ambient' : Ambient}

/-- Two trees that a store has the same answers to, or the same reasons for none. -/
structure Alike (store : Store) (tree tree' : Expr) : Prop where
  type_eq : tree.type = tree'.type
  value_eq : evaluate store tree = evaluate store tree'
  stripped_eq : evaluate store tree.stripPaging = evaluate store tree'.stripPaging

theorem Alike.refl (tree : Expr) : store.Alike tree tree := ⟨rfl, rfl, rfl⟩

theorem execute_run (store : Store) (tree : Expr) (ambient : Ambient) :
    ∃ logged : Ambient, logged.cancelled = ambient.cancelled ∧
      (store.execute tree).run.run ambient =
        if ambient.cancelled then (.error (.failed .cancelled), ambient)
        else match evaluate store tree with
          | .ok value => (.ok value, logged)
          | .error error => (.error (.failed (.execution (.evaluation error))), ambient) := by
  let fields := [("proxy", store.proxy.label), ("query", tree.text)]
  refine ⟨{ ambient with log := ambient.log.note .trace "MEMORY_QUERY" fields }, rfl, ?_⟩
  unfold execute
  rw [run_bind, show (get : Act Interruption Ambient).run.run ambient = (.ok ambient, ambient)
    from rfl]
  dsimp only
  by_cases stopped : ambient.cancelled = true
  · rw [if_pos stopped, if_pos stopped]
    rfl
  · rw [if_neg stopped, if_neg stopped]
    cases evaluate store tree <;> rfl

theorem execute_lockstep (same : evaluate store tree = evaluate store tree')
    (cancelled : CancelledAlike ambient ambient') :
    Lockstep (store.execute tree) (store.execute tree')
      (fun value value' after after' => value = value' ∧ CancelledAlike after after')
      ambient ambient' := by
  obtain ⟨logged, kept, ran⟩ := store.execute_run tree ambient
  obtain ⟨logged', kept', ran'⟩ := store.execute_run tree' ambient'
  unfold Lockstep
  rw [ran, ran', ← same, ← cancelled]
  by_cases stopped : ambient.cancelled = true
  · simp [stopped]
  · simp only [stopped, Bool.false_eq_true, if_false]
    cases evaluate store tree with
    | error error => rfl
    | ok value => exact ⟨rfl, (kept.trans cancelled).trans kept'.symm⟩

theorem countRows_lockstep
    (same : evaluate store tree.stripPaging = evaluate store tree'.stripPaging)
    (cancelled : CancelledAlike ambient ambient') (request : RequestContext) :
    Lockstep (store.executor.countRows request tree) (store.executor.countRows request tree')
      (fun total total' after after' => total = total' ∧ CancelledAlike after after')
      ambient ambient' := by
  have same : eval store tree.stripPaging [] = eval store tree'.stripPaging [] := same
  have same : evaluate store ((Fresh.call .count [tree.stripPaging]).run ambient.supply).1 =
      evaluate store ((Fresh.call .count [tree'.stripPaging]).run ambient'.supply).1 := by
    change eval store (.call _ .count [tree.stripPaging]) [] =
      eval store (.call _ .count [tree'.stripPaging]) []
    rw [eval, eval, same]
  let issued (ambient : Ambient) : Ambient := { ambient with supply := ⟨ambient.supply.next + 1⟩ }
  have cancelled : CancelledAlike (issued ambient) (issued ambient') := cancelled
  have executed := execute_lockstep same cancelled
  unfold Executor.countRows
  rw [Act.lockstep_build_bind]
  refine executed.bind ?_
  rintro value _ after after' ⟨rfl, cancelled⟩
  unfold Lockstep
  cases Executor.totalCount value with
  | ok total => exact ⟨rfl, cancelled⟩
  | error error => rfl

theorem executeSequence_lockstep (same : evaluate store tree = evaluate store tree')
    (cancelled : CancelledAlike ambient ambient') :
    Lockstep (store.executeSequence tree) (store.executeSequence tree')
      (fun output output' after after' => output = output' ∧ CancelledAlike after after')
      ambient ambient' := by
  unfold executeSequence
  apply (execute_lockstep same cancelled).bind
  rintro value _ after after' ⟨rfl, cancelled⟩
  cases value with
  | array items => exact ⟨rfl, cancelled⟩
  | _ => exact lockstep_throw _

theorem dispatch_lockstep (alike : store.Alike tree tree')
    (cancelled : CancelledAlike ambient ambient') (request : RequestContext)
    (options : ExecutionOptions) :
    Lockstep (store.executor.dispatch request tree options)
      (store.executor.dispatch request tree' options)
      (fun result result' after after' => result = result' ∧ CancelledAlike after after')
      ambient ambient' := by
  unfold Executor.dispatch
  rw [← alike.type_eq]
  cases Shape.of tree.type with
  | scalar =>
    apply (execute_lockstep alike.value_eq cancelled).bind
    rintro value _ after after' ⟨rfl, cancelled⟩
    exact ⟨rfl, cancelled⟩
  | sequence =>
    apply (executeSequence_lockstep alike.value_eq cancelled).bind
    rintro output _ after after' ⟨rfl, cancelled⟩
    dsimp only
    cases options.includeTotalCount with
    | false => exact ⟨rfl, cancelled⟩
    | true =>
      cases output.totalCount with
      | some total => exact ⟨rfl, cancelled⟩
      | none =>
        simp only [if_true, ← bind_pure_comp, bind_assoc, pure_bind]
        apply (countRows_lockstep alike.stripped_eq cancelled request).bind
        rintro total _ after after' ⟨rfl, cancelled⟩
        exact ⟨rfl, cancelled⟩

end Evaluation.Store

namespace Pipeline

open Run

variable {alike : Ambient → Ambient → Prop} {before before' : State}

/-- Two requests are in the same stage, in surroundings that are alike. -/
structure Level (alike : Ambient → Ambient → Prop) (state state' : State) : Prop where
  lifecycle : state.lifecycle = state'.lifecycle
  ambient : alike state.ambient state'.ambient

/-- The log makes no difference to whether surroundings are alike. -/
def Unlogged (alike : Ambient → Ambient → Prop) : Prop :=
  ∀ ambient other log log', alike ambient other →
    alike { ambient with log } { other with log := log' }

theorem unlogged_cancelled : Unlogged CancelledAlike := fun _ _ _ _ same => same

theorem lockstep_logging (unlogged : Unlogged alike) (level : Level alike before before')
    (change change' : Telemetry.Log → Telemetry.Log) :
    Lockstep (acting (Act.logging change)) (acting (Act.logging change'))
      (fun _ _ => Level alike) before before' :=
  ⟨level.lifecycle, unlogged _ _ _ _ level.ambient⟩

theorem lockstep_counting (level : Level alike before before')
    (change change' : Telemetry.Metrics → Telemetry.Metrics) :
    Lockstep (counting change) (counting change') (fun _ _ => Level alike) before before' :=
  ⟨level.lifecycle, level.ambient⟩

theorem lockstep_calling (level : Level alike before before') (call call' : Call) :
    Lockstep (calling call) (calling call') (fun _ _ => Level alike) before before' :=
  ⟨level.lifecycle, level.ambient⟩

theorem lockstep_event (unlogged : Unlogged alike) (level : Level alike before before')
    (event event' : Telemetry.Event) (fields fields' : Telemetry.LogFields) :
    Lockstep (Run.event event fields) (Run.event event' fields') (fun _ _ => Level alike) before
      before' :=
  lockstep_logging unlogged level _ _

theorem lockstep_moveTo (level : Level alike before before') (next : Stage) :
    Lockstep (moveTo next) (moveTo next) (fun _ _ => Level alike) before before' := by
  unfold moveTo
  rw [lockstep_get, level.lifecycle]
  dsimp only
  cases before'.lifecycle.moveTo? next with
  | none => exact lockstep_throw _
  | some moved => exact ⟨rfl, level.ambient⟩

theorem lockstep_checkCancelled (level : Level alike before before')
    (cancelled : CancelledAlike before.ambient before'.ambient) :
    Lockstep checkCancelled checkCancelled (fun _ _ => Level alike) before before' := by
  unfold checkCancelled
  rw [lockstep_get, cancelled]
  cases before'.ambient.cancelled with
  | true => exact lockstep_throw _
  | false => exact level

theorem lockstep_acting {ε α β : Type} {act : Act ε α} {act' : Act ε β}
    {done : α → β → Ambient → Ambient → Prop} (level : Level alike before before')
    (acts : Lockstep act act' done before.ambient before'.ambient) :
    Lockstep (acting (Act.outcome act)) (acting (Act.outcome act'))
      (fun outcome outcome' after after' => match outcome, outcome' with
      | .ok value, .ok value' => done value value' after.ambient after'.ambient ∧
        after.lifecycle = after'.lifecycle
      | .error error, .error error' => error = error'
      | _, _ => False) before before' := by
  rw [lockstep_iff_ends, ends_acting_outcome]
  simp only [ends_acting_outcome]
  rw [lockstep_iff_ends] at acts
  refine acts.mono ?_ ?_
  · intro value after ends
    exact ends.mono (fun _ _ good => ⟨good, level.lifecycle⟩) fun _ _ none => none
  · intro error after ends
    exact ends.mono (fun _ _ none => none) fun _ _ same => same

/-- The walks of two requests over a store come to the same: to trees with the same answers and to
the same collection, or to the same error. -/
def WalksAlike (pipeline other : Pipeline) (store : Store) (request request' : QueryRequest)
    (ambient ambient' : Ambient) : Prop :=
  match Rewriting.run pipeline.registry request.query (pipeline.walking request) ambient,
      Rewriting.run other.registry request'.query (other.walking request') ambient' with
  | (.ok tree, walked), (.ok tree', walked') => store.Alike tree tree' ∧
    walked.context.collection = walked'.context.collection ∧
    CancelledAlike walked.ambient walked'.ambient
  | (.error error, _), (.error error', _) => error = error'
  | _, _ => False

/-- Walks with the same result come to the same. -/
theorem walksAlike_of_eq {pipeline other : Pipeline} {request request' : QueryRequest}
    {ambient ambient' : Ambient} (store : Store)
    (same : (Rewriting.run pipeline.registry request.query (pipeline.walking request) ambient).1 =
      (Rewriting.run other.registry request'.query (other.walking request') ambient').1)
    (collected : (Rewriting.run pipeline.registry request.query (pipeline.walking request)
        ambient).2.context.collection =
      (Rewriting.run other.registry request'.query (other.walking request')
        ambient').2.context.collection)
    (cancelled : CancelledAlike
      (Rewriting.run pipeline.registry request.query (pipeline.walking request) ambient).2.ambient
      (Rewriting.run other.registry request'.query (other.walking request') ambient').2.ambient) :
    WalksAlike pipeline other store request request' ambient ambient' := by
  unfold WalksAlike
  generalize Rewriting.run pipeline.registry _ _ _ = ran at *
  generalize Rewriting.run other.registry _ _ _ = ran' at *
  obtain ⟨result, walked⟩ := ran
  obtain ⟨result', walked'⟩ := ran'
  cases (same : result = result')
  cases result with
  | ok tree => exact ⟨.refl tree, collected, cancelled⟩
  | error error => exact rfl

/-- Two rewritten queries have the same answers and the same collection. -/
structure RewrittenAlike (store : Store) (rewritten rewritten' : Rewritten) : Prop where
  query : store.Alike rewritten.query rewritten'.query
  collection : rewritten.collection = rewritten'.collection

variable {pipeline other : Pipeline} {store : Store} {request request' : QueryRequest}

theorem prepare_lockstep (level : Level alike before before')
    (walks : WalksAlike pipeline other store request request' before.ambient before'.ambient) :
    Lockstep (pipeline.prepare request.query request.context)
      (other.prepare request'.query request'.context)
      (fun rewritten rewritten' after after' => RewrittenAlike store rewritten rewritten' ∧
        Level CancelledAlike after after') before before' := by
  unfold prepare
  rw [lockstep_get]
  unfold WalksAlike walking at walks
  generalize Rewriting.run pipeline.registry _ _ _ = ran at *
  generalize Rewriting.run other.registry _ _ _ = ran' at *
  rcases ran with ⟨_ | tree, walked⟩ <;> rcases ran' with ⟨_ | tree', walked'⟩
  · cases (walks : _ = _)
    dsimp only
    split
    · exact rfl
    · exact rfl
  · exact walks.elim
  · exact walks.elim
  · obtain ⟨alikes, collected, cancelled⟩ := walks
    exact ⟨⟨alikes, collected⟩, level.lifecycle, cancelled⟩

section Stages

variable (unlogged : Unlogged alike) (walks : ∀ ambient ambient', alike ambient ambient' →
  CancelledAlike ambient ambient' ∧
    WalksAlike pipeline other store request request' ambient ambient')

include unlogged walks

theorem prepareStage_lockstep (level : Level alike before before') :
    Lockstep (pipeline.prepareStage request) (other.prepareStage request')
      (fun rewritten rewritten' after after' => RewrittenAlike store rewritten rewritten' ∧
        Level CancelledAlike after after') before before' := by
  unfold prepareStage
  apply (lockstep_moveTo level .rewriting).bind
  intro _ _ moved moved' level
  rw [lockstep_get, lockstep_get]
  dsimp only
  apply (lockstep_logging unlogged level _ _).bind
  intro _ _ logged logged' level
  have prepared : Lockstep _ _ _ logged logged' :=
    prepare_lockstep level (walks _ _ level.ambient).2
  have rethrows {scope : RequestError → Telemetry.Log → Telemetry.Log} (error : RequestError)
      (state : State) : Ends (do
          acting (Act.logging (scope error))
          throw error : Run Rewritten) (fun _ _ => False) (fun thrown _ => thrown = error) state := by
    rw [ends_bind, ends_logging]
    rfl
  apply (lockstep_tryCatch prepared rethrows rethrows).bind
  rintro rewritten rewritten' after after' ⟨alikes, level⟩
  rw [lockstep_get]
  apply (lockstep_logging unlogged_cancelled level _ _).bind
  intro _ _ completed completed' level
  apply (lockstep_event unlogged_cancelled level _ _ _ _).bind
  intro _ _ last last' level
  exact ⟨alikes, level⟩

end Stages

/-- A backend answers alike what has been rewritten alike. -/
theorem executeStage_lockstep (backend : pipeline.executor = store.executor)
    (backend' : other.executor = store.executor) (context : request.context = request'.context)
    (options : request.options = request'.options) {rewritten rewritten' : Rewritten}
    (alikes : RewrittenAlike store rewritten rewritten')
    (level : Level CancelledAlike before before') :
    Lockstep (pipeline.executeStage request rewritten) (other.executeStage request' rewritten')
      (fun result result' after after' => result = result' ∧ Level CancelledAlike after after')
      before before' := by
  unfold executeStage
  apply (lockstep_moveTo level .executing).bind
  intro _ _ moved moved' level
  apply (lockstep_calling level _ _).bind
  intro _ _ called called' level
  rw [backend, backend', context, options]
  apply (lockstep_acting level
    (Store.dispatch_lockstep alikes.query level.ambient request'.context request'.options)).bind
  rintro (failed | result) (failed' | result') after after' ended
  · cases (ended : failed = failed')
    cases failed with
    | failed error => exact lockstep_throw _
    | stalled => exact lockstep_throw _
  · exact ended.elim
  · exact ended.elim
  · obtain ⟨⟨rfl, cancelled⟩, stage⟩ := ended
    have level : Level CancelledAlike after after' := ⟨stage, cancelled⟩
    dsimp only
    apply (lockstep_counting level _ _).bind
    intro _ _ counted counted' level
    apply (lockstep_event unlogged_cancelled level _ _ _ _).bind
    intro _ _ last last' level
    exact ⟨by rw [alikes.collection], level⟩

/-- A request ends as its stages do. -/
theorem execute_outcome (pipeline : Pipeline) (request : QueryRequest)
    (metrics : Telemetry.Metrics) (ambient : Ambient) :
    ∃ log metrics', (pipeline.execute request metrics ambient).1 =
      ((pipeline.stages request).run.run
        { ambient := { ambient with log }, metrics := metrics' }).1 := by
  let fields := [("query", request.query.text), requestField request.context]
  let log := ambient.log.event .requestReceived fields
  refine ⟨log, metrics.received, ?_⟩
  rcases ran : (pipeline.stages request).run.run
    { ambient := { ambient with log }, metrics := metrics.received } with ⟨outcome, after⟩
  have served : Ends (pipeline.serve request) (fun result _ => outcome = .ok result)
      (fun error _ => outcome = .error error) { ambient, metrics } := by
    unfold serve
    rw [ends_bind, ends_counting, ends_bind]
    unfold event Act.event
    rw [ends_logging, ends_bind, ends_outcome]
    unfold Ends
    rw [ran]
    cases outcome with
    | ok result => exact settle_ends (.ok result)
    | error error => exact settle_ends (.error error)
  unfold execute
  unfold Ends at served
  revert served
  rcases (pipeline.serve request).run.run _ with ⟨_ | _, last⟩ <;> exact Eq.symm

section Backend

variable (unfiltered : pipeline.filters = []) (unfiltered' : other.filters = [])
  (backend : pipeline.executor = store.executor) (backend' : other.executor = store.executor)
  (context : request.context = request'.context) (options : request.options = request'.options)
  (unlogged : Unlogged alike) (walks : ∀ ambient ambient', alike ambient ambient' →
    CancelledAlike ambient ambient' ∧
      WalksAlike pipeline other store request request' ambient ambient')

include unfiltered unfiltered' backend backend' context options unlogged walks

theorem stages_lockstep (level : Level alike before before') :
    Lockstep (pipeline.stages request) (other.stages request')
      (fun result result' _ _ => result = result') before before' := by
  have unplaced {pipeline : Pipeline} (unfiltered : pipeline.filters = []) :
      pipeline.placedFilters = [] := by
    simp [placedFilters, unfiltered]
  have cancelled {state state' : State} (level : Level alike state state') :
      CancelledAlike state.ambient state'.ambient := (walks _ _ level.ambient).1
  unfold stages
  apply (lockstep_checkCancelled level (cancelled level)).bind
  intro _ _ first first' level
  apply (lockstep_moveTo level .preFiltering).bind
  intro _ _ moved moved' level
  rw [unplaced unfiltered, unplaced unfiltered', List.reverse_nil, preFilter, pure_bind, preFilter,
    pure_bind]
  dsimp only
  apply (lockstep_checkCancelled level (cancelled level)).bind
  intro _ _ second second' level
  apply (prepareStage_lockstep unlogged walks level).bind
  rintro rewritten rewritten' prepared prepared' ⟨alikes, level⟩
  apply (lockstep_checkCancelled level level.ambient).bind
  intro _ _ third third' level
  apply (executeStage_lockstep backend backend' context options alikes level).bind
  rintro result _ executed executed' ⟨rfl, level⟩
  apply (lockstep_checkCancelled level level.ambient).bind
  intro _ _ fourth fourth' level
  apply (lockstep_moveTo level .postFiltering).bind
  intro _ _ entered entered' level
  rw [postFilter, pure_bind, postFilter, pure_bind]
  dsimp only
  apply (lockstep_moveTo level .completed).bind
  intro _ _ _ _ _
  exact rfl

/-- Two requests come to the same if their walks do. -/
theorem execute_eq {ambient ambient' : Ambient} (start : alike ambient ambient')
    (metrics metrics' : Telemetry.Metrics) :
    (pipeline.execute request metrics ambient).1 =
      (other.execute request' metrics' ambient').1 := by
  obtain ⟨log, counted, ended⟩ := pipeline.execute_outcome request metrics ambient
  obtain ⟨log', counted', ended'⟩ := other.execute_outcome request' metrics' ambient'
  have level : Level alike { ambient := { ambient with log }, metrics := counted }
      { ambient := { ambient' with log := log' }, metrics := counted' } :=
    ⟨rfl, unlogged _ _ _ _ start⟩
  have staged := stages_lockstep unfiltered unfiltered' backend backend' context options unlogged
    walks level
  rw [ended, ended']
  unfold Lockstep at staged
  revert staged
  rcases (pipeline.stages request).run.run _ with ⟨_ | _, after⟩ <;>
    rcases (other.stages request').run.run _ with ⟨_ | _, after'⟩ <;> simp

end Backend

end Pipeline

end QueryRewriting
