import QueryRewriting.Evaluation.Backend
import QueryRewriting.Pipeline
import QueryRewriting.Proofs.Evaluation.Meaning
import QueryRewriting.Proofs.Request.Ambient
import QueryRewriting.Proofs.Rewriting.Cancellation

/-! What a pipeline without request filters answers over a store: the value of the rewritten tree,
unless the request is cancelled, the walk fails or the tree has no value. -/
namespace QueryRewriting

open Json Evaluation

theorem toNat?_ofUInt64 (count : UInt64) : (Number.ofUInt64 count).toNat? = some count.toNat := by
  simp [Number.ofUInt64, Number.toNat?]

namespace Evaluation.Store

variable (store : Store)

/-- The number of rows that a total count reports. -/
def total? (tree : Expr) : Option UInt64 :=
  ((value? store tree.stripPaging []).bind items?).map fun rows => rows.length.toUInt64

/-- What a store answers to a tree, if it has an answer. -/
def answer? (tree : Expr) (options : ExecutionOptions) : Option QueryResult :=
  match Shape.of tree.type with
  | .scalar => (value? store tree []).map QueryResult.scalar
  | .sequence =>
    ((value? store tree []).bind items?).bind fun items =>
      (if options.includeTotalCount then (store.total? tree).map some else some none).map
        fun totalCount => { QueryResult.sequence items with totalCount }

variable {store}

theorem answer?_scalar {tree : Expr} (one : tree.type.isCollection = false)
    (options : ExecutionOptions) :
    store.answer? tree options = (value? store tree []).map QueryResult.scalar := by
  unfold answer? Shape.of
  rw [one]
  rfl

theorem answer?_sequence {tree : Expr} (many : tree.type.isCollection = true)
    (options : ExecutionOptions) :
    store.answer? tree options = ((value? store tree []).bind items?).bind fun items =>
      (if options.includeTotalCount then (store.total? tree).map some else some none).map
        fun totalCount => { QueryResult.sequence items with totalCount } := by
  unfold answer? Shape.of
  rw [many]
  rfl

/-- An answer does not depend on identities. -/
theorem answer?_erased (tree : Expr) (options : ExecutionOptions) :
    store.answer? tree.erased options = store.answer? tree options := by
  unfold answer? total?
  rw [Expr.type_erased, Expr.stripPaging_erased, value?_erased, value?_erased]

variable {ambient : Ambient}

theorem totalCount_countOf (rows : List Value) :
    Executor.totalCount (countOf rows) = .ok rows.length.toUInt64 := by
  unfold Executor.totalCount countOf Value.ofUInt64
  simp only [toNat?_ofUInt64]
  exact congrArg _ UInt64.ofNat_toNat

theorem execute_ends (active : ambient.cancelled = false) (query : Expr) :
    Ends (store.execute query)
      (fun value after => value? store query [] = some value ∧ after.cancelled = false)
      (fun _ _ => value? store query [] = none) ambient := by
  unfold execute value?
  rw [ends_bind, ends_get, active]
  simp only [Bool.false_eq_true, if_false, ends_bind]
  unfold evaluate
  cases eval store query [] with
  | error error => exact rfl
  | ok value => exact ⟨rfl, active⟩

theorem executeSequence_ends (active : ambient.cancelled = false) (query : Expr) :
    Ends (store.executeSequence query)
      (fun output after => (value? store query []).bind items? = some output.items ∧
        output.totalCount = none ∧ after.cancelled = false)
      (fun _ _ => (value? store query []).bind items? = none) ambient := by
  unfold executeSequence
  rw [ends_bind]
  refine (execute_ends active query).mono ?_ ?_
  · rintro value after ⟨known, active⟩
    rw [known]
    cases value with
    | array items => exact ⟨rfl, rfl, active⟩
    | _ => exact rfl
  · intro error after unknown
    rw [unknown]
    rfl

theorem countRows_ends (active : ambient.cancelled = false) (request : RequestContext)
    (query : Expr) :
    Ends (store.executor.countRows request query)
      (fun total after => store.total? query = some total ∧ after.cancelled = false)
      (fun _ _ => store.total? query = none) ambient := by
  unfold Executor.countRows
  rw [ends_bind, Act.ends_build]
  have counting : (Fresh.call .count [query.stripPaging]).run ambient.supply =
      (.call ⟨ambient.supply.next, .int⟩ .count [query.stripPaging],
        ⟨ambient.supply.next + 1⟩) := rfl
  have active :
      ({ ambient with supply := ⟨ambient.supply.next + 1⟩ } : Ambient).cancelled = false := active
  rw [counting, ends_bind]
  refine (execute_ends active _).mono ?_ ?_
  · rintro value after ⟨known, active⟩
    rw [value?_call, Option.bind_eq_some_iff] at known
    obtain ⟨rows, listed, known⟩ := known
    obtain rfl := Option.some.inj known
    rw [Act.ends_ofExcept, totalCount_countOf]
    unfold total?
    rw [listed]
    exact ⟨rfl, active⟩
  · intro error after unknown
    rw [value?_call] at unknown
    unfold total?
    cases listed : (value? store query.stripPaging []).bind items? with
    | none => rfl
    | some rows =>
      rw [listed] at unknown
      contradiction

theorem dispatch_ends (active : ambient.cancelled = false) (request : RequestContext) (tree : Expr)
    (options : ExecutionOptions) :
    Ends (store.executor.dispatch request tree options)
      (fun result after => store.answer? tree options = some result ∧ after.cancelled = false)
      (fun _ _ => store.answer? tree options = none) ambient := by
  unfold Executor.dispatch answer?
  cases Shape.of tree.type with
  | scalar =>
    rw [ends_bind]
    refine (execute_ends active tree).mono ?_ ?_
    · rintro value after ⟨known, active⟩
      rw [known]
      exact ⟨rfl, active⟩
    · intro error after unknown
      rw [unknown]
      rfl
  | sequence =>
    rw [ends_bind]
    refine (executeSequence_ends active tree).mono ?_ ?_
    · rintro output after ⟨known, uncounted, active⟩
      simp only [known, Option.bind_some]
      cases options.includeTotalCount with
      | false => exact ⟨rfl, active⟩
      | true =>
        simp only [if_true, uncounted, ends_bind, ends_map]
        refine (countRows_ends active request tree).mono ?_ ?_
        · rintro total after ⟨counted, active⟩
          rw [counted]
          exact ⟨rfl, active⟩
        · intro error after uncounted
          rw [uncounted]
          rfl
    · intro error after unknown
      rw [unknown]
      rfl

theorem collection_answer {tree : Expr} {options : ExecutionOptions} {result : QueryResult}
    (answered : store.answer? tree options = some result) : result.collection = none := by
  unfold answer? at answered
  split at answered
  · obtain ⟨value, -, rfl⟩ := Option.map_eq_some_iff.mp answered
    rfl
  · obtain ⟨items, -, answered⟩ := Option.bind_eq_some_iff.mp answered
    obtain ⟨total, -, rfl⟩ := Option.map_eq_some_iff.mp answered
    rfl

end Evaluation.Store

namespace Pipeline

open Run

variable {α : Type} {done : α → State → Prop} {failed : RequestError → State → Prop}
  {before : State}

theorem ends_acting (act : Act RequestError α) :
    Ends (acting act) done failed before ↔
      Ends act (fun value ambient => done value { before with ambient })
        (fun error ambient => failed error { before with ambient }) before.ambient :=
  Act.ends_within _ _ act

theorem ends_acting_outcome {ε : Type} (act : Act ε α) {done : Except ε α → State → Prop} :
    Ends (acting (Act.outcome act)) done failed before ↔
      Ends act (fun value ambient => done (.ok value) { before with ambient })
        (fun error ambient => done (.error error) { before with ambient }) before.ambient := by
  rw [ends_acting]
  exact ends_outcome act

theorem ends_logging (change : Telemetry.Log → Telemetry.Log) {done : Unit → State → Prop} :
    Ends (acting (Act.logging change)) done failed before ↔
      done ()
        { before with ambient := { before.ambient with log := change before.ambient.log } } := by
  rw [ends_acting]
  rfl

theorem ends_counting (change : Telemetry.Metrics → Telemetry.Metrics)
    {done : Unit → State → Prop} :
    Ends (counting change) done failed before ↔
      done () { before with metrics := change before.metrics } := .rfl

theorem ends_calling (call : Call) {done : Unit → State → Prop} :
    Ends (calling call) done failed before ↔
      done () { before with journal := call :: before.journal } := .rfl

theorem ends_checkCancelled {done : Unit → State → Prop} :
    Ends checkCancelled done failed before ↔
      if before.ambient.cancelled then failed .cancelled before else done () before := by
  unfold checkCancelled
  rw [ends_bind, ends_get]
  split <;> rfl

theorem ends_moveTo {next : Stage} (leads : before.lifecycle.stage.leadsTo next = true)
    {done : Unit → State → Prop} :
    Ends (moveTo next) done failed before ↔
      done () { before with lifecycle := before.lifecycle.enter next } := by
  unfold moveTo
  rw [ends_bind, ends_get]
  unfold Lifecycle.moveTo?
  simp only [leads, if_true]
  rfl

/-- The context in which the walk over the query of a request begins. -/
def walking (pipeline : Pipeline) (request : QueryRequest) : Rewriting.Context :=
  { model := pipeline.model, request := request.context, maxDepth := pipeline.maxDepth }

/-- What the walk over the query of a request may come to, and the collection that it finds. -/
def Walks (pipeline : Pipeline) (request : QueryRequest) (result : Except Rewriting.Error Expr)
    (collection : Option String) : Prop :=
  ∃ ambient walked,
    Rewriting.run pipeline.registry request.query (pipeline.walking request) ambient =
      (result, walked) ∧ walked.context.collection = collection

variable {pipeline : Pipeline} {request : QueryRequest} {store : Store}

theorem prepare_ends (quiet : pipeline.registry.Quiet) :
    Ends (pipeline.prepare request.query request.context)
      (fun rewritten after => pipeline.Walks request (.ok rewritten.query) rewritten.collection ∧
        after.ambient.cancelled = before.ambient.cancelled ∧ after.lifecycle = before.lifecycle)
      (fun error _ => ∃ failure collection,
        pipeline.Walks request (.error failure) collection ∧
          error = .rewriting failure) before := by
  unfold prepare
  rw [ends_bind, ends_get]
  have kept := Rewriting.run_quiet quiet request.query (pipeline.walking request) before.ambient
  rcases walk : Rewriting.run pipeline.registry request.query (pipeline.walking request)
    before.ambient with ⟨result, walked⟩
  unfold walking at walk
  rw [walking, walk] at kept
  rw [walk]
  dsimp only
  rw [ends_bind, ends_modify, ends_bind, ends_calling, ends_bind, ends_counting]
  cases result with
  | ok tree =>
    dsimp only
    rw [ends_bind, ends_counting, ends_pure]
    exact ⟨⟨before.ambient, walked, walk, rfl⟩, kept, rfl⟩
  | error failure =>
    dsimp only
    split
    all_goals exact ⟨_, _, ⟨before.ambient, walked, walk, rfl⟩, rfl⟩

theorem prepareStage_ends (quiet : pipeline.registry.Quiet)
    (entered : before.lifecycle.stage = .preFiltering) :
    Ends (pipeline.prepareStage request)
      (fun rewritten after => pipeline.Walks request (.ok rewritten.query) rewritten.collection ∧
        after.ambient.cancelled = before.ambient.cancelled ∧ after.lifecycle.stage = .rewriting)
      (fun error _ => ∃ failure collection,
        pipeline.Walks request (.error failure) collection ∧
          error = .rewriting failure) before := by
  unfold prepareStage
  have leads : before.lifecycle.stage.leadsTo .rewriting = true := by rw [entered]; rfl
  rw [ends_bind, ends_moveTo leads, ends_bind, ends_get, ends_bind, ends_get]
  dsimp only
  rw [ends_bind, ends_logging, ends_bind, ends_tryCatch]
  refine (prepare_ends quiet).mono ?_ ?_
  · rintro rewritten after ⟨walks, kept, stage⟩
    rw [ends_bind, ends_get, ends_bind, ends_logging, ends_bind]
    unfold event Act.event
    rw [ends_logging, ends_pure]
    refine ⟨walks, kept, ?_⟩
    rw [stage]
    rfl
  · rintro error after failed
    rw [ends_bind, ends_logging]
    exact failed

theorem executeStage_ends (backend : pipeline.executor = store.executor)
    (active : before.ambient.cancelled = false) (entered : before.lifecycle.stage = .rewriting)
    (rewritten : Rewritten) :
    Ends (pipeline.executeStage request rewritten)
      (fun result after => (∃ answer, store.answer? rewritten.query request.options = some answer ∧
          result = { answer with collection := rewritten.collection }) ∧
        after.ambient.cancelled = false ∧ after.lifecycle.stage = .executing)
      (fun _ _ => store.answer? rewritten.query request.options = none) before := by
  unfold executeStage
  have leads : before.lifecycle.stage.leadsTo .executing = true := by rw [entered]; rfl
  rw [ends_bind, ends_moveTo leads, ends_bind, ends_calling, ends_bind, ends_acting_outcome,
    backend]
  refine (Store.dispatch_ends active request.context rewritten.query request.options).mono ?_ ?_
  · rintro answer after ⟨answered, active⟩
    dsimp only
    rw [ends_bind, ends_counting, ends_bind]
    unfold event Act.event
    rw [ends_logging, ends_pure, Store.collection_answer answered]
    refine ⟨⟨answer, answered, ?_⟩, active, rfl⟩
    cases rewritten.collection <;> rfl
  · intro error after unanswered
    cases error <;> exact unanswered

/-- A result that is what a store answers to what a query was rewritten to. -/
def Answers (pipeline : Pipeline) (store : Store) (request : QueryRequest) (result : QueryResult) :
    Prop :=
  ∃ tree collection answer, pipeline.Walks request (.ok tree) collection ∧
    store.answer? tree request.options = some answer ∧ result = { answer with collection }

/-- An error that is that of the walk, or due to a tree without an answer. -/
def Fails (pipeline : Pipeline) (store : Store) (request : QueryRequest) (error : RequestError) :
    Prop :=
  (∃ failure collection, pipeline.Walks request (.error failure) collection ∧
      error = .rewriting failure) ∨
    ∃ tree collection, pipeline.Walks request (.ok tree) collection ∧
      store.answer? tree request.options = none

/-- Settling a request does not change how it ended. -/
theorem settle_ends (outcome : Except RequestError QueryResult) :
    Ends (settle request outcome) (fun result _ => outcome = .ok result)
      (fun error _ => outcome = .error error) before := by
  cases outcome with
  | ok result =>
    unfold settle
    rw [ends_bind, ends_get]
    split
    · rw [ends_bind, ends_counting, ends_bind, ends_counting, ends_bind]
      unfold event Act.event
      rw [ends_logging]
      rfl
    · rfl
  | error error =>
    unfold settle
    rw [ends_bind, ends_get, ends_bind, ends_modify]
    split
    all_goals
      rw [ends_bind, ends_counting, ends_bind]
      unfold event Act.event
      rw [ends_logging]
      rfl

section Backend

variable (unfiltered : pipeline.filters = []) (backend : pipeline.executor = store.executor)
  (quiet : pipeline.registry.Quiet)

include unfiltered backend quiet

theorem stages_ends (received : before.lifecycle.stage = .received) :
    Ends (pipeline.stages request)
      (fun result _ => before.ambient.cancelled = false ∧ pipeline.Answers store request result)
      (fun error _ => before.ambient.cancelled = false → pipeline.Fails store request error)
      before := by
  unfold stages
  rw [ends_bind, ends_checkCancelled]
  cases active : before.ambient.cancelled with
  | true => exact nofun
  | false =>
    have none : pipeline.placedFilters = [] := by simp [placedFilters, unfiltered]
    have leads : before.lifecycle.stage.leadsTo .preFiltering = true := by rw [received]; rfl
    rw [if_neg Bool.false_ne_true, ends_bind, ends_moveTo leads, none, List.reverse_nil, preFilter,
      pure_bind]
    dsimp only
    rw [ends_bind, ends_checkCancelled, active, if_neg Bool.false_ne_true, ends_bind]
    refine (prepareStage_ends quiet rfl).mono ?_ (fun _ _ failed _ => .inl failed)
    rintro rewritten prepared ⟨walks, kept, entered⟩
    have active : prepared.ambient.cancelled = false := kept.trans active
    rw [ends_bind, ends_checkCancelled, active, if_neg Bool.false_ne_true, ends_bind]
    refine (executeStage_ends backend active entered rewritten).mono ?_
      (fun _ _ unanswered _ => .inr ⟨_, _, walks, unanswered⟩)
    rintro result executed ⟨⟨answer, answered, rfl⟩, active, entered⟩
    have leads : executed.lifecycle.stage.leadsTo .postFiltering = true := by rw [entered]; rfl
    rw [ends_bind, ends_checkCancelled, active, if_neg Bool.false_ne_true, ends_bind,
      ends_moveTo leads, postFilter, pure_bind]
    dsimp only
    rw [ends_bind, ends_moveTo rfl, ends_pure]
    exact ⟨rfl, _, _, answer, walks, answered, rfl⟩

/-- What a request ends in: the answer of the store to what the walk makes of its query, the failure
of the walk, or the lack of an answer. -/
theorem execute_ends (metrics : Telemetry.Metrics) (ambient : Ambient) :
    match (pipeline.execute request metrics ambient).1 with
    | .ok result => ambient.cancelled = false ∧ pipeline.Answers store request result
    | .error error => ambient.cancelled = false → pipeline.Fails store request error := by
  have served : Ends (pipeline.serve request)
      (fun result _ => ambient.cancelled = false ∧ pipeline.Answers store request result)
      (fun error _ => ambient.cancelled = false → pipeline.Fails store request error)
      { ambient, metrics } := by
    unfold serve
    rw [ends_bind, ends_counting, ends_bind]
    unfold event Act.event
    rw [ends_logging, ends_bind, ends_outcome]
    refine (stages_ends unfiltered backend quiet rfl).mono ?_ ?_
    · rintro result after answers
      refine (settle_ends (.ok result)).mono ?_ (fun _ _ => nofun)
      rintro _ _ ⟨⟩
      exact answers
    · rintro error after fails
      refine (settle_ends (.error error)).mono (fun _ _ => nofun) ?_
      rintro _ _ ⟨⟩
      exact fails
  unfold Ends at served
  unfold execute
  revert served
  rcases (pipeline.serve request).run.run _ with ⟨_ | _, after⟩ <;> exact id

end Backend

end Pipeline

end QueryRewriting
