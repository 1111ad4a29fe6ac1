import QueryRewriting.Proofs.Request.Faults

/-! What the cancellation of a request does. Whether a request has been cancelled is looked at
whenever a stage has come to its end, so the stage in progress is the last one, and only an error of
that stage is reported in place of the cancellation. -/
namespace QueryRewriting.Pipeline

open Telemetry Evaluation

/-- A milestone before the filters look at the result of a request, no filter having supplied it. -/
def Milestone.Underway : Milestone → Prop
  | .screened (.ok (some _)) => False
  | .revised _ => False
  | _ => True

/-- The request has been cancelled by the end of a stage, or the backend call was cut off for it. -/
def Interrupted (milestone : Milestone) (state : State) : Prop :=
  state.ambient.cancelled = true ∨ milestone = .executed (.error .cancelled)

variable {pipeline : Pipeline} {request : QueryRequest} {arrival state : State}
  {milestone : Milestone} {error : RequestError}

/-- A request that is interrupted ends, with the error of the stage if there is one. -/
theorem verdict_of_interrupted (underway : milestone.Underway)
    (interrupted : Interrupted milestone state) :
    milestone.verdict? state.ambient.cancelled =
      some (.error (milestone.failure?.getD .cancelled)) := by
  rcases interrupted with cancelled | rfl
  · rw [cancelled]
    rcases milestone with
      _ | (own | _ | result) | (own | rewritten) | (own | result) | answer
    case screened.ok.some => cases underway
    case revised => cases underway
    all_goals rfl
  · rfl

/-- How a request ends that is interrupted at a milestone. -/
structure Halted (pipeline : Pipeline) (request : QueryRequest) (milestone : Milestone)
    (left : State) (outcome : Except RequestError QueryResult) (state : State) : Prop where
  fails : outcome = .error (milestone.failure?.getD .cancelled)
  faults : ∀ error, milestone.failure? = some error →
    error = .cancelled ∨ Faults pipeline request milestone error
  history : state.lifecycle.history = milestone.lifecycle.history ++ [.failed]
  calls : state.calls = left.calls
  stages : ∀ call ∈ state.calls, call.stage ∈ milestone.lifecycle.history

/-- A request that is interrupted enters no further stage and calls nothing any more. It fails, and
unless the stage in progress fails by itself, because it was cancelled. -/
theorem interruption_halts (metrics : Metrics) (ambient : Ambient)
    (reaches : Reaches pipeline request (arriving request metrics ambient) milestone state)
    (underway : milestone.Underway) (interrupted : Interrupted milestone state) :
    Halted pipeline request milestone state (pipeline.execute request metrics ambient).1
      (pipeline.execute request metrics ambient).2 := by
  have decided := verdict_of_interrupted underway interrupted
  have marks := reaches.marks rfl rfl
  obtain ⟨lifecycle, -, calls⟩ := marks.last
  obtain ⟨final, opened⟩ := Milestone.final_of_error decided
  obtain ⟨outcome, settles⟩ := reaches.execute metrics ambient decided
  have calls := settles.calls.trans calls
  refine ⟨outcome, fun error => reaches.faults rfl rfl, ?_, calls, ?_⟩
  · rw [settles.lifecycle, lifecycle, final, settledLifecycle, fail_of_open opened, history_enter]
  · rw [calls]
    exact marks.calls

/-- A filter that cancels a request keeps it from being rewritten. -/
theorem cancelled_by_filter :
    let guard : RequestFilter := { name := "guard", before := fun _ => do Act.cancel; return none }
    let pipeline : Pipeline := {
      model := { space := "shop" }
      registry := {}
      executor := {
        sequence := fun _ _ _ => return { items := [] }
        scalar := fun _ _ => return .null }
      filters := [guard] }
    let request : QueryRequest := { query := .value ⟨0, .any⟩ .null }
    let screened := (preFilter request pipeline.placedFilters.reverse).run.run
      ((arriving request {} {}).entering .preFiltering)
    let served := pipeline.execute request {} {}
    Interrupted (.screened (.ok none)) screened.2 ∧
      Halted pipeline request (.screened (.ok none)) screened.2 served.1 served.2 ∧
      served.1 = .error .cancelled ∧ served.2.calls = [.before 0] := by
  intro guard pipeline request screened served
  have reaches : Reaches pipeline request (arriving request {} {}) (.screened (.ok none))
      screened.2 := .screened .arrived rfl rfl
  have interrupted : Interrupted (.screened (.ok none)) screened.2 := .inl rfl
  exact ⟨interrupted, interruption_halts {} {} reaches trivial interrupted, by decide +kernel,
    by decide +kernel⟩

/-- The backend cancels a request and answers it, but gives no number for the total count. This is
reported in place of the cancellation, although no call has failed; so is a query that is too deep,
once a hook has cancelled the request. -/
theorem unusable_total_reported :
    let model : Schema.Model := {
      space := "S"
      entityTypes := [("Customer", { name := "Customer", fields := [("Id", ⟨.int, true⟩)] })]
      elements := [("Customers", .collection "Customers" "Customer")] }
    let store : Store := Store.insert {} "Customers" [.object [("Id", .ofUInt64 1)]]
    let executor : Executor := {
      sequence := fun _ _ _ => do
        Act.cancel
        return { items := [] }
      scalar := fun _ _ => return .string "x" }
    let watch : Rewriting.TreeHook := {
      name := "watch"
      run := fun _ => do
        Act.cancel
        return none }
    let stored : Pipeline := { model, registry := { sourcer := some store.sourcer }, executor }
    let customers : Expr := .source ⟨0, .queryable (.entity "Customer")⟩ none "Customers" []
    let counted :=
      stored.execute { query := customers, options := { includeTotalCount := true } } {} {}
    let watched : Pipeline :=
      { model, registry := { normalizers := [watch] }, executor, maxDepth := 2 }
    let negated : Expr := .not ⟨1, .bool⟩ (.value ⟨0, .bool⟩ (.bool true))
    let walked := watched.execute { query := negated } {} {}
    (∀ context query options start error final,
        ¬ (executor.sequence context query options).Gives start (.error error) final) ∧
      (∀ context query start error final,
        ¬ (executor.scalar context query).Gives start (.error error) final) ∧
      (∀ context start error final, ¬ (watch.run context).Gives start (.error error) final) ∧
      (counted.2.ambient.cancelled = true ∧
        counted.1 = .error (.execution (.totalNotACount (.string "x"))) ∧
        counted.2.lifecycle.history = [.received, .preFiltering, .rewriting, .executing, .failed]) ∧
      walked.2.ambient.cancelled = true ∧ walked.1 = .error (.rewriting (.depthExceeded 2)) := by
  intro model store executor watch stored customers counted watched negated walked
  refine ⟨?_, ?_, ?_, by decide +kernel, by decide +kernel⟩
  · intro context query options start error final gives
    cases gives
  · intro context query start error final gives
    cases gives
  · intro context start error final gives
    cases gives

end QueryRewriting.Pipeline
