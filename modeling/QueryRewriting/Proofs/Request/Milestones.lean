import QueryRewriting.Proofs.Request.Stages

/-! The milestones of a request: what the stages come to, one after the other. A request comes to
every milestone that the functions of the pipeline reach from its arrival, goes on from there unless
the milestone ends it, and is settled by the one that does. -/
namespace QueryRewriting.Pipeline

open Run Telemetry

theorem history_enter (lifecycle : Lifecycle) (next : Stage) :
    (lifecycle.enter next).history = lifecycle.history ++ [next] :=
  List.reverse_cons

theorem fail_of_open {lifecycle : Lifecycle} (opened : lifecycle.stage.isTerminal = false) :
    lifecycle.fail = lifecycle.enter .failed := by
  rw [Lifecycle.fail, opened, if_neg Bool.false_ne_true]

/-- How far a request has come, and what the last of its stages came to. -/
inductive Milestone where
  | arrived
  | screened (answer : Except RequestError (Option QueryResult))
  | rewritten (answer : Except RequestError Rewritten)
  | executed (answer : Except RequestError QueryResult)
  | revised (answer : Except RequestError (Option QueryResult))

/-- The milestones that a request comes to from its arrival, with the states in which it does. A
stage begins only if the request has not been cancelled. -/
inductive Reaches (pipeline : Pipeline) (request : QueryRequest) (arrival : State) :
    Milestone → State → Prop where
  | arrived : Reaches pipeline request arrival .arrived arrival
  | screened {before after : State} {answer : Except RequestError (Option QueryResult)} :
      Reaches pipeline request arrival .arrived before → before.ambient.cancelled = false →
      (preFilter request pipeline.placedFilters.reverse).run.run (before.entering .preFiltering) =
        (answer, after) →
      Reaches pipeline request arrival (.screened answer) after
  | rewritten {before after : State} {answer : Except RequestError Rewritten} :
      Reaches pipeline request arrival (.screened (.ok none)) before →
      before.ambient.cancelled = false →
      (pipeline.prepareStage request).run.run before = (answer, after) →
      Reaches pipeline request arrival (.rewritten answer) after
  | executed {before after : State} {rewritten : Rewritten}
      {answer : Except RequestError QueryResult} :
      Reaches pipeline request arrival (.rewritten (.ok rewritten)) before →
      before.ambient.cancelled = false →
      (pipeline.executeStage request rewritten).run.run before = (answer, after) →
      Reaches pipeline request arrival (.executed answer) after
  | revised {before after : State} {result : QueryResult}
      {answer : Except RequestError (Option QueryResult)} :
      Reaches pipeline request arrival (.executed (.ok result)) before →
      before.ambient.cancelled = false →
      (postFilter request pipeline.placedFilters (some result)).run.run
        (before.entering .postFiltering) = (answer, after) →
      Reaches pipeline request arrival (.revised answer) after

/-- The stage that something called belongs to. -/
def Call.stage : Call → Stage
  | .before _ => .preFiltering
  | .walk _ => .rewriting
  | .execution => .executing
  | .after _ => .postFiltering

/-- The error of an answer, if it is one. -/
def refusal? {α : Type} : Except RequestError α → Option RequestError
  | .error error => some error
  | .ok _ => none

theorem eq_of_refusal? {α : Type} {answer : Except RequestError α} {error : RequestError}
    (refused : refusal? answer = some error) : answer = .error error := by
  cases answer with
  | error own => rw [Option.some.inj refused]
  | ok value => cases refused

namespace Milestone

/-- The error that the last stage of a request failed with, if it did. -/
def failure? : Milestone → Option RequestError
  | .arrived => none
  | .screened answer => refusal? answer
  | .rewritten answer => refusal? answer
  | .executed answer => refusal? answer
  | .revised answer => refusal? answer

/-- What a request comes to that ends at a milestone, and nothing if it goes on. -/
def verdict? (cancelled : Bool) : Milestone → Option (Except RequestError QueryResult)
  | .screened (.error error) => some (.error error)
  | .screened (.ok (some result)) => some (.ok result)
  | .rewritten (.error error) => some (.error error)
  | .executed (.error error) => some (.error error)
  | .revised (.error error) => some (.error error)
  | .revised (.ok none) => some (.error (.filterFailed "post" .resultRemoved))
  | .revised (.ok (some result)) => some (.ok result)
  | .arrived | .screened (.ok none) | .rewritten (.ok _) | .executed (.ok _) =>
    if cancelled then some (.error .cancelled) else none

/-- A request fails with the error of a stage, or because it was cancelled or has lost its
result. -/
theorem failure_of_verdict {milestone : Milestone} {cancelled : Bool} {error : RequestError}
    (decided : milestone.verdict? cancelled = some (.error error)) :
    milestone.failure? = some error ∨ error = .cancelled ∨
      error = .filterFailed "post" .resultRemoved := by
  have gate : (if cancelled then some (.error .cancelled) else none :
      Option (Except RequestError QueryResult)) = some (.error error) → error = .cancelled := by
    intro decided
    exact (Except.error.inj (Option.some.inj (Option.ite_none_right_eq_some.mp decided).2)).symm
  rcases milestone with
    _ | (own | _ | result) | (own | rewritten) | (own | result) | (own | _ | result)
  case arrived => exact .inr (.inl (gate decided))
  case screened.ok.none => exact .inr (.inl (gate decided))
  case rewritten.ok => exact .inr (.inl (gate decided))
  case executed.ok => exact .inr (.inl (gate decided))
  case screened.ok.some => cases Option.some.inj decided
  case revised.ok.some => cases Option.some.inj decided
  case revised.ok.none => exact .inr (.inr (Except.error.inj (Option.some.inj decided)).symm)
  all_goals exact .inl (congrArg some (Except.error.inj (Option.some.inj decided)))

/-- The lifecycle of a request at a milestone. -/
def lifecycle : Milestone → Lifecycle
  | .arrived => {}
  | .screened answer => suppliedLifecycle ⟨.preFiltering, [.received]⟩ answer
  | .rewritten _ => ⟨.rewriting, [.preFiltering, .received]⟩
  | .executed _ => ⟨.executing, [.rewriting, .preFiltering, .received]⟩
  | .revised _ => ⟨.postFiltering, [.executing, .rewriting, .preFiltering, .received]⟩

section History

@[simp] theorem history_arrived : arrived.lifecycle.history = [.received] := rfl

@[simp] theorem history_refused (error : RequestError) :
    (screened (.error error)).lifecycle.history = [.received, .preFiltering] := rfl

@[simp] theorem history_passed :
    (screened (.ok none)).lifecycle.history = [.received, .preFiltering] := rfl

@[simp] theorem history_rewritten (answer : Except RequestError Rewritten) :
    (rewritten answer).lifecycle.history = [.received, .preFiltering, .rewriting] := rfl

@[simp] theorem history_executed (answer : Except RequestError QueryResult) :
    (executed answer).lifecycle.history =
      [.received, .preFiltering, .rewriting, .executing] := rfl

@[simp] theorem history_revised (answer : Except RequestError (Option QueryResult)) :
    (revised answer).lifecycle.history =
      [.received, .preFiltering, .rewriting, .executing, .postFiltering] := rfl

theorem preFiltered_prefix (answer : Except RequestError (Option QueryResult)) :
    [.received, .preFiltering] <+: (screened answer).lifecycle.history := by
  rcases answer with error | _ | result
  · exact List.prefix_rfl
  · exact List.prefix_rfl
  · exact ⟨[.shortCircuited], rfl⟩

end History

/-- The lifecycle in which a request is settled that ends at a milestone. -/
def final (milestone : Milestone) : Lifecycle :=
  match milestone with
  | .revised (.ok (some _)) => milestone.lifecycle.enter .completed
  | _ => milestone.lifecycle

/-- A request succeeds with what a filter supplies or with what they all have left. -/
theorem eq_of_ok {milestone : Milestone} {cancelled : Bool} {result : QueryResult}
    (decided : milestone.verdict? cancelled = some (.ok result)) :
    milestone = .screened (.ok (some result)) ∨ milestone = .revised (.ok (some result)) := by
  have gate : (if cancelled then some (.error .cancelled) else none :
      Option (Except RequestError QueryResult)) ≠ some (.ok result) := by
    cases cancelled <;> simp
  rcases milestone with
    _ | (own | _ | left) | (own | rewritten) | (own | left) | (own | _ | left)
  case screened.ok.some => rw [Except.ok.inj (Option.some.inj decided)]; exact .inl rfl
  case revised.ok.some => rw [Except.ok.inj (Option.some.inj decided)]; exact .inr rfl
  case arrived => exact absurd decided gate
  case screened.ok.none => exact absurd decided gate
  case rewritten.ok => exact absurd decided gate
  case executed.ok => exact absurd decided gate
  all_goals cases Option.some.inj decided

/-- A request that fails at a milestone has not ended before. -/
theorem final_of_error {milestone : Milestone} {cancelled : Bool} {error : RequestError}
    (decided : milestone.verdict? cancelled = some (.error error)) :
    milestone.final = milestone.lifecycle ∧ milestone.lifecycle.stage.isTerminal = false := by
  rcases milestone with
    _ | (own | _ | result) | (own | rewritten) | (own | result) | (own | _ | result)
  case screened.ok.some => cases Option.some.inj decided
  case revised.ok.some => cases Option.some.inj decided
  all_goals exact ⟨rfl, rfl⟩

/-- What has been counted of a request at a milestone. -/
def tally : Milestone → Tally
  | .arrived => {}
  | .screened answer => suppliedTally answer
  | .rewritten answer => preparedTally answer
  | .executed answer => { rewritten := 1 } + executedTally answer
  | .revised _ => { rewritten := 1, executed := 1 }

end Milestone

/-- What a milestone says of the state in which a request comes to it. -/
structure Marks (arrival : State) (milestone : Milestone) (state : State) : Prop where
  lifecycle : state.lifecycle = milestone.lifecycle
  counted : Counted arrival.metrics state.metrics milestone.tally
  calls : ∀ call ∈ state.calls, call.stage ∈ milestone.lifecycle.history

variable {pipeline : Pipeline} {request : QueryRequest} {arrival before after state : State}
  {milestone : Milestone}

/-- The next milestone adds calls of a stage that it counts among those entered, and so it does with
those of the milestone before. -/
theorem Marks.next {next : Milestone} {tally : Tally} {made : List Call}
    (marks : Marks arrival milestone before) (lifecycle : after.lifecycle = next.lifecycle)
    (counted : Counted before.metrics after.metrics tally)
    (tallied : milestone.tally + tally = next.tally)
    (grows : milestone.lifecycle.history ⊆ next.lifecycle.history)
    (calls : after.calls = before.calls ++ made)
    (own : ∀ call ∈ made, call.stage ∈ next.lifecycle.history) : Marks arrival next after := by
  refine ⟨lifecycle, tallied ▸ marks.counted.trans counted, ?_⟩
  intro call mem
  rw [calls] at mem
  rcases List.mem_append.mp mem with earlier | made
  · exact grows (marks.calls call earlier)
  · exact own call made

section Marks

variable (received : arrival.lifecycle = {}) (silent : arrival.calls = [])

include received silent

theorem Reaches.marks (reaches : Reaches pipeline request arrival milestone state) :
    Marks arrival milestone state := by
  induction reaches with
  | arrived =>
    refine ⟨received, .none _, ?_⟩
    rw [silent]
    intro call mem
    cases mem
  | @screened before after answer _ _ ran ih =>
    have screens := (preFilter_screens rfl).of_run ran
    obtain ⟨places, _, -, -, calls⟩ := screens.screened
    refine ih.next ?_ screens.counted ?_ ?_ calls ?_
    · rw [screens.lifecycle, State.entering, ih.lifecycle]
      rfl
    · rcases answer with error | _ | result <;> rfl
    · exact ((List.prefix_append [_] [_]).trans (Milestone.preFiltered_prefix answer)).subset
    · intro call made
      obtain ⟨place, -, rfl⟩ := List.mem_map.mp made
      exact (Milestone.preFiltered_prefix answer).subset (by simp [Call.stage])
  | @rewritten before after answer _ _ ran ih =>
    have entered : before.lifecycle.stage = .preFiltering := by rw [ih.lifecycle]; rfl
    obtain ⟨start, -, prepares⟩ := (prepareStage_rewrites entered).of_run ran
    obtain ⟨_, walked, -, -, -, calls⟩ := prepares.walked
    refine ih.next ?_ prepares.counted ?_ ?_ calls ?_
    · rw [prepares.lifecycle, State.entering, ih.lifecycle]
      rfl
    · rcases answer with error | rewritten <;> rfl
    · simp
    · intro call made
      obtain rfl := List.mem_singleton.mp made
      simp [Call.stage]
  | @executed before after rewritten answer _ _ ran ih =>
    have entered : before.lifecycle.stage = .rewriting := by rw [ih.lifecycle]; rfl
    have executes := (executeStage_executes entered rewritten).of_run ran
    refine ih.next ?_ executes.counted rfl ?_ executes.calls ?_
    · rw [executes.lifecycle, ih.lifecycle]
      rfl
    · simp
    · intro call made
      obtain rfl := List.mem_singleton.mp made
      simp [Call.stage]
  | @revised before after result answer _ _ ran ih =>
    have revises := (postFilter_revises _).of_run ran
    obtain ⟨places, -, calls⟩ := revises.revised
    have counted : Counted before.metrics after.metrics {} := by
      rw [revises.metrics]
      exact .none _
    refine ih.next ?_ counted rfl ?_ calls ?_
    · rw [revises.lifecycle, State.entering, ih.lifecycle]
      rfl
    · simp
    · intro call made
      obtain ⟨place, -, rfl⟩ := List.mem_map.mp made
      simp [Call.stage]

end Marks

section Onwards

variable {α β : Type}

/-- Goes on with the value of an answer, if it is one. -/
def given (answer : Except RequestError α) (next : α → Run β) : Run β :=
  match answer with
  | .ok value => next value
  | .error error => throw error

theorem given_ok (value : α) (next : α → Run β) : given (.ok value) next = next value := rfl

theorem ends_bind_of_run {step : Run α} {answer : Except RequestError α} {next : α → Run β}
    {done : β → State → Prop} {failed : RequestError → State → Prop} :
    step.run.run before = (answer, state) → (Ends (step >>= next) done failed before ↔
      Ends (given answer next) done failed state) := by
  intro ran
  rw [ends_bind, ends_iff_of_run ran]
  cases answer <;> rfl

variable (pipeline request)

/-- Ends a request with what its filters have left of the result. -/
def closing : Option QueryResult → Run QueryResult
  | none => throw (.filterFailed "post" .resultRemoved)
  | some result => do
    moveTo .completed
    return result

/-- What is left to be done after an execution. -/
def revising (result : QueryResult) : Run QueryResult := do
  checkCancelled
  moveTo .postFiltering
  closing (← postFilter request pipeline.placedFilters (some result))

/-- What is left to be done after a rewriting. -/
def executing (rewritten : Rewritten) : Run QueryResult := do
  checkCancelled
  revising pipeline request (← pipeline.executeStage request rewritten)

/-- What is left to be done after the screening of a request. -/
def preparing : Option QueryResult → Run QueryResult
  | some result => return result
  | none => do
    checkCancelled
    executing pipeline request (← pipeline.prepareStage request)

/-- What is left to be done for a request at a milestone. -/
def onwards : Milestone → Run QueryResult
  | .arrived => pipeline.stages request
  | .screened answer => given answer (preparing pipeline request)
  | .rewritten answer => given answer (executing pipeline request)
  | .executed answer => given answer (revising pipeline request)
  | .revised answer => given answer closing

theorem stages_eq : pipeline.stages request = (do
    checkCancelled
    moveTo .preFiltering
    preparing pipeline request (← preFilter request pipeline.placedFilters.reverse)) := by
  rfl

/-- The outcome of a request is that of what is left to be done at any milestone it comes to. -/
theorem Reaches.onwards {pipeline : Pipeline} {request : QueryRequest}
    (received : arrival.lifecycle = {}) (silent : arrival.calls = [])
    (reaches : Reaches pipeline request arrival milestone state)
    {done : QueryResult → State → Prop} {failed : RequestError → State → Prop} :
    Ends (pipeline.stages request) done failed arrival ↔
      Ends (Pipeline.onwards pipeline request milestone) done failed state := by
  induction reaches with
  | arrived => rfl
  | @screened before after answer reaches active ran ih =>
    have stage := (reaches.marks received silent).lifecycle
    rw [ih, Pipeline.onwards, stages_eq, ends_bind, ends_checkCancelled, active,
      if_neg Bool.false_ne_true, ends_bind, ends_moveTo (by rw [stage]; rfl)]
    exact ends_bind_of_run ran
  | @rewritten before after answer _ active ran ih =>
    rw [ih, Pipeline.onwards, given_ok, preparing, ends_bind, ends_checkCancelled, active,
      if_neg Bool.false_ne_true]
    exact ends_bind_of_run ran
  | @executed before after rewritten answer _ active ran ih =>
    rw [ih, Pipeline.onwards, given_ok, executing, ends_bind, ends_checkCancelled, active,
      if_neg Bool.false_ne_true]
    exact ends_bind_of_run ran
  | @revised before after result answer reaches active ran ih =>
    have stage := (reaches.marks received silent).lifecycle
    rw [ih, Pipeline.onwards, given_ok, revising, ends_bind, ends_checkCancelled, active,
      if_neg Bool.false_ne_true, ends_bind, ends_moveTo (by rw [stage]; rfl)]
    exact ends_bind_of_run ran

end Onwards

/-- The state in which a request is settled that ends at a milestone. -/
def Milestone.last (milestone : Milestone) (state : State) : State :=
  match milestone with
  | .revised (.ok (some _)) => state.entering .completed
  | _ => state

theorem ends_gate {next : PUnit → Run QueryResult} {outcome : Except RequestError QueryResult}
    (decided :
      (if state.ambient.cancelled then some (.error .cancelled) else none) = some outcome) :
    Ends (checkCancelled >>= next) (fun value final => (outcome, state) = (.ok value, final))
      (fun error final => (outcome, state) = (.error error, final)) state := by
  obtain ⟨cancelled, decided⟩ := Option.ite_none_right_eq_some.mp decided
  rw [ends_bind, ends_checkCancelled, if_pos cancelled, Option.some.inj decided]

theorem Marks.last (marks : Marks arrival milestone state) :
    (milestone.last state).lifecycle = milestone.final ∧
      (milestone.last state).metrics = state.metrics ∧
      (milestone.last state).calls = state.calls := by
  unfold Milestone.last Milestone.final
  split
  · exact ⟨congrArg (Lifecycle.enter · .completed) marks.lifecycle, rfl, rfl⟩
  · exact ⟨marks.lifecycle, rfl, rfl⟩

/-- A request ends at a milestone that has a verdict on it. -/
theorem Reaches.run_eq (received : arrival.lifecycle = {}) (silent : arrival.calls = [])
    (reaches : Reaches pipeline request arrival milestone state)
    {outcome : Except RequestError QueryResult}
    (decided : milestone.verdict? state.ambient.cancelled = some outcome) :
    (pipeline.stages request).run.run arrival = (outcome, milestone.last state) := by
  have stage := (reaches.marks received silent).lifecycle
  refine Ends.run_eq ((reaches.onwards received silent).mpr ?_)
  rcases milestone with
    _ | (error | _ | result) | (error | rewritten) | (error | result) | (error | _ | result)
  case arrived => exact ends_gate decided
  case screened.ok.none => exact ends_gate decided
  case rewritten.ok => exact ends_gate decided
  case executed.ok => exact ends_gate decided
  case revised.ok.some =>
    rw [Pipeline.onwards, given_ok, closing, ends_bind, ends_moveTo (by rw [stage]; rfl)]
    exact congrArg (·, _) (Option.some.inj decided).symm
  all_goals exact congrArg (·, _) (Option.some.inj decided).symm

/-- A request that ends at one of the milestones that it comes to. -/
def Decided (pipeline : Pipeline) (request : QueryRequest) (arrival : State) : Prop :=
  ∃ milestone state outcome, Reaches pipeline request arrival milestone state ∧
    milestone.verdict? state.ambient.cancelled = some outcome

theorem decided_executed {answer : Except RequestError QueryResult}
    (reaches : Reaches pipeline request arrival (.executed answer) state) :
    Decided pipeline request arrival := by
  rcases answer with error | result
  · exact ⟨_, _, _, reaches, rfl⟩
  · cases active : state.ambient.cancelled with
    | true => exact ⟨_, _, _, reaches, if_pos active⟩
    | false =>
      rcases ran : (postFilter request pipeline.placedFilters (some result)).run.run
        (state.entering .postFiltering) with ⟨error | _ | left, after⟩
      all_goals exact ⟨_, _, _, reaches.revised active ran, rfl⟩

theorem decided_rewritten {answer : Except RequestError Rewritten}
    (reaches : Reaches pipeline request arrival (.rewritten answer) state) :
    Decided pipeline request arrival := by
  rcases answer with error | rewritten
  · exact ⟨_, _, _, reaches, rfl⟩
  · cases active : state.ambient.cancelled with
    | true => exact ⟨_, _, _, reaches, if_pos active⟩
    | false =>
      rcases ran : (pipeline.executeStage request rewritten).run.run state with ⟨answer, after⟩
      exact decided_executed (reaches.executed active ran)

theorem decided_screened {answer : Except RequestError (Option QueryResult)}
    (reaches : Reaches pipeline request arrival (.screened answer) state) :
    Decided pipeline request arrival := by
  rcases answer with error | _ | result
  · exact ⟨_, _, _, reaches, rfl⟩
  · cases active : state.ambient.cancelled with
    | true => exact ⟨_, _, _, reaches, if_pos active⟩
    | false =>
      rcases ran : (pipeline.prepareStage request).run.run state with ⟨answer, after⟩
      exact decided_rewritten (reaches.rewritten active ran)
  · exact ⟨_, _, _, reaches, rfl⟩

/-- Every request ends at one of the milestones that it comes to. -/
theorem decided (pipeline : Pipeline) (request : QueryRequest) (arrival : State) :
    Decided pipeline request arrival := by
  cases active : arrival.ambient.cancelled with
  | true => exact ⟨_, _, _, .arrived, if_pos active⟩
  | false =>
    rcases ran : (preFilter request pipeline.placedFilters.reverse).run.run
      (arrival.entering .preFiltering) with ⟨answer, after⟩
    exact decided_screened (.screened .arrived active ran)

/-- What settling a request counts. -/
def settledTally (stage : Stage) : Except RequestError QueryResult → Tally
  | .ok result => if stage = .completed then { completed := 1, rows := result.size } else {}
  | .error .cancelled => { cancelled := 1 }
  | .error _ => { failed := 1 }

/-- The lifecycle of a request that is settled. -/
def settledLifecycle (lifecycle : Lifecycle) : Except RequestError QueryResult → Lifecycle
  | .ok _ => lifecycle
  | .error _ => lifecycle.fail

/-- What a request that is settled goes through. -/
structure Settles (before : State) (outcome : Except RequestError QueryResult) (after : State) :
    Prop where
  lifecycle : after.lifecycle = settledLifecycle before.lifecycle outcome
  calls : after.calls = before.calls
  counted : Counted before.metrics after.metrics (settledTally before.lifecycle.stage outcome)

theorem settle_settles (outcome : Except RequestError QueryResult) :
    Ends (settle request outcome)
      (fun result after => outcome = .ok result ∧ Settles before outcome after)
      (fun error after => outcome = .error error ∧ Settles before outcome after) before := by
  cases outcome with
  | ok result =>
    unfold settle
    rw [ends_bind, ends_get]
    by_cases completed : before.lifecycle.stage = .completed
    · rw [if_pos completed, ends_bind, ends_counting, ends_bind, ends_counting, ends_bind]
      unfold event Act.event
      rw [ends_logging, ends_pure]
      refine ⟨rfl, rfl, rfl, ?_⟩
      rw [settledTally, if_pos completed]
      exact { Counted.none _ with completed := rfl, rows := rfl }
    · rw [if_neg completed, ends_pure]
      refine ⟨rfl, rfl, rfl, ?_⟩
      rw [settledTally, if_neg completed]
      exact .none _
  | error error =>
    unfold settle
    rw [ends_bind, ends_get, ends_bind, ends_modify]
    cases error with
    | cancelled =>
      rw [ends_bind, ends_counting, ends_bind]
      unfold event Act.event
      rw [ends_logging]
      exact ⟨rfl, rfl, rfl, { Counted.none _ with cancelled := rfl }⟩
    | _ =>
      rw [ends_bind, ends_counting, ends_bind]
      unfold event Act.event
      rw [ends_logging]
      exact ⟨rfl, rfl, rfl, { Counted.none _ with failed := rfl }⟩

/-- The state in which a request has arrived and been logged. -/
def arriving (request : QueryRequest) (metrics : Metrics) (ambient : Ambient) : State :=
  let fields := [("query", request.query.text), requestField request.context]
  { ambient := { ambient with log := ambient.log.event .requestReceived fields }
    metrics := metrics.received }

/-- A request comes to what the milestone at which it ends says, and is settled there. -/
theorem Reaches.execute (metrics : Metrics) (ambient : Ambient)
    (reaches : Reaches pipeline request (arriving request metrics ambient) milestone state)
    {outcome : Except RequestError QueryResult}
    (decided : milestone.verdict? state.ambient.cancelled = some outcome) :
    (pipeline.execute request metrics ambient).1 = outcome ∧
      Settles (milestone.last state) outcome (pipeline.execute request metrics ambient).2 := by
  have served : Ends (pipeline.serve request)
      (fun result after => outcome = .ok result ∧ Settles (milestone.last state) outcome after)
      (fun error after => outcome = .error error ∧ Settles (milestone.last state) outcome after)
      { ambient, metrics } := by
    unfold serve
    rw [ends_bind, ends_counting, ends_bind]
    unfold event Act.event
    rw [ends_logging, ends_bind, ends_outcome]
    refine (ends_iff_of_run (reaches.run_eq rfl rfl decided)).mpr ?_
    cases outcome <;> exact settle_settles _
  rcases ran : pipeline.execute request metrics ambient with ⟨_ | _, after⟩
  all_goals
    obtain ⟨rfl, settles⟩ := (ends_iff_of_run ran).mp served
    exact ⟨rfl, settles⟩

end QueryRewriting.Pipeline
