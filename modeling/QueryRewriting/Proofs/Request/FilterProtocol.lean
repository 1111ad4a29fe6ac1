import QueryRewriting.Proofs.Request.Milestones

/-! When request filters are asked. Before the rewriting the one registered last comes first, and
one that fails or supplies a result ends the request. After an execution that succeeds they come in
the order of registration, each at what the one before has left. -/
namespace QueryRewriting.Pipeline

open Telemetry

variable {pipeline : Pipeline} {request : QueryRequest} {arrival state : State}
  {milestone : Milestone}

/-- The places of the filters, in the order of registration. -/
def places (pipeline : Pipeline) : List Nat := List.range pipeline.filters.length

theorem places_placed : pipeline.placedFilters.map Prod.fst = pipeline.places :=
  List.map_fst_zip (Nat.le_of_eq List.length_range)

theorem places_reversed :
    pipeline.placedFilters.reverse.map Prod.fst = pipeline.places.reverse := by
  rw [List.map_reverse, places_placed]

/-- What a request comes to by what its filters have left of the result. -/
def concluded : Except RequestError (Option QueryResult) → Except RequestError QueryResult
  | .ok (some result) => .ok result
  | .ok none => .error (.filterFailed "post" .resultRemoved)
  | .error error => .error error

/-- The execution of a request has succeeded, and the request has not been cancelled: the result is
that of the backend for the rewritten tree, tagged with the collection of the tree. -/
structure Succeeds (pipeline : Pipeline) (request : QueryRequest) (arrival : State)
    (result : QueryResult) (state : State) : Prop where
  reached : Reaches pipeline request arrival (.executed (.ok result)) state
  active : state.ambient.cancelled = false
  tagged : ∃ rewritten before answer final,
    Reaches pipeline request arrival (.rewritten (.ok rewritten)) before ∧
    (pipeline.executor.dispatch request.context rewritten.query request.options).Gives
      before.ambient (.ok answer) final ∧
    result = { answer with collection := rewritten.collection <|> answer.collection }

/-- What follows the screening of a request by the filters at some places: the outcome, and all that
is called. -/
inductive Follows (pipeline : Pipeline) (request : QueryRequest) (arrival : State)
    (screening : List Nat) : Except RequestError (Option QueryResult) →
      Except RequestError QueryResult → List Call → Prop where
  | refused (error : RequestError) :
      (∀ result state, ¬ Succeeds pipeline request arrival result state) →
      Follows pipeline request arrival screening (.error error) (.error error)
        (screening.map .before)
  | supplied (result : QueryResult) :
      (∀ result state, ¬ Succeeds pipeline request arrival result state) →
      Follows pipeline request arrival screening (.ok (some result)) (.ok result)
        (screening.map .before)
  | unexecuted {error : RequestError} {made : List Call} : screening = pipeline.places.reverse →
      (∀ result state, ¬ Succeeds pipeline request arrival result state) →
      (∀ call ∈ made, call.stage = .rewriting ∨ call.stage = .executing) →
      Follows pipeline request arrival screening (.ok none) (.error error)
        (screening.map .before ++ made)
  | revised {result : QueryResult} {state : State} {journal : List Rewriting.Consultation}
      {revising : List Nat} {answer : Except RequestError (Option QueryResult)} {final : Ambient} :
      screening = pipeline.places.reverse → Succeeds pipeline request arrival result state →
      Revised request pipeline.placedFilters (some result) state.ambient revising answer final →
      revising <+: pipeline.places → (∀ left, answer = .ok left → revising = pipeline.places) →
      Follows pipeline request arrival screening (.ok none) (concluded answer)
        (screening.map .before ++ [.walk journal, .execution] ++ revising.map .after)

/-- The outcome of a request and all that is called are what the filters leave of it: they screen
the request, the last one first, and the rest follows from what they answer. -/
def Attended (pipeline : Pipeline) (request : QueryRequest) (arrival : State)
    (outcome : Except RequestError QueryResult) (calls : List Call) : Prop :=
  ∃ screening answer final,
    Screened request pipeline.placedFilters.reverse arrival.ambient screening answer final ∧
    screening <+: pipeline.places.reverse ∧
    Follows pipeline request arrival screening answer outcome calls

section Reaches

/-- A request that is screened has been shown to its filters, the last one first. -/
theorem Reaches.screening (silent : arrival.calls = [])
    {answer : Except RequestError (Option QueryResult)}
    (reaches : Reaches pipeline request arrival (.screened answer) state) :
    ∃ screening final, Screened request pipeline.placedFilters.reverse arrival.ambient screening
      answer final ∧ screening <+: pipeline.places.reverse ∧
      (answer = .ok none → screening = pipeline.places.reverse) ∧
      state.calls = screening.map .before := by
  cases reaches with
  | screened reached active ran =>
    cases reached with
    | arrived =>
      obtain ⟨screening, final, screened, -, calls⟩ := ((preFilter_screens rfl).of_run ran).screened
      have calls : state.calls = arrival.calls ++ screening.map .before := calls
      rw [silent, List.nil_append] at calls
      rw [← places_reversed]
      exact ⟨screening, final, screened, screened.places_prefix, screened.places_passed, calls⟩

variable (received : arrival.lifecycle = {}) (silent : arrival.calls = [])

include received silent

theorem Reaches.rewriting {answer : Except RequestError Rewritten}
    (reaches : Reaches pipeline request arrival (.rewritten answer) state) :
    ∃ before journal, Reaches pipeline request arrival (.screened (.ok none)) before ∧
      state.calls = pipeline.places.reverse.map .before ++ [.walk journal] := by
  cases reaches with
  | rewritten reached active ran =>
    have entered := congrArg Lifecycle.stage (reached.marks received silent).lifecycle
    obtain ⟨start, -, prepares⟩ := (prepareStage_rewrites entered).of_run ran
    obtain ⟨_, walked, -, -, -, calls⟩ := prepares.walked
    obtain ⟨screening, _, -, -, passed, early⟩ := reached.screening silent
    rw [passed rfl] at early
    exact ⟨_, _, reached, calls.trans (congrArg (· ++ _) early)⟩

theorem Reaches.execution {answer : Except RequestError QueryResult}
    (reaches : Reaches pipeline request arrival (.executed answer) state) :
    ∃ before rewritten journal,
      Reaches pipeline request arrival (.rewritten (.ok rewritten)) before ∧
      Executes pipeline request rewritten before answer state ∧
      state.calls = pipeline.places.reverse.map .before ++ [.walk journal, .execution] := by
  cases reaches with
  | executed reached active ran =>
    have entered := congrArg Lifecycle.stage (reached.marks received silent).lifecycle
    have executes := (executeStage_executes entered _).of_run ran
    obtain ⟨_, journal, -, early⟩ := reached.rewriting received silent
    refine ⟨_, _, journal, reached, executes, ?_⟩
    rw [executes.calls, early, List.append_assoc]
    rfl

theorem Reaches.succeeds {result : QueryResult}
    (reaches : Reaches pipeline request arrival (.executed (.ok result)) state)
    (active : state.ambient.cancelled = false) :
    Succeeds pipeline request arrival result state := by
  obtain ⟨before, rewritten, -, reached, executes, -⟩ := reaches.execution received silent
  obtain ⟨outcome, final, gives, answered, -⟩ := executes.dispatched
  refine ⟨reaches, active, rewritten, before, ?_⟩
  rcases outcome with (_ | _) | answer
  · cases answered
  · cases answered
  · exact ⟨answer, final, reached, gives, Except.ok.inj answered⟩

end Reaches

section Execute

variable {metrics : Metrics} {ambient : Ambient}

/-- After an execution that succeeds, filters look at the result in turn. -/
theorem Succeeds.attended {result : QueryResult}
    (succeeds : Succeeds pipeline request (arriving request metrics ambient) result state) :
    Attended pipeline request (arriving request metrics ambient)
      (pipeline.execute request metrics ambient).1
      (pipeline.execute request metrics ambient).2.calls := by
  rcases ran : (postFilter request pipeline.placedFilters (some result)).run.run
    (state.entering .postFiltering) with ⟨answer, after⟩
  obtain ⟨_, _, journal, rewritten, -, early⟩ := succeeds.reached.execution rfl rfl
  obtain ⟨_, _, screened, -⟩ := rewritten.rewriting rfl rfl
  obtain ⟨screening, final, screened, within, passed, -⟩ := screened.screening rfl
  obtain ⟨revising, revised, late⟩ := ((postFilter_revises _).of_run ran).revised
  have late : after.calls = state.calls ++ revising.map .after := late
  have reached := succeeds.reached.revised succeeds.active ran
  have decided : (Milestone.revised answer).verdict? after.ambient.cancelled =
      some (concluded answer) := by
    rcases answer with error | _ | left <;> rfl
  obtain ⟨outcome, settles⟩ := reached.execute metrics ambient decided
  refine ⟨screening, .ok none, final, screened, within, ?_⟩
  rw [outcome, settles.calls, (reached.marks rfl rfl).last.2.2, late, early, ← passed rfl]
  refine .revised (passed rfl) succeeds revised ?_ ?_
  · rw [← places_placed]
    exact revised.places_prefix
  · intro left done
    rw [← places_placed]
    exact revised.places_done done

/-- Without an execution that succeeds, a request that filters let through fails, and none of them is
asked again. -/
theorem unexecuted_follows {screened : State} {error : RequestError} {made : List Call}
    (passed : Reaches pipeline request (arriving request metrics ambient) (.screened (.ok none))
      screened)
    (unsuccessful : ∀ result state,
      ¬ Succeeds pipeline request (arriving request metrics ambient) result state)
    (reaches : Reaches pipeline request (arriving request metrics ambient) milestone state)
    (decided : milestone.verdict? state.ambient.cancelled = some (.error error))
    (calls : state.calls = pipeline.places.reverse.map .before ++ made)
    (early : ∀ call ∈ made, call.stage = .rewriting ∨ call.stage = .executing) :
    Attended pipeline request (arriving request metrics ambient)
      (pipeline.execute request metrics ambient).1
      (pipeline.execute request metrics ambient).2.calls := by
  obtain ⟨outcome, settles⟩ := reaches.execute metrics ambient decided
  obtain ⟨screening, final, screened, within, all, -⟩ := passed.screening rfl
  refine ⟨screening, .ok none, final, screened, within, ?_⟩
  rw [outcome, settles.calls, (reaches.marks rfl rfl).last.2.2, calls, ← all rfl]
  exact .unexecuted (all rfl) unsuccessful early

/-- A request that ends with its screening. -/
theorem screened_attended {answer : Except RequestError (Option QueryResult)}
    {outcome : Except RequestError QueryResult}
    (reaches : Reaches pipeline request (arriving request metrics ambient) (.screened answer) state)
    (decided : (Milestone.screened answer).verdict? state.ambient.cancelled = some outcome)
    (follows : ∀ screening : List Nat, Follows pipeline request (arriving request metrics ambient)
      screening answer outcome (screening.map .before)) :
    Attended pipeline request (arriving request metrics ambient)
      (pipeline.execute request metrics ambient).1
      (pipeline.execute request metrics ambient).2.calls := by
  obtain ⟨outcome, settles⟩ := reaches.execute metrics ambient decided
  obtain ⟨screening, final, screened, within, -, calls⟩ := reaches.screening rfl
  refine ⟨screening, answer, final, screened, within, ?_⟩
  rw [outcome, settles.calls, (reaches.marks rfl rfl).last.2.2, calls]
  exact follows screening

/-- Filters attend to every request that has not been cancelled beforehand: to the request from the
last one to the first, until one fails or supplies the result, and to the result of an execution
that succeeds from the first one to the last, until one fails. -/
theorem filters_attend (pipeline : Pipeline) (request : QueryRequest) (metrics : Metrics)
    (ambient : Ambient) (active : ambient.cancelled = false) :
    Attended pipeline request (arriving request metrics ambient)
      (pipeline.execute request metrics ambient).1
      (pipeline.execute request metrics ambient).2.calls := by
  by_cases successful : ∃ result state,
    Succeeds pipeline request (arriving request metrics ambient) result state
  · obtain ⟨result, state, succeeds⟩ := successful
    exact succeeds.attended
  have unsuccessful (result : QueryResult) (state : State) :
      ¬ Succeeds pipeline request (arriving request metrics ambient) result state := by
    intro succeeds
    exact successful ⟨result, state, succeeds⟩
  obtain ⟨milestone, state, outcome, reaches, decided⟩ :=
    Pipeline.decided pipeline request (arriving request metrics ambient)
  cases milestone with
  | arrived =>
    cases reaches with
    | arrived =>
      have uncancelled : (arriving request metrics ambient).ambient.cancelled = false := active
      rw [Milestone.verdict?, uncancelled] at decided
      cases decided
  | screened answer =>
    rcases answer with error | _ | result
    · obtain rfl := Option.some.inj decided
      exact screened_attended reaches rfl fun _ => .refused error unsuccessful
    · obtain ⟨-, cancelled⟩ := Option.ite_none_right_eq_some.mp decided
      obtain rfl := Option.some.inj cancelled
      obtain ⟨_, _, -, -, all, calls⟩ := reaches.screening rfl
      rw [all rfl, ← List.append_nil (List.map _ _)] at calls
      refine unexecuted_follows reaches unsuccessful reaches decided calls ?_
      intro call made
      cases made
    · obtain rfl := Option.some.inj decided
      exact screened_attended reaches rfl fun _ => .supplied result unsuccessful
  | rewritten answer =>
    cases outcome with
    | ok result => rcases Milestone.eq_of_ok decided with same | same <;> cases same
    | error error =>
      obtain ⟨_, journal, passed, calls⟩ := reaches.rewriting rfl rfl
      refine unexecuted_follows passed unsuccessful reaches decided calls ?_
      intro call made
      obtain rfl := List.mem_singleton.mp made
      exact .inl rfl
  | executed answer =>
    cases outcome with
    | ok result => rcases Milestone.eq_of_ok decided with same | same <;> cases same
    | error error =>
      obtain ⟨_, _, journal, rewritten, -, calls⟩ := reaches.execution rfl rfl
      obtain ⟨_, _, passed, -⟩ := rewritten.rewriting rfl rfl
      refine unexecuted_follows passed unsuccessful reaches decided calls ?_
      intro call made
      rcases List.mem_cons.mp made with rfl | made
      · exact .inl rfl
      · obtain rfl := List.mem_singleton.mp made
        exact .inr rfl
  | revised answer =>
    cases reaches with
    | revised reached active ran =>
      exact absurd (reached.succeeds rfl rfl active) (unsuccessful _ _)

end Execute

/-- Two filters that let a request through are asked in one order before the execution and in the
other one after it. -/
theorem counted_and_padded :
    let counting : RequestFilter := {
      name := "counting"
      after := fun exchange => return exchange.result.map fun result =>
        { result with totalCount := some result.size.toUInt64 } }
    let padding : RequestFilter := {
      name := "padding"
      after := fun exchange => return exchange.result.map fun result =>
        { result with results := result.results ++ [.null] } }
    let pipeline : Pipeline := {
      model := { space := "shop" }
      registry := {}
      executor := {
        sequence := fun _ _ _ => return { items := [] }
        scalar := fun _ _ => return .bool true }
      filters := [counting, padding] }
    let request : QueryRequest := { query := .value ⟨0, .any⟩ .null }
    let served := pipeline.execute request {} {}
    ({} : Ambient).cancelled = false ∧
      Attended pipeline request (arriving request {} {}) served.1 served.2.calls ∧
      served.1.toOption =
        some { shape := .scalar, results := [.bool true, .null], totalCount := some 1 } ∧
      served.2.calls = [.before 1, .before 0, .walk [], .execution, .after 0, .after 1] := by
  intro counting padding pipeline request served
  exact ⟨rfl, filters_attend pipeline request {} {} rfl, by decide +kernel, by decide +kernel⟩

end QueryRewriting.Pipeline
