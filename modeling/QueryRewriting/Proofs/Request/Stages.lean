import QueryRewriting.Proofs.Request.Pipeline
import QueryRewriting.Proofs.Request.Tally

/-! What each stage does to a request: whom it calls, in which surroundings, what it answers, and
what it leaves in the lifecycle, the journal and the counters. -/
namespace QueryRewriting

open Telemetry

/-- Begun in `before`, the computation gives an answer and leaves the surroundings as `after`. -/
def Act.Gives {ε α : Type} (act : Act ε α) (before : Ambient) (answer : Except ε α)
    (after : Ambient) : Prop :=
  act.run.run before = (answer, after)

namespace Ambient

/-- Surroundings that differ in the log at most. -/
def Logged (before after : Ambient) : Prop := ∃ log, after = { before with log }

variable {first second third : Ambient}

theorem Logged.refl (ambient : Ambient) : ambient.Logged ambient := ⟨ambient.log, rfl⟩

theorem Logged.trans (early : first.Logged second) (late : second.Logged third) :
    first.Logged third := by
  obtain ⟨_, rfl⟩ := early
  obtain ⟨log, rfl⟩ := late
  exact ⟨log, rfl⟩

theorem Logged.cancelled (logged : first.Logged second) : second.cancelled = first.cancelled := by
  obtain ⟨_, rfl⟩ := logged
  rfl

end Ambient

namespace Pipeline

open Run

/-- The calls made so far, in order. -/
def State.calls (state : State) : List Call := state.journal.reverse

/-- The state of a request that has entered another stage. -/
def State.entering (state : State) (next : Stage) : State :=
  { state with lifecycle := state.lifecycle.enter next }

/-- What a request filter sees of a request. -/
def exchange (request : QueryRequest) (result : Option QueryResult) : Exchange :=
  { request := request.context, query := request.query, result }

/-- Filters look at a request one after the other, until one of them fails or supplies a result.
Those that are asked are listed by their places. -/
inductive Screened (request : QueryRequest) : List (Nat × RequestFilter) → Ambient → List Nat →
    Except RequestError (Option QueryResult) → Ambient → Prop where
  | passed (ambient : Ambient) : Screened request [] ambient [] (.ok none) ambient
  | next {place : Nat} {filter : RequestFilter} {rest : List (Nat × RequestFilter)}
      {before between after : Ambient} {places : List Nat}
      {answer : Except RequestError (Option QueryResult)} :
      (filter.before (exchange request none)).Gives before (.ok none) between →
      Screened request rest between places answer after →
      Screened request ((place, filter) :: rest) before (place :: places) answer after
  | supplied {place : Nat} {filter : RequestFilter} {rest : List (Nat × RequestFilter)}
      {before after : Ambient} {result : QueryResult} :
      (filter.before (exchange request none)).Gives before (.ok (some result)) after →
      Screened request ((place, filter) :: rest) before [place] (.ok (some result)) after
  | failed {place : Nat} {filter : RequestFilter} {rest : List (Nat × RequestFilter)}
      {before after : Ambient} {error : RequestError} :
      (filter.before (exchange request none)).Gives before (.error error) after →
      Screened request ((place, filter) :: rest) before [place] (.error error) after

/-- Filters look at a result one after the other, each at what the one before has left, until one of
them fails. Those that are asked are listed by their places. -/
inductive Revised (request : QueryRequest) : List (Nat × RequestFilter) → Option QueryResult →
    Ambient → List Nat → Except RequestError (Option QueryResult) → Ambient → Prop where
  | done (result : Option QueryResult) (ambient : Ambient) :
      Revised request [] result ambient [] (.ok result) ambient
  | next {place : Nat} {filter : RequestFilter} {rest : List (Nat × RequestFilter)}
      {result left : Option QueryResult} {before between after : Ambient} {places : List Nat}
      {answer : Except RequestError (Option QueryResult)} :
      (filter.after (exchange request result)).Gives before (.ok left) between →
      Revised request rest left between places answer after →
      Revised request ((place, filter) :: rest) result before (place :: places) answer after
  | failed {place : Nat} {filter : RequestFilter} {rest : List (Nat × RequestFilter)}
      {result : Option QueryResult} {before after : Ambient} {error : RequestError} :
      (filter.after (exchange request result)).Gives before (.error error) after →
      Revised request ((place, filter) :: rest) result before [place] (.error error) after

variable {pipeline : Pipeline} {request : QueryRequest} {placed : List (Nat × RequestFilter)}
  {before after : State} {ambient final : Ambient} {places : List Nat}
  {answer : Except RequestError (Option QueryResult)}

theorem Screened.places_prefix (screened : Screened request placed ambient places answer final) :
    places <+: placed.map Prod.fst := by
  induction screened with
  | passed => exact List.nil_prefix
  | next _ _ ih => exact List.cons_prefix_cons.mpr ⟨rfl, ih⟩
  | supplied => exact List.cons_prefix_cons.mpr ⟨rfl, List.nil_prefix⟩
  | failed => exact List.cons_prefix_cons.mpr ⟨rfl, List.nil_prefix⟩

/-- A request that no filter stops has been shown to all of them. -/
theorem Screened.places_passed (screened : Screened request placed ambient places answer final)
    (passed : answer = .ok none) : places = placed.map Prod.fst := by
  induction screened with
  | passed => rfl
  | next _ _ ih => rw [ih passed, List.map_cons]
  | supplied => cases passed
  | failed => cases passed

theorem Revised.places_prefix {result : Option QueryResult}
    (revised : Revised request placed result ambient places answer final) :
    places <+: placed.map Prod.fst := by
  induction revised with
  | done => exact List.nil_prefix
  | next _ _ ih => exact List.cons_prefix_cons.mpr ⟨rfl, ih⟩
  | failed => exact List.cons_prefix_cons.mpr ⟨rfl, List.nil_prefix⟩

/-- A result that no filter fails on has been shown to all of them. -/
theorem Revised.places_done {result left : Option QueryResult}
    (revised : Revised request placed result ambient places answer final)
    (done : answer = .ok left) : places = placed.map Prod.fst := by
  induction revised with
  | done => rfl
  | next _ _ ih => rw [ih done, List.map_cons]
  | failed => cases done

/-- A stage that is entered only if a request is supplied with a result. -/
def suppliedLifecycle (lifecycle : Lifecycle) :
    Except RequestError (Option QueryResult) → Lifecycle
  | .ok (some _) => lifecycle.enter .shortCircuited
  | _ => lifecycle

/-- What the screening of a request counts. -/
def suppliedTally : Except RequestError (Option QueryResult) → Tally
  | .ok (some _) => { shortCircuited := 1 }
  | _ => {}

/-- What a request that is screened goes through. -/
structure Screens (request : QueryRequest) (placed : List (Nat × RequestFilter)) (before : State)
    (answer : Except RequestError (Option QueryResult)) (after : State) : Prop where
  screened : ∃ places ambient, Screened request placed before.ambient places answer ambient ∧
    ambient.Logged after.ambient ∧ after.calls = before.calls ++ places.map .before
  lifecycle : after.lifecycle = suppliedLifecycle before.lifecycle answer
  counted : Counted before.metrics after.metrics (suppliedTally answer)

/-- A filter without objection leaves the request to those that follow. -/
theorem Screens.next {place : Nat} {filter : RequestFilter} {between : Ambient}
    (gives : (filter.before (exchange request none)).Gives before.ambient (.ok none) between)
    (rest : Screens request placed
      { before with journal := .before place :: before.journal, ambient := between } answer after) :
    Screens request ((place, filter) :: placed) before answer after := by
  obtain ⟨places, ambient, screened, logged, calls⟩ := rest.screened
  refine ⟨⟨place :: places, ambient, .next gives screened, logged, ?_⟩, rest.lifecycle,
    rest.counted⟩
  rw [calls, List.map_cons]
  exact (congrArg (· ++ _) List.reverse_cons).trans (List.append_assoc ..)

theorem preFilter_screens (entered : before.lifecycle.stage = .preFiltering) :
    Ends (preFilter request placed)
      (fun result after => Screens request placed before (.ok result) after)
      (fun error after => Screens request placed before (.error error) after) before := by
  induction placed generalizing before with
  | nil =>
    exact ⟨⟨[], before.ambient, .passed _, .refl _, (List.append_nil _).symm⟩, rfl, .none _⟩
  | cons head rest ih =>
    obtain ⟨place, filter⟩ := head
    unfold preFilter
    rw [ends_bind, ends_calling, ends_bind, ends_acting]
    rcases ran : (filter.before (exchange request none)).run.run before.ambient with
      ⟨error | ⟨_ | result⟩, between⟩
    all_goals
      rw [exchange] at ran
      rw [ends_iff_of_run ran]
      dsimp only
    · exact ⟨⟨[place], between, .failed ran, .refl _, List.reverse_cons⟩, rfl, .none _⟩
    · refine Ends.mono (ih ?_) (fun _ _ => Screens.next ran) (fun _ _ => Screens.next ran)
      exact entered
    · rw [ends_bind]
      refine (ends_moveTo (by rw [entered]; rfl)).mpr ?_
      rw [ends_bind, ends_counting, ends_bind]
      unfold event Act.event
      rw [ends_logging, ends_pure]
      exact ⟨⟨[place], between, .supplied ran, ⟨_, rfl⟩, List.reverse_cons⟩, rfl,
        { Counted.none _ with shortCircuited := rfl }⟩

/-- What a request whose result is revised goes through. -/
structure Revises (request : QueryRequest) (placed : List (Nat × RequestFilter)) (before : State)
    (result : Option QueryResult) (answer : Except RequestError (Option QueryResult))
    (after : State) : Prop where
  revised : ∃ places, Revised request placed result before.ambient places answer after.ambient ∧
    after.calls = before.calls ++ places.map .after
  lifecycle : after.lifecycle = before.lifecycle
  metrics : after.metrics = before.metrics

theorem Revises.next {place : Nat} {filter : RequestFilter} {between : Ambient}
    {result left : Option QueryResult}
    (gives : (filter.after (exchange request result)).Gives before.ambient (.ok left) between)
    (rest : Revises request placed
      { before with journal := .after place :: before.journal, ambient := between } left answer
      after) :
    Revises request ((place, filter) :: placed) before result answer after := by
  obtain ⟨places, revised, calls⟩ := rest.revised
  refine ⟨⟨place :: places, .next gives revised, ?_⟩, rest.lifecycle, rest.metrics⟩
  rw [calls, List.map_cons]
  exact (congrArg (· ++ _) List.reverse_cons).trans (List.append_assoc ..)

theorem postFilter_revises (result : Option QueryResult) :
    Ends (postFilter request placed result)
      (fun left after => Revises request placed before result (.ok left) after)
      (fun error after => Revises request placed before result (.error error) after) before := by
  induction placed generalizing before result with
  | nil =>
    exact ⟨⟨[], .done _ _, (List.append_nil _).symm⟩, rfl, rfl⟩
  | cons head rest ih =>
    obtain ⟨place, filter⟩ := head
    unfold postFilter
    rw [ends_bind, ends_calling, ends_bind, ends_acting]
    rcases ran : (filter.after (exchange request result)).run.run before.ambient with
      ⟨error | left, between⟩
    all_goals
      rw [exchange] at ran
      rw [ends_iff_of_run ran]
      dsimp only
    · exact ⟨⟨[place], .failed ran, List.reverse_cons⟩, rfl, rfl⟩
    · exact (ih left).mono (fun _ _ => Revises.next ran) (fun _ _ => Revises.next ran)

/-- What a walk makes of the query of a request. -/
def prepared (walked : Rewriting.Walk.State) :
    Except Rewriting.Error Expr → Except RequestError Rewritten
  | .ok query => .ok {
      query
      collection := walked.context.collection
      sourcingCalls := walked.context.sourcingCalls }
  | .error error => .error (.rewriting error)

/-- What a walk counts. -/
def preparedTally : Except RequestError Rewritten → Tally
  | .ok _ => { rewritten := 1 }
  | .error _ => {}

/-- What a request whose query is rewritten goes through, once the rewriting has begun. -/
structure Prepares (pipeline : Pipeline) (request : QueryRequest) (before : State)
    (answer : Except RequestError Rewritten) (after : State) : Prop where
  walked : ∃ result walked,
    Rewriting.run pipeline.registry request.query (pipeline.walking request) before.ambient =
      (result, walked) ∧ answer = prepared walked result ∧ walked.ambient.Logged after.ambient ∧
      after.calls = before.calls ++ [.walk walked.context.journal]
  lifecycle : after.lifecycle = before.lifecycle
  counted : Counted before.metrics after.metrics (preparedTally answer)

theorem Prepares.log {answer : Except RequestError Rewritten}
    (prepares : Prepares pipeline request before answer after) {ambient : Ambient}
    (logged : after.ambient.Logged ambient) :
    Prepares pipeline request before answer { after with ambient } := by
  obtain ⟨result, walked, walk, answered, written, calls⟩ := prepares.walked
  exact ⟨⟨result, walked, walk, answered, written.trans logged, calls⟩, prepares.lifecycle,
    prepares.counted⟩

theorem prepare_prepares :
    Ends (pipeline.prepare request.query request.context)
      (fun rewritten after => Prepares pipeline request before (.ok rewritten) after)
      (fun error after => Prepares pipeline request before (.error error) after) before := by
  unfold prepare
  rw [ends_bind, ends_get]
  rcases walk : Rewriting.run pipeline.registry request.query (pipeline.walking request)
    before.ambient with ⟨result, walked⟩
  have unfolded := walk
  unfold walking at unfolded
  rw [unfolded]
  dsimp only
  rw [ends_bind, ends_modify, ends_bind, ends_calling, ends_bind, ends_counting]
  cases result with
  | ok tree =>
    dsimp only
    rw [ends_bind, ends_counting, ends_pure]
    exact ⟨⟨.ok tree, walked, walk, rfl, .refl _, List.reverse_cons⟩, rfl,
      { Counted.none _ with rewritten := rfl }⟩
  | error failure =>
    dsimp only
    split
    all_goals
      exact ⟨⟨.error _, walked, walk, rfl, .refl _, List.reverse_cons⟩, rfl,
        { Counted.none _ with }⟩

/-- The rewriting of a request as a stage, which logs its beginning and its end. -/
def Rewrites (pipeline : Pipeline) (request : QueryRequest) (before : State)
    (answer : Except RequestError Rewritten) (after : State) : Prop :=
  ∃ start, before.ambient.Logged start ∧ Prepares pipeline request
    { before.entering .rewriting with ambient := start } answer after

theorem prepareStage_rewrites (entered : before.lifecycle.stage = .preFiltering) :
    Ends (pipeline.prepareStage request)
      (fun rewritten after => Rewrites pipeline request before (.ok rewritten) after)
      (fun error after => Rewrites pipeline request before (.error error) after) before := by
  unfold prepareStage
  have leads : before.lifecycle.stage.leadsTo .rewriting = true := by rw [entered]; rfl
  rw [ends_bind, ends_moveTo leads, ends_bind, ends_get, ends_bind, ends_get]
  dsimp only
  rw [ends_bind, ends_logging, ends_bind, ends_tryCatch]
  refine prepare_prepares.mono ?_ ?_
  · intro rewritten after prepares
    rw [ends_bind, ends_get, ends_bind, ends_logging, ends_bind]
    unfold event Act.event
    rw [ends_logging, ends_pure]
    exact ⟨_, ⟨_, rfl⟩, prepares.log ⟨_, rfl⟩⟩
  · intro error after prepares
    rw [ends_bind, ends_logging]
    exact ⟨_, ⟨_, rfl⟩, prepares.log ⟨_, rfl⟩⟩

/-- What the answer of a backend makes of a request. -/
def executed (rewritten : Rewritten) :
    Except Interruption QueryResult → Except RequestError QueryResult
  | .ok result => .ok { result with collection := rewritten.collection <|> result.collection }
  | .error .stalled => .error .cancelled
  | .error (.failed error) => .error error

/-- What an execution counts. -/
def executedTally : Except RequestError QueryResult → Tally
  | .ok _ => { executed := 1 }
  | .error _ => {}

/-- What a request that is executed goes through. -/
structure Executes (pipeline : Pipeline) (request : QueryRequest) (rewritten : Rewritten)
    (before : State) (answer : Except RequestError QueryResult) (after : State) : Prop where
  dispatched : ∃ outcome ambient,
    (pipeline.executor.dispatch request.context rewritten.query request.options).Gives
      before.ambient outcome ambient ∧ answer = executed rewritten outcome ∧
      ambient.Logged after.ambient
  calls : after.calls = before.calls ++ [.execution]
  lifecycle : after.lifecycle = before.lifecycle.enter .executing
  counted : Counted before.metrics after.metrics (executedTally answer)

theorem executeStage_executes (entered : before.lifecycle.stage = .rewriting)
    (rewritten : Rewritten) :
    Ends (pipeline.executeStage request rewritten)
      (fun result after => Executes pipeline request rewritten before (.ok result) after)
      (fun error after => Executes pipeline request rewritten before (.error error) after)
      before := by
  unfold executeStage
  have leads : before.lifecycle.stage.leadsTo .executing = true := by rw [entered]; rfl
  rw [ends_bind, ends_moveTo leads, ends_bind, ends_calling, ends_bind, ends_acting_outcome]
  rcases ran : (pipeline.executor.dispatch request.context rewritten.query
    request.options).run.run before.ambient with ⟨outcome, ambient⟩
  refine (ends_iff_of_run ran).mpr ?_
  cases outcome with
  | error interruption =>
    cases interruption with
    | stalled =>
      exact ⟨⟨_, _, ran, rfl, .refl _⟩, List.reverse_cons, rfl, .none _⟩
    | failed error =>
      exact ⟨⟨_, _, ran, rfl, .refl _⟩, List.reverse_cons, rfl, .none _⟩
  | ok result =>
    dsimp only
    rw [ends_bind, ends_counting, ends_bind]
    unfold event Act.event
    rw [ends_logging, ends_pure]
    exact ⟨⟨_, _, ran, rfl, ⟨_, rfl⟩⟩, List.reverse_cons, rfl,
      { Counted.none _ with executed := rfl }⟩

end Pipeline

end QueryRewriting
