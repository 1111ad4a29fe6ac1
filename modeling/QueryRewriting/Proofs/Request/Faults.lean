import QueryRewriting.Proofs.Request.Milestones

/-! The errors that stages fail with, and where they come from. -/
namespace QueryRewriting.Pipeline

section Refusal

variable {pipeline : Pipeline} {request : QueryRequest} {placed : List (Nat × RequestFilter)}
  {ambient final : Ambient} {places : List Nat}
  {answer : Except RequestError (Option QueryResult)} {error : RequestError}

/-- A request that is refused is refused by a filter. -/
theorem Screened.refusal (screened : Screened request placed ambient places answer final)
    (refused : answer = .error error) : ∃ head ∈ placed, ∃ start final,
      (head.2.before (exchange request none)).Gives start (.error error) final := by
  induction screened with
  | passed => cases refused
  | next _ _ ih =>
    obtain ⟨head, mem, refusal⟩ := ih refused
    exact ⟨head, .tail _ mem, refusal⟩
  | supplied => cases refused
  | failed gives =>
    cases refused
    exact ⟨_, .head _, _, _, gives⟩

theorem Revised.refusal {result : Option QueryResult}
    (revised : Revised request placed result ambient places answer final)
    (refused : answer = .error error) : ∃ head ∈ placed, ∃ result start final,
      (head.2.after (exchange request result)).Gives start (.error error) final := by
  induction revised with
  | done => cases refused
  | next _ _ ih =>
    obtain ⟨head, mem, refusal⟩ := ih refused
    exact ⟨head, .tail _ mem, refusal⟩
  | failed gives =>
    cases refused
    exact ⟨_, .head _, _, _, _, gives⟩

theorem filter_of_placed {head : Nat × RequestFilter} (mem : head ∈ pipeline.placedFilters) :
    head.2 ∈ pipeline.filters :=
  (List.of_mem_zip mem).2

end Refusal

/-- A stage comes to an error of its own: that of a filter, that of the walk, or that of the
execution. -/
inductive Faults (pipeline : Pipeline) (request : QueryRequest) :
    Milestone → RequestError → Prop where
  | screening {filter : RequestFilter} {start final : Ambient} {error : RequestError} :
      filter ∈ pipeline.filters →
      (filter.before (exchange request none)).Gives start (.error error) final →
      Faults pipeline request (.screened (.error error)) error
  | walk {start : Ambient} {failure : Rewriting.Error} {walked : Rewriting.Walk.State} :
      Rewriting.run pipeline.registry request.query (pipeline.walking request) start =
        (.error failure, walked) →
      Faults pipeline request (.rewritten (.error (.rewriting failure))) (.rewriting failure)
  | execution {rewritten : Rewritten} {start final : Ambient} {error : RequestError} :
      (pipeline.executor.dispatch request.context rewritten.query request.options).Gives start
        (.error (.failed error)) final →
      Faults pipeline request (.executed (.error error)) error
  | revision {filter : RequestFilter} {result : Option QueryResult} {start final : Ambient}
      {error : RequestError} : filter ∈ pipeline.filters →
      (filter.after (exchange request result)).Gives start (.error error) final →
      Faults pipeline request (.revised (.error error)) error

variable {pipeline : Pipeline} {request : QueryRequest} {arrival state : State}
  {milestone : Milestone} {error : RequestError}

/-- A stage fails with an error of its own, unless its backend call was cut off. -/
theorem Reaches.faults (received : arrival.lifecycle = {}) (silent : arrival.calls = [])
    (reaches : Reaches pipeline request arrival milestone state)
    (failed : milestone.failure? = some error) :
    error = .cancelled ∨ Faults pipeline request milestone error := by
  cases reaches with
  | arrived => cases failed
  | screened reached active ran =>
    obtain rfl := eq_of_refusal? failed
    obtain ⟨places, _, screened, -⟩ := ((preFilter_screens rfl).of_run ran).screened
    obtain ⟨head, mem, _, _, gives⟩ := screened.refusal rfl
    exact .inr (.screening (filter_of_placed (List.mem_reverse.mp mem)) gives)
  | rewritten reached active ran =>
    obtain rfl := eq_of_refusal? failed
    have entered := congrArg Lifecycle.stage (reached.marks received silent).lifecycle
    obtain ⟨_, -, prepares⟩ := (prepareStage_rewrites entered).of_run ran
    obtain ⟨result, walked, walk, answered, -⟩ := prepares.walked
    cases result with
    | ok query => cases answered
    | error failure =>
      cases answered
      exact .inr (.walk walk)
  | executed reached active ran =>
    obtain rfl := eq_of_refusal? failed
    have entered := congrArg Lifecycle.stage (reached.marks received silent).lifecycle
    obtain ⟨outcome, _, gives, answered, -⟩ :=
      ((executeStage_executes entered _).of_run ran).dispatched
    rcases outcome with (own | _) | result
    · cases answered
      exact .inr (.execution gives)
    · cases answered
      exact .inl rfl
    · cases answered
  | revised reached active ran =>
    obtain rfl := eq_of_refusal? failed
    obtain ⟨places, revised, -⟩ := ((postFilter_revises _).of_run ran).revised
    obtain ⟨head, mem, _, _, _, gives⟩ := revised.refusal rfl
    exact .inr (.revision (filter_of_placed mem) gives)

end QueryRewriting.Pipeline
