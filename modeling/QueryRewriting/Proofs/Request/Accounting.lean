import QueryRewriting.Proofs.Request.Faults

/-! How requests end, and that the counters agree with it: every request ends in one way, along a
path through the stages that repeats none, and is counted once as received and once by the way in
which it ends. -/
namespace QueryRewriting.Pipeline

open Telemetry

/-- An error other than that a transition is illegal. -/
def Legal (error : RequestError) : Prop :=
  ∀ source target, error ≠ .illegalTransition source target

/-- No filter and no backend call complains of an illegal transition on its own account. -/
structure Orderly (pipeline : Pipeline) : Prop where
  before : ∀ filter ∈ pipeline.filters, ∀ exchange start error final,
    (filter.before exchange).Gives start (.error error) final → Legal error
  after : ∀ filter ∈ pipeline.filters, ∀ exchange start error final,
    (filter.after exchange).Gives start (.error error) final → Legal error
  sequence : ∀ context query options start error final,
    (pipeline.executor.sequence context query options).Gives start (.error (.failed error)) final →
      Legal error
  scalar : ∀ context query start error final,
    (pipeline.executor.scalar context query).Gives start (.error (.failed error)) final →
      Legal error

section Errors

variable {pipeline : Pipeline} {request : QueryRequest} {ambient : Ambient} {arrival state : State}
  {milestone : Milestone} {error : RequestError}

theorem ends_of_gives {ε α : Type} {act : Act ε α} {holds : ε → Prop}
    (gives : ∀ error final, act.Gives ambient (.error error) final → holds error) :
    Ends act (fun _ _ => True) (fun error _ => holds error) ambient := by
  rcases ran : act.run.run ambient with ⟨error | value, final⟩
  · exact (ends_iff_of_run ran).mpr (gives error final ran)
  · exact (ends_iff_of_run ran).mpr trivial

variable (orderly : pipeline.Orderly)

include orderly

theorem scalar_legal (context : RequestContext) (query : Expr) :
    Ends (pipeline.executor.scalar context query) (fun _ _ => True)
      (fun interruption _ => ∀ error, interruption = .failed error → Legal error) ambient := by
  refine ends_of_gives ?_
  rintro _ final gives error rfl
  exact orderly.scalar _ _ _ _ _ gives

theorem countRows_legal (context : RequestContext) (query : Expr) :
    Ends (pipeline.executor.countRows context query) (fun _ _ => True)
      (fun interruption _ => ∀ error, interruption = .failed error → Legal error) ambient := by
  unfold Executor.countRows
  rw [ends_bind, Act.ends_build, ends_bind]
  refine (scalar_legal orderly context _).weaken ?_
  intro value after _
  rw [Act.ends_ofExcept]
  cases Executor.totalCount value with
  | ok total => trivial
  | error failure =>
    rintro _ ⟨⟩ source target
    simp

theorem dispatch_legal (context : RequestContext) (query : Expr) (options : ExecutionOptions) :
    Ends (pipeline.executor.dispatch context query options) (fun _ _ => True)
      (fun interruption _ => ∀ error, interruption = .failed error → Legal error) ambient := by
  unfold Executor.dispatch
  cases Shape.of query.type with
  | scalar =>
    rw [ends_bind]
    exact (scalar_legal orderly context query).weaken fun _ _ _ => trivial
  | sequence =>
    have sequence : Ends (pipeline.executor.sequence context query options) (fun _ _ => True)
        (fun interruption _ => ∀ error, interruption = .failed error → Legal error) ambient := by
      refine ends_of_gives ?_
      rintro _ final gives error rfl
      exact orderly.sequence _ _ _ _ _ _ gives
    rw [ends_bind]
    refine sequence.weaken ?_
    intro output after _
    cases options.includeTotalCount with
    | false => trivial
    | true =>
      rw [if_pos rfl]
      cases output.totalCount with
      | some total => trivial
      | none =>
        dsimp only
        rw [ends_bind, ends_map]
        exact (countRows_legal orderly context query).weaken fun _ _ _ => trivial

/-- No stage fails for an illegal transition. -/
theorem Faults.legal (faults : Faults pipeline request milestone error) : Legal error := by
  cases faults with
  | screening mem gives => exact orderly.before _ mem _ _ _ _ gives
  | walk =>
    intro source target
    simp
  | execution gives => exact (ends_iff_of_run gives).mp (dispatch_legal orderly _ _ _) _ rfl
  | revision mem gives => exact orderly.after _ mem _ _ _ _ gives

/-- No request fails for an illegal transition. -/
theorem Reaches.legal (reaches : Reaches pipeline request arrival milestone state)
    (received : arrival.lifecycle = {}) (silent : arrival.calls = [])
    (decided : milestone.verdict? state.ambient.cancelled = some (.error error)) : Legal error := by
  rcases Milestone.failure_of_verdict decided with failed | rfl | rfl
  · rcases reaches.faults received silent failed with rfl | faults
    · intro source target
      simp
    · exact faults.legal orderly
  · intro source target
    simp
  · intro source target
    simp

end Errors

/-- How a request ends: the stage it ends in, its outcome, and what it adds to the counters. -/
inductive Ending : Stage → Except RequestError QueryResult → Tally → Prop where
  | completed (result : QueryResult) : Ending .completed (.ok result)
      { received := 1, completed := 1, rewritten := 1, executed := 1, rows := result.size }
  | shortCircuited (result : QueryResult) : Ending .shortCircuited (.ok result)
      { received := 1, shortCircuited := 1 }
  | cancelled {rewritten executed : Nat} : executed ≤ rewritten → rewritten ≤ 1 →
      Ending .failed (.error .cancelled) { received := 1, cancelled := 1, rewritten, executed }
  | failed {error : RequestError} {rewritten executed : Nat} : error ≠ .cancelled →
      executed ≤ rewritten → rewritten ≤ 1 →
      Ending .failed (.error error) { received := 1, failed := 1, rewritten, executed }

/-- A path through the stages from the arrival of a request to its end. -/
structure Path (history : List Stage) : Prop where
  begins : history.head? = some .received
  follows : history.IsChain fun stage next => stage.leadsTo next = true
  distinct : history.Nodup
  ends : ∃ last, history.getLast? = some last ∧ last.isTerminal = true

namespace Ending

variable {stage : Stage} {outcome : Except RequestError QueryResult} {tally : Tally}

theorem balanced (ending : Ending stage outcome tally) :
    tally.received = 1 ∧ tally.Balanced := by
  cases ending with
  | completed => exact ⟨rfl, rfl, Nat.le_refl _, Nat.le_refl _, Nat.le_refl _⟩
  | shortCircuited => exact ⟨rfl, rfl, Nat.le_refl _, Nat.le_refl _, Nat.zero_le _⟩
  | cancelled executed rewritten => exact ⟨rfl, rfl, Nat.zero_le _, executed, rewritten⟩
  | failed _ executed rewritten => exact ⟨rfl, rfl, Nat.zero_le _, executed, rewritten⟩

theorem isOk_iff (ending : Ending stage outcome tally) :
    outcome.isOk = true ↔ stage = .completed ∨ stage = .shortCircuited := by
  cases ending with
  | completed => exact ⟨fun _ => .inl rfl, fun _ => rfl⟩
  | shortCircuited => exact ⟨fun _ => .inr rfl, fun _ => rfl⟩
  | cancelled => simp [Except.isOk, Except.toBool]
  | failed => simp [Except.isOk, Except.toBool]

/-- A failed request is counted as cancelled or as failed, whichever its error says. -/
theorem of_error (error : RequestError) (stage : Stage)
    (executed : tally.executed ≤ tally.rewritten) (rewritten : tally.rewritten ≤ 1)
    (nothing : tally = { rewritten := tally.rewritten, executed := tally.executed }) :
    Ending .failed (.error error)
      (tally + settledTally stage (.error error) + { received := 1 }) := by
  rw [nothing]
  cases error with
  | cancelled => exact .cancelled executed rewritten
  | _ => exact .failed (by simp) executed rewritten

end Ending

section Ending

variable {milestone : Milestone} {cancelled : Bool} {outcome : Except RequestError QueryResult}

theorem ending_of_verdict (decided : milestone.verdict? cancelled = some outcome) :
    Ending (settledLifecycle milestone.final outcome).stage outcome
      (milestone.tally + settledTally milestone.final.stage outcome + { received := 1 }) := by
  cases outcome with
  | ok result =>
    rcases Milestone.eq_of_ok decided with rfl | rfl
    · exact .shortCircuited result
    · have ending := Ending.completed result
      rw [← Nat.zero_add result.size] at ending
      exact ending
  | error error =>
    have opened := (Milestone.final_of_error decided).2
    rw [(Milestone.final_of_error decided).1, settledLifecycle, fail_of_open opened]
    rcases milestone with
      _ | (own | _ | result) | (own | rewritten) | (own | result) | (own | _ | result)
    case screened.ok.some => cases opened
    all_goals
      exact .of_error _ _ (Nat.le_of_ble_eq_true rfl) (Nat.le_of_ble_eq_true rfl) rfl

theorem path_of_verdict (decided : milestone.verdict? cancelled = some outcome) :
    Path (settledLifecycle milestone.final outcome).history := by
  cases outcome with
  | ok result =>
    rcases Milestone.eq_of_ok decided with rfl | rfl
    · change Path [.received, .preFiltering, .shortCircuited]
      exact ⟨rfl, by decide, by decide, _, rfl, rfl⟩
    · change Path [.received, .preFiltering, .rewriting, .executing, .postFiltering, .completed]
      exact ⟨rfl, by decide, by decide, _, rfl, rfl⟩
  | error error =>
    have opened := (Milestone.final_of_error decided).2
    rw [(Milestone.final_of_error decided).1, settledLifecycle, fail_of_open opened, history_enter]
    rcases milestone with
      _ | (own | _ | result) | (own | rewritten) | (own | result) | (own | _ | result)
    case screened.ok.some => cases opened
    all_goals
      simp only [Milestone.history_arrived, Milestone.history_refused, Milestone.history_passed,
        Milestone.history_rewritten, Milestone.history_executed, Milestone.history_revised]
      exact ⟨rfl, by decide, by decide, _, rfl, rfl⟩

end Ending

/-- What becomes of a request, and what is counted of it. -/
structure Accounted (metrics : Metrics) (outcome : Except RequestError QueryResult)
    (state : State) : Prop where
  legal : ∀ source target, outcome ≠ .error (.illegalTransition source target)
  path : Path state.lifecycle.history
  succeeds : outcome.isOk = true ↔
    state.lifecycle.stage = .completed ∨ state.lifecycle.stage = .shortCircuited
  counted : ∃ tally, Ending state.lifecycle.stage outcome tally ∧
    Counted metrics state.metrics tally

/-- The counters agree on the requests that have come in: they are the numbers of a tally in which
every request has ended, and as many as there were. -/
structure Reconciled (requests : Nat) (metrics : Metrics) : Prop where
  received : metrics.requestsReceived = metrics.requestsCompleted +
    metrics.requestsShortCircuited + metrics.requestsCancelled + metrics.requestsFailed
  tallied : ∃ tally : Tally, tally.received = requests ∧ tally.Balanced ∧ Counted {} metrics tally
  ordered : requests < UInt64.size → metrics.requestsCompleted ≤ metrics.queriesExecuted ∧
    metrics.queriesExecuted ≤ metrics.queriesRewritten

/-- Serves requests one after the other, each in surroundings of its own. The counters go on. -/
def serveAll (pipeline : Pipeline) : List (QueryRequest × Ambient) → Metrics → Metrics
  | [], metrics => metrics
  | (request, ambient) :: rest, metrics =>
    pipeline.serveAll rest (pipeline.execute request metrics ambient).2.metrics

section Counters

variable {pipeline : Pipeline}

theorem counted_received (metrics : Metrics) : Counted metrics metrics.received { received := 1 } :=
  { Counted.none _ with received := rfl }

theorem execute_accounted (orderly : pipeline.Orderly) (request : QueryRequest) (metrics : Metrics)
    (ambient : Ambient) :
    Accounted metrics (pipeline.execute request metrics ambient).1
      (pipeline.execute request metrics ambient).2 := by
  obtain ⟨milestone, state, outcome, reaches, decided⟩ :=
    Pipeline.decided pipeline request (arriving request metrics ambient)
  have marks := reaches.marks rfl rfl
  obtain ⟨lifecycle, counters, -⟩ := marks.last
  obtain ⟨answered, settles⟩ := reaches.execute metrics ambient decided
  rw [answered]
  have settled := settles.lifecycle
  rw [lifecycle] at settled
  have ending := ending_of_verdict decided
  rw [← settled] at ending
  refine ⟨?_, ?_, ending.isOk_iff, _, ending, ?_⟩
  · rintro source target rfl
    exact reaches.legal orderly rfl rfl decided source target rfl
  · rw [settled]
    exact path_of_verdict decided
  · have last := settles.counted
    rw [lifecycle, counters] at last
    rw [Tally.add_comm]
    exact (counted_received metrics).trans (marks.counted.trans last)

theorem serveAll_tallied (orderly : pipeline.Orderly) (arrivals : List (QueryRequest × Ambient))
    (metrics : Metrics) :
    ∃ tally : Tally, tally.received = arrivals.length ∧ tally.Balanced ∧
      Counted metrics (pipeline.serveAll arrivals metrics) tally := by
  induction arrivals generalizing metrics with
  | nil => exact ⟨{}, rfl, Tally.balanced_none, .none metrics⟩
  | cons arrival rest ih =>
    obtain ⟨request, ambient⟩ := arrival
    obtain ⟨first, ending, counted⟩ := (execute_accounted orderly request metrics ambient).counted
    obtain ⟨others, received, balanced, counting⟩ :=
      ih (pipeline.execute request metrics ambient).2.metrics
    refine ⟨first + others, ?_, ending.balanced.2.add balanced, counted.trans counting⟩
    change first.received + others.received = rest.length + 1
    rw [ending.balanced.1, received, Nat.add_comm]

/-- Counters that are the numbers of a tally, and no higher than fits, are ordered as these. -/
theorem le_of_tallied {first second : UInt64} {low high : Nat} (lower : first = low.toUInt64)
    (upper : second = high.toUInt64) (le : low ≤ high) (fits : high < UInt64.size) :
    first ≤ second := by
  rw [UInt64.le_iff_toNat_le, lower, upper, Nat.toUInt64,
    UInt64.toNat_ofNat_of_lt' (Nat.lt_of_le_of_lt le fits), UInt64.toNat_ofNat_of_lt' fits]
  exact le

theorem reconciled_of_tally {metrics : Metrics} {tally : Tally} (balanced : tally.Balanced)
    (counted : Counted {} metrics tally) : Reconciled tally.received metrics := by
  have from_zero {counter : UInt64} {count : Nat} (moved : counter = 0 + count.toUInt64) :
      counter = count.toUInt64 := moved.trans (UInt64.zero_add _)
  refine ⟨?_, ⟨tally, rfl, balanced, counted⟩, fun fits => ⟨?_, ?_⟩⟩
  · rw [from_zero counted.received, from_zero counted.completed, from_zero counted.shortCircuited,
      from_zero counted.cancelled, from_zero counted.failed, balanced.ended]
    simp only [Nat.toUInt64, UInt64.ofNat_add]
  · have rewritten := Nat.lt_of_le_of_lt balanced.received fits
    exact le_of_tallied (from_zero counted.completed) (from_zero counted.executed)
      balanced.executed (Nat.lt_of_le_of_lt balanced.rewritten rewritten)
  · exact le_of_tallied (from_zero counted.executed) (from_zero counted.rewritten)
      balanced.rewritten (Nat.lt_of_le_of_lt balanced.received fits)

/-- Every request takes a path through the stages to its end and is counted accordingly, and after
any number of requests the counters agree. -/
theorem requests_accounted (orderly : pipeline.Orderly) :
    (∀ request metrics ambient, Accounted metrics (pipeline.execute request metrics ambient).1
      (pipeline.execute request metrics ambient).2) ∧
    ∀ arrivals, Reconciled arrivals.length (pipeline.serveAll arrivals {}) := by
  refine ⟨execute_accounted orderly, ?_⟩
  intro arrivals
  obtain ⟨tally, received, balanced, counted⟩ := serveAll_tallied orderly arrivals {}
  rw [← received]
  exact reconciled_of_tally balanced counted

end Counters

/-- One request is answered from a cache, one by the backend, and one has been cancelled. -/
theorem three_requests_accounted :
    let cache : RequestFilter := {
      name := "cache"
      before := fun exchange =>
        return if exchange.request.requestId = "known" then some (.scalar .null) else none }
    let pipeline : Pipeline := {
      model := { space := "shop" }
      registry := {}
      executor := {
        sequence := fun _ _ _ => return { items := [] }
        scalar := fun _ _ => return .null }
      filters := [cache] }
    let query : Expr := .value ⟨0, .any⟩ .null
    let known : RequestContext := { requestId := "known" }
    let arrivals : List (QueryRequest × Ambient) :=
      [({ query, context := known }, {}), ({ query }, {}), ({ query }, { cancelled := true })]
    pipeline.Orderly ∧ Reconciled 3 (pipeline.serveAll arrivals {}) ∧
      pipeline.serveAll arrivals {} = {
        requestsReceived := 3
        requestsCompleted := 1
        requestsShortCircuited := 1
        requestsCancelled := 1
        queriesRewritten := 1
        queriesExecuted := 1
        rowsReturned := 1 } := by
  intro cache pipeline query known arrivals
  have orderly : pipeline.Orderly := by
    constructor
    · intro filter mem exchange start error final gives
      obtain rfl := List.mem_singleton.mp mem
      cases gives
    · intro filter mem exchange start error final gives
      obtain rfl := List.mem_singleton.mp mem
      cases gives
    · intro context query options start error final gives
      cases gives
    · intro context query start error final gives
      cases gives
  exact ⟨orderly, (requests_accounted orderly).2 arrivals, by decide +kernel⟩

end QueryRewriting.Pipeline
