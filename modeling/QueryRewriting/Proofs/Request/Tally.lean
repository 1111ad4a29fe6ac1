import QueryRewriting.Telemetry.Metrics

/-! Numbers of requests by what became of them. The counters of a pipeline are moved on by such
numbers, but wrap. -/
namespace QueryRewriting.Telemetry

/-- Numbers of requests by what became of them, and of the rows returned to them. -/
structure Tally where
  received : Nat := 0
  completed : Nat := 0
  shortCircuited : Nat := 0
  failed : Nat := 0
  cancelled : Nat := 0
  rewritten : Nat := 0
  executed : Nat := 0
  rows : Nat := 0
  deriving DecidableEq

namespace Tally

instance : Add Tally where
  add first second := {
    received := first.received + second.received
    completed := first.completed + second.completed
    shortCircuited := first.shortCircuited + second.shortCircuited
    failed := first.failed + second.failed
    cancelled := first.cancelled + second.cancelled
    rewritten := first.rewritten + second.rewritten
    executed := first.executed + second.executed
    rows := first.rows + second.rows }

theorem add_comm (first second : Tally) : first + second = second + first := by
  obtain ⟨_, _, _, _, _, _, _, _⟩ := first
  obtain ⟨_, _, _, _, _, _, _, _⟩ := second
  refine Tally.mk.injEq .. ▸ ?_
  refine ⟨?_, ?_, ?_, ?_, ?_, ?_, ?_, ?_⟩ <;> exact Nat.add_comm _ _

/-- Every request that has come in has ended, each in one way, and what was completed has been
executed, and what was executed rewritten. -/
structure Balanced (tally : Tally) : Prop where
  ended : tally.received =
    tally.completed + tally.shortCircuited + tally.cancelled + tally.failed
  executed : tally.completed ≤ tally.executed
  rewritten : tally.executed ≤ tally.rewritten
  received : tally.rewritten ≤ tally.received

theorem balanced_none : Balanced {} := by constructor <;> decide

theorem Balanced.add {first second : Tally} (early : first.Balanced) (late : second.Balanced) :
    (first + second).Balanced := by
  obtain ⟨endedEarly, executedEarly, rewrittenEarly, receivedEarly⟩ := early
  obtain ⟨endedLate, executedLate, rewrittenLate, receivedLate⟩ := late
  constructor
  · change first.received + second.received = first.completed + second.completed +
      (first.shortCircuited + second.shortCircuited) + (first.cancelled + second.cancelled) +
      (first.failed + second.failed)
    omega
  · exact Nat.add_le_add executedEarly executedLate
  · exact Nat.add_le_add rewrittenEarly rewrittenLate
  · exact Nat.add_le_add receivedEarly receivedLate

end Tally

/-- The counters are moved on by the numbers of a tally. -/
structure Counted (before after : Metrics) (tally : Tally) : Prop where
  received : after.requestsReceived = before.requestsReceived + tally.received.toUInt64
  completed : after.requestsCompleted = before.requestsCompleted + tally.completed.toUInt64
  shortCircuited : after.requestsShortCircuited =
    before.requestsShortCircuited + tally.shortCircuited.toUInt64
  failed : after.requestsFailed = before.requestsFailed + tally.failed.toUInt64
  cancelled : after.requestsCancelled = before.requestsCancelled + tally.cancelled.toUInt64
  rewritten : after.queriesRewritten = before.queriesRewritten + tally.rewritten.toUInt64
  executed : after.queriesExecuted = before.queriesExecuted + tally.executed.toUInt64
  rows : after.rowsReturned = before.rowsReturned + tally.rows.toUInt64

/-- A counter that is moved on twice is moved on by the sum. -/
theorem moved_twice {before between after : UInt64} {first second : Nat}
    (early : between = before + first.toUInt64) (late : after = between + second.toUInt64) :
    after = before + (first + second).toUInt64 := by
  rw [late, early, UInt64.add_assoc]
  exact congrArg _ (UInt64.ofNat_add _ _).symm

namespace Counted

variable {before between after : Metrics} {first second : Tally}

theorem none (metrics : Metrics) : Counted metrics metrics {} := by
  constructor <;> exact (UInt64.add_zero _).symm

theorem trans (early : Counted before between first) (late : Counted between after second) :
    Counted before after (first + second) where
  received := moved_twice early.received late.received
  completed := moved_twice early.completed late.completed
  shortCircuited := moved_twice early.shortCircuited late.shortCircuited
  failed := moved_twice early.failed late.failed
  cancelled := moved_twice early.cancelled late.cancelled
  rewritten := moved_twice early.rewritten late.rewritten
  executed := moved_twice early.executed late.executed
  rows := moved_twice early.rows late.rows

end Counted

end QueryRewriting.Telemetry
