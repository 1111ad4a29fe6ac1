import QueryRewriting.Proofs.Request.Ambient

/-! Ways in which the surroundings of a request change. One of them is how identities are given out:
what has been given out stays so. -/
namespace QueryRewriting

variable {ε δ α β : Type}

/-- A way in which the surroundings may change, step by step. Building nodes and logging are always
among the steps. -/
structure Drift where
  leads : Ambient → Ambient → Prop
  leads_refl (ambient : Ambient) : leads ambient ambient
  leads_trans {first second third : Ambient} :
    leads first second → leads second third → leads first third
  leads_rebuilt (e : Expr) (given : List Expr) (ambient : Ambient) :
    leads ambient { ambient with supply := ((e.withChildren given).run ambient.supply).2 }
  leads_logged (log : Telemetry.Log) (ambient : Ambient) : leads ambient { ambient with log }

/-- Identities are given out and never taken back. -/
def issuing : Drift where
  leads before after := before.supply.next ≤ after.supply.next
  leads_refl _ := Nat.le_refl _
  leads_trans := Nat.le_trans
  leads_rebuilt e given ambient := by
    unfold Expr.withChildren
    split
    · exact Nat.le_refl _
    · exact Nat.le_succ _
  leads_logged _ _ := Nat.le_refl _

namespace Fresh

/-- A computation that takes no identity back. -/
def Issues (fresh : Fresh α) : Prop := ∀ supply, supply.next ≤ (fresh.run supply).2.next

theorem issues_pure (value : α) : Issues (pure value) := by
  intro supply
  exact Nat.le_refl _

theorem issues_stamp (type : QueryType) : Issues (stamp type) := by
  intro supply
  exact Nat.le_succ _

theorem Issues.bind {fresh : Fresh α} {next : α → Fresh β} (first : Issues fresh)
    (rest : ∀ value, Issues (next value)) : Issues (fresh >>= next) := by
  intro supply
  exact Nat.le_trans (first supply) (rest _ _)

theorem Issues.map {fresh : Fresh α} (issues : Issues fresh) (f : α → β) :
    Issues (f <$> fresh) := by
  rw [← bind_pure_comp]
  exact issues.bind fun _ => issues_pure _

end Fresh

namespace Act

/-- A computation that changes the surroundings in some way only. -/
def Drifts (drift : Drift) (act : Act ε α) : Prop :=
  ∀ ambient, drift.leads ambient (act.run.run ambient).2

variable {drift : Drift}

theorem drifts_pure (value : α) : Drifts drift (pure value : Act ε α) := by
  intro ambient
  exact drift.leads_refl _

theorem drifts_throw (error : ε) : Drifts drift (throw error : Act ε α) := by
  intro ambient
  exact drift.leads_refl _

theorem Drifts.bind {act : Act ε α} {next : α → Act ε β} (first : Drifts drift act)
    (rest : ∀ value, Drifts drift (next value)) : Drifts drift (act >>= next) := by
  intro ambient
  have early := first ambient
  rw [run_bind]
  revert early
  rcases act.run.run ambient with ⟨_ | value, after⟩ <;> intro early
  · exact early
  · exact drift.leads_trans early (rest value after)

theorem Drifts.map {act : Act ε α} (drifts : Drifts drift act) (f : α → β) :
    Drifts drift (f <$> act) := by
  rw [← bind_pure_comp]
  exact drifts.bind fun _ => drifts_pure _

theorem drifts_build {fresh : Fresh α} (issues : fresh.Issues) :
    Drifts issuing (build fresh : Act ε α) := by
  intro ambient
  exact issues _

theorem drifts_attempt (rename : δ → ε) {fresh : ExceptT δ Fresh α} (issues : fresh.run.Issues) :
    Drifts issuing (attempt rename fresh) := by
  apply (drifts_build issues).bind
  intro result
  cases result with
  | ok value => exact drifts_pure _
  | error error => exact drifts_throw _

end Act

end QueryRewriting
