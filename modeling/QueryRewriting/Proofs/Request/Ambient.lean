import QueryRewriting.Proofs.Outcome
import QueryRewriting.Request.Ambient

/-! How computations in the surroundings of a request run, and which of them cancel no request. -/
namespace QueryRewriting.Act

variable {ε δ α β : Type}

theorem run_build (fresh : Fresh α) (ambient : Ambient) :
    (build fresh : Act ε α).run.run ambient =
      (.ok (fresh.run ambient.supply).1, { ambient with supply := (fresh.run ambient.supply).2 }) :=
  rfl

theorem run_attempt (rename : δ → ε) {fresh : ExceptT δ Fresh α} {ambient : Ambient}
    {result : Except δ α} {supply : NodeSupply}
    (ran : fresh.run.run ambient.supply = (result, supply)) :
    (attempt rename fresh).run.run ambient =
      (result.mapError rename, { ambient with supply }) := by
  unfold attempt
  rw [run_bind, run_build, ran]
  cases result <;> rfl

theorem ends_build (fresh : Fresh α) {done : α → Ambient → Prop} {failed : ε → Ambient → Prop}
    {before : Ambient} : Ends (build fresh) done failed before ↔
      done (fresh.run before.supply).1 { before with supply := (fresh.run before.supply).2 } := .rfl

theorem ends_ofExcept (rename : δ → ε) (result : Except δ α) {done : α → Ambient → Prop}
    {failed : ε → Ambient → Prop} {before : Ambient} :
    Ends (ofExcept rename result) done failed before ↔
      match result with
      | .ok value => done value before
      | .error error => failed (rename error) before := by
  cases result <;> rfl

/-- A step that acts in the surroundings of a larger state ends as the act does. -/
theorem ends_within {σ : Type} (surroundings : σ → Ambient) (become : σ → Ambient → σ)
    (act : Act ε α) {done : α → σ → Prop} {failed : ε → σ → Prop} {before : σ} :
    Ends (act.within surroundings become) done failed before ↔
      Ends act (fun value ambient => done value (become before ambient))
        (fun error ambient => failed error (become before ambient)) (surroundings before) := by
  rcases ran : act.run.run (surroundings before) with ⟨answer, ambient⟩
  have run : act.run (surroundings before) = (answer, ambient) := ran
  unfold within
  rw [ends_bind, ends_get, run, ends_iff_of_run ran]
  cases answer <;> rfl

/-- A computation after which a request is as cancelled as it was. -/
def Quiet (act : Act ε α) : Prop :=
  ∀ ambient, (act.run.run ambient).2.cancelled = ambient.cancelled

theorem quiet_pure (value : α) : Quiet (pure value : Act ε α) := fun _ => rfl

theorem quiet_throw (error : ε) : Quiet (throw error : Act ε α) := fun _ => rfl

theorem Quiet.bind {act : Act ε α} {next : α → Act ε β} (first : Quiet act)
    (rest : ∀ value, Quiet (next value)) : Quiet (act >>= next) := by
  intro ambient
  have kept := first ambient
  rw [run_bind]
  revert kept
  rcases act.run.run ambient with ⟨_ | value, after⟩ <;> intro kept
  · exact kept
  · exact (rest value after).trans kept

theorem Quiet.map {act : Act ε α} (quiet : Quiet act) (f : α → β) : Quiet (f <$> act) := by
  rw [← bind_pure_comp]
  exact quiet.bind fun _ => quiet_pure _

theorem quiet_build (fresh : Fresh α) : Quiet (build fresh : Act ε α) := fun _ => rfl

theorem quiet_ofExcept (rename : δ → ε) (result : Except δ α) : Quiet (ofExcept rename result) := by
  cases result with
  | ok value => exact quiet_pure value
  | error error => exact quiet_throw _

theorem quiet_attempt (rename : δ → ε) (fresh : ExceptT δ Fresh α) : Quiet (attempt rename fresh) :=
  (quiet_build _).bind fun _ => quiet_ofExcept _ _

end QueryRewriting.Act
