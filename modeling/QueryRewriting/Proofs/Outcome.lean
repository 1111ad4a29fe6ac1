/-! What a computation that may fail over a state ends in, for a success and for a failure apart. A
failed step counts with what it did to the state, so both outcomes are assertions about a state. -/
namespace QueryRewriting

variable {ε σ α β : Type} {done : α → σ → Prop} {failed : ε → σ → Prop} {before : σ}

/-- Begun in `before`, the step ends with a value and a state that satisfy `done`, or with an error
and a state that satisfy `failed`. -/
def Ends (step : ExceptT ε (StateM σ) α) (done : α → σ → Prop) (failed : ε → σ → Prop)
    (before : σ) : Prop :=
  match step.run.run before with
  | (.ok value, after) => done value after
  | (.error error, after) => failed error after

/-- A step is followed by another one unless it fails. -/
theorem run_bind (step : ExceptT ε (StateM σ) α) (next : α → ExceptT ε (StateM σ) β) (before : σ) :
    (step >>= next).run.run before =
      match step.run.run before with
      | (.ok value, after) => (next value).run.run after
      | (.error error, after) => (.error error, after) := by
  rw [ExceptT.run_bind, StateT.run_bind]
  rcases step.run.run before with ⟨_ | _, after⟩ <;> rfl

/-- A run that succeeds ends with a value and a state. -/
theorem exists_of_isOk {ended : Except ε α × σ} (succeeds : ended.1.isOk = true) :
    ∃ value after, ended = (.ok value, after) := by
  obtain ⟨_ | value, after⟩ := ended
  · contradiction
  · exact ⟨value, after, rfl⟩

theorem Ends.mono {step : ExceptT ε (StateM σ) α} {done' : α → σ → Prop} {failed' : ε → σ → Prop}
    (ends : Ends step done failed before)
    (fromDone : ∀ value after, done value after → done' value after)
    (fromFailed : ∀ error after, failed error after → failed' error after) :
    Ends step done' failed' before := by
  unfold Ends at *
  split at ends
  · exact fromDone _ _ ends
  · exact fromFailed _ _ ends

theorem Ends.weaken {step : ExceptT ε (StateM σ) α} {done' : α → σ → Prop}
    (ends : Ends step done failed before)
    (fromDone : ∀ value after, done value after → done' value after) :
    Ends step done' failed before :=
  ends.mono fromDone fun _ _ failed => failed

theorem Ends.and {step : ExceptT ε (StateM σ) α} {done' : α → σ → Prop} {failed' : ε → σ → Prop}
    (first : Ends step done failed before) (second : Ends step done' failed' before) :
    Ends step (fun value after => done value after ∧ done' value after)
      (fun error after => failed error after ∧ failed' error after) before := by
  unfold Ends at *
  split at first <;> simp_all

/-- What holds of the state in either outcome is what holds of it in the end. -/
theorem ends_always_iff {step : ExceptT ε (StateM σ) α} {holds : σ → Prop} :
    Ends step (fun _ after => holds after) (fun _ after => holds after) before ↔
      holds (step.run.run before).2 := by
  unfold Ends
  rcases step.run.run before with ⟨_ | _, after⟩ <;> rfl

/-- A step that fails exactly where a condition does not hold. -/
theorem Ends.ok_iff {step : ExceptT ε (StateM σ) α} {condition : Prop}
    (ends : Ends step (fun value after => condition ∧ done value after) (fun _ _ => ¬condition)
      before) :
    (∃ value after, step.run.run before = (.ok value, after)) ↔ condition := by
  unfold Ends at ends
  rcases run : step.run.run before with ⟨error | value, after⟩ <;> rw [run] at ends
  · constructor
    · rintro ⟨value, after', same⟩
      cases same
    · intro holds
      exact (ends holds).elim
  · exact ⟨fun _ => ends.1, fun _ => ⟨value, after, rfl⟩⟩

theorem Ends.done_of_ok {step : ExceptT ε (StateM σ) α} {value : α} {after : σ}
    (ends : Ends step done failed before) (run : step.run.run before = (.ok value, after)) :
    done value after := by
  unfold Ends at ends
  rw [run] at ends
  exact ends

theorem Ends.failed_of_error {step : ExceptT ε (StateM σ) α} {error : ε} {after : σ}
    (ends : Ends step done failed before) (run : step.run.run before = (.error error, after)) :
    failed error after := by
  unfold Ends at ends
  rw [run] at ends
  exact ends

/-- What a step ends in, once it is known how it runs. -/
theorem ends_iff_of_run {step : ExceptT ε (StateM σ) α} {answer : Except ε α} {after : σ} :
    step.run.run before = (answer, after) → (Ends step done failed before ↔ match answer with
      | .ok value => done value after
      | .error error => failed error after) := by
  intro ran
  unfold Ends
  rw [ran]
  cases answer <;> rfl

theorem Ends.run_eq {step : ExceptT ε (StateM σ) α} {target : Except ε α × σ}
    (ends : Ends step (fun value after => target = (.ok value, after))
      (fun error after => target = (.error error, after)) before) :
    step.run.run before = target := by
  rcases ran : step.run.run before with ⟨_ | _, after⟩
  all_goals exact ((ends_iff_of_run ran).mp ends).symm

theorem Ends.of_run {step : ExceptT ε (StateM σ) α} {holds : Except ε α → σ → Prop}
    {answer : Except ε α} {after : σ}
    (ends : Ends step (fun value after => holds (.ok value) after)
      (fun error after => holds (.error error) after) before)
    (ran : step.run.run before = (answer, after)) : holds answer after := by
  rw [ends_iff_of_run ran] at ends
  cases answer <;> exact ends

@[simp] theorem ends_pure (value : α) :
    Ends (pure value) done failed before ↔ done value before := .rfl

@[simp] theorem ends_throw (error : ε) :
    Ends (throw error : ExceptT ε (StateM σ) α) done failed before ↔ failed error before := .rfl

@[simp] theorem ends_bind (step : ExceptT ε (StateM σ) α) (next : α → ExceptT ε (StateM σ) β)
    {done : β → σ → Prop} :
    Ends (step >>= next) done failed before ↔
      Ends step (fun value after => Ends (next value) done failed after) failed before := by
  unfold Ends
  rw [run_bind]
  rcases step.run.run before with ⟨_ | _, after⟩ <;> rfl

@[simp] theorem ends_map (f : α → β) (step : ExceptT ε (StateM σ) α) {done : β → σ → Prop} :
    Ends (f <$> step) done failed before ↔
      Ends step (fun value after => done (f value) after) failed before := by
  rw [← bind_pure_comp]
  simp only [ends_bind, ends_pure]

theorem ends_liftM (step : StateM σ α) :
    Ends (liftM step : ExceptT ε (StateM σ) α) done failed before ↔
      done (step.run before).1 (step.run before).2 := .rfl

theorem ends_get {done : σ → σ → Prop} :
    Ends (get : ExceptT ε (StateM σ) σ) done failed before ↔ done before before := .rfl

theorem ends_modify (change : σ → σ) {done : PUnit → σ → Prop} :
    Ends (modify change : ExceptT ε (StateM σ) PUnit) done failed before ↔
      done ⟨⟩ (change before) := .rfl

/-- A step whose outcome is taken as a value. -/
theorem ends_outcome {δ : Type} (step : ExceptT ε (StateM σ) α) {done : Except ε α → σ → Prop}
    {failed : δ → σ → Prop} :
    Ends (ExceptT.mk (do return .ok (← step.run)) : ExceptT δ (StateM σ) (Except ε α)) done failed
      before ↔ Ends step (fun value after => done (.ok value) after)
        (fun error after => done (.error error) after) before := by
  have ran : (ExceptT.mk (do return .ok (← step.run)) :
      ExceptT δ (StateM σ) (Except ε α)).run.run before =
        (.ok (step.run.run before).1, (step.run.run before).2) := rfl
  unfold Ends
  rw [ran]
  rcases step.run.run before with ⟨_ | _, after⟩ <;> rfl

theorem ends_tryCatch (step : ExceptT ε (StateM σ) α) (handler : ε → ExceptT ε (StateM σ) α) :
    Ends (tryCatch step handler) done failed before ↔
      Ends step done (fun error after => Ends (handler error) done failed after) before := by
  have caught : (tryCatch step handler).run.run before =
      match step.run.run before with
      | (.ok value, after) => (.ok value, after)
      | (.error error, after) => (handler error).run.run after := by
    change (match step.run.run before with
      | (result, after) => (match result with
        | .ok value => pure (Except.ok value)
        | .error error => handler error : StateM σ (Except ε α)).run after) = _
    rcases step.run.run before with ⟨_ | _, after⟩ <;> rfl
  unfold Ends
  rw [caught]
  rcases step.run.run before with ⟨_ | _, after⟩ <;> rfl

end QueryRewriting
