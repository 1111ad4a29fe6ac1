import QueryRewriting.Proofs.Rewriting.Recording

/-! Regimes of a walk. A regime says what holds of a view of the root and of the inquiries so far,
what guards a setting besides, and what a failure comes with. A step that keeps to it leads on from
what holds to what holds. The rules for steps are the same for all regimes; what becomes of the
inquiries themselves is what is particular to one. -/
namespace QueryRewriting.Rewriting

/-- What the steps of a walk keep to, each in its setting. -/
structure Regime (σ : Type) where
  /-- What is seen of the root and of the inquiries. -/
  view : Option Root → List Inquiry → σ
  holds : σ → Prop
  /-- What holds in a setting in which a step begins. -/
  guards : Context → σ → Prop
  failed : Error → σ → Prop
  /-- What steps inside of so many frames may lead to. -/
  leads : Nat → σ → σ → Prop
  failed_of_holds {seen : σ} (error : Error) : holds seen → failed error seen
  refl (depth : Nat) (seen : σ) : leads depth seen seen
  trans {depth : Nat} {before middle after : σ} :
    leads depth before middle → leads depth middle after → leads depth before after
  leads_outside {depth outer : Nat} {before after : σ} :
    outer ≤ depth → leads depth before after → leads outer before after
  guards_later {setting : Context} {before after : σ} :
    guards setting before → leads setting.depth before after → guards setting after
  guards_substitute {setting : Context} {seen : σ} (node tree : Expr) :
    guards setting seen → guards (setting.substitute node tree) seen

namespace Regime

open Walk

variable {σ α β : Type} (regime : Regime σ)

/-- What is seen of a walk. -/
def sight (recording : Recording) : σ :=
  regime.view recording.context.root recording.inquiries

/-- Begun in a setting that is guarded, a step leads on from what holds. If it succeeds, it leaves a
setting, a view and a value as they are asked for. -/
def Obeys (setting : Context) (seen : σ) (step : Walk α) (leaves : Context → σ → α → Prop) : Prop :=
  ∀ before : Recording, before.context.setting = setting → regime.sight before = seen →
    regime.holds seen → regime.guards setting seen →
    Ends step
      (fun value after => regime.leads setting.depth seen (regime.sight after) ∧
        regime.holds (regime.sight after) ∧ leaves after.context.setting (regime.sight after) value)
      (fun error after => regime.failed error (regime.sight after)) before

variable {regime} {setting : Context} {seen : σ} {step : Walk α} {leaves : Context → σ → α → Prop}

theorem Obeys.mono {leaves' : Context → σ → α → Prop}
    (obeys : regime.Obeys setting seen step leaves)
    (weaker : ∀ left after value, regime.leads setting.depth seen after → leaves left after value →
      leaves' left after value) :
    regime.Obeys setting seen step leaves' := by
  intro before same here holds guarded
  refine (obeys before same here holds guarded).weaken ?_
  rintro value after ⟨later, holds, left⟩
  exact ⟨later, holds, weaker _ _ _ later left⟩

theorem Obeys.of_guarded
    (obeys : regime.guards setting seen → regime.Obeys setting seen step leaves) :
    regime.Obeys setting seen step leaves :=
  fun before same here holds guarded => obeys guarded before same here holds guarded

/-- The setting may be another one of the same depth in between. -/
theorem Obeys.bind {next : α → Walk β} {leaves' : Context → σ → β → Prop}
    (first : regime.Obeys setting seen step leaves)
    (rest : ∀ left after value, regime.leads setting.depth seen after → leaves left after value →
      left.depth = setting.depth ∧ (regime.guards setting after → regime.guards left after) ∧
        regime.Obeys left after (next value) leaves') :
    regime.Obeys setting seen (step >>= next) leaves' := by
  intro before same here holds guarded
  rw [ends_bind]
  refine (first before same here holds guarded).weaken ?_
  rintro value middle ⟨early, holds, left⟩
  obtain ⟨level, guards, obeys⟩ := rest _ _ value early left
  have guarded := guards (regime.guards_later guarded early)
  refine (obeys middle rfl rfl holds guarded).weaken ?_
  rintro result after ⟨late, holds, left⟩
  rw [level] at late
  exact ⟨regime.trans early late, holds, left⟩

/-- The setting is the same in between. -/
theorem Obeys.bind_later {good : σ → α → Prop} {next : α → Walk β}
    {leaves' : Context → σ → β → Prop}
    (first : regime.Obeys setting seen step
      fun left after value => left = setting ∧ good after value)
    (rest : ∀ after value, regime.leads setting.depth seen after → good after value →
      regime.Obeys setting after (next value) leaves') :
    regime.Obeys setting seen (step >>= next) leaves' := by
  refine first.bind ?_
  rintro _ after value later ⟨rfl, left⟩
  exact ⟨rfl, id, rest after value later left⟩

theorem Obeys.bind_kept {next : α → Walk β} {leaves' : Context → σ → β → Prop}
    (first : regime.Obeys setting seen step fun left _ _ => left = setting)
    (rest : ∀ after value, regime.leads setting.depth seen after →
      regime.Obeys setting after (next value) leaves') :
    regime.Obeys setting seen (step >>= next) leaves' := by
  refine first.bind ?_
  rintro _ after value later rfl
  exact ⟨rfl, id, rest after value later⟩

/-- Nothing is asked by the first step. -/
theorem Obeys.bind_same {good : α → Prop} {next : α → Walk β} {leaves' : Context → σ → β → Prop}
    (first : regime.Obeys setting seen step
      fun left after value => left = setting ∧ after = seen ∧ good value)
    (rest : ∀ value, good value → regime.Obeys setting seen (next value) leaves') :
    regime.Obeys setting seen (step >>= next) leaves' := by
  refine first.bind_later ?_
  rintro _ value - ⟨rfl, left⟩
  exact rest value left

theorem obeys_pure {value : α} (left : leaves setting seen value) :
    regime.Obeys setting seen (pure value) leaves := by
  rintro before rfl rfl holds -
  exact ⟨regime.refl _ _, holds, left⟩

theorem obeys_throw (error : Error) : regime.Obeys setting seen (throw error : Walk α) leaves := by
  rintro before rfl rfl holds -
  exact regime.failed_of_holds error holds

/-- A step that leaves what is seen as it is. -/
theorem obeys_quiet
    (ends : ∀ before : Recording, before.context.setting = setting → regime.sight before = seen →
      Ends step
        (fun value after => regime.sight after = seen ∧ leaves after.context.setting seen value)
        (fun _ after => regime.sight after = seen) before) :
    regime.Obeys setting seen step leaves := by
  rintro before rfl rfl holds -
  refine (ends before rfl rfl).mono ?_ ?_
  · rintro value after ⟨same, left⟩
    rw [same]
    exact ⟨regime.refl _ _, holds, left⟩
  · intro error after same
    rw [same]
    exact regime.failed_of_holds error holds

theorem obeys_context : regime.Obeys setting seen context fun left after context =>
    left = setting ∧ after = seen ∧ context.setting = setting ∧
      ∃ inquiries, seen = regime.view context.root inquiries := by
  rintro before rfl rfl holds -
  exact ⟨regime.refl _ _, holds, rfl, rfl, rfl, before.inquiries, rfl⟩

theorem obeys_checkType (hook : String) (replaced replacement : Expr) :
    regime.Obeys setting seen (checkType hook replaced replacement) fun left after _ =>
      left = setting ∧ after = seen ∧ replaced.type.accepts replacement.type = true := by
  rintro before rfl rfl holds -
  rw [ends_checkType]
  split
  · next accepted => exact ⟨regime.refl _ _, holds, rfl, rfl, accepted⟩
  · exact regime.failed_of_holds _ holds

theorem obeys_nested {node : Option Expr}
    (inside : ∀ entered, setting.push node = .ok entered → entered.surroundings = setting →
      (regime.guards setting seen → regime.guards entered seen) ∧
        regime.Obeys entered seen step
          fun left after value => leaves left.surroundings after value) :
    regime.Obeys setting seen (nested node step) leaves := by
  rintro before rfl rfl holds guarded
  have popped (after : Recording) :
      regime.sight { after with context := after.context.pop } = regime.sight after :=
    congrArg (regime.view · after.inquiries) (Context.root_pop _)
  rw [ends_nested]
  split
  · next entered pushed =>
    have rooted : entered.root = before.context.root := by rw [Context.push_frames pushed]
    have around : entered.surroundings = before.context.setting := Context.surroundings_push pushed
    obtain ⟨guards, obeys⟩ := inside entered.setting (Context.push_setting pushed) around
    have deeper : before.context.setting.depth ≤ entered.setting.depth := by
      rw [← around]
      simp [Context.depth, Context.surroundings]
    refine (obeys { before with context := entered } rfl
      (congrArg (regime.view · before.inquiries) rooted) holds (guards guarded)).mono ?_ ?_
    · rintro value after ⟨later, holds, left⟩
      rw [popped, Context.setting_pop]
      exact ⟨regime.leads_outside deeper later, holds, left⟩
    · intro error after failed
      rw [popped]
      exact failed
  · exact regime.failed_of_holds _ holds

theorem obeys_substituting {node replacement : Expr}
    (inside : regime.Obeys (setting.substitute node replacement) seen step
      fun left after value => leaves left.endSubstitution after value) :
    regime.Obeys setting seen (substituting node replacement step) leaves := by
  rintro before rfl rfl holds guarded
  rw [ends_substituting]
  exact inside { before with context := before.context.substitute node replacement } rfl rfl holds
    (regime.guards_substitute node replacement guarded)

end Regime

end QueryRewriting.Rewriting
