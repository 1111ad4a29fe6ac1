import QueryRewriting.Proofs.Request.Ambient
import QueryRewriting.Proofs.Rewriting.Stack

/-! Two walks side by side. Steps keep in step when they end alike: either both succeed, with values
and states that are related as wanted, or both fail with one and the same error. -/
namespace QueryRewriting

variable {ε σ τ α β γ δ : Type} {done : α → β → σ → τ → Prop} {before : σ} {before' : τ}

/-- Begun in two states, two steps both succeed, or both fail with the same error. -/
def Lockstep (step : ExceptT ε (StateM σ) α) (other : ExceptT ε (StateM τ) β)
    (done : α → β → σ → τ → Prop) (before : σ) (before' : τ) : Prop :=
  match step.run.run before, other.run.run before' with
  | (.ok value, after), (.ok value', after') => done value value' after after'
  | (.error error, _), (.error error', _) => error = error'
  | _, _ => False

section Rules

variable {step : ExceptT ε (StateM σ) α} {other : ExceptT ε (StateM τ) β}

/-- Of two steps in lockstep each can be followed on its own. -/
theorem lockstep_iff_ends :
    Lockstep step other done before before' ↔
      Ends step
        (fun value after => Ends other (fun value' after' => done value value' after after')
          (fun _ _ => False) before')
        (fun error _ => Ends other (fun _ _ => False) (fun error' _ => error = error') before')
        before := by
  unfold Lockstep Ends
  rcases step.run.run before with ⟨_ | _, after⟩ <;>
    rcases other.run.run before' with ⟨_ | _, after'⟩ <;> rfl

theorem Lockstep.mono {done' : α → β → σ → τ → Prop}
    (level : Lockstep step other done before before')
    (further : ∀ value value' after after', done value value' after after' →
      done' value value' after after') : Lockstep step other done' before before' := by
  unfold Lockstep at *
  split at level
  · exact further _ _ _ _ level
  · exact level
  · exact level

/-- What is known of each step holds of both in lockstep. -/
theorem Lockstep.and {holds : α → σ → Prop} {failed : ε → σ → Prop} {holds' : β → τ → Prop}
    {failed' : ε → τ → Prop} (level : Lockstep step other done before before')
    (ends : Ends step holds failed before) (ends' : Ends other holds' failed' before') :
    Lockstep step other (fun value value' after after' =>
      done value value' after after' ∧ holds value after ∧ holds' value' after') before before' := by
  unfold Lockstep Ends at *
  generalize step.run.run before = result at *
  generalize other.run.run before' = result' at *
  rcases result with ⟨_ | _, after⟩ <;> rcases result' with ⟨_ | _, after'⟩
  · exact level
  · exact level
  · exact level
  · exact ⟨level, ends, ends'⟩

theorem lockstep_throw (error : ε) :
    Lockstep (throw error : ExceptT ε (StateM σ) α) (throw error : ExceptT ε (StateM τ) β) done
      before before' := rfl

theorem Lockstep.bind {next : α → ExceptT ε (StateM σ) γ} {next' : β → ExceptT ε (StateM τ) δ}
    {done' : γ → δ → σ → τ → Prop} (first : Lockstep step other done before before')
    (rest : ∀ value value' after after', done value value' after after' →
      Lockstep (next value) (next' value') done' after after') :
    Lockstep (step >>= next) (other >>= next') done' before before' := by
  unfold Lockstep at first ⊢
  rw [ExceptT.run_bind, StateT.run_bind, ExceptT.run_bind, StateT.run_bind]
  generalize step.run.run before = result at *
  generalize other.run.run before' = result' at *
  rcases result with ⟨_ | _, after⟩ <;> rcases result' with ⟨_ | _, after'⟩
  · exact first
  · exact first.elim
  · exact first.elim
  · exact rest _ _ _ _ first

end Rules

section Fresh

variable {fresh : Fresh α} {fresh' : Fresh β} {supply supply' : NodeSupply}

theorem lockstep_liftM {done : α → β → NodeSupply → NodeSupply → Prop} :
    Lockstep (liftM fresh : ExceptT ε Fresh α) (liftM fresh' : ExceptT ε Fresh β) done supply
      supply' ↔ done (fresh.run supply).1 (fresh'.run supply').1 (fresh.run supply).2
        (fresh'.run supply').2 := .rfl

theorem lockstep_liftM_bind {next : α → ExceptT ε Fresh γ} {next' : β → ExceptT ε Fresh δ}
    {done : γ → δ → NodeSupply → NodeSupply → Prop} :
    Lockstep (liftM fresh >>= next) (liftM fresh' >>= next') done supply supply' ↔
      Lockstep (next (fresh.run supply).1) (next' (fresh'.run supply').1) done
        (fresh.run supply).2 (fresh'.run supply').2 := .rfl

end Fresh

namespace Act

variable {ambient ambient' : Ambient}

theorem lockstep_build {fresh : Fresh α} {fresh' : Fresh β}
    {done : α → β → Ambient → Ambient → Prop} :
    Lockstep (build fresh : Act ε α) (build fresh' : Act ε β) done ambient ambient' ↔
      done (fresh.run ambient.supply).1 (fresh'.run ambient'.supply).1
        { ambient with supply := (fresh.run ambient.supply).2 }
        { ambient' with supply := (fresh'.run ambient'.supply).2 } := .rfl

theorem lockstep_build_bind {fresh : Fresh α} {fresh' : Fresh β} {next : α → Act ε γ}
    {next' : β → Act ε δ} {done : γ → δ → Ambient → Ambient → Prop} :
    Lockstep (build fresh >>= next) (build fresh' >>= next') done ambient ambient' ↔
      Lockstep (next (fresh.run ambient.supply).1) (next' (fresh'.run ambient'.supply).1) done
        { ambient with supply := (fresh.run ambient.supply).2 }
        { ambient' with supply := (fresh'.run ambient'.supply).2 } := by
  unfold Lockstep
  rw [run_bind, run_bind, run_build, run_build]

theorem lockstep_attempt (rename : δ → ε) {fresh : ExceptT δ Fresh α} {fresh' : ExceptT δ Fresh β}
    {done : α → β → NodeSupply → NodeSupply → Prop}
    (level : Lockstep fresh fresh' done ambient.supply ambient'.supply) :
    Lockstep (attempt rename fresh) (attempt rename fresh') (fun value value' after after' =>
      done value value' after.supply after'.supply) ambient ambient' := by
  rcases run : fresh.run.run ambient.supply with ⟨result, after⟩
  rcases run' : fresh'.run.run ambient'.supply with ⟨result', after'⟩
  unfold Lockstep at level ⊢
  rw [run, run'] at level
  rw [run_attempt rename run, run_attempt rename run']
  cases result <;> cases result'
  · exact congrArg rename level
  · exact level
  · exact level
  · exact level

end Act

namespace Rewriting.Walk

variable {α β : Type} {before before' : Recording}

theorem lockstep_context {next : Context → Walk α} {next' : Context → Walk β}
    {done : α → β → Recording → Recording → Prop} :
    Lockstep (context >>= next) (context >>= next') done before before' ↔
      Lockstep (next before.context) (next' before'.context) done before before' := .rfl

theorem lockstep_trying {change change' : Context → Except Error Context}
    {changed changed' : Context} {done : Unit → Unit → Recording → Recording → Prop}
    (possible : change before.context = .ok changed)
    (possible' : change' before'.context = .ok changed') :
    Lockstep (trying change) (trying change') done before before' ↔
      done () () { before with context := changed } { before' with context := changed' } := by
  rw [lockstep_iff_ends, ends_trying, possible]
  simp only [ends_trying, possible']

/-- A step has changed neither the setting nor what the walk has found. -/
structure Idle (before after : Recording) : Prop where
  setting : after.context.setting = before.context.setting
  root : after.context.root = before.context.root
  collection : after.context.collection = before.context.collection

theorem Idle.refl (before : Recording) : Idle before before := ⟨rfl, rfl, rfl⟩

theorem Idle.trans {middle after : Recording} (first : Idle before middle)
    (second : Idle middle after) :
    Idle before after :=
  ⟨second.setting.trans first.setting, second.root.trans first.root,
    second.collection.trans first.collection⟩

theorem lockstep_acting {act : Act Error α} {act' : Act Error β}
    {done : α → β → Ambient → Ambient → Prop}
    (acts : Lockstep act act' done before.ambient before'.ambient) :
    Lockstep (acting act) (acting act') (fun value value' after after' =>
      done value value' after.ambient after'.ambient ∧ Idle before after ∧ Idle before' after')
      before before' := by
  rw [lockstep_iff_ends, ends_acting]
  simp only [ends_acting]
  unfold Ends
  unfold Lockstep at acts
  generalize act.run.run before.ambient = result at *
  generalize act'.run.run before'.ambient = result' at *
  rcases result with ⟨_ | _, _⟩ <;> rcases result' with ⟨_ | _, _⟩
  · exact acts
  · exact acts
  · exact acts
  · exact ⟨acts, ⟨rfl, rfl, rfl⟩, ⟨rfl, rfl, rfl⟩⟩

theorem checkType_of_type_eq (hook : String) {replaced replacement : Expr}
    (same : replacement.type = replaced.type) :
    checkType hook replaced replacement = pure () := by
  unfold checkType
  rw [same, if_pos replaced.type.accepts_refl]

theorem lockstep_event (event : Telemetry.Event) (fields : Telemetry.LogFields) :
    Lockstep (acting (Act.event event fields)) (acting (Act.event event fields))
      (fun _ _ after after' => Idle before after ∧ Idle before' after') before before' :=
  ⟨⟨rfl, rfl, rfl⟩, ⟨rfl, rfl, rfl⟩⟩

/-- Fragments of the same kind with native fragments of the same proxies are checked alike. -/
theorem lockstep_checkEmbedded (reference : String) {fragment fragment' : Expr} {proxy : ProxyId}
    (kind : fragment'.isQueryable = fragment.isQueryable)
    (proxies : fragment'.hasNode (checkEmbedded.foreign proxy) =
      fragment.hasNode (checkEmbedded.foreign proxy)) :
    Lockstep (checkEmbedded reference fragment proxy) (checkEmbedded reference fragment' proxy)
      (fun _ _ after after' => after = before ∧ after' = before') before before' := by
  unfold checkEmbedded
  rw [kind, proxies]
  split
  · exact lockstep_throw _
  · split
    · exact lockstep_throw _
    · exact ⟨rfl, rfl⟩

theorem lockstep_consult {answer : α → Answer} {answer' : β → Answer} {point point' : Point}
    {hook : Hook α} {hook' : Hook β}
    {done : α → β → Ambient → Ambient → Prop}
    (asked : Lockstep (hook.run (before.context.consulting point hook.name))
      (hook'.run (before'.context.consulting point' hook'.name)) done before.ambient
      before'.ambient) :
    Lockstep (consult answer point hook) (consult answer' point' hook')
      (fun value value' after after' =>
        done value value' after.ambient after'.ambient ∧ Idle before after ∧ Idle before' after')
      before before' := by
  rw [lockstep_iff_ends, ends_consult]
  simp only [ends_consult]
  unfold Lockstep at asked
  generalize (hook.run _).run.run before.ambient = result at *
  generalize (hook'.run _).run.run before'.ambient = result' at *
  rcases result with ⟨_ | _, _⟩ <;> rcases result' with ⟨_ | _, _⟩
  · exact asked
  · exact asked
  · exact asked
  · exact ⟨asked, ⟨rfl, rfl, rfl⟩, ⟨rfl, rfl, rfl⟩⟩

/-- Replacements of the same types are checked alike. -/
theorem lockstep_checkType (hook : String) {replaced replaced' replacement replacement' : Expr}
    (expected : replaced.type = replaced'.type) (actual : replacement.type = replacement'.type) :
    Lockstep (checkType hook replaced replacement) (checkType hook replaced' replacement')
      (fun _ _ after after' => after = before ∧ after' = before') before before' := by
  unfold checkType
  rw [expected, actual]
  split
  · exact ⟨rfl, rfl⟩
  · exact lockstep_throw _

section Frames

variable {node node' : Option Expr} {step : Walk α} {other : Walk β}
  {done : α → β → Recording → Recording → Prop}

theorem lockstep_refused {error : Error} (refused : before.context.push node = .error error)
    (refused' : before'.context.push node' = .error error) :
    Lockstep (nested node step) (nested node' other) done before before' := by
  rw [lockstep_iff_ends, ends_nested, refused]
  simp only [ends_nested, refused']

theorem lockstep_entered {entered entered' : Context}
    (pushed : before.context.push node = .ok entered)
    (pushed' : before'.context.push node' = .ok entered')
    (inside : Lockstep step other (fun value value' after after' => done value value'
        { after with context := after.context.pop } { after' with context := after'.context.pop })
      { before with context := entered } { before' with context := entered' }) :
    Lockstep (nested node step) (nested node' other) done before before' := by
  rw [lockstep_iff_ends, ends_nested, pushed]
  simp only [ends_nested, pushed']
  exact lockstep_iff_ends.mp inside

end Frames

theorem lockstep_substituting {node node' current current' : Expr} {step : Walk α}
    {other : Walk β} {done : α → β → Recording → Recording → Prop}
    (inside : Lockstep step other (fun value value' after after' => done value value'
        { after with context := after.context.endSubstitution }
        { after' with context := after'.context.endSubstitution })
      { before with context := before.context.substitute node current }
      { before' with context := before'.context.substitute node' current' }) :
    Lockstep (substituting node current step) (substituting node' current' other) done before
      before' := by
  rw [lockstep_iff_ends, ends_substituting]
  simp only [ends_substituting]
  exact lockstep_iff_ends.mp inside

/-- Visits of nodes in turn keep in step if each of them does and hands on what the next one needs.
-/
theorem lockstep_mapM {visit visit' : Expr → Walk Expr} {level : Recording → Recording → Prop}
    {good stems : Expr → Expr → Prop} {nodes nodes' : List Expr} (start : level before before')
    (each : List.Forall₂ (fun node node' => ∀ state state', level state state' →
      Lockstep (visit node) (visit' node')
        (fun tree tree' after after' => level after after' ∧ good tree tree' ∧ stems node tree)
        state state')
      nodes nodes') :
    Lockstep (nodes.mapM visit) (nodes'.mapM visit') (fun trees trees' after after' =>
      level after after' ∧ List.Forall₂ good trees trees' ∧ List.Forall₂ stems nodes trees)
      before before' := by
  induction each generalizing before before' with
  | nil => exact ⟨start, .nil, .nil⟩
  | cons first _ ih =>
    rw [List.mapM_cons, List.mapM_cons]
    apply (first before before' start).bind
    rintro tree tree' middle middle' ⟨between, made, stem⟩
    apply (ih between).bind
    rintro trees trees' after after' ⟨onwards, others, stems⟩
    exact ⟨onwards, .cons made others, .cons stem stems⟩

end Rewriting.Walk

end QueryRewriting
