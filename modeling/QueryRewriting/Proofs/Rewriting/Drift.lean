import QueryRewriting.Proofs.Request.Drift
import QueryRewriting.Proofs.Rewriting.Stack

/-! How the surroundings change in the course of a walk. What hooks may do to them, a whole walk may
do, since between its hooks a walk only builds nodes and logs events. -/
namespace QueryRewriting.Rewriting

variable {α β : Type} (drift : Drift)

/-- No hook of a registry changes the surroundings in another way. -/
structure Registry.Drifts (registry : Registry) : Prop where
  normalizers : ∀ hook ∈ registry.normalizers, ∀ context, (hook.run context).Drifts drift
  inspectors : ∀ hook ∈ registry.inspectors, ∀ context, (hook.run context).Drifts drift
  expanders : ∀ hook ∈ registry.expanders, ∀ context, (hook.run context).Drifts drift
  filters : ∀ hook ∈ registry.filters, ∀ context, (hook.run context).Drifts drift
  sourcer : ∀ sourcer ∈ registry.sourcer, ∀ mode context, (sourcer.run mode context).Drifts drift

/-- A way in which the surroundings may change as one for the state of a walk. -/
def Walk.Course.ofDrift : Walk.Course where
  leads before after := drift.leads before.ambient after.ambient
  refl _ := drift.leads_refl _
  trans := drift.leads_trans
  rebuilt node given _ := drift.leads_rebuilt node given _
  logged log _ := drift.leads_logged log _

namespace Walk

/-- A step that changes the surroundings in such a way only, whatever the outcome. -/
abbrev Drifts (step : Walk α) : Prop := Follows (.ofDrift drift) step

variable {drift}

theorem drifts_consult {answer : α → Answer} {point : Point} {hook : Hook α}
    (drifts : ∀ context, (hook.run context).Drifts drift) :
    Drifts drift (consult answer point hook) :=
  follows_consult fun _ => drifts _ _

/-- What hooks may do to the surroundings, a walk with these hooks may do. -/
def drifting {registry : Registry} (drifts : registry.Drifts drift) : Conduct registry where
  toCourse := .ofDrift drift
  inside before after := drift.leads before.ambient after.ambient
  inside_refl _ := drift.leads_refl _
  leads_inside := drift.leads_trans
  inside_leads := drift.leads_trans
  asked before asks := by
    cases asks with
    | normalizer listed => exact drifts.normalizers _ listed _ _
    | inspector listed => exact drifts.inspectors _ listed _ _
    | expander listed => exact drifts.expanders _ listed _ _
    | filter listed => exact drifts.filters _ listed _ _
    | sourcer mode registered => exact drifts.sourcer _ registered mode _ _
  replaced _ := drift.leads_refl _
  framed _ within := within
  substituted within := within
  rooted _ _ := drift.leads_refl _

/-- What is left after a step that hands the setting back and only gives identities out. -/
structure Onward (before after : Recording) : Prop where
  setting : after.context.setting = before.context.setting
  issued : before.ambient.supply.next ≤ after.ambient.supply.next

theorem Onward.refl (state : Recording) : Onward state state := ⟨rfl, Nat.le_refl _⟩

theorem Onward.trans {first second third : Recording} (early : Onward first second)
    (late : Onward second third) : Onward first third :=
  ⟨late.setting.trans early.setting, Nat.le_trans early.issued late.issued⟩

/-- The setting is handed back, and identities are only given out. -/
def Course.onward : Course where
  leads := Onward
  refl := .refl
  trans := .trans
  rebuilt node given state := ⟨rfl, issuing.leads_rebuilt node given state.ambient⟩
  logged _ _ := ⟨rfl, Nat.le_refl _⟩

theorem ends_onward {step : Walk α} {before : Recording} (follows : Follows .onward step) :
    Ends step (fun _ after => Onward before after) (fun _ _ => True) before :=
  (follows before).mono (fun _ _ onward => onward) fun _ _ _ => trivial

theorem onward_consult {answer : α → Answer} {point : Point} {hook : Hook α}
    (drifts : ∀ context, (hook.run context).Drifts issuing) :
    Follows .onward (consult answer point hook) :=
  follows_consult fun _ => Onward.mk rfl (drifts _ _)

theorem onward_replacement? {registry : Registry} (drifts : registry.Drifts issuing) (node : Expr) :
    Follows .onward (replacement? .normalize node registry.normalizers.reverse) :=
  follows_replacement? (fun hook member =>
    onward_consult (drifts.normalizers hook (List.mem_reverse.mp member))) node

theorem onward_substituting {step : Walk α} (within : Follows .onward step)
    (node replacement : Expr) : Follows .onward (substituting node replacement step) := by
  refine follows_substituting ?_ node replacement within
  intro before after node tree onward
  exact ⟨congrArg Context.endSubstitution onward.setting, onward.issued⟩

/-- A walk goes onward where its hooks only give identities out. -/
def advancing {registry : Registry} (drifts : registry.Drifts issuing) : Conduct registry where
  toCourse := .onward
  inside before after :=
    (returning registry).inside before after ∧ (drifting drifts).inside before after
  inside_refl state := ⟨(returning registry).inside_refl state, (drifting drifts).inside_refl state⟩
  leads_inside early late := ⟨(returning registry).leads_inside early.setting late.1,
    Nat.le_trans early.issued late.2⟩
  inside_leads early late := ⟨(returning registry).inside_leads early.1 late.setting,
    Nat.le_trans early.2 late.issued⟩
  asked before asks := ⟨(returning registry).asked before asks, (drifting drifts).asked before asks⟩
  replaced replaced := ⟨(returning registry).replaced replaced, Nat.le_refl _⟩
  framed pushed within := ⟨(returning registry).framed pushed within.1, within.2⟩
  substituted within := ⟨congrArg Context.endSubstitution within.setting, within.issued⟩
  rooted _ _ := ⟨rfl, Nat.le_refl _⟩

end Walk

variable {drift} in
/-- A walk changes the surroundings in no other way than its hooks do. -/
theorem run_drifts {registry : Registry} (drifts : registry.Drifts drift) (query : Expr)
    (context : Context) (ambient : Ambient) :
    drift.leads ambient (run registry query context ambient).2.ambient :=
  (Walk.drifting drifts).leads_recorded query context ambient

end QueryRewriting.Rewriting
