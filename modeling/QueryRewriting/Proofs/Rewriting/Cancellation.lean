import QueryRewriting.Proofs.Rewriting.Drift

/-! A walk itself never cancels the request: only a hook can, and where no hook of a registry does,
no walk under it does. -/
namespace QueryRewriting.Rewriting

/-- No hook of a registry cancels a request. -/
structure Registry.Quiet (registry : Registry) : Prop where
  normalizers : ∀ hook ∈ registry.normalizers, ∀ context, (hook.run context).Quiet
  inspectors : ∀ hook ∈ registry.inspectors, ∀ context, (hook.run context).Quiet
  expanders : ∀ hook ∈ registry.expanders, ∀ context, (hook.run context).Quiet
  filters : ∀ hook ∈ registry.filters, ∀ context, (hook.run context).Quiet
  sourcer : ∀ sourcer ∈ registry.sourcer, ∀ mode context, (sourcer.run mode context).Quiet

/-- The request stays as cancelled as it is. -/
def calm : Drift where
  leads before after := after.cancelled = before.cancelled
  leads_refl _ := rfl
  leads_trans first second := second.trans first
  leads_rebuilt _ _ _ := rfl
  leads_logged _ _ := rfl

theorem Registry.Quiet.drifts {registry : Registry} (quiet : registry.Quiet) :
    registry.Drifts calm where
  normalizers := quiet.normalizers
  inspectors := quiet.inspectors
  expanders := quiet.expanders
  filters := quiet.filters
  sourcer := quiet.sourcer

/-- Under quiet hooks a walk leaves the request as cancelled as it was. -/
theorem run_quiet {registry : Registry} (quiet : registry.Quiet) (query : Expr) (context : Context)
    (ambient : Ambient) :
    (run registry query context ambient).2.ambient.cancelled = ambient.cancelled :=
  run_drifts quiet.drifts query context ambient

end QueryRewriting.Rewriting
