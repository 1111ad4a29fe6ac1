import QueryRewriting.Proofs.Rewriting.Sourcing

/-! The frames and the sourcings that a step of a walk needs. A step that is given up for its depth
needs more frames than there is room for, and one that succeeds does not. Steps that follow each
other need room one by one, and source what the one sources and then what the other does. -/
namespace QueryRewriting.Rewriting

/-- Whether a walk is given up for its depth. -/
def Error.isDepthExceeded : Error → Bool
  | .depthExceeded _ => true
  | _ => false

namespace Context

variable {context : Context}

theorem bindIn_error {frames : List Frame} {node : Expr} {error : Error}
    (unbound : context.bindIn frames node = .error error) : error.isDepthExceeded = false := by
  unfold bindIn at unbound
  split at unbound
  · contradiction
  · cases unbound
    rfl

/-- Where there is room, a frame is refused for other reasons than depth. -/
theorem push_error_of_lt {node : Option Expr} {error : Error}
    (shallow : context.depth < context.maxDepth) (refused : context.push node = .error error) :
    error.isDepthExceeded = false := by
  unfold push at refused
  rw [if_neg (Nat.not_le_of_lt shallow)] at refused
  cases node with
  | none => contradiction
  | some node =>
    cases bound : context.bindIn context.frames node with
    | error unbound =>
      simp only [bound, bind, Except.bind, Except.error.injEq] at refused
      rw [← refused]
      exact bindIn_error bound
    | ok binding => simp [bound, bind, Except.bind, pure, Except.pure] at refused

end Context

namespace Walk

variable {α β : Type} {before : Recording}

/-- Sourcers are asked about some nodes in turn, and something fits. A step that is given up for its
depth does not fit. -/
def spending : Account (List Expr × Prop) where
  done entry before after := yielding.done entry.1 before after ∧ entry.2
  failed entry error _ _ := error.isDepthExceeded = true → ¬entry.2
  idle := ([], True)
  join first rest := (first.1 ++ rest.1, first.2 ∧ rest.2)
  idle_join _ := Prod.ext rfl (propext (and_iff_right trivial))
  join_idle _ := Prod.ext (List.append_nil _) (propext (and_iff_left trivial))
  done_idle state ambient := ⟨yielding.done_idle state ambient, trivial⟩
  done_join early late := ⟨yielding.done_join early.1 late.1, early.2, late.2⟩
  failed_first unfit deep fits := unfit deep fits.1
  failed_rest _ _ unfit deep fits := unfit deep fits.2

theorem spending_unstacked : spending.Unstacked :=
  ⟨fun _ _ _ => .rfl, fun _ _ _ _ => .rfl⟩

/-- If the step succeeds, something fits, the setting is handed back, sourcers have been asked about
some nodes in turn, and the value is as it is asked for. If it is given up for its depth, it does not
fit. -/
abbrev Spends (step : Walk α) (sourced : List Expr) (fits : Prop) (good : α → Prop)
    (before : Recording) : Prop :=
  spending.Charges (sourced, fits) step good before

variable {step : Walk α} {sourced : List Expr} {fits fits' : Prop} {good : α → Prop}

theorem Spends.congr (spends : Spends step sourced fits good before) (same : fits ↔ fits') :
    Spends step sourced fits' good before := propext same ▸ spends

theorem Spends.bind {next : α → Walk β} {others : List Expr} {good' : β → Prop}
    (first : Spends step sourced fits good before)
    (rest : ∀ value middle, middle.context.setting = before.context.setting → good value →
      Spends (next value) others fits' good' middle) :
    Spends (step >>= next) (sourced ++ others) (fits ∧ fits') good' before :=
  Account.Charges.bind first rest

theorem spends_tooDeep {good : Expr → Prop} (unfit : ¬fits) :
    Spends tooDeep sourced fits good before := fun _ => unfit

theorem spends_checkType (hook : String) (replaced replacement : Expr) :
    Spends (checkType hook replaced replacement) [] True
      (fun _ => replaced.type.accepts replacement.type = true) before :=
  Account.charges_checkType nofun

/-- A hook other than the sourcer that does not blame the depth. -/
theorem spends_consult {answer : α → Answer} {point : Point}
    (ordinary : ∀ mode, point ≠ .source mode) {hook : Hook α} {outcome : Except Error α}
    {after : Ambient}
    (run : (hook.run (before.context.consulting point hook.name)).run.run before.ambient =
      (outcome, after))
    (frank : ∀ error, outcome = .error error → error.isDepthExceeded = false) :
    Spends (consult answer point hook) [] True (fun value => outcome = .ok value) before := by
  apply (ends_consult_of_run run).mpr
  cases outcome with
  | error error =>
    intro deep
    rw [frank error rfl] at deep
    contradiction
  | ok value =>
    refine ⟨rfl, ⟨?_, trivial⟩, rfl⟩
    exact (Context.asked_consulting ordinary hook.name).trans (List.append_nil _).symm

theorem spends_nested {node : Option Expr}
    (shallow : before.context.depth < before.context.maxDepth)
    (inside : ∀ entered, before.context.push node = .ok entered →
      Spends step sourced fits good { before with context := entered }) :
    Spends (nested node step) sourced fits good before := by
  refine Account.charges_nested spending_unstacked (fun error refused deep => ?_) inside
  rw [Context.push_error_of_lt shallow refused] at deep
  contradiction

theorem spends_mapM {visit : Expr → Walk Expr} {references : Expr → List Expr}
    {fits : Expr → Prop} {good : Expr → Expr → Prop} {nodes : List Expr}
    (each : ∀ node ∈ nodes, ∀ state, state.context.setting = before.context.setting →
      Spends (visit node) (references node) (fits node) (good node) state) :
    Spends (nodes.mapM visit) (nodes.flatMap references) (∀ node ∈ nodes, fits node)
      (List.Forall₂ good nodes) before := by
  let all (nodes : List Expr) := (nodes.flatMap references, ∀ node ∈ nodes, fits node)
  have none : all [] = spending.idle :=
    Prod.ext rfl (propext (iff_of_true (List.forall_mem_nil _) trivial))
  have some (node : Expr) (rest : List Expr) :
      all (node :: rest) = spending.join (references node, fits node) (all rest) :=
    Prod.ext List.flatMap_cons (propext List.forall_mem_cons)
  exact Account.charges_mapM none some each

/-- Children without references make a node without references. -/
theorem spends_children {visit : Expr → Walk Expr} {node : Expr} (plain : node.isSource = false)
    (visits : Spends (node.children.mapM visit) sourced fits
      (List.Forall₂ (fun _ tree => tree.hasDataReference = false) node.children) before) :
    Spends (children visit node) sourced fits (fun tree => tree.hasDataReference = false)
      before := by
  refine (Account.charges_children visits).mono ?_
  rintro tree ⟨given, made, supply, rfl⟩
  exact Expr.hasDataReference_withChildren _ plain made

end Walk

end QueryRewriting.Rewriting
