import QueryRewriting.Proofs.Expr.Erasure
import QueryRewriting.Proofs.Rewriting.Account

/-! What is sourced in the course of a step, in order. Steps that follow each other source what the
one sources and then what the other does. -/
namespace QueryRewriting.Rewriting

/-- The nodes that sourcers have been asked about, the first one first. -/
def Context.asked (context : Context) : List (Option Expr) :=
  (context.sourcings.map (·.frame.node)).reverse

namespace Context

variable {context entered : Context}

theorem sourcingCalls_eq (context : Context) :
    context.sourcingCalls = context.sourcings.length := List.countP_eq_length_filter

theorem length_asked (context : Context) : context.asked.length = context.sourcingCalls := by
  rw [sourcingCalls_eq, asked, List.length_reverse, List.length_map]

theorem asked_consulting {point : Point} (ordinary : ∀ mode, point ≠ .source mode)
    (hook : String) : (context.consulting point hook).asked = context.asked := by
  cases point with
  | source mode => exact (ordinary mode rfl).elim
  | normalize | inspect | expand | filter => rfl

theorem asked_sourcing (mode : SourceMode) (hook : String) :
    (context.consulting (.source mode) hook).asked = context.asked ++ [context.node?] := by
  unfold asked sourcings consulting
  rw [List.filter_cons_of_pos rfl, List.map_cons, List.reverse_cons]
  rfl

end Context

namespace Walk

variable {α β : Type} {before : Recording}

/-- Sourcers are asked about some nodes in turn. A step that fails may have asked about any. -/
def yielding : Account (List Expr) where
  done sourced before after := after.context.asked = before.context.asked ++ sourced.map some
  failed _ _ _ _ := True
  idle := []
  join first rest := first ++ rest
  idle_join _ := rfl
  join_idle := List.append_nil
  done_idle _ _ := (List.append_nil _).symm
  done_join early late := by rw [late, early, List.append_assoc, List.map_append]
  failed_first _ := trivial
  failed_rest _ _ _ := trivial

theorem yielding_unstacked : yielding.Unstacked :=
  ⟨fun _ _ _ => .rfl, fun _ _ _ _ => .rfl⟩

/-- If the step succeeds, it hands the setting back, sourcers have been asked about some nodes in
turn, and its value is as it is asked for. -/
abbrev Yields (step : Walk α) (sourced : List Expr) (good : α → Prop) (before : Recording) : Prop :=
  yielding.Charges sourced step good before

variable {step : Walk α} {sourced : List Expr} {good : α → Prop}

/-- What a hook other than the sourcer answers, it answers about the context as it is. -/
theorem yields_consult {answer : α → Answer} {point : Point}
    (ordinary : ∀ mode, point ≠ .source mode) (hook : Hook α) :
    Yields (consult answer point hook) []
      (fun value => ∃ after, (hook.run (before.context.consulting point hook.name)).run.run
        before.ambient = (.ok value, after)) before := by
  apply (ends_consult _ _ _).mpr
  split
  · next value ambient ran =>
    refine ⟨rfl, ?_, ambient, ran⟩
    exact (Context.asked_consulting ordinary hook.name).trans (List.append_nil _).symm
  · trivial

theorem yields_nested {node : Option Expr}
    (inside : ∀ entered, before.context.push node = .ok entered →
      Yields step sourced good { before with context := entered }) :
    Yields (nested node step) sourced good before :=
  Account.charges_nested yielding_unstacked (fun _ _ => trivial) inside

theorem yields_mapM {visit : Expr → Walk Expr} {references : Expr → List Expr}
    {good : Expr → Expr → Prop} {nodes : List Expr}
    (each : ∀ node ∈ nodes, ∀ state, state.context.setting = before.context.setting →
      Yields (visit node) (references node) (good node) state) :
    Yields (nodes.mapM visit) (nodes.flatMap references) (List.Forall₂ good nodes) before :=
  Account.charges_mapM List.flatMap_nil (fun _ _ => List.flatMap_cons) each

/-- Without other hooks than filters and a sourcer a node in its frame is visited below, filtered and
sourced. -/
theorem ends_unhooked {registry : Registry} (normalizers : registry.normalizers = [])
    (inspectors : registry.inspectors = []) (expanders : registry.expanders = [])
    {visit revisit : Expr → Walk Expr} {node : Expr} {binding : Binding} {outer : List Frame}
    {done : Expr → Recording → Prop} {failed : Error → Recording → Prop}
    (frames : before.context.frames = ⟨some node, binding⟩ :: outer) :
    Ends (inFrame registry visit revisit node) done failed before ↔
      Ends (descended visit node binding.isReference >>= fun rewritten =>
        filtered revisit node registry.filters rewritten >>= source registry) done failed
        before := by
  have here : before.context.binding = binding := Context.binding_of_frames frames
  have under : before.context.node? = some node := Context.node?_of_frames frames
  have passed : Walk.inspect node registry.inspectors.reverse = pure () := by
    rw [inspectors]
    rfl
  rw [inFrame, normalize_of_none normalizers, pure_bind]
  unfold normalized
  rw [ends_bind, ends_context, ends_bind, ends_context, here, under]
  simp only [Option.getD_some, passed, pure_bind, expansion_of_none expanders, expandedOr]

end Walk

end QueryRewriting.Rewriting
