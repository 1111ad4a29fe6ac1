import QueryRewriting.Proofs.Rewriting.Drift
import QueryRewriting.Proofs.Rewriting.Sourcing

/-! How often sourcers are asked in the course of a step, where this depends on what comes of it.
Calls of steps that follow each other add up. -/
namespace QueryRewriting.Rewriting

theorem Context.sourcingCalls_consulting {context : Context} {point : Point}
    (ordinary : ∀ mode, point ≠ .source mode) (hook : String) :
    (context.consulting point hook).sourcingCalls = context.sourcingCalls := by
  rw [← length_asked, asked_consulting ordinary, length_asked]

theorem Context.sourcingCalls_of_journal {context other : Context}
    (same : other.journal = context.journal) : other.sourcingCalls = context.sourcingCalls := by
  unfold sourcingCalls
  rw [same]

namespace Walk

variable {α β : Type} {before : Recording}

/-- If the step succeeds, it hands the setting back, takes no identity back, and asks sourcers as
often as is asked for with its value. -/
def Costs (step : Walk α) (good : α → Nat → Prop) (before : Recording) : Prop :=
  Ends step
    (fun value after => Onward before after ∧ ∃ calls,
      after.context.sourcingCalls = before.context.sourcingCalls + calls ∧ good value calls)
    (fun _ _ => True) before

variable {step : Walk α} {good : α → Nat → Prop}

theorem Costs.mono {good' : α → Nat → Prop} (costs : Costs step good before)
    (weaker : ∀ value calls, good value calls → good' value calls) : Costs step good' before := by
  apply Ends.weaken costs
  rintro value after ⟨onward, calls, counted, left⟩
  exact ⟨onward, calls, counted, weaker value calls left⟩

theorem Costs.bind {next : α → Walk β} {good' : β → Nat → Prop} (first : Costs step good before)
    (rest : ∀ value calls middle, Onward before middle → good value calls →
      Costs (next value) (fun result more => good' result (calls + more)) middle) :
    Costs (step >>= next) good' before := by
  unfold Costs at *
  rw [ends_bind]
  apply Ends.weaken first
  rintro value middle ⟨early, calls, counted, left⟩
  apply Ends.weaken (rest value calls middle early left)
  rintro result after ⟨late, more, added, right⟩
  refine ⟨early.trans late, calls + more, ?_, right⟩
  rw [added, counted, Nat.add_assoc]

/-- A step that asks no sourcer, followed by one that may. -/
theorem Costs.bind_free {next : α → Walk β} {good' : β → Nat → Prop} {passes : α → Prop}
    (first : Costs step (fun value calls => calls = 0 ∧ passes value) before)
    (rest : ∀ value middle, Onward before middle → passes value →
      Costs (next value) good' middle) : Costs (step >>= next) good' before := by
  apply first.bind
  rintro value calls middle onward ⟨rfl, passes⟩
  exact (rest value middle onward passes).mono fun result more left => by rwa [Nat.zero_add]

theorem costs_pure {value : α} (left : good value 0) : Costs (pure value) good before :=
  ⟨.refl _, 0, rfl, left⟩

/-- What is sourced in a step is what it costs. -/
theorem Yields.costs {sourced : List Expr} {passes : α → Prop}
    (yields : Yields step sourced passes before) (drifts : Drifts issuing step) :
    Costs step (fun value calls => calls = sourced.length ∧ passes value) before := by
  refine (Ends.and yields (drifts before)).mono ?_ fun _ _ _ => trivial
  rintro value after ⟨⟨same, asked, left⟩, issued⟩
  refine ⟨⟨same, issued⟩, sourced.length, ?_, rfl, left⟩
  rw [← Context.length_asked, asked, List.length_append, List.length_map, Context.length_asked]

theorem costs_inspect {inspectors : List (Hook Bool)} (node : Expr)
    (drifts : ∀ hook ∈ inspectors, ∀ context, (hook.run context).Drifts issuing) :
    Costs (inspect node inspectors) (fun _ calls => calls = 0 ∧ True) before := by
  have keeps : Keeps (fun context => (context.setting, context.sourcingCalls))
      (inspect node inspectors) :=
    follows_inspect (fun hook _ => keeps_consult (fun _ _ => rfl) hook) node
  have issues : Drifts issuing (inspect node inspectors) :=
    follows_inspect (fun hook listed => drifts_consult (drifts hook listed)) node
  refine ((keeps before).and (issues before)).mono ?_ fun _ _ _ => trivial
  rintro value after ⟨same, issued⟩
  obtain ⟨setting, counted⟩ := Prod.mk.inj same
  exact ⟨⟨setting, issued⟩, 0, counted, rfl, trivial⟩

theorem costs_checkType (hook : String) (replaced replacement : Expr) :
    Costs (checkType hook replaced replacement) (fun _ calls => calls = 0 ∧ True) before :=
  (Yields.costs (Account.charges_checkType trivial) (follows_checkType _ _ _)).mono
    fun _ _ both => ⟨both.1, trivial⟩

/-- A hook other than the sourcer is asked, and the walk goes on from its answer. -/
theorem costs_consult {answer : α → Answer} {point : Point}
    (ordinary : ∀ mode, point ≠ .source mode) (hook : Hook α)
    {next : α → Walk β} {good : β → Nat → Prop}
    (answers : ∀ value ambient,
      (hook.run (before.context.consulting point hook.name)).run.run before.ambient =
        (.ok value, ambient) →
      before.ambient.supply.next ≤ ambient.supply.next ∧
        Costs (next value) good (before.inquired point hook.name (answer value) ambient)) :
    Costs (consult answer point hook >>= next) good before := by
  unfold Costs
  rw [ends_bind, ends_consult]
  split
  · next value ambient ran =>
    obtain ⟨issued, rest⟩ := answers value ambient ran
    apply Ends.weaken rest
    rintro result after ⟨onward, calls, counted, left⟩
    have asked : Onward before (before.inquired point hook.name (answer value) ambient) :=
      ⟨Context.setting_consulting point hook.name, issued⟩
    refine ⟨asked.trans onward, calls, ?_, left⟩
    rw [counted, Recording.inquired, Context.sourcingCalls_consulting ordinary]
  · trivial

theorem costs_nested {node : Option Expr}
    (inside : ∀ entered, before.context.push node = .ok entered →
      Costs step good { before with context := entered }) : Costs (nested node step) good before := by
  unfold Costs
  rw [ends_nested]
  split
  · next entered pushed =>
    apply Ends.weaken (inside entered pushed)
    rintro value after ⟨onward, calls, counted, left⟩
    have around : after.context.pop.setting = before.context.setting := by
      rw [Context.setting_pop, Context.surroundings_eq onward.setting,
        Context.surroundings_push pushed]
    have unasked : entered.journal = before.context.journal := by
      rw [Context.push_frames pushed]
    refine ⟨⟨around, onward.issued⟩, calls, ?_, left⟩
    rw [Context.sourcingCalls_of_journal (Context.journal_pop _), counted,
      Context.sourcingCalls_of_journal unasked]
  · trivial

theorem costs_substituting {node replacement : Expr}
    (inside : Costs step good
      { before with context := before.context.substitute node replacement }) :
    Costs (substituting node replacement step) good before := by
  unfold Costs
  rw [ends_substituting]
  apply Ends.weaken inside
  rintro value after ⟨onward, calls, counted, left⟩
  exact ⟨⟨congrArg Context.endSubstitution onward.setting, onward.issued⟩, calls, counted, left⟩

/-- Visits of several nodes cost what each of them costs. -/
theorem costs_mapM {visit : Expr → Walk Expr} {each : Expr → Expr → Nat → Prop}
    {all : List Expr → List Expr → Nat → Prop} (none : all [] [] 0)
    (more : ∀ {node tree nodes trees calls others}, each node tree calls → all nodes trees others →
      all (node :: nodes) (tree :: trees) (calls + others)) {nodes : List Expr}
    (visits : ∀ node ∈ nodes, ∀ state, Onward before state →
      Costs (visit node) (each node) state) :
    Costs (nodes.mapM visit) (all nodes) before := by
  induction nodes generalizing before with
  | nil => exact costs_pure none
  | cons node rest ih =>
    rw [List.mapM_cons]
    apply (visits node List.mem_cons_self before (.refl _)).bind
    intro tree calls middle onward first
    have others := ih fun other member state later =>
      visits other (List.mem_cons_of_mem _ member) state (onward.trans later)
    apply others.bind
    intro trees othersCalls _ _ left
    exact costs_pure (more first left)

/-- A node is put together again from what becomes of its children. -/
theorem costs_children {visit : Expr → Walk Expr} {node : Expr} {made : List Expr → Nat → Prop}
    (visits : Costs (node.children.mapM visit) made before) :
    Costs (children visit node)
      (fun tree calls => ∃ given, made given calls ∧
        ∃ supply, tree = ((node.withChildren given).run supply).1) before := by
  apply visits.bind
  intro given calls middle _ left
  refine (Yields.costs (Account.charges_build _) (follows_acting fun state => ?_)).mono ?_
  · exact issuing.leads_rebuilt node given state.ambient
  · rintro tree more ⟨rfl, rfl⟩
    exact ⟨given, left, middle.ambient.supply, rfl⟩

end Walk

end QueryRewriting.Rewriting
