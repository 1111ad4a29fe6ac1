import Mathlib.Data.List.Forall2
import QueryRewriting.Proofs.Request.Ambient
import QueryRewriting.Rewriting.Walk

/-! What a step of a walk ends in. The rules follow the definitions of the steps; a proof about the
walk unfolds a stage once and goes on with them. -/
namespace QueryRewriting.Rewriting

/-- The state after a hook was asked in its frame and the surroundings have become others. -/
def Recording.inquired (before : Recording) (point : Point) (hook : String) (answer : Answer)
    (ambient : Ambient) : Recording :=
  let context := before.context.consulting point hook
  { context, ambient, inquiries := ⟨point, hook, context, answer⟩ :: before.inquiries }

/-- What a walk comes to is what it comes to with its record. -/
theorem recorded_of_run {registry : Registry} {query : Expr} {context : Context}
    {ambient : Ambient} {answer : Except Error Expr} {after : Walk.State}
    (ran : run registry query context ambient = (answer, after)) :
    ∃ inquiries, recorded registry query context ambient = (answer, { after with inquiries }) := by
  cases ran
  exact ⟨_, rfl⟩

namespace Walk

variable {α β : Type} {done : α → Recording → Prop} {failed : Error → Recording → Prop}
  {before : Recording}

@[simp] theorem ends_context {done : Context → Recording → Prop} :
    Ends context done failed before ↔ done before.context before := .rfl

@[simp] theorem ends_changing (change : Context → Context) {done : Unit → Recording → Prop} :
    Ends (changing change) done failed before ↔
      done () { before with context := change before.context } := .rfl

theorem ends_trying (change : Context → Except Error Context) {done : Unit → Recording → Prop} :
    Ends (trying change) done failed before ↔
      match change before.context with
      | .ok context => done () { before with context }
      | .error error => failed error before := by
  unfold trying
  simp only [ends_bind, ends_context]
  cases change before.context <;> rfl

theorem ends_acting (act : Act Error α) :
    Ends (acting act) done failed before ↔
      Ends act (fun value ambient => done value { before with ambient })
        (fun error ambient => failed error { before with ambient }) before.ambient :=
  Act.ends_within _ _ act

theorem ends_event (event : Telemetry.Event) (fields : Telemetry.LogFields)
    {done : Unit → Recording → Prop} :
    Ends (acting (Act.event event fields)) done failed before ↔
      done () { before with ambient.log := before.ambient.log.event event fields } := ends_acting _

theorem ends_build (fresh : Fresh α) :
    Ends (acting (Act.build fresh)) done failed before ↔
      done (fresh.run before.ambient.supply).1 { before with
        ambient := { before.ambient with supply := (fresh.run before.ambient.supply).2 } } := by
  rw [ends_acting]
  rfl

theorem ends_andThen (step : Walk α) (change : Context → Context) :
    Ends (andThen step change) done failed before ↔
      Ends step (fun value after => done value { after with context := change after.context })
        (fun error after => failed error { after with context := change after.context })
        before := by
  unfold Ends andThen
  rcases run : step.run.run before with ⟨_ | _, after⟩ <;>
    simp [StateT.run_bind, run] <;> rfl

theorem ends_nested (node : Option Expr) (step : Walk α) :
    Ends (nested node step) done failed before ↔
      match before.context.push node with
      | .ok context =>
        Ends step (fun value after => done value { after with context := after.context.pop })
          (fun error after => failed error { after with context := after.context.pop })
          { before with context }
      | .error error => failed error before := by
  simp only [nested, ends_bind, ends_trying]
  cases before.context.push node with
  | ok context => simp only [ends_andThen]
  | error error => rfl

theorem ends_substituting (node replacement : Expr) (step : Walk α) :
    Ends (substituting node replacement step) done failed before ↔
      Ends step
        (fun value after => done value { after with context := after.context.endSubstitution })
        (fun error after => failed error { after with context := after.context.endSubstitution })
        { before with context := before.context.substitute node replacement } := by
  simp only [substituting, ends_bind, ends_changing, ends_andThen]

theorem ends_recording (answer : α → Answer) (point : Point) (hook : String) (step : Walk α) :
    Ends (recording answer point hook step) done failed before ↔
      Ends step
        (fun value after => done value { after with
          inquiries := ⟨point, hook, after.context, answer value⟩ :: after.inquiries })
        (fun error after => failed error { after with
          inquiries := ⟨point, hook, after.context, .failure error⟩ :: after.inquiries })
        before := by
  unfold Ends recording
  rcases run : step.run.run before with ⟨_ | _, after⟩ <;>
    simp [StateT.run_bind, run] <;> rfl

/-- A hook is asked in the surroundings as they are, and nothing but these, the journal and the
record is changed by it. -/
theorem ends_consult (answer : α → Answer) (point : Point) (hook : Hook α) :
    Ends (consult answer point hook) done failed before ↔
      match (hook.run (before.context.consulting point hook.name)).run.run before.ambient with
      | (.ok value, ambient) =>
        done value (before.inquired point hook.name (answer value) ambient)
      | (.error error, ambient) =>
        failed error (before.inquired point hook.name (.failure error) ambient) := by
  simp only [consult, ends_bind, ends_changing, ends_context, ends_recording, ends_acting]
  unfold Ends
  rcases (hook.run (before.context.consulting point hook.name)).run.run before.ambient with
    ⟨_ | _, ambient⟩ <;> rfl

/-- Consulting a hook whose answer is known. -/
theorem ends_consult_of_run {answer : α → Answer} {point : Point} {hook : Hook α}
    {outcome : Except Error α} {ambient : Ambient} :
    (hook.run (before.context.consulting point hook.name)).run.run before.ambient =
      (outcome, ambient) →
    (Ends (consult answer point hook) done failed before ↔
      match outcome with
      | .ok value => done value (before.inquired point hook.name (answer value) ambient)
      | .error error =>
        failed error (before.inquired point hook.name (.failure error) ambient)) := by
  intro run
  rw [ends_consult, run]
  cases outcome <;> rfl

theorem ends_checkType (hook : String) (replaced replacement : Expr)
    {done : Unit → Recording → Prop} :
    Ends (checkType hook replaced replacement) done failed before ↔
      if replaced.type.accepts replacement.type then done () before
      else failed (.typeMismatch hook replaced.type replacement.type) before := by
  unfold checkType
  split <;> simp

/-- A node that nothing stands for is visited in a frame of its own. -/
theorem ends_visit {registry : Registry} {room : Nat} {node : Expr} {done : Expr → Recording → Prop}
    (free : before.context.substitution? node = none) :
    Ends (visit registry (room + 1) node) done failed before ↔
      Ends (nested (some node)
        (inFrame registry (visit registry room) (revisit registry room) node)) done failed
        before := by
  unfold visit
  rw [ends_bind, ends_context, free]

/-- What stands for a node is only sourced. -/
theorem ends_visit_substituted {registry : Registry} {room : Nat} {node substitute : Expr}
    {done : Expr → Recording → Prop}
    (found : before.context.substitution? node = some substitute) :
    Ends (visit registry (room + 1) node) done failed before ↔
      Ends (nested (some substitute) (source registry substitute)) done failed before := by
  unfold visit
  rw [ends_bind, ends_context, found]

/-- What is no reference, or no longer the node of the frame, is not sourced. -/
theorem ends_source_settled {registry : Registry} {current : Expr} {done : Expr → Recording → Prop}
    (other : before.context.binding.reference? = none ∨ before.context.node? ≠ some current) :
    Ends (source registry current) done failed before ↔ done current before := by
  unfold source
  rw [ends_bind, ends_context]
  cases refers : before.context.binding.reference? with
  | none => rfl
  | some target =>
    rw [refers] at other
    dsimp only
    rw [if_neg (other.resolve_left (Option.some_ne_none target)), ends_pure]

theorem ends_whole (registry : Registry) (query : Expr) {done : Expr → Recording → Prop} :
    Ends (whole registry query) done failed before ↔
      Ends (revisit registry (before.context.maxDepth - before.context.depth) query) done failed
        before := by
  unfold whole
  rw [ends_bind, ends_context]

/-- A root is a query of its own whose tree is acceptable; nothing else is taken for one. -/
theorem takeRoot_ends (sourcer reference : String) (node sourced : Expr) :
    Ends (takeRoot sourcer reference node sourced)
      (fun tree after => ∃ stamp proxy element ambient,
        sourced = .queryable stamp proxy element tree ∧ node.type.accepts tree.type = true ∧
        after = { before with context.root := some ⟨proxy, element, tree⟩, ambient })
      (fun _ after => after = before ∧ ∀ stamp proxy element tree,
        sourced = .queryable stamp proxy element tree → node.type.accepts tree.type = false)
      before := by
  unfold takeRoot
  split
  · next stamp proxy element expression =>
    rw [ends_bind, ends_checkType]
    split
    · next accepted =>
      simp only [ends_bind, ends_event, ends_changing, ends_pure]
      exact ⟨stamp, proxy, element, _, rfl, accepted, rfl⟩
    · next refused =>
      refine ⟨rfl, fun _ _ _ tree same => ?_⟩
      cases same
      simpa using refused
  · next other =>
    exact ⟨rfl, fun stamp proxy element tree same => (other stamp proxy element tree same).elim⟩

/-- A fragment is taken as it is if it is acceptable and belongs to the root. -/
theorem takeFragment_ends (sourcer reference : String) (node sourced : Expr) (root : Root) :
    Ends (takeFragment sourcer reference node sourced root)
      (fun tree after => tree = sourced ∧ node.type.accepts tree.type = true ∧
        sourced.isQueryable = false ∧ sourced.hasNode (checkEmbedded.foreign root.proxy) = false ∧
        ∃ ambient, after = { before with ambient })
      (fun error after => after = before ∧
        (sourced.isQueryable = true ∧ error = .badSource (.standaloneQueryable reference) ∨
          sourced.isQueryable = false ∧
            (sourced.hasNode (checkEmbedded.foreign root.proxy) = true ∨
              node.type.accepts sourced.type = false))) before := by
  unfold takeFragment checkEmbedded
  rw [ends_bind]
  split
  · next query => exact ⟨rfl, .inl ⟨query, rfl⟩⟩
  · next fragment =>
    have fragment : sourced.isQueryable = false := by simpa using fragment
    split
    · next foreign => exact ⟨rfl, .inr ⟨fragment, .inl foreign⟩⟩
    · next native =>
      rw [ends_pure, ends_bind, ends_checkType]
      split
      · next accepted =>
        rw [ends_bind, ends_event]
        exact ⟨rfl, accepted, fragment, by simpa using native, _, rfl⟩
      · next refused => exact ⟨rfl, .inr ⟨fragment, .inr (by simpa using refused)⟩⟩

end Walk

end QueryRewriting.Rewriting
