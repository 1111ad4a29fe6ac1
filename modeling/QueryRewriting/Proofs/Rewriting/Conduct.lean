import QueryRewriting.Proofs.Rewriting.Outcome

/-! What a walk may do to its state. A course says how a state may have changed after a step,
whatever the step ends in, and a conduct is a course that a walk with the hooks of a registry
follows: its laws are about one change each, and that every walk follows it is proved once, along
the recursion of the visits. The state includes the record, so a course may say what the hooks have
been asked. -/
namespace QueryRewriting.Rewriting

/-- A hook is one that a registry asks at a point, and answers are recorded in such a way. -/
inductive Registry.Asks (registry : Registry) :
    {α : Type} → (α → Answer) → Point → Hook α → Prop
  | normalizer {hook : TreeHook} : hook ∈ registry.normalizers →
    Asks registry .offer .normalize hook
  | inspector {hook : Hook Bool} : hook ∈ registry.inspectors →
    Asks registry .verdict .inspect hook
  | expander {hook : TreeHook} : hook ∈ registry.expanders → Asks registry .offer .expand hook
  | filter {hook : TreeHook} : hook ∈ registry.filters → Asks registry .offer .filter hook
  | sourcer {sourcer : Sourcer} (mode : SourceMode) : registry.sourcer = some sourcer →
    Asks registry .offer (.source mode) (sourcer.hook mode)

namespace Walk

variable {α β γ : Type}

/-- How the state of a walk may change, step by step. Building nodes and logging are always among
the steps. -/
structure Course where
  leads : Recording → Recording → Prop
  refl (state : Recording) : leads state state
  trans {first second third : Recording} :
    leads first second → leads second third → leads first third
  rebuilt (node : Expr) (given : List Expr) (state : Recording) :
    leads state { state with ambient.supply :=
      ((node.withChildren given).run state.ambient.supply).2 }
  logged (log : Telemetry.Log) (state : Recording) :
    leads state { state with ambient.log := log }

/-- The step leads from every state to a related one, whether it succeeds or fails. -/
def Leads (leads : Recording → Recording → Prop) (step : Walk α) : Prop :=
  ∀ before, Ends step (fun _ after => leads before after) (fun _ after => leads before after)
    before

/-- The step changes the state as a course allows. -/
abbrev Follows (course : Course) (step : Walk α) : Prop := Leads course.leads step

/-- A view of the context stays the same. -/
def Course.keeping (view : Context → γ) : Course where
  leads before after := view after.context = view before.context
  refl _ := rfl
  trans early late := late.trans early
  rebuilt _ _ _ := rfl
  logged _ _ := rfl

/-- A step after which a view of the context is what it was, whatever the outcome. -/
abbrev Keeps (view : Context → γ) (step : Walk α) : Prop := Follows (.keeping view) step

section Rules

variable {course : Course}

theorem Follows.bind {step : Walk α} {next : α → Walk β} (first : Follows course step)
    (rest : ∀ value, Follows course (next value)) : Follows course (step >>= next) := by
  intro before
  rw [ends_bind]
  refine (first before).mono (fun value middle early => ?_) (fun _ _ early => early)
  exact (rest value middle).mono (fun _ _ late => course.trans early late)
    (fun _ _ late => course.trans early late)

theorem follows_pure (value : α) : Follows course (pure value) := by
  intro before
  exact course.refl before

theorem follows_throw (error : Error) : Follows course (throw error : Walk α) := by
  intro before
  exact course.refl before

theorem follows_context : Follows course context := by
  intro before
  exact course.refl before

theorem leads_trying {leads : Recording → Recording → Prop} (refl : ∀ state, leads state state)
    {change : Context → Except Error Context}
    (changes : ∀ before context, change before.context = .ok context →
      leads before { before with context }) : Leads leads (trying change) := by
  intro before
  rw [ends_trying]
  split
  · next context changed => exact changes before context changed
  · exact refl before

theorem follows_trying {change : Context → Except Error Context}
    (changes : ∀ before context, change before.context = .ok context →
      course.leads before { before with context }) : Follows course (trying change) :=
  leads_trying course.refl changes

theorem follows_acting {act : Act Error α}
    (acts : ∀ before : Recording,
      course.leads before { before with ambient := (act.run.run before.ambient).2 }) :
    Follows course (acting act) := by
  intro before
  rw [ends_acting]
  exact ends_always_iff.mpr (acts before)

theorem follows_event (event : Telemetry.Event) (fields : Telemetry.LogFields) :
    Follows course (acting (Act.event event fields)) := by
  apply follows_acting
  intro before
  exact course.logged _ before

theorem follows_nested {inside : Recording → Recording → Prop}
    (framed : ∀ {before after : Recording} {node : Option Expr} {entered : Context},
      before.context.push node = .ok entered → inside { before with context := entered } after →
      course.leads before { after with context := after.context.pop })
    (node : Option Expr) {step : Walk α} (within : Leads inside step) :
    Follows course (nested node step) := by
  intro before
  rw [ends_nested]
  split
  · next entered pushed =>
    exact (within { before with context := entered }).mono (fun _ _ => framed pushed)
      (fun _ _ => framed pushed)
  · exact course.refl before

theorem follows_substituting
    (substituted : ∀ {before after : Recording} {node tree : Expr},
      course.leads { before with context := before.context.substitute node tree } after →
      course.leads before { after with context := after.context.endSubstitution })
    (node replacement : Expr) {step : Walk α} (within : Follows course step) :
    Follows course (substituting node replacement step) := by
  intro before
  rw [ends_substituting]
  exact (within _).mono (fun _ _ => substituted) (fun _ _ => substituted)

theorem follows_checkType (hook : String) (replaced replacement : Expr) :
    Follows course (checkType hook replaced replacement) := by
  unfold checkType
  split
  · exact follows_pure _
  · exact follows_throw _

theorem follows_mapM {visit : Expr → Walk Expr} (each : ∀ node, Follows course (visit node))
    (nodes : List Expr) : Follows course (nodes.mapM visit) := by
  induction nodes with
  | nil => exact follows_pure _
  | cons node rest ih =>
    rw [List.mapM_cons]
    exact (each node).bind fun _ => ih.bind fun _ => follows_pure _

theorem follows_children {visit : Expr → Walk Expr} (each : ∀ node, Follows course (visit node))
    (node : Expr) : Follows course (children visit node) := by
  refine (follows_mapM each _).bind fun given => follows_acting fun before => ?_
  exact course.rebuilt node given before

theorem follows_descended {visit : Expr → Walk Expr} (each : ∀ node, Follows course (visit node))
    (node : Expr) (isReference : Bool) : Follows course (descended visit node isReference) := by
  unfold descended
  split
  · exact follows_pure _
  · exact follows_children each node

/-- A hook is asked with a context in which it is noted itself. -/
theorem follows_consult {answer : α → Answer} {point : Point} {hook : Hook α}
    (asked : ∀ before : Recording,
      let asked := (hook.run (before.context.consulting point hook.name)).run.run before.ambient
      course.leads before (before.inquired point hook.name (.ofOutcome answer asked.1) asked.2)) :
    Follows course (consult answer point hook) := by
  intro before
  have after := asked before
  rw [ends_consult]
  split <;> next ran => simpa only [ran, Answer.ofOutcome] using after

theorem follows_replacement? {point : Point} {hooks : List TreeHook}
    (asked : ∀ hook ∈ hooks, Follows course (consult .offer point hook)) (node : Expr) :
    Follows course (replacement? point node hooks) := by
  induction hooks with
  | nil => exact follows_pure _
  | cons hook rest ih =>
    obtain ⟨first, others⟩ := List.forall_mem_cons.mp asked
    refine first.bind fun offered => ?_
    cases offered with
    | none => exact ih others
    | some offered =>
      dsimp only
      split
      · exact ih others
      · exact (follows_checkType _ _ _).bind fun _ => follows_pure _

theorem follows_inspect {inspectors : List (Hook Bool)}
    (asked : ∀ hook ∈ inspectors, Follows course (consult .verdict .inspect hook)) (node : Expr) :
    Follows course (inspect node inspectors) := by
  induction inspectors with
  | nil => exact follows_pure _
  | cons hook rest ih =>
    obtain ⟨first, others⟩ := List.forall_mem_cons.mp asked
    refine first.bind fun passes => ?_
    cases passes with
    | true => exact ih others
    | false =>
      exact follows_context.bind fun _ => (follows_event _ _).bind fun _ => follows_throw _

theorem follows_expansion {registry : Registry}
    (asked : ∀ hook ∈ registry.expanders, Follows course (consult .offer .expand hook))
    (node : Expr) (isReference : Bool) :
    Follows course (expansion registry node isReference) := by
  unfold expansion
  split
  · exact follows_replacement? (fun hook member => asked hook (List.mem_reverse.mp member)) node
  · exact follows_pure _

theorem follows_expandedOr {revisit : Expr → Walk Expr}
    (again : ∀ node, Follows course (revisit node)) (rewritten : Expr) (expanded : Option Expr) :
    Follows course (expandedOr revisit rewritten expanded) := by
  cases expanded with
  | none => exact follows_pure _
  | some expanded => exact again expanded

theorem follows_filtered {revisit : Expr → Walk Expr}
    (again : ∀ node tree offered, Follows course (substituting node tree (revisit offered)))
    {filters : List TreeHook}
    (asked : ∀ hook ∈ filters, Follows course (consult .offer .filter hook)) (node current : Expr) :
    Follows course (filtered revisit node filters current) := by
  induction filters generalizing current with
  | nil => exact follows_pure _
  | cons hook rest ih =>
    obtain ⟨first, others⟩ := List.forall_mem_cons.mp asked
    refine first.bind fun offered => ?_
    cases offered with
    | none => exact ih others current
    | some offered =>
      dsimp only
      split
      · exact ih others current
      · exact (follows_checkType _ _ _).bind fun _ => (again _ _ _).bind fun _ => ih others _

theorem follows_takeRoot
    (rooted : ∀ (root : Root) (before : Recording),
      course.leads before { before with context.root := some root })
    (sourcer reference : String) (node sourced : Expr) :
    Follows course (takeRoot sourcer reference node sourced) := by
  unfold takeRoot
  split
  · refine (follows_checkType _ _ _).bind fun _ => (follows_event _ _).bind fun _ => ?_
    exact Follows.bind (fun before => rooted _ before) fun _ => follows_pure _
  · exact follows_throw _

theorem follows_takeFragment (sourcer reference : String) (node sourced : Expr) (root : Root) :
    Follows course (takeFragment sourcer reference node sourced root) := by
  unfold takeFragment checkEmbedded
  refine Follows.bind ?_ fun _ => (follows_checkType _ _ _).bind fun _ =>
    (follows_event _ _).bind fun _ => follows_pure _
  split
  · exact follows_throw _
  · split
    · exact follows_throw _
    · exact follows_pure _

theorem follows_source {registry : Registry}
    (asked : ∀ sourcer, registry.sourcer = some sourcer → ∀ mode,
      Follows course (consult .offer (.source mode) (sourcer.hook mode)))
    (rooted : ∀ (root : Root) (before : Recording),
      course.leads before { before with context.root := some root })
    (current : Expr) : Follows course (source registry current) := by
  unfold source
  refine follows_context.bind fun context => ?_
  split
  · split
    · split
      · exact follows_throw _
      · next sourcer registered =>
        refine (asked sourcer registered _).bind fun sourced => ?_
        cases sourced with
        | none => exact follows_throw _
        | some sourced =>
          dsimp only
          split
          · exact follows_takeRoot rooted _ _ _ _
          · exact follows_takeFragment _ _ _ _ _
    · exact follows_pure _
  · exact follows_pure _

theorem follows_tooDeep : Follows course tooDeep :=
  follows_context.bind fun _ => follows_throw _

end Rules

section Views

variable {view : Context → γ}

theorem keeps_consult {answer : α → Answer} {point : Point}
    (blind : ∀ context hook, view (context.consulting point hook) = view context)
    (hook : Hook α) : Keeps view (consult answer point hook) :=
  follows_consult fun _ => blind _ _

end Views

end Walk

/-- A course that a walk with the hooks of a registry follows. Inside of a frame it may say less,
since the frame itself can become that of another node. -/
structure Conduct (registry : Registry) extends Walk.Course where
  inside : Recording → Recording → Prop
  inside_refl (state : Recording) : inside state state
  leads_inside {first second third : Recording} :
    leads first second → inside second third → inside first third
  inside_leads {first second third : Recording} :
    inside first second → leads second third → inside first third
  asked {α : Type} {answer : α → Answer} {point : Point} {hook : Hook α} (before : Recording) :
    registry.Asks answer point hook →
      let asked := (hook.run (before.context.consulting point hook.name)).run.run before.ambient
      leads before (before.inquired point hook.name (.ofOutcome answer asked.1) asked.2)
  replaced {before : Recording} {node : Expr} {context : Context} :
    before.context.replace node = .ok context → inside before { before with context }
  framed {before after : Recording} {node : Option Expr} {entered : Context} :
    before.context.push node = .ok entered → inside { before with context := entered } after →
      leads before { after with context := after.context.pop }
  substituted {before after : Recording} {node tree : Expr} :
    leads { before with context := before.context.substitute node tree } after →
      leads before { after with context := after.context.endSubstitution }
  rooted (root : Root) (before : Recording) :
    leads before { before with context.root := some root }

namespace Conduct

open Walk

variable {registry : Registry} (conduct : Conduct registry)

theorem consults {α : Type} {answer : α → Answer} {point : Point} {hook : Hook α}
    (asks : registry.Asks answer point hook) :
    Follows conduct.toCourse (consult answer point hook) :=
  follows_consult fun before => conduct.asked before asks

/-- A step that follows the course does so inside of a frame. -/
theorem within {α : Type} {step : Walk α} (follows : Follows conduct.toCourse step) :
    Leads conduct.inside step := by
  intro before
  exact (follows before).mono (fun _ _ => conduct.inside_leads (conduct.inside_refl _))
    (fun _ _ => conduct.inside_leads (conduct.inside_refl _))

/-- Normalizing may replace the frame. -/
theorem within_normalize (node : Expr) : Leads conduct.inside (normalize registry node) := by
  have asked : ∀ hook ∈ registry.normalizers.reverse,
      Follows conduct.toCourse (consult .offer .normalize hook) :=
    fun hook member => conduct.consults (.normalizer (List.mem_reverse.mp member))
  intro before
  unfold Walk.normalize
  rw [ends_bind]
  refine (follows_replacement? asked node before).mono (fun offered middle early => ?_)
    (fun _ _ => conduct.inside_leads (conduct.inside_refl _))
  have onward {step : Walk Unit} (taken : Leads conduct.inside step) :
      Ends step (fun _ after => conduct.inside before after)
        (fun _ after => conduct.inside before after) middle :=
    (taken middle).mono (fun _ _ => conduct.leads_inside early)
      (fun _ _ => conduct.leads_inside early)
  cases offered with
  | none => exact onward (conduct.within (follows_pure ()))
  | some normalized =>
    exact onward (leads_trying conduct.inside_refl fun before context => conduct.replaced)

theorem follows_source (current : Expr) : Follows conduct.toCourse (source registry current) :=
  Walk.follows_source (fun _ registered mode => conduct.consults (.sourcer mode registered))
    conduct.rooted current

theorem follows_inspect (node : Expr) :
    Follows conduct.toCourse (inspect node registry.inspectors.reverse) :=
  Walk.follows_inspect
    (fun _ member => conduct.consults (.inspector (List.mem_reverse.mp member))) node

theorem follows_expansion (node : Expr) (isReference : Bool) :
    Follows conduct.toCourse (expansion registry node isReference) :=
  Walk.follows_expansion (fun _ member => conduct.consults (.expander member)) node isReference

variable {visit revisit : Expr → Walk Expr}

theorem follows_filtered (again : ∀ node, Follows conduct.toCourse (revisit node))
    (node current : Expr) :
    Follows conduct.toCourse (filtered revisit node registry.filters current) :=
  Walk.follows_filtered
    (fun _ _ offered => follows_substituting conduct.substituted _ _ (again offered))
    (fun _ member => conduct.consults (.filter member)) node current

theorem follows_normalized (each : ∀ node, Follows conduct.toCourse (visit node))
    (again : ∀ node, Follows conduct.toCourse (revisit node)) (node : Expr) :
    Follows conduct.toCourse (normalized registry visit revisit node) :=
  follows_context.bind fun _ => follows_context.bind fun _ =>
    (follows_descended each _ _).bind fun _ => (conduct.follows_inspect _).bind fun _ =>
    (conduct.follows_expansion _ _).bind fun _ => (follows_expandedOr again _ _).bind fun _ =>
    (conduct.follows_filtered again _ _).bind fun _ => conduct.follows_source _

theorem within_inFrame (each : ∀ node, Follows conduct.toCourse (visit node))
    (again : ∀ node, Follows conduct.toCourse (revisit node)) (node : Expr) :
    Leads conduct.inside (inFrame registry visit revisit node) := by
  intro before
  unfold inFrame
  rw [ends_bind]
  refine (conduct.within_normalize node before).mono (fun _ middle early => ?_)
    (fun _ _ early => early)
  exact (conduct.follows_normalized each again node middle).mono
    (fun _ _ => conduct.inside_leads early) (fun _ _ => conduct.inside_leads early)

/-- Every visit follows the course, by induction on the frames that may still be entered. -/
theorem follows_walk (room : Nat) :
    (∀ node, Follows conduct.toCourse (Walk.visit registry room node)) ∧
      ∀ node, Follows conduct.toCourse (Walk.revisit registry room node) := by
  induction room with
  | zero => exact ⟨fun _ => follows_tooDeep, fun _ => follows_tooDeep⟩
  | succ room ih =>
    obtain ⟨each, again⟩ := ih
    constructor
    · intro node
      refine follows_context.bind fun context => ?_
      split
      · exact follows_nested conduct.framed _ (conduct.within (conduct.follows_source _))
      · exact follows_nested conduct.framed _ (conduct.within_inFrame each again node)
    · intro node
      exact follows_nested conduct.framed none (conduct.within (each node))

theorem follows_visit (room : Nat) (node : Expr) :
    Follows conduct.toCourse (Walk.visit registry room node) := (conduct.follows_walk room).1 node

theorem follows_revisit (room : Nat) (node : Expr) :
    Follows conduct.toCourse (Walk.revisit registry room node) :=
  (conduct.follows_walk room).2 node

theorem follows_whole (query : Expr) : Follows conduct.toCourse (whole registry query) :=
  follows_context.bind fun _ => conduct.follows_revisit _ query

/-- A whole walk follows the course, whatever it comes to. -/
theorem leads_recorded (query : Expr) (context : Context) (ambient : Ambient) :
    conduct.leads { context, ambient } (recorded registry query context ambient).2 :=
  ends_always_iff.mp (conduct.follows_whole query { context, ambient })

end Conduct

end QueryRewriting.Rewriting
