import QueryRewriting.Proofs.Request.Ambient
import QueryRewriting.Proofs.Rewriting.Stack

/-! What makes a difference to hooks, and what does not. A hook sees of a context what it is about,
the consultations of other hooks apart, and notices some of the surroundings. Steps of a walk
neither see nor notice more than their hooks. -/
namespace QueryRewriting

variable {α β : Type}

/-- What hooks notice of the surroundings: surroundings that are alike are the same to them. The
supply of identities is always noticed, and what a walk does itself makes no difference. So an
inspector that builds nodes does something that is noticed, even if no tree ever holds them: the
identities of all nodes that are built later would be others. -/
structure Notice where
  alike : Ambient → Ambient → Prop
  equivalence : Equivalence alike
  supply_eq {ambient other : Ambient} : alike ambient other → ambient.supply = other.supply
  supplied {ambient other : Ambient} (supply : NodeSupply) :
    alike ambient other → alike { ambient with supply } { other with supply }
  logged {ambient other : Ambient} (change : Telemetry.Log → Telemetry.Log) :
    alike ambient other →
      alike { ambient with log := change ambient.log } { other with log := change other.log }

/-- Hooks that may notice everything. -/
def Notice.all : Notice where
  alike := Eq
  equivalence := eq_equivalence
  supply_eq same := by rw [same]
  supplied _ same := by rw [same]
  logged _ same := by rw [same]

/-- Hooks that look at neither the log nor notes. -/
def Notice.unwritten : Notice where
  alike ambient other :=
    { ambient with log := {}, notes := [] } = ({ other with log := {}, notes := [] } : Ambient)
  equivalence := ⟨fun _ => rfl, Eq.symm, Eq.trans⟩
  supply_eq same := (congrArg (·.supply) same :)
  supplied supply same := congrArg (fun ambient : Ambient => { ambient with supply }) same
  logged _ same := same

variable (notice : Notice)

namespace Act

variable {ε : Type} {notice}

variable (notice) in
/-- A computation that unnoticed surroundings make no difference to. -/
def Heedless (act : Act ε α) : Prop :=
  ∀ ambient other, notice.alike ambient other →
    (act.run.run ambient).1 = (act.run.run other).1 ∧
      notice.alike (act.run.run ambient).2 (act.run.run other).2

theorem heedless_pure (value : α) : Heedless notice (pure value : Act ε α) :=
  fun _ _ alike => ⟨rfl, alike⟩

theorem heedless_throw (error : ε) : Heedless notice (throw error : Act ε α) :=
  fun _ _ alike => ⟨rfl, alike⟩

theorem heedless_build (fresh : Fresh α) : Heedless notice (build fresh : Act ε α) := by
  intro ambient other alike
  rw [run_build, run_build, notice.supply_eq alike]
  exact ⟨rfl, notice.supplied _ alike⟩

theorem heedless_logging (change : Telemetry.Log → Telemetry.Log) :
    Heedless notice (logging change : Act ε Unit) :=
  fun _ _ alike => ⟨rfl, notice.logged change alike⟩

theorem Heedless.bind {act : Act ε α} {next : α → Act ε β} (first : Heedless notice act)
    (rest : ∀ value, Heedless notice (next value)) : Heedless notice (act >>= next) := by
  intro ambient other alike
  have early := first ambient other alike
  rw [run_bind, run_bind]
  rcases ran : act.run.run ambient with ⟨answer, after⟩
  rcases ran' : act.run.run other with ⟨answer', after'⟩
  rw [ran, ran'] at early
  obtain ⟨same, alike⟩ := early
  have same : answer = answer' := same
  subst same
  cases answer with
  | error error => exact ⟨rfl, alike⟩
  | ok value => exact rest value after after' alike

theorem Heedless.map {act : Act ε α} (heedless : Heedless notice act) (f : α → β) :
    Heedless notice (f <$> act) := by
  rw [← bind_pure_comp]
  exact heedless.bind fun _ => heedless_pure _

end Act

namespace Rewriting

/-- A hook that neither the consultations of others, sourcers apart, nor unnoticed surroundings make
a difference to. -/
def Hook.Consistent (hook : Hook α) : Prop :=
  ∀ context other ambient ambient', context.substance = other.substance →
    notice.alike ambient ambient' →
    ((hook.run context).run.run ambient).1 = ((hook.run other).run.run ambient').1 ∧
      notice.alike ((hook.run context).run.run ambient).2 ((hook.run other).run.run ambient').2

/-- All hooks of a registry but inspectors are consistent. -/
structure Registry.Consistent (registry : Registry) : Prop where
  normalizers : ∀ hook ∈ registry.normalizers, hook.Consistent notice
  expanders : ∀ hook ∈ registry.expanders, hook.Consistent notice
  filters : ∀ hook ∈ registry.filters, hook.Consistent notice
  sourcer : ∀ sourcer ∈ registry.sourcer, ∀ mode, (sourcer.hook mode).Consistent notice

variable {notice} in
/-- A hook that only sees the substance of a context is consistent if it does not heed unnoticed
surroundings. -/
theorem Hook.consistent {hook : Hook α}
    (seen : ∀ context, hook.run context.substance = hook.run context)
    (heedless : ∀ context, (hook.run context).Heedless notice) : hook.Consistent notice := by
  intro context other ambient ambient' same alike
  rw [← seen context, same, seen other]
  exact heedless other ambient ambient' alike

namespace Context

variable {context other : Context}

theorem substance_push (context : Context) (node : Option Expr) :
    (context.push node).map substance = context.substance.push node := by
  unfold push
  rw [show context.substance.depth = context.depth from rfl]
  by_cases deep : context.maxDepth ≤ context.depth
  · rw [if_pos deep, if_pos (show context.substance.maxDepth ≤ context.depth from deep)]
    rfl
  · rw [if_neg deep, if_neg (show ¬context.substance.maxDepth ≤ context.depth from deep)]
    cases node with
    | none => rfl
    | some node =>
      have bindings : context.substance.bindIn context.substance.frames node =
        context.bindIn context.frames node := rfl
      dsimp only
      rw [bindings]
      cases context.bindIn context.frames node <;> rfl

theorem substance_replace (context : Context) (node : Expr) :
    (context.replace node).map substance = context.substance.replace node := by
  unfold replace
  rw [show context.substance.bindIn context.substance.frames.tail node =
    context.bindIn context.frames.tail node from rfl]
  cases context.bindIn context.frames.tail node with
  | error error => rfl
  | ok binding =>
    cases frames : context.frames with
    | nil =>
      rw [show context.substance.frames = [] from frames]
      exact substance_push context (some node)
    | cons frame outer =>
      rw [show context.substance.frames = frame :: outer from frames]
      rfl

theorem substance_pop (context : Context) : context.pop.substance = context.substance.pop := by
  unfold pop
  rw [show context.substance.frames = context.frames from rfl]
  cases context.frames <;> rfl

/-- What a consultation leaves of the substance. -/
theorem substance_consulting (same : context.substance = other.substance) (point : Point)
    (hook : String) :
    (context.consulting point hook).substance = (other.consulting point hook).substance := by
  have through (context : Context) : (context.consulting point hook).substance =
      (context.substance.consulting point hook).substance := by
    cases point <;> simp [consulting, substance, sourcings, frame, depth]
  rw [through context, through other, same]

@[simp] theorem sourcingCalls_substance (context : Context) :
    context.substance.sourcingCalls = context.sourcingCalls := by
  unfold sourcingCalls substance sourcings
  rw [List.countP_filter]
  congr 1
  funext entry
  cases entry.point <;> rfl

theorem substance_inspecting (context : Context) (hook : String) :
    (context.consulting .inspect hook).substance = context.substance := rfl

theorem request_push {node : Option Expr} (pushed : context.push node = .ok other) :
    other.request = context.request := by rw [push_frames pushed]

theorem request_replace {node : Expr} (replaced : context.replace node = .ok other) :
    other.request = context.request := by rw [replace_frames replaced]

theorem request_pop (context : Context) : context.pop.request = context.request := by
  unfold pop
  split <;> rfl

end Context

namespace Walk

theorem run_trying (change : Context → Except Error Context) (state : Recording) :
    (trying change).run.run state =
      match change state.context with
      | .ok context => (.ok (), { state with context })
      | .error error => (.error error, state) := by
  apply Ends.run_eq
  rw [ends_trying]
  cases change state.context <;> rfl

theorem run_acting (act : Act Error α) (state : Recording) :
    (acting act).run.run state = ((act.run.run state.ambient).1,
      { state with ambient := (act.run.run state.ambient).2 }) := by
  apply Ends.run_eq
  rw [ends_acting]
  unfold Ends
  rcases act.run.run state.ambient with ⟨_ | _, ambient⟩ <;> rfl

theorem run_consult (answer : α → Answer) (point : Point) (hook : Hook α) (state : Recording) :
    let asked := (hook.run (state.context.consulting point hook.name)).run.run state.ambient
    (consult answer point hook).run.run state =
      (asked.1, state.inquired point hook.name (.ofOutcome answer asked.1) asked.2) := by
  intro asked
  apply Ends.run_eq
  rw [ends_consult]
  split <;> next ran => rw [show asked = _ from ran]; rfl

/-- Two states that only differ in what hooks do not notice. -/
structure Near (state other : State) : Prop where
  substance : state.context.substance = other.context.substance
  alike : notice.alike state.ambient other.ambient

/-- What a step leaves alone that asks no hook. -/
structure Unasked (before after : Recording) : Prop where
  request : after.context.request = before.context.request
  inquiries : after.inquiries = before.inquiries

/-- A step that does the same in states that only differ in what hooks do not notice, and that asks
no hook itself. -/
def Blind (step : Walk α) : Prop :=
  ∀ state other : Recording, Near notice state.toState other.toState →
    (step.run.run state).1 = (step.run.run other).1 ∧
      Near notice (step.run.run state).2.toState (step.run.run other).2.toState ∧
      Unasked other (step.run.run other).2

variable {notice : Notice}

theorem Near.refl (state : State) : Near notice state state := ⟨rfl, notice.equivalence.refl _⟩

/-- Of what is the same in the substance alone, states that are near see the same. -/
theorem Near.same {state other : State} (near : Near notice state other) {γ : Type}
    (view : Context → γ) (seen : ∀ context, view context.substance = view context) :
    view state.context = view other.context := by
  rw [← seen, near.substance, seen]

theorem Unasked.refl (state : Recording) : Unasked state state := ⟨rfl, rfl⟩

theorem Unasked.trans {first second third : Recording} (early : Unasked first second)
    (late : Unasked second third) : Unasked first third :=
  ⟨late.request.trans early.request, late.inquiries.trans early.inquiries⟩

theorem Blind.bind {step : Walk α} {next : α → Walk β} (first : Blind notice step)
    (rest : ∀ value, Blind notice (next value)) : Blind notice (step >>= next) := by
  intro state other near
  obtain ⟨same, near, early⟩ := first state other near
  rw [run_bind, run_bind]
  rcases ran : step.run.run state with ⟨answer, middle⟩
  rcases ran' : step.run.run other with ⟨answer', middle'⟩
  simp only [ran, ran'] at same near early
  subst same
  cases answer with
  | error error => exact ⟨rfl, near, early⟩
  | ok value =>
    obtain ⟨same, near, late⟩ := rest value middle middle' near
    exact ⟨same, near, early.trans late⟩

theorem blind_pure (value : α) : Blind notice (pure value) :=
  fun _ _ near => ⟨rfl, near, .refl _⟩

theorem blind_throw (error : Error) : Blind notice (throw error : Walk α) :=
  fun _ _ near => ⟨rfl, near, .refl _⟩

theorem blind_trying {change : Context → Except Error Context}
    (commutes : ∀ context, (change context).map Context.substance = change context.substance)
    (kept : ∀ context changed, change context = .ok changed → changed.request = context.request) :
    Blind notice (trying change) := by
  intro state other near
  have same : (change state.context).map Context.substance =
      (change other.context).map Context.substance := by
    rw [commutes, commutes, near.substance]
  rw [run_trying, run_trying]
  cases first : change state.context with
  | error error =>
    cases second : change other.context with
    | error error' =>
      rw [first, second] at same
      cases same
      exact ⟨rfl, near, .refl _⟩
    | ok changed' =>
      rw [first, second] at same
      contradiction
  | ok changed =>
    cases second : change other.context with
    | error error' =>
      rw [first, second] at same
      contradiction
    | ok changed' =>
      rw [first, second] at same
      exact ⟨rfl, ⟨Except.ok.inj same, near.alike⟩, kept _ _ second, rfl⟩

theorem blind_push (node : Option Expr) :
    Blind notice (trying fun context => context.push node) :=
  blind_trying (fun context => context.substance_push node) fun _ _ => Context.request_push

theorem blind_changing {change : Context → Context}
    (commutes : ∀ context, (change context).substance = change context.substance)
    (kept : ∀ context, (change context).request = context.request) :
    Blind notice (changing change) := by
  intro state other near
  refine ⟨rfl, ⟨?_, near.alike⟩, kept _, rfl⟩
  change (change state.context).substance = (change other.context).substance
  rw [commutes, commutes, near.substance]

theorem blind_acting {act : Act Error α} (heedless : act.Heedless notice) :
    Blind notice (acting act) := by
  intro state other near
  obtain ⟨same, alike⟩ := heedless state.ambient other.ambient near.alike
  rw [run_acting, run_acting]
  exact ⟨same, ⟨near.substance, alike⟩, rfl, rfl⟩

theorem blind_checkType (hook : String) (replaced replacement : Expr) :
    Blind notice (checkType hook replaced replacement) := by
  unfold checkType
  split
  · exact blind_pure ()
  · exact blind_throw _

theorem blind_takeRoot (sourcer reference : String) (node sourced : Expr) :
    Blind notice (takeRoot sourcer reference node sourced) := by
  unfold takeRoot
  split
  · next stamp proxy element expression =>
    have rooted : Blind notice (changing fun context =>
        { context with root := some { proxy, element, expression } }) :=
      blind_changing (fun _ => rfl) fun _ => rfl
    apply (blind_checkType _ _ _).bind
    intro _
    apply (blind_acting (Act.heedless_logging _)).bind
    intro _
    exact rooted.bind fun _ => blind_pure _
  · exact blind_throw _

theorem blind_takeFragment (sourcer reference : String) (node sourced : Expr) (root : Root) :
    Blind notice (takeFragment sourcer reference node sourced root) := by
  unfold takeFragment checkEmbedded
  apply Blind.bind
  · split
    · exact blind_throw _
    · split
      · exact blind_throw _
      · exact blind_pure ()
  · intro _
    apply (blind_checkType _ _ _).bind
    intro _
    exact (blind_acting (Act.heedless_logging _)).bind fun _ => blind_pure _

end Walk

end Rewriting

end QueryRewriting
