import QueryRewriting.Proofs.Rewriting.Conduct

/-! A walk leaves its stacks as it found them. Whatever the hooks do, and whether it succeeds or
fails, a visit hands back the frames and the substitutions it began with; what it adds to is the
root, the collection and the journal. -/
namespace QueryRewriting.Rewriting

namespace Context

/-- A context without what a walk finds: what a visit has to hand back unchanged. -/
def setting (context : Context) : Context :=
  { context with root := none, collection := none, journal := [] }

/-- The consultations of sourcers, the latest first. -/
def sourcings (context : Context) : List Consultation :=
  context.journal.filter fun entry => entry.point matches .source _

/-- A context without the consultations of all hooks but sourcers. -/
def substance (context : Context) : Context :=
  { context with journal := context.sourcings }

/-- The setting around the current frame. -/
def surroundings (context : Context) : Context :=
  { context.setting with frames := context.setting.frames.tail }

variable {context entered : Context}

@[simp] theorem setting_consulting (point : Point) (hook : String) :
    (context.consulting point hook).setting = context.setting := rfl

@[simp] theorem substitution?_substitute (node replacement : Expr) :
    (context.substitute node replacement).substitution? node = some replacement := by
  simp [substitution?, substitute]

theorem isSome_substitution? (node : Expr) : (context.substitution? node).isSome =
    context.substitutions.any fun entry => entry.1 = node := by
  rw [Bool.eq_iff_iff]
  simp [substitution?]

theorem substitution?_congr (same : entered.substitutions = context.substitutions) :
    entered.substitution? = context.substitution? := by
  funext node
  simp only [substitution?, same]

theorem substitution?_of_bare (bare : context.substitutions = []) (node : Expr) :
    context.substitution? node = none := by
  simp [substitution?, bare]

theorem setting_of_substance {before : Context} (same : context.substance = before.substance) :
    context.setting = before.setting :=
  (congrArg setting same : context.substance.setting = before.substance.setting)

section Innermost

variable {node : Option Expr} {binding : Binding} {outer : List Frame}
  (frames : context.frames = ⟨node, binding⟩ :: outer)

include frames

theorem frame_of_frames : context.frame = ⟨node, binding⟩ := by
  rw [frame, frames, List.headD_cons]

theorem binding_of_frames : context.binding = binding :=
  congrArg Frame.binding (frame_of_frames frames)

theorem node?_of_frames : context.node? = node := congrArg Frame.node (frame_of_frames frames)

end Innermost

theorem binding_of_setting {earlier : Context} (same : context.setting = earlier.setting) :
    context.binding = earlier.binding :=
  (congrArg binding same : context.setting.binding = earlier.setting.binding)

theorem node?_of_setting {earlier : Context} (same : context.setting = earlier.setting) :
    context.node? = earlier.node? :=
  (congrArg node? same : context.setting.node? = earlier.setting.node?)

theorem setting_pop : context.pop.setting = context.surroundings := by
  unfold pop surroundings
  split <;> simp_all [setting]

theorem surroundings_eq {other : Context} (same : other.setting = context.setting) :
    other.surroundings = context.surroundings := by
  simp only [surroundings, same]

theorem surroundings_framed {frame other : Frame} {outer : List Frame}
    (frames : context.frames = frame :: outer) :
    surroundings { context with frames := other :: outer } = context.surroundings := by
  simp [surroundings, setting, frames]

theorem push_none (pushed : context.push none = .ok entered) :
    entered = { context with frames := {} :: context.frames } := by
  unfold push at pushed
  split at pushed
  · contradiction
  · exact (Except.ok.inj pushed).symm

/-- A frame that was entered for a node holds the node's binding in the frames around it. -/
theorem push_some {node : Expr} (pushed : context.push (some node) = .ok entered) :
    ∃ binding, context.bindIn context.frames node = .ok binding ∧
      entered = { context with frames := ⟨some node, binding⟩ :: context.frames } := by
  unfold push at pushed
  split at pushed
  · contradiction
  · cases bound : context.bindIn context.frames node with
    | error error => simp [bound, bind, Except.bind] at pushed
    | ok binding =>
      simp only [bound, bind, Except.bind, pure, Except.pure, Except.ok.injEq] at pushed
      exact ⟨binding, rfl, pushed.symm⟩

theorem push_of_bound {node : Expr} {binding : Binding} (shallow : context.depth < context.maxDepth)
    (bound : context.bindIn context.frames node = .ok binding) :
    context.push (some node) =
      .ok { context with frames := ⟨some node, binding⟩ :: context.frames } := by
  simp [push, Nat.not_le_of_lt shallow, bound, bind, Except.bind, pure, Except.pure]

/-- Where a node can be bound, a frame for it is refused for the depth only. -/
theorem push_error {node : Option Expr} {error : Error} (refused : context.push node = .error error)
    (bound : ∀ e, node = some e → ∃ binding, context.bindIn context.frames e = .ok binding) :
    error = .depthExceeded context.maxDepth := by
  unfold push at refused
  split at refused
  · exact (Except.error.inj refused).symm
  · cases node with
    | none => contradiction
    | some e =>
      obtain ⟨binding, bound⟩ := bound e rfl
      simp [bound, bind, Except.bind, pure, Except.pure] at refused

theorem journal_pop (context : Context) : context.pop.journal = context.journal := by
  unfold pop
  split <;> rfl

theorem root_pop (context : Context) : context.pop.root = context.root := by
  unfold pop
  split <;> rfl

/-- Entering a frame changes nothing but frames. -/
theorem push_frames {node : Option Expr} (pushed : context.push node = .ok entered) :
    entered = { context with frames := entered.frames } := by
  cases node with
  | none =>
    cases push_none pushed
    rfl
  | some node =>
    obtain ⟨binding, -, rfl⟩ := push_some pushed
    rfl

/-- A frame for a node holds its binding in the frames around it. -/
theorem entered_some {node : Expr} (pushed : context.push (some node) = .ok entered) :
    ∃ binding, entered.frames = ⟨some node, binding⟩ :: context.frames ∧
      entered.bindIn context.frames node = .ok binding := by
  obtain ⟨binding, bound, rfl⟩ := push_some pushed
  exact ⟨binding, rfl, bound⟩

/-- A frame is entered in a setting as it is with what the walk has found. -/
theorem push_setting {node : Option Expr} (pushed : context.push node = .ok entered) :
    context.setting.push node = .ok entered.setting := by
  unfold push at *
  split at pushed
  · contradiction
  · next fits =>
    rw [if_neg (show ¬context.setting.maxDepth ≤ context.setting.depth from fits)]
    cases node with
    | none =>
      cases pushed
      rfl
    | some node =>
      have bindings : context.setting.bindIn context.setting.frames node =
        context.bindIn context.frames node := rfl
      dsimp only
      rw [bindings]
      cases bound : context.bindIn context.frames node with
      | error error => simp [bound, bind, Except.bind] at pushed
      | ok binding =>
        simp only [bound, bind, Except.bind, pure, Except.pure, Except.ok.injEq] at pushed ⊢
        rw [← pushed]
        rfl

theorem surroundings_push {node : Option Expr} (pushed : context.push node = .ok entered) :
    entered.surroundings = context.setting := by
  cases node with
  | none =>
    cases push_none pushed
    rfl
  | some node =>
    obtain ⟨binding, -, rfl⟩ := push_some pushed
    rfl

theorem bindIn_eq_of_model {other : Context} (same : other.model = context.model) :
    other.bindIn = context.bindIn := by
  funext frames node
  simp only [bindIn, parameterIn, same]

theorem bindIn_of_setting {before : Context} {frames : List Frame} {node : Expr}
    {binding : Binding} (same : context.setting = before.setting)
    (bound : before.bindIn frames node = .ok binding) :
    context.bindIn frames node = .ok binding := by
  rw [bindIn_eq_of_model (congrArg (·.model) same : context.model = before.model)]
  exact bound

/-- Inside of a frame a replacement takes the frame over, bound in the same frames. -/
theorem replace_inside {node : Expr} {frame : Frame} {outer : List Frame}
    (frames : context.frames = frame :: outer) (replaced : context.replace node = .ok entered) :
    ∃ binding, context.bindIn outer node = .ok binding ∧
      entered = { context with frames := ⟨some node, binding⟩ :: outer } := by
  unfold replace at replaced
  rw [frames] at replaced
  simp only [List.tail_cons] at replaced
  cases bound : context.bindIn outer node with
  | error error => simp [bound, bind, Except.bind] at replaced
  | ok binding =>
    simp only [bound, bind, Except.bind, pure, Except.pure, Except.ok.injEq] at replaced
    exact ⟨binding, rfl, replaced.symm⟩

theorem replace_of_bound {node : Expr} {binding : Binding} {frame : Frame} {outer : List Frame}
    (frames : context.frames = frame :: outer) (bound : context.bindIn outer node = .ok binding) :
    context.replace node = .ok { context with frames := ⟨some node, binding⟩ :: outer } := by
  unfold replace
  rw [frames, List.tail_cons, bound]
  rfl

/-- A replacement changes nothing but frames. -/
theorem replace_frames {node : Expr} (replaced : context.replace node = .ok entered) :
    entered = { context with frames := entered.frames } := by
  cases frames : context.frames with
  | cons frame outer =>
    obtain ⟨binding, -, rfl⟩ := replace_inside frames replaced
    rfl
  | nil =>
    unfold replace at replaced
    rw [frames, List.tail_nil] at replaced
    cases bound : context.bindIn [] node with
    | error error => simp [bound, bind, Except.bind] at replaced
    | ok binding =>
      simp only [bound, bind, Except.bind] at replaced
      obtain ⟨binding, -, rfl⟩ := push_some replaced
      rfl

end Context

namespace Walk

/-- A walk hands its setting back. Inside of a frame it hands back what is around it. -/
def returning (registry : Registry) : Conduct registry where
  toCourse := .keeping Context.setting
  inside before after := before.context.frames ≠ [] →
    after.context.surroundings = before.context.surroundings
  inside_refl _ _ := rfl
  leads_inside {first second third} early late opened := by
    have frames : second.context.frames = first.context.frames := congrArg (·.frames) early
    exact (late (frames ▸ opened)).trans (Context.surroundings_eq early)
  inside_leads early late opened := (Context.surroundings_eq late).trans (early opened)
  asked _ _ := rfl
  replaced {before node context} replaced opened := by
    obtain ⟨frame, outer, frames⟩ := List.exists_cons_of_ne_nil opened
    obtain ⟨binding, -, rfl⟩ := Context.replace_inside frames replaced
    exact Context.surroundings_framed frames
  framed {before after node entered} pushed within := by
    have opened : entered.frames ≠ [] := by
      cases node with
      | none =>
        cases Context.push_none pushed
        simp
      | some node =>
        obtain ⟨binding, -, rfl⟩ := Context.push_some pushed
        simp
    exact Context.setting_pop.trans ((within opened).trans (Context.surroundings_push pushed))
  substituted {before after node tree} same := by
    change after.context.endSubstitution.setting = before.context.setting
    exact congrArg Context.endSubstitution same
  rooted _ _ := rfl

theorem keeps_sourcing (registry : Registry) (current : Expr) :
    Keeps Context.setting (source registry current) := (returning registry).follows_source current

theorem keeps_visit (registry : Registry) (room : Nat) (node : Expr) :
    Keeps Context.setting (visit registry room node) := (returning registry).follows_visit room node

theorem keeps_revisit (registry : Registry) (room : Nat) (node : Expr) :
    Keeps Context.setting (revisit registry room node) :=
  (returning registry).follows_revisit room node

theorem normalize_of_none {registry : Registry} (none : registry.normalizers = []) (node : Expr) :
    normalize registry node = pure () := by
  unfold normalize
  rw [none]
  rfl

theorem expansion_of_none {registry : Registry} (none : registry.expanders = []) (node : Expr)
    (isReference : Bool) : expansion registry node isReference = pure .none := by
  unfold expansion
  rw [none]
  cases isReference <;> rfl

end Walk

end QueryRewriting.Rewriting
