import QueryRewriting.Proofs.Access.Substitution
import QueryRewriting.Proofs.Rewriting.Completion

/-! A walk is stable: what it has made of a query, another walk leaves as it is. A tree without data
references gives hooks that act on references only nothing to do, so that every node is put together
again from the children it has, and that is the node itself. -/
namespace QueryRewriting

open Schema

namespace Expr

mutual

/-- How many nodes the longest path from a node down to a leaf has. -/
def height : Expr → Nat
  | .value .. | .queryable .. | .parameter .. | .native .. => 1
  | .member _ target _ => height target + 1
  | .source _ _ _ args => heightOf args + 1
  | .call _ _ args => heightOf args + 1
  | .lambda _ _ body => height body + 1
  | .binary _ _ left right => max (height left) (height right) + 1
  | .not _ operand => height operand + 1

/-- The height of the highest of several trees. -/
def heightOf : List Expr → Nat
  | [] => 0
  | e :: rest => max (height e) (heightOf rest)

end

theorem height_le_heightOf {e : Expr} {es : List Expr} (member : e ∈ es) :
    e.height ≤ heightOf es := by
  induction es with
  | nil => contradiction
  | cons first rest ih =>
    rw [heightOf]
    rcases List.mem_cons.mp member with rfl | member
    · omega
    · have := ih member
      omega

theorem height_pos (e : Expr) : 0 < e.height := by
  cases e <;> simp only [height] <;> omega

theorem height_lt_of_mem_children {e child : Expr} (below : child ∈ e.children) :
    child.height < e.height := by
  cases e with
  | value | queryable | parameter | native => contradiction
  | source | call => exact Nat.lt_succ_of_le (height_le_heightOf below)
  | member | lambda | not =>
    cases List.mem_singleton.mp below
    exact Nat.lt_succ_self _
  | binary stamp op left right =>
    simp only [children, List.mem_cons, List.not_mem_nil, or_false] at below
    simp only [height]
    rcases below with rfl | rfl <;> omega

end Expr

namespace Rewriting

/-- Outside of the frames of data references a hook always comes to the same answer. -/
def Hook.Settles {α : Type} (hook : Hook α) (answer : α) : Prop :=
  ∀ context node ambient, context.node? = some node → context.binding.reference? = none →
    ∃ after, (hook.run context).run.run ambient = (.ok answer, after)

/-- Hooks that act on data references only. Expanders are not asked about anything else. -/
structure Registry.Confined (registry : Registry) : Prop where
  normalizers : ∀ hook ∈ registry.normalizers, hook.Settles none
  inspectors : ∀ hook ∈ registry.inspectors, hook.Settles true
  filters : ∀ hook ∈ registry.filters, hook.Settles none

namespace Context

/-- The current frame is that of a node which is not bound as a data reference. -/
structure Plain (node : Expr) (context : Context) : Prop where
  under : context.node? = some node
  unbound : context.binding.reference? = none

/-- There are no data references in the frames, nothing is substituted, and so many frames may still
be entered. -/
structure Settled (room : Nat) (context : Context) : Prop where
  free : ∀ frame ∈ context.frames, ∀ node, frame.node = some node → node.hasDataReference = false
  bare : context.substitutions = []
  room : context.depth + room ≤ context.maxDepth

variable {context other : Context} {node : Expr} {room : Nat}

theorem Plain.of_setting (plain : context.Plain node) (same : other.setting = context.setting) :
    other.Plain node := by
  obtain ⟨under, unbound⟩ := plain
  rw [← node?_of_setting same] at under
  rw [← binding_of_setting same] at unbound
  exact ⟨under, unbound⟩

theorem Settled.of_setting (settled : context.Settled room)
    (same : other.setting = context.setting) : other.Settled room := by
  have frames : other.frames = context.frames := congrArg (·.frames) same
  have maxDepth : other.maxDepth = context.maxDepth := congrArg (·.maxDepth) same
  have substitutions : other.substitutions = context.substitutions :=
    congrArg (·.substitutions) same
  constructor
  · simpa only [frames] using settled.free
  · exact substitutions.trans settled.bare
  · simpa only [depth, frames, maxDepth] using settled.room

theorem Settled.substitution? (settled : context.Settled room) (node : Expr) :
    context.substitution? node = none :=
  Context.substitution?_of_bare settled.bare node

/-- The frame of a tree without references can be entered. -/
theorem Settled.push (settled : context.Settled (room + 1)) (free : node.hasDataReference = false) :
    ∃ entered, context.push (some node) = .ok entered ∧ entered.Plain node ∧
      entered.Settled room := by
  have binds : ∀ frame ∈ context.frames, ∀ other, frame.node = some other →
      other.binds context.model = true := by
    intro frame member other shape
    exact other.binds_of_free context.model (settled.free frame member other shape)
  obtain ⟨binding, bound⟩ := bindIn_of_binds (node.binds_of_free context.model free) binds
  have room := settled.room
  have unbound := unbound_of_bindIn bound (Expr.isSource_of_hasDataReference free)
  refine ⟨_, push_of_bound (by omega) bound, ⟨rfl, unbound⟩, ?_, settled.bare, ?_⟩
  · intro frame member other shape
    rcases List.mem_cons.mp member with rfl | member
    · cases shape
      exact free
    · exact settled.free frame member other shape
  · simp only [depth, List.length_cons] at room ⊢
    omega

end Context

namespace Walk

variable {α β : Type} {before : Recording}

/-- A step does not fail, and it finds no root and asks no sourcer. -/
def sourceless : Account Unit where
  done _ before after := after.context.root = before.context.root ∧
    after.context.sourcings = before.context.sourcings
  failed _ _ _ _ := False
  idle := ()
  join _ _ := ()
  idle_join _ := rfl
  join_idle _ := rfl
  done_idle _ _ := ⟨rfl, rfl⟩
  done_join early late := ⟨late.1.trans early.1, late.2.trans early.2⟩
  failed_first := id
  failed_rest _ _ := id

theorem sourceless_unstacked : sourceless.Unstacked :=
  ⟨fun _ _ _ => .rfl, fun _ _ _ _ => .rfl⟩

/-- The step succeeds with a value, and nothing that lasts has changed. -/
abbrev Returns (step : Walk α) (value : α) (before : Recording) : Prop :=
  sourceless.Charges () step (· = value) before

section Rules

variable {value : α}

theorem Returns.bind {step : Walk α} {next : α → Walk β} {result : β}
    (first : Returns step value before)
    (rest : ∀ middle, middle.context.setting = before.context.setting →
      Returns (next value) result middle) : Returns (step >>= next) result before :=
  Account.Charges.bind first fun _ middle same got => got ▸ rest middle same

theorem returns_pure : Returns (pure value) value before := Account.charges_pure rfl

theorem returns_context {next : Context → Walk α}
    (rest : Returns (next before.context) value before) :
    Returns (context >>= next) value before := by
  apply (ends_bind _ _).mpr
  exact ends_context.mpr rest

theorem returns_consult {answer : α → Answer} {point : Point} {hook : Hook α}
    (ordinary : (point matches .source _) = false)
    (answers : ∃ after, (hook.run (before.context.consulting point hook.name)).run.run
      before.ambient = (.ok value, after)) : Returns (consult answer point hook) value before := by
  obtain ⟨after, answer⟩ := answers
  apply (ends_consult_of_run answer).mpr
  cases point with
  | source => contradiction
  | normalize | inspect | expand | filter => exact ⟨rfl, ⟨rfl, rfl⟩, rfl⟩

end Rules

section Frame

variable {registry : Registry} {node current : Expr}

section Hooks

variable (plain : before.context.Plain node)

include plain

theorem returns_asked {answer : α → Answer} {value : α} {point : Point} {hook : Hook α}
    (settles : hook.Settles value) (ordinary : (point matches .source _) = false) :
    Returns (consult answer point hook) value before :=
  returns_consult ordinary (settles _ node _ plain.under plain.unbound)

theorem returns_replacement? {point : Point} (ordinary : (point matches .source _) = false)
    {hooks : List TreeHook} (settle : ∀ hook ∈ hooks, hook.Settles none) :
    Returns (replacement? point node hooks) none before := by
  induction hooks generalizing before with
  | nil => exact returns_pure
  | cons hook rest ih =>
    obtain ⟨first, others⟩ := List.forall_mem_cons.mp settle
    refine (returns_asked plain first ordinary).bind fun middle same => ?_
    exact ih (plain.of_setting same) others

theorem returns_normalize (confined : registry.Confined) :
    Returns (normalize registry node) () before := by
  refine (returns_replacement? plain rfl fun hook member => ?_).bind fun _ _ => returns_pure
  exact confined.normalizers hook (List.mem_reverse.mp member)

theorem returns_inspect {inspectors : List (Hook Bool)}
    (settle : ∀ hook ∈ inspectors, hook.Settles true) :
    Returns (inspect node inspectors) () before := by
  induction inspectors generalizing before with
  | nil => exact returns_pure
  | cons hook rest ih =>
    obtain ⟨first, others⟩ := List.forall_mem_cons.mp settle
    refine (returns_asked plain first rfl).bind fun middle same => ?_
    exact ih (plain.of_setting same) others

theorem returns_filtered {revisit : Expr → Walk Expr} {filters : List TreeHook}
    (settle : ∀ hook ∈ filters, hook.Settles none) :
    Returns (filtered revisit node filters current) current before := by
  induction filters generalizing before with
  | nil => exact returns_pure
  | cons hook rest ih =>
    obtain ⟨first, others⟩ := List.forall_mem_cons.mp settle
    refine (returns_asked plain first rfl).bind fun middle same => ?_
    exact ih (plain.of_setting same) others

theorem returns_source : Returns (source registry current) current before := by
  refine returns_context ?_
  rw [plain.unbound]
  exact returns_pure

end Hooks

theorem returns_children {visit : Expr → Walk Expr}
    (each : ∀ child ∈ node.children, ∀ middle : Recording,
      middle.context.setting = before.context.setting → Returns (visit child) child middle) :
    Returns (children visit node) node before := by
  have visited : Returns (node.children.mapM visit) node.children before := by
    let all (_ : List Expr) : Unit := ()
    have none : all [] = sourceless.idle := rfl
    refine (Account.charges_mapM none (fun _ _ => rfl) each).mono fun trees same => ?_
    exact List.forall₂_eq_eq_eq ▸ same.flip
  refine (Account.charges_children visited).mono ?_
  rintro tree ⟨_, rfl, supply, rfl⟩
  exact node.withChildren_children supply

theorem returns_inFrame {visit revisit : Expr → Walk Expr} (confined : registry.Confined)
    (plain : before.context.Plain node)
    (each : ∀ child ∈ node.children, ∀ middle : Recording,
      middle.context.setting = before.context.setting → Returns (visit child) child middle) :
    Returns (inFrame registry visit revisit node) node before := by
  rw [inFrame]
  refine (returns_normalize plain confined).bind fun first normal => ?_
  have plain := plain.of_setting normal
  refine returns_context (returns_context ?_)
  have unreferenced : first.context.binding.isReference = false := by
    rw [Binding.isReference, plain.unbound]
    rfl
  simp only [plain.under, Option.getD_some, unreferenced, descended, expansion, expandedOr,
    Bool.false_eq_true, if_false, pure_bind]
  have visited : Returns (children visit node) node first :=
    returns_children fun child below middle same => each child below middle (same.trans normal)
  refine visited.bind fun second same => ?_
  have plain := plain.of_setting same
  refine (returns_inspect plain fun hook member =>
    confined.inspectors hook (List.mem_reverse.mp member)).bind fun third same => ?_
  have plain := plain.of_setting same
  refine (returns_filtered plain confined.filters).bind fun last same => ?_
  exact returns_source (plain.of_setting same)

end Frame

/-- A visit with room enough for a tree leaves it as it is, by induction on the room. -/
theorem returns_visit {registry : Registry} (confined : registry.Confined) {room : Nat}
    {tree : Expr} (free : tree.hasDataReference = false) (high : tree.height ≤ room)
    (settled : before.context.Settled room) :
    Returns (visit registry room tree) tree before := by
  induction room generalizing tree before with
  | zero =>
    have positive := tree.height_pos
    omega
  | succ room ih =>
    refine returns_context ?_
    rw [settled.substitution? tree]
    obtain ⟨entered, pushed, plain, inside⟩ := settled.push free
    apply Account.charges_pushed sourceless_unstacked pushed
    refine returns_inFrame confined plain fun child below middle same => ?_
    have lower := Expr.height_lt_of_mem_children below
    exact ih (Expr.hasDataReference_child free below) (by omega) (inside.of_setting same)

end Walk

/-- A tree without data references is left as it is by hooks that act on references only. -/
theorem run_of_free {registry : Registry} (confined : registry.Confined) {tree : Expr}
    (free : tree.hasDataReference = false) (model : Model) (request : RequestContext)
    {maxDepth : Nat} (high : tree.height + 1 ≤ maxDepth) (ambient : Ambient) :
    ∃ after, run registry tree { model, request, maxDepth } ambient = (.ok tree, after) ∧
      after.context.root = none ∧ after.context.sourcingCalls = 0 := by
  obtain ⟨room, rfl⟩ : ∃ room, maxDepth = room + 1 := ⟨maxDepth - 1, by omega⟩
  let context : Context := { model, request, maxDepth := room + 1 }
  let entered : Context := { context with frames := [{}] }
  have settled : entered.Settled room := by
    refine ⟨fun frame member node shape => ?_, rfl, Nat.le_of_eq (Nat.add_comm ..)⟩
    cases List.mem_singleton.mp member
    contradiction
  have visited : Walk.Returns (Walk.visit registry room tree) tree
      { context := entered, ambient } :=
    Walk.returns_visit confined free (by omega) settled
  have walked : Walk.Returns (Walk.whole registry tree) tree { context, ambient } :=
    Walk.returns_context (Walk.Account.charges_pushed Walk.sourceless_unstacked rfl visited)
  rcases ran : (Walk.whole registry tree).run.run { context, ambient } with ⟨answer, after⟩
  unfold Walk.Returns Walk.Account.Charges Ends at walked
  rw [ran] at walked
  cases answer with
  | error error => contradiction
  | ok got =>
    obtain ⟨-, ⟨root, sourcings⟩, rfl⟩ := walked
    refine ⟨after.toState, congrArg (Prod.map id Recording.toState) ran, root, ?_⟩
    exact (Context.sourcingCalls_eq _).trans (congrArg List.length sourcings)

/-- Where hooks act on references only and the sourcer returns none, another walk of what a walk has
made of a query asks no sourcer, finds no root, and makes of it the very same tree. It need not be
allowed to go deeper than one frame more than the tree is high. -/
theorem stable_run (registry : Registry) (confined : registry.Confined)
    (clean : ∀ sourcer ∈ registry.sourcer, sourcer.ReferenceFree) (query : Expr) (model : Model)
    (request : RequestContext) (maxDepth : Nat) (ambient : Ambient) {tree : Expr}
    (ran : (run registry query { model, request, maxDepth } ambient).1 = .ok tree)
    (other : Model) (asking : RequestContext) (limit : Nat) (around : Ambient)
    (high : tree.height + 1 ≤ limit) :
    ∃ after, run registry tree { model := other, request := asking, maxDepth := limit } around =
        (.ok tree, after) ∧
      after.context.root = none ∧ after.context.sourcingCalls = 0 := by
  rw [(recorded_run registry query { model, request, maxDepth } ambient).1] at ran
  have free : tree.hasDataReference = false :=
    ((completion clean model request).keeps_of_ok Registry.vetted_nil (Prod.ext ran rfl)).2
  exact run_of_free confined free other asking high around

/-- The filtered orders of a store stay as they are, within just the frames that their tree takes.
-/
theorem orders_stable :
    let model : Model := {
      space := "shop"
      entityTypes := [("Order", { name := "Order", fields := [("open", { type := .bool })] })]
      elements := [("Orders", .collection "Orders" "Order")] }
    let store : Evaluation.Store := { collections := [("Orders", [])] }
    let opened : Access.CollectionFilter :=
      ⟨[("Orders", fun row => Fresh.member row "open" .bool)]⟩
    let orders : Expr := .source ⟨0, .queryable (.entity "Order")⟩ none "Orders" []
    ∃ tree after, (run { filters := [opened.hook], sourcer := some store.sourcer } orders
        { model, request := .ofCaller .service, maxDepth := 8 } { supply := ⟨1⟩ }).1 = .ok tree ∧
      run { filters := [opened.hook], sourcer := some store.sourcer } tree
        { model, request := .ofCaller .service, maxDepth := tree.height + 1 } {} =
          (.ok tree, after) ∧
      after.context.root = none ∧ after.context.sourcingCalls = 0 := by
  intro model store opened orders
  have succeeds : (run { filters := [opened.hook], sourcer := some store.sourcer } orders
      { model, request := .ofCaller .service, maxDepth := 8 } { supply := ⟨1⟩ }).1.isOk = true := by
    decide +kernel
  have confined :
      Registry.Confined { filters := [opened.hook], sourcer := some store.sourcer } := by
    refine ⟨List.forall_mem_nil _, List.forall_mem_nil _, List.forall_mem_singleton.mpr ?_⟩
    exact fun context node ambient _ unbound =>
      ⟨ambient, Access.CollectionFilter.filter_unbound unbound⟩
  have clean : ∀ sourcer ∈ some store.sourcer, sourcer.ReferenceFree := by
    rintro _ ⟨⟩
    exact Evaluation.Store.sourcer_referenceFree _
  obtain ⟨tree, last, ran⟩ := exists_of_isOk succeeds
  have ran := congrArg Prod.fst ran
  obtain ⟨after, again⟩ := stable_run _ confined clean orders model _ 8 _ ran model
    (.ofCaller .service) (tree.height + 1) {} (Nat.le_refl _)
  exact ⟨tree, after, ran, again⟩

end Rewriting

end QueryRewriting
