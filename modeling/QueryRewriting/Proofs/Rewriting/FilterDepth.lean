import QueryRewriting.Proofs.Expr.Levels
import QueryRewriting.Proofs.Rewriting.Resolution
import QueryRewriting.Proofs.Rewriting.Spending

/-! The depth that row filters need. What a filter offers for a reference is walked under two more
frames, an unbound one and that of the `where` call; meanwhile what the filters before have made
stands for the reference, and is not entered again. So a walk needs the frames of the filter that
needs most, and no more for any number of them. It sources each reference once. -/
namespace QueryRewriting.Rewriting

open Access Schema

/-- How many frames the walk of what a filter offers needs: one without a node, one for the call, and
those of the selector. -/
def Wrapping.levels : Wrapping → Nat
  | .wrap selector => selector.outerHeight + 2
  | .refuse | .leave => 0

/-- All selectors of a rule are without references. -/
def RowRule.ReferenceFree (rule : RowRule) : Prop :=
  ∀ target type selector, rule target type = .wrap selector → selector.hasDataReference = false

namespace Plan

open Walk

/-- How many frames the filters of a node need. -/
def below (plan : Plan) (e : Expr) : Nat :=
  match plan.role e with
  | .reference target type => (plan.rules.map fun rule => (rule target type).levels).foldr max 0
  | _ => 0

/-- A query can be resolved, and a limit allows the frames of the query and of its filters, and one
more. -/
structure Accepts (plan : Plan) (query : Expr) (maxDepth : Nat) : Prop where
  resolvable : (plan.resolve? [] query).isSome = true
  fits : query.levels plan.below + 1 ≤ maxDepth

/-- A registry of row filters and a sourcer realizes a plan without a root. Its filters build
selectors without references, and do not blame the depth. -/
structure FiltersAlone (plan : Plan) (registry : Registry) : Prop where
  realizes : plan.Realizes registry
  unrooted : plan.root = none
  uninspected : registry.inspectors = []
  free : ∀ rule ∈ plan.rules, RowRule.ReferenceFree rule
  frank : ∀ hook ∈ registry.filters, ∀ context ambient error after,
    (hook.run context).run.run ambient = (.error error, after) → error.isDepthExceeded = false

/-- So many frames may still be entered in the course of a plan. What stands for a reference is the
reference itself, or a tree without references. -/
structure Roomy (plan : Plan) (room : Nat) (context : Context) : Prop where
  model_eq : context.model = plan.model
  request_eq : context.request = plan.request
  room_eq : context.depth + room = context.maxDepth
  standing : ∀ entry ∈ context.substitutions, entry.1.isSource = true ∧
    (entry.2 = entry.1 ∨ entry.2.hasDataReference = false)

variable {plan : Plan} {registry : Registry} {before : Recording} {context : Context} {room : Nat}
  {node current : Expr} {target : DataReference} {type : QueryType}

theorem below_le_iff (role : plan.role node = .reference target type) :
    plan.below node ≤ room ↔ ∀ rule ∈ plan.rules, (rule target type).levels ≤ room := by
  unfold below
  rw [role]
  dsimp only
  generalize plan.rules = rules
  induction rules with
  | nil => simp
  | cons rule rest ih =>
    rw [List.map_cons, List.foldr_cons, Nat.max_le, ih, List.forall_mem_cons]

namespace Roomy

variable {earlier entered : Context}

theorem of_setting (roomy : plan.Roomy room earlier) (same : context.setting = earlier.setting) :
    plan.Roomy room context where
  model_eq := (congrArg (·.model) same : context.model = _).trans roomy.model_eq
  request_eq := (congrArg (·.request) same : context.request = _).trans roomy.request_eq
  room_eq := by
    have frames : context.frames = earlier.frames := congrArg (·.frames) same
    have limit : context.maxDepth = earlier.maxDepth := congrArg (·.maxDepth) same
    rw [Context.depth, frames, limit]
    exact roomy.room_eq
  standing := by
    have kept : context.substitutions = earlier.substitutions := congrArg (·.substitutions) same
    rw [kept]
    exact roomy.standing

theorem shallow (roomy : plan.Roomy (room + 1) context) : context.depth < context.maxDepth := by
  have room_eq := roomy.room_eq
  omega

theorem push {node : Option Expr} (roomy : plan.Roomy (room + 1) context)
    (pushed : context.push node = .ok entered) : plan.Roomy room entered := by
  obtain ⟨model_eq, request_eq, room_eq, standing⟩ := roomy
  have depth : entered.depth = context.depth + 1 := by
    cases node with
    | none =>
      cases Context.push_none pushed
      rfl
    | some node =>
      obtain ⟨binding, -, rfl⟩ := Context.push_some pushed
      rfl
  rw [Context.push_frames pushed] at depth ⊢
  refine ⟨model_eq, request_eq, ?_, standing⟩
  dsimp only at depth ⊢
  omega

theorem substitute (roomy : plan.Roomy room context) (source : node.isSource = true)
    (stands : current = node ∨ current.hasDataReference = false) :
    plan.Roomy room (context.substitute node current) :=
  ⟨roomy.model_eq, roomy.request_eq, roomy.room_eq,
    List.forall_mem_cons.mpr ⟨⟨source, stands⟩, roomy.standing⟩⟩

theorem unsubstituted (roomy : plan.Roomy room context) (plain : node.isSource = false) :
    context.substitution? node = none := by
  unfold Context.substitution?
  rw [Option.map_eq_none_iff, List.find?_eq_none]
  intro entry member same
  have source := (roomy.standing entry member).1
  rw [of_decide_eq_true same, plain] at source
  contradiction

end Roomy

/-- What is still to be sourced of a reference: the reference itself, until something else stands for
it. -/
def pending (node current : Expr) : List Expr := if current = node then [node] else []

theorem pending_self (node : Expr) : pending node node = [node] := if_pos rfl

section Source

variable (sourced : registry.sourcer = some plan.store.sourcer)

include sourced

/-- A reference in its frame is asked for once, and no sourcing is a matter of depth. -/
theorem spends_sourced (under : before.context.node? = some node)
    (here : before.context.binding = .reference target) :
    Spends (source registry node) [node] True (fun tree => tree.hasDataReference = false)
      before := by
  have refers : before.context.binding.reference? = some target := by rw [here]; rfl
  refine (plan.store.ends_source sourced under refers).mono ?_ ?_
  · rintro tree after served
    exact ⟨served.setting_eq, ⟨served.asked_eq under, trivial⟩, served.hasDataReference_eq⟩
  · intro error after unserved
    generalize before.context.root = root at unserved
    cases unserved with
    | missing | mistyped | foreign => rintro ⟨⟩

omit sourced in
theorem spends_settled
    (other : before.context.binding.reference? = none ∨ before.context.node? ≠ some current) :
    Spends (source registry current) [] True (fun tree => tree = current) before := by
  unfold Spends Account.Charges
  rw [ends_source_settled other]
  exact ⟨rfl, ⟨(List.append_nil _).symm, trivial⟩, rfl⟩

/-- What stands for a reference is sourced in the frame of the reference. -/
theorem spends_pending (under : before.context.node? = some node)
    (here : before.context.binding = .reference target)
    (stands : current = node ∨ current.hasDataReference = false) :
    Spends (source registry current) (pending node current) True
      (fun tree => tree.hasDataReference = false) before := by
  unfold pending
  split
  · next same =>
    subst same
    exact spends_sourced sourced under here
  · next other =>
    refine (spends_settled (.inr ?_)).mono ?_
    · rw [under]
      exact fun same => other (Option.some.inj same).symm
    · rintro tree rfl
      exact stands.resolve_left other

/-- A visit of a reference that something stands for needs one frame. -/
theorem spends_standing (roomy : plan.Roomy room before.context) (source : node.isSource = true)
    (found : before.context.substitution? node = some current) :
    Spends (visit registry room node) (pending node current) (1 ≤ room)
      (fun tree => tree.hasDataReference = false) before := by
  have stands : current = node ∨ current.hasDataReference = false := by
    obtain ⟨entry, first, rfl⟩ := Option.map_eq_some_iff.mp found
    have same : entry.1 = node := by simpa using List.find?_some first
    rw [← same]
    exact (roomy.standing entry (List.mem_of_find?_eq_some first)).2
  cases room with
  | zero => exact spends_tooDeep (Nat.not_succ_le_zero 0)
  | succ room =>
    refine Spends.congr ?_ (show True ↔ 1 ≤ room + 1 by simp)
    unfold Spends Account.Charges
    rw [ends_visit_substituted found]
    refine spends_nested roomy.shallow fun entered pushed => ?_
    obtain ⟨binding, frames, bound⟩ := Context.entered_some pushed
    have here := Context.binding_of_frames frames
    unfold pending
    split
    · next same =>
      subst same
      obtain ⟨target, rfl⟩ := Binding.ofNode_of_isSource source (Context.bindIn_ok bound)
      exact spends_sourced sourced (Context.node?_of_frames frames) here
    · next other =>
      have free := stands.resolve_left other
      have unbound := Context.unbound_of_bindIn bound (Expr.isSource_of_hasDataReference free)
      rw [← here] at unbound
      refine (spends_settled (.inl unbound)).mono ?_
      rintro tree rfl
      exact free

end Source

section Visits

theorem FiltersAlone.unnormalized (alone : plan.FiltersAlone registry) :
    registry.normalizers = [] := by
  rw [alone.realizes.normalizers, alone.unrooted]
  rfl

/-- Filters leave what is no reference alone. -/
theorem spends_unfiltered {revisit : Expr → Walk Expr} {filters : List TreeHook}
    {rules : List RowRule} (applies : List.Forall₂ plan.Applies filters rules)
    (roomy : plan.Roomy room before.context) (unbound : before.context.binding.reference? = none) :
    Spends (filtered revisit node filters current) [] True (fun tree => tree = current) before := by
  induction applies generalizing before with
  | nil => exact Account.charges_pure rfl
  | cons applies _ ih =>
    obtain ⟨ambient, run⟩ := applies.ignores roomy.model_eq roomy.request_eq unbound before.ambient
    refine (spends_consult (by simp) run nofun).bind_idle fun offered middle same idle => ?_
    cases idle
    refine ih (roomy.of_setting same) ?_
    rwa [Context.binding_of_setting same]

/-- Where so many frames may still be entered, visits need those of a tree and of its filters. The
references of the tree are sourced in turn if nothing else stands for them. -/
def Affords (plan : Plan) (room : Nat) (visit : Expr → Walk Expr) : Prop :=
  ∀ e before, plan.Roomy room before.context →
    (∀ entry ∈ before.context.substitutions, entry.1 ∉ e.outerReferences) →
    Spends (visit e) e.outerReferences (e.levels plan.below ≤ room)
      (fun tree => tree.hasDataReference = false) before

/-- Visits of what a filter offers need the frames of the selector and some more. What stands for the
reference is only sourced. -/
def Admits (plan : Plan) (room added : Nat) (visit : Expr → Walk Expr) : Prop :=
  ∀ node current stamp selector before, plan.Roomy room before.context →
    before.context.substitution? node = some current → node.isSource = true →
    selector.hasDataReference = false →
    Spends (visit (.call stamp .filter [node, selector])) (pending node current)
      (selector.outerHeight + added ≤ room) (fun tree => tree.hasDataReference = false) before

/-- A node that is no reference needs its frame and those of its children. -/
theorem spends_plain (alone : plan.FiltersAlone registry)
    (roomy : plan.Roomy (room + 1) before.context) (plain : node.isSource = false)
    {sourced : List Expr} {fits : Prop}
    (below : ∀ state : Recording, plan.Roomy room state.context →
      state.context.substitutions = before.context.substitutions →
      Spends (node.children.mapM (visit registry room)) sourced fits
        (List.Forall₂ (fun _ tree => tree.hasDataReference = false) node.children) state) :
    Spends (visit registry (room + 1) node) sourced fits
      (fun tree => tree.hasDataReference = false) before := by
  unfold Spends Account.Charges
  rw [ends_visit (roomy.unsubstituted plain)]
  refine spends_nested roomy.shallow fun entered pushed => ?_
  obtain ⟨binding, frames, bound⟩ := Context.entered_some pushed
  have unbound := Context.unbound_of_bindIn bound plain
  have unreferenced : binding.isReference = false := by simp [Binding.isReference, unbound]
  have inside := roomy.push pushed
  have still (state : Recording) (same : state.context.setting = entered.setting) :
      state.context.binding.reference? = none := by
    rw [Context.binding_of_setting same, Context.binding_of_frames frames, unbound]
  unfold Spends Account.Charges
  rw [ends_unhooked alone.unnormalized alone.uninspected alone.realizes.expanders frames,
    descended, unreferenced, if_neg Bool.false_ne_true]
  have kept : entered.substitutions = before.context.substitutions := by
    rw [Context.push_frames pushed]
  refine (spends_children plain (below _ inside kept)).andThen fun rewritten middle same free => ?_
  have within := inside.of_setting same
  refine Account.Charges.bind_idle
    (spends_unfiltered alone.realizes.filters within (still middle same))
    fun current after same' unchanged => ?_
  subst unchanged
  refine (spends_settled (.inl (still after (same'.trans same)))).mono ?_
  rintro tree rfl
  exact free

/-- The two frames of an offer: the call holds the reference, which needs one frame at most, and the
selector. -/
theorem admits_visit (alone : plan.FiltersAlone registry)
    (each : plan.Affords room (visit registry room)) :
    plan.Admits (room + 1) 1 (visit registry (room + 1)) := by
  intro node current stamp selector before roomy found source free
  have enough : 1 ≤ room ∧ selector.levels plan.below ≤ room ↔
      selector.outerHeight + 1 ≤ room + 1 := by
    have positive := selector.levels_pos plan.below
    rw [← Expr.levels_of_free plan.below free]
    omega
  refine (spends_plain alone roomy rfl fun state inside same => ?_).congr enough
  have found : state.context.substitution? node = some current := by
    rw [Context.substitution?_congr same, found]
  have first := spends_standing alone.realizes.sourcer inside source found
  have second (state : Recording) (inside : plan.Roomy room state.context) :
      Spends (visit registry room selector) [] (selector.levels plan.below ≤ room)
        (fun tree => tree.hasDataReference = false) state := by
    have unreferred := Expr.outerReferences_of_free selector free
    have visited := each selector state inside (by simp [unreferred])
    rwa [unreferred] at visited
  simp only [Expr.children, List.mapM_cons, List.mapM_nil, pure_bind]
  rw [← List.append_nil (pending node current)]
  refine first.bind fun filled middle same settled => ?_
  refine Account.Charges.andThen ?_ fun rest _ _ chosen =>
    Account.charges_pure (.cons settled chosen)
  exact (second middle (inside.of_setting same)).andThen fun chosen _ _ free =>
    Account.charges_pure (.cons free .nil)

theorem admits_revisit (admits : plan.Admits room 1 (visit registry room)) :
    plan.Admits (room + 1) 2 (revisit registry (room + 1)) := by
  intro node current stamp selector before roomy found source free
  unfold revisit
  refine Spends.congr ?_ Nat.succ_le_succ_iff.symm
  refine spends_nested roomy.shallow fun entered pushed => ?_
  refine admits node current stamp selector _ (roomy.push pushed) ?_ source free
  have kept : entered.substitutions = before.context.substitutions := by
    rw [Context.push_frames pushed]
  rw [Context.substitution?_congr kept, found]

/-- In the frame of a reference the filters are asked in turn, and the walk of each offer needs
frames of its own. The first offer sources the reference, since that stands for itself until then. -/
theorem spends_filters {revisit : Expr → Walk Expr} (admits : plan.Admits room 2 revisit)
    (sourced : registry.sourcer = some plan.store.sourcer)
    {filters : List TreeHook} {rules : List RowRule}
    (applies : List.Forall₂ plan.Applies filters rules)
    (free : ∀ rule ∈ rules, RowRule.ReferenceFree rule)
    (frank : ∀ hook ∈ filters, ∀ context ambient error after,
      (hook.run context).run.run ambient = (.error error, after) → error.isDepthExceeded = false)
    (roomy : plan.Roomy room before.context) (under : before.context.node? = some node)
    (here : before.context.binding = .reference target) (source : node.isSource = true)
    (stands : current = node ∨ current.hasDataReference = false) :
    Spends (filtered revisit node filters current >>= Walk.source registry) (pending node current)
      (∀ rule ∈ rules, (rule target node.type).levels ≤ room)
      (fun tree => tree.hasDataReference = false) before := by
  induction applies generalizing before current with
  | nil => exact (spends_pending sourced under here stands).congr (by simp)
  | @cons hook rule filters rules applies _ ih =>
    obtain ⟨freely, others⟩ := List.forall_mem_cons.mp free
    obtain ⟨frankly, franks⟩ := List.forall_mem_cons.mp frank
    have refers : before.context.binding.reference? = some target := by
      rw [here, Binding.reference?]
    obtain ⟨answer, ambient, run, answered⟩ :=
      applies.answers roomy.model_eq roomy.request_eq refers under before.ambient
    have rest (state : Recording) (same : state.context.setting = before.context.setting)
        {current : Expr} (stands : current = node ∨ current.hasDataReference = false) :
        Spends (filtered revisit node filters current >>= Walk.source registry)
          (pending node current) (∀ rule ∈ rules, (rule target node.type).levels ≤ room)
          (fun tree => tree.hasDataReference = false) state :=
      ih others franks (roomy.of_setting same)
        ((Context.node?_of_setting same).trans under)
        ((Context.binding_of_setting same).trans here) stands
    rw [filtered, bind_assoc]
    refine Spends.congr ?_ List.forall_mem_cons.symm
    refine (spends_consult (by simp) run ?_).bind_idle fun offered middle same offers => ?_
    · rintro error rfl
      exact frankly _ _ _ _ run
    cases ruled : rule target node.type with
    | refuse =>
      simp only [ruled] at answered
      obtain ⟨error, rfl⟩ := answered
      contradiction
    | leave =>
      simp only [ruled] at answered
      subst answered
      cases offers
      exact (rest middle same stands).congr (by simp [Wrapping.levels])
    | wrap selector =>
      simp only [ruled] at answered
      obtain ⟨stamp, lambda, typed, -, rfl, -, rfl⟩ := answered
      cases offers
      have settled : lambda.hasDataReference = false := by
        simpa using freely target node.type _ ruled
      dsimp only
      rw [if_neg (Expr.ne_selection stamp lambda source stands), bind_assoc]
      refine (spends_checkType _ _ _).bind_idle fun _ checked same' _ => ?_
      have same := same'.trans same
      rw [bind_assoc, ← List.append_nil (pending node current)]
      have inside := roomy.of_setting same
      -- The offer holds the reference itself, for which `current` stands while the offer is walked.
      have walked := admits node current stamp lambda
        { checked with context := checked.context.substitute node current }
        (inside.substitute source stands) (Context.substitution?_substitute node current) source
        settled
      rw [Wrapping.levels, Expr.outerHeight_erased]
      have offered := Account.charges_substituting spending_unstacked walked
      refine Spends.bind offered fun tree last same' free => ?_
      have unlike : tree ≠ node := by
        rintro rfl
        rw [Expr.hasDataReference_eq, source] at free
        contradiction
      have after := rest last (same'.trans same) (.inr free)
      rwa [pending, if_neg unlike] at after

theorem affords_reference (alone : plan.FiltersAlone registry)
    (admits : plan.Admits room 2 (revisit registry room))
    (roomy : plan.Roomy (room + 1) before.context) (source : node.isSource = true)
    (unsubstituted : before.context.substitution? node = none) :
    Spends (visit registry (room + 1) node) [node] (plan.below node ≤ room)
      (fun tree => tree.hasDataReference = false) before := by
  unfold Spends Account.Charges
  rw [ends_visit unsubstituted]
  refine spends_nested roomy.shallow fun entered pushed => ?_
  obtain ⟨binding, frames, bound⟩ := Context.entered_some pushed
  have inside := roomy.push pushed
  obtain ⟨target, rfl, role⟩ := role_of_bound inside.model_eq source bound
  unfold Spends Account.Charges
  rw [ends_unhooked alone.unnormalized alone.uninspected alone.realizes.expanders frames,
    descended, if_pos (show (Binding.reference target).isReference = true from rfl), pure_bind]
  refine Spends.congr ?_ (below_le_iff role).symm
  rw [← pending_self node]
  exact spends_filters admits alone.realizes.sourcer alone.realizes.filters alone.free alone.frank
    inside (Context.node?_of_frames frames) (Context.binding_of_frames frames) source (.inl rfl)

theorem affords_visit (alone : plan.FiltersAlone registry)
    (each : plan.Affords room (visit registry room))
    (admits : plan.Admits room 2 (revisit registry room)) :
    plan.Affords (room + 1) (visit registry (room + 1)) := by
  intro e before roomy unsubstituted
  cases shape : e.isSource with
  | true =>
    rw [Expr.outerReferences_of_isSource shape] at unsubstituted ⊢
    rw [Expr.levels_of_isSource shape]
    refine (affords_reference alone admits roomy shape ?_).congr Nat.succ_le_succ_iff.symm
    unfold Context.substitution?
    rw [Option.map_eq_none_iff, List.find?_eq_none]
    intro entry member same
    exact unsubstituted entry member (List.mem_singleton.mpr (of_decide_eq_true same))
  | false =>
    rw [Expr.outerReferences_eq shape] at unsubstituted ⊢
    refine Spends.congr ?_ (Expr.levels_le_succ_iff shape).symm
    refine spends_plain alone roomy shape fun state inside kept => ?_
    refine spends_mapM fun child member state' same => ?_
    refine each child state' (inside.of_setting same) ?_
    have kept' : state'.context.substitutions = state.context.substitutions :=
      congrArg (·.substitutions) same
    rw [kept', kept]
    intro entry listed inner
    exact unsubstituted entry listed (List.mem_flatMap.mpr ⟨child, member, inner⟩)

/-- By induction on the frames that may still be entered. -/
theorem affords_walk (alone : plan.FiltersAlone registry) (room : Nat) :
    plan.Affords room (visit registry room) ∧ plan.Admits room 1 (visit registry room) ∧
      plan.Admits room 2 (revisit registry room) := by
  induction room with
  | zero =>
    refine ⟨fun e before _ _ => spends_tooDeep ?_, fun _ _ _ _ _ _ _ _ _ => spends_tooDeep ?_,
      fun _ _ _ _ _ _ _ _ _ => spends_tooDeep ?_⟩
    · exact Nat.not_le_of_lt (e.levels_pos plan.below)
    · exact Nat.not_succ_le_zero _
    · exact Nat.not_succ_le_zero _
  | succ room ih =>
    obtain ⟨each, admits, again⟩ := ih
    exact ⟨affords_visit alone each again, admits_visit alone each, admits_revisit admits⟩

end Visits

/-- A walk of a query with row filters alone. -/
theorem spends_whole (alone : plan.FiltersAlone registry) (query : Expr) (maxDepth : Nat)
    (ambient : Ambient) :
    Spends (whole registry query) query.outerReferences (query.levels plan.below + 1 ≤ maxDepth)
      (fun tree => tree.hasDataReference = false)
      { context := { model := plan.model, request := plan.request, maxDepth }, ambient } := by
  unfold Spends Account.Charges
  rw [ends_whole]
  cases maxDepth with
  | zero => exact spends_tooDeep (Nat.not_succ_le_zero _)
  | succ room =>
    have start : plan.Roomy (room + 1)
        { model := plan.model, request := plan.request, maxDepth := room + 1 } :=
      ⟨rfl, rfl, Nat.zero_add _, nofun⟩
    refine Spends.congr ?_ Nat.succ_le_succ_iff.symm
    refine spends_nested start.shallow fun entered pushed => ?_
    refine (affords_walk alone room).1 query _ (start.push pushed) ?_
    rw [Context.push_frames pushed]
    exact fun entry => nofun

/-- With row filters alone a walk succeeds exactly where the plan accepts the query. -/
theorem isOk_run_iff (alone : plan.FiltersAlone registry) (query : Expr) (maxDepth : Nat)
    (ambient : Ambient) :
    (run registry query { model := plan.model, request := plan.request, maxDepth }
      ambient).1.isOk = true ↔ plan.Accepts query maxDepth := by
  have resolves := run_resolves alone.realizes query maxDepth ambient
  have spends := spends_whole alone query maxDepth ambient
  have passes : plan.Passes registry query := by
    unfold Passes
    rw [alone.uninspected]
    exact fun hook => nofun
  rcases ran : run registry query { model := plan.model, request := plan.request, maxDepth } ambient
    with ⟨error | tree, after⟩ <;> rw [ran] at resolves
  all_goals obtain ⟨inquiries, recorded⟩ := recorded_of_run ran
  · refine iff_of_false nofun ?_
    rintro ⟨resolvable, fit⟩
    cases resolves resolvable passes
    exact Ends.failed_of_error spends recorded rfl fit
  · obtain ⟨-, ⟨-, fit⟩, -⟩ := Ends.done_of_ok spends recorded
    exact iff_of_true rfl ⟨Option.isSome_of_eq_some resolves.1, fit⟩

/-- What such a walk comes to: the tree and the collection of the plan, and each reference of the
query sourced in its turn. -/
theorem outcome_of_run (alone : plan.FiltersAlone registry) {query : Expr} {maxDepth : Nat}
    {ambient : Ambient} {tree : Expr} {after : State}
    (ran : run registry query { model := plan.model, request := plan.request, maxDepth } ambient =
      (.ok tree, after)) :
    plan.resolve? [] query = some tree.erased ∧
      after.context.collection = plan.collected [] query none ∧
      after.context.asked = query.outerReferences.map some := by
  have resolves := run_resolves alone.realizes query maxDepth ambient
  rw [ran] at resolves
  obtain ⟨inquiries, ran⟩ := recorded_of_run ran
  have spends := Ends.done_of_ok (spends_whole alone query maxDepth ambient) ran
  exact ⟨resolves.1, resolves.2, spends.2.1.1⟩

end Plan

end QueryRewriting.Rewriting
