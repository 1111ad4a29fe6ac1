import QueryRewriting.Evaluation.Backend
import QueryRewriting.Proofs.Access.Inlining
import QueryRewriting.Proofs.Rewriting.Abreast

/-! Hooks that two walks ask about nodes that match. Read authorizers judge such nodes alike, and a
store hands out the same fragment for such references, so the walks inspect and source them alike. -/
namespace QueryRewriting.Access

open Schema Rewriting Walk Evaluation
open Views (Composed)

/-- Two registries over a store, with the same read authorizers and without expanders, the hooks of
which only give identities out. -/
structure Akin (store : Store) (registry registry' : Registry) : Prop where
  inspectors : registry'.inspectors = registry.inspectors
  judges : ∀ hook ∈ registry.inspectors, ∃ authorizer : ReadAuthorizer, hook = authorizer.hook
  expanders : registry.expanders = []
  expanders' : registry'.expanders = []
  sourcer : registry.sourcer = some store.sourcer
  sourcer' : registry'.sourcer = some store.sourcer
  drifts : registry.Drifts issuing
  drifts' : registry'.Drifts issuing

/-- What two filters offer for nodes that match: nothing, or for references the rows that they pick
out by new lambdas of some kind. -/
inductive Offers (selects : Expr → Expr → Prop) (e e' : Expr)
    (before before' after after' : NodeSupply) : Option Expr → Option Expr → Prop
  | none : Offers selects e e' before before' after after' none none
  | some {stamp stamp' : Stamp} {lambda lambda' : Expr} (source : e.isSource = true)
      (typed : stamp.type = e.type) (typed' : stamp'.type = e'.type)
      (selectors : selects lambda lambda') (composed : Composed [] before lambda after)
      (composed' : Composed [] before' lambda' after') :
      Offers selects e e' before before' after after' (some (.call stamp .filter [e, lambda]))
        (some (.call stamp' .filter [e', lambda']))

/-- Two filters select alike from references that match. -/
def SelectsAlike (selects : Expr → Expr → Prop) (filter filter' : TreeHook) : Prop :=
  ∀ e e' context other, Matching e e' context other → ∀ ambient ambient',
    Lockstep (filter.run context) (filter'.run other)
      (fun answer answer' after after' => Offers selects e e' ambient.supply ambient'.supply
        after.supply after'.supply answer answer')
      ambient ambient'

section Contexts

variable {e e' : Expr} {context other : Context}

/-- References to one source read from the same collection. -/
theorem reading?_alike (matching : Matching e e' context other) (source : e.isSource = true) :
    ∃ target args collection, context.binding = .reference target ∧
      other.binding = .reference { target with args } ∧
      context.reading? = some (target, collection) ∧
      other.reading? = some ({ target with args }, collection) := by
  obtain ⟨target, args, bound, bound'⟩ := matching.references source
  refine ⟨target, args, ((Binding.reference target).owner? context.model).getD target.name,
    bound, bound', ?_, ?_⟩
  · unfold Context.reading?
    rw [bound]
    rfl
  · unfold Context.reading?
    rw [bound', matching.model]
    rfl

theorem reading?_of_plain (framed : context.Framed e) (plain : e.isSource = false) :
    context.reading? = none := by
  unfold Context.reading?
  rw [framed.reference?_of_plain plain]
  rfl

theorem rowType?_alike (matching : Matching e e' context other) (source : e.isSource = true) :
    rowType? other = rowType? context := by
  obtain ⟨target, args, bound, bound'⟩ := matching.references source
  unfold rowType?
  rw [bound, bound', matching.framed.node?, matching.framed'.node?]
  simp only [Option.bind_eq_bind, Option.bind_some, matching.type_eq]
  rfl

/-- A read authorizer judges nodes that match alike. -/
theorem ReadAuthorizer.inspect_alike (authorizer : ReadAuthorizer)
    (matching : Matching e e' context other) :
    authorizer.inspect other = authorizer.inspect context := by
  unfold ReadAuthorizer.inspect
  cases source : e.isSource with
  | true =>
    obtain ⟨target, args, collection, -, -, reads, reads'⟩ := reading?_alike matching source
    rw [reads, reads', matching.request]
  | false =>
    rw [reading?_of_plain matching.framed source,
      reading?_of_plain matching.framed' (matching.isSource_eq ▸ source)]

end Contexts

section Steps

variable {store : Store} {registry registry' : Registry} {e e' current current' : Expr}
  {before before' after after' : Recording}

theorem matching_of_idle (matching : Matching e e' before.context before'.context)
    (idle : Idle before after) (idle' : Idle before' after') :
    Matching e e' after.context after'.context :=
  matching.of_setting idle.setting idle'.setting (matching.toFoundAlike.of_idle idle idle')

/-- Read authorizers pass or reject nodes that match alike. -/
theorem inspect_lockstep {inspectors : List (Hook Bool)}
    (judges : ∀ hook ∈ inspectors, ∃ authorizer : ReadAuthorizer, hook = authorizer.hook)
    (matching : Matching e e' before.context before'.context) :
    Lockstep (Walk.inspect e inspectors) (Walk.inspect e' inspectors)
      (fun _ _ after after' => Idle before after ∧ Idle before' after') before before' := by
  induction inspectors generalizing before before' with
  | nil => exact ⟨.refl _, .refl _⟩
  | cons hook rest ih =>
    obtain ⟨⟨authorizer, rfl⟩, others⟩ := List.forall_mem_cons.mp judges
    have asked : Matching e e' (before.context.consulting .inspect authorizer.hook.name)
        (before'.context.consulting .inspect authorizer.hook.name) :=
      matching.of_setting rfl rfl ⟨matching.root, matching.collection⟩
    have answered : Lockstep
        (authorizer.hook.run (before.context.consulting .inspect authorizer.hook.name))
        (authorizer.hook.run (before'.context.consulting .inspect authorizer.hook.name))
        (fun passes passes' _ _ => passes' = passes ∧
          passes = authorizer.inspect (before.context.consulting .inspect authorizer.hook.name))
        before.ambient before'.ambient :=
      ⟨authorizer.inspect_alike asked, rfl⟩
    unfold Walk.inspect
    apply (lockstep_consult answered).bind
    rintro passes passes' after after' ⟨⟨same, judged⟩, idle, idle'⟩
    subst same
    have still := matching_of_idle matching idle idle'
    cases passes' with
    | true =>
      apply (ih others still).mono
      rintro - - last last' ⟨later, later'⟩
      exact ⟨idle.trans later, idle'.trans later'⟩
    | false =>
      have source : e.isSource = true := by
        cases plain : e.isSource with
        | true => rfl
        | false =>
          unfold ReadAuthorizer.inspect at judged
          rw [reading?_of_plain asked.framed plain] at judged
          contradiction
      have same : subject after'.context e' = subject after.context e := by
        obtain ⟨target, args, bound, bound'⟩ := still.references source
        unfold subject
        rw [bound, bound']
        rfl
      simp only [Bool.false_eq_true, if_false]
      rw [lockstep_context, same]
      exact (lockstep_event _ _).bind fun _ _ _ _ _ => lockstep_throw _

/-- What a store hands out for corresponding references: nothing, or the same native fragment. -/
inductive Sourced (store : Store) (target : DataReference) :
    SourceMode → Option Expr → Option Expr → Prop
  | missing (mode : SourceMode) : Sourced store target mode none none
  | root (outer outer' : Stamp) (inner inner' : NodeId) :
      Sourced store target .root
        (some (.queryable outer store.proxy target.logicalType.elementOrSelf
          (.native ⟨inner, target.logicalType⟩ store.proxy target.name)))
        (some (.queryable outer' store.proxy target.logicalType.elementOrSelf
          (.native ⟨inner', target.logicalType⟩ store.proxy target.name)))
  | embedded (inner inner' : NodeId) :
      Sourced store target .embedded
        (some (.native ⟨inner, target.logicalType⟩ store.proxy target.name))
        (some (.native ⟨inner', target.logicalType⟩ store.proxy target.name))

theorem sourcer_lockstep {context other : Context} {target : DataReference} {args : List Expr}
    (refers : context.binding = .reference target)
    (refers' : other.binding = .reference { target with args }) (mode : SourceMode)
    (ambient ambient' : Ambient) :
    Lockstep (store.source mode context) (store.source mode other)
      (fun answer answer' _ _ => Sourced store target mode answer answer') ambient ambient' := by
  have refers : context.binding.reference? = some target := by rw [refers]; rfl
  have refers' : other.binding.reference? = some { target with args } := by rw [refers']; rfl
  unfold Lockstep
  by_cases served : target.element.isFunction = false ∧ store.contains target.name = true
  · obtain ⟨proper, stored⟩ := served
    cases mode with
    | root =>
      obtain ⟨outer, inner, after, answer⟩ := store.source_root refers proper stored ambient
      obtain ⟨outer', inner', after', answer'⟩ := store.source_root refers' proper stored ambient'
      rw [answer, answer']
      exact .root outer outer' inner inner'
    | embedded =>
      obtain ⟨inner, after, answer⟩ := store.source_embedded refers proper stored ambient
      obtain ⟨inner', after', answer'⟩ := store.source_embedded refers' proper stored ambient'
      rw [answer, answer']
      exact .embedded inner inner'
  · rw [store.source_missing mode refers served, store.source_missing mode refers' served]
    exact .missing mode

/-- The same native fragment has been taken for references that match. -/
structure Taken (tree tree' : Expr) (after after' : Recording) : Prop where
  native : ∃ type proxy name inner inner', tree = .native ⟨inner, type⟩ proxy name ∧
    tree' = .native ⟨inner', type⟩ proxy name
  found : FoundAlike after.context after'.context

section Sourcing

variable (matching : Matching e e' before.context before'.context)

include matching

/-- References that match are sourced alike if they still stand for themselves: the first one as the
root. -/
theorem sourced_lockstep (sourcer : registry.sourcer = some store.sourcer)
    (sourcer' : registry'.sourcer = some store.sourcer) (source : e.isSource = true) :
    Lockstep (Walk.source registry e) (Walk.source registry' e') Taken before before' := by
  obtain ⟨target, args, refers, refers'⟩ := matching.references source
  unfold Walk.source
  rw [lockstep_context]
  simp only [refers, refers', Binding.reference?, matching.framed.node?, matching.framed'.node?,
    sourcer, sourcer', if_true]
  have answered (mode : SourceMode) : Lockstep
      (store.source mode (before.context.consulting (.source mode) store.sourcer.name))
      (store.source mode (before'.context.consulting (.source mode) store.sourcer.name))
      (fun answer answer' _ _ => Sourced store target mode answer answer') before.ambient
      before'.ambient :=
    sourcer_lockstep refers refers' mode _ _
  have proxies := matching.root
  cases rooted : before.context.root with
  | none =>
    cases rooted' : before'.context.root with
    | some => simp [rooted, rooted'] at proxies
    | none =>
      simp only [Option.isNone_none, if_true]
      apply (lockstep_consult (answered .root)).bind
      rintro answer answer' after after' ⟨sourced, idle, idle'⟩
      cases sourced with
      | missing => exact lockstep_throw _
      | root outer outer' inner inner' =>
        unfold takeRoot
        apply (lockstep_checkType _ matching.type_eq rfl).bind
        rintro - - _ _ ⟨rfl, rfl⟩
        apply (lockstep_event _ _).bind
        rintro - - last last' ⟨still, still'⟩
        have found := matching.toFoundAlike.of_idle (idle.trans still) (idle'.trans still')
        exact ⟨⟨_, _, _, _, _, rfl, rfl⟩, rfl, found.collection⟩
  | some root =>
    cases rooted' : before'.context.root with
    | none => simp [rooted, rooted'] at proxies
    | some root' =>
      have proxies : root'.proxy = root.proxy := by simpa [rooted, rooted'] using proxies
      simp only [Option.isNone_some, Bool.false_eq_true, if_false]
      apply (lockstep_consult (answered .embedded)).bind
      rintro answer answer' after after' ⟨sourced, idle, idle'⟩
      cases sourced with
      | missing => exact lockstep_throw _
      | embedded inner inner' =>
        unfold takeFragment
        rw [proxies]
        apply (lockstep_checkEmbedded target.name rfl rfl).bind
        rintro - - _ _ ⟨rfl, rfl⟩
        apply (lockstep_checkType _ matching.type_eq rfl).bind
        rintro - - _ _ ⟨rfl, rfl⟩
        apply (lockstep_event _ _).bind
        rintro - - last last' ⟨still, still'⟩
        exact ⟨⟨_, _, _, _, _, rfl, rfl⟩,
          matching.toFoundAlike.of_idle (idle.trans still) (idle'.trans still')⟩

/-- What is no reference is not sourced. -/
theorem unsourced_lockstep (plain : current.isSource = false) (plain' : current'.isSource = false) :
    Lockstep (Walk.source registry current) (Walk.source registry' current')
      (fun tree tree' after after' => (tree = current ∧ tree' = current') ∧
        after = before ∧ after' = before') before before' := by
  unfold Walk.source
  rw [lockstep_context, matching.framed.node?, matching.framed'.node?]
  cases source : e.isSource with
  | false =>
    rw [matching.framed.reference?_of_plain source,
      matching.framed'.reference?_of_plain (matching.isSource_eq ▸ source)]
    exact ⟨⟨rfl, rfl⟩, rfl, rfl⟩
  | true =>
    have apart : some e ≠ some current := by
      rintro ⟨⟩
      rw [source] at plain
      contradiction
    have apart' : some e' ≠ some current' := by
      rintro ⟨⟩
      rw [← matching.isSource_eq, source] at plain'
      contradiction
    obtain ⟨target, args, refers, refers'⟩ := matching.references source
    simp only [refers, refers', Binding.reference?, apart, apart', if_false]
    exact ⟨⟨rfl, rfl⟩, rfl, rfl⟩

end Sourcing

end Steps

end QueryRewriting.Access
