import QueryRewriting.Evaluation.Backend
import QueryRewriting.Proofs.Request.Drift
import QueryRewriting.Proofs.Rewriting.Sourcing

/-! What the sourcer of a store answers: fragments of its own for stored collections and singletons,
which hold no data reference, and nothing for everything else. So a walk gets the fragment for a
reference if it is of an acceptable type and fits the root. -/
namespace QueryRewriting

/-- A sourcer whose root queries and fragments hold no data reference. -/
def Rewriting.Sourcer.ReferenceFree (sourcer : Rewriting.Sourcer) : Prop :=
  ∀ mode context ambient tree after,
    (sourcer.run mode context).run.run ambient = (.ok (some tree), after) →
    match mode, tree with
    | .root, .queryable _ _ _ expression => expression.hasDataReference = false
    | .root, _ => True
    | .embedded, fragment => fragment.hasDataReference = false

namespace Evaluation.Store

open Rewriting

variable (store : Store) {context : Context} {target : DataReference}

theorem source_root (refers : context.binding.reference? = some target)
    (proper : target.element.isFunction = false) (stored : store.contains target.name = true)
    (ambient : Ambient) :
    ∃ outer inner after, (store.source .root context).run.run ambient =
      (.ok (some (.queryable outer store.proxy target.logicalType.elementOrSelf
        (.native ⟨inner, target.logicalType⟩ store.proxy target.name))), after) := by
  unfold source
  rw [refers]
  simp only [proper, stored, Bool.not_true, Bool.or_self, Bool.false_eq_true, if_false]
  exact ⟨_, _, _, rfl⟩

theorem source_embedded (refers : context.binding.reference? = some target)
    (proper : target.element.isFunction = false) (stored : store.contains target.name = true)
    (ambient : Ambient) :
    ∃ inner after, (store.source .embedded context).run.run ambient =
      (.ok (some (.native ⟨inner, target.logicalType⟩ store.proxy target.name)), after) := by
  unfold source
  rw [refers]
  simp only [proper, stored, Bool.not_true, Bool.or_self, Bool.false_eq_true, if_false]
  exact ⟨_, _, rfl⟩

theorem source_missing (mode : SourceMode) (refers : context.binding.reference? = some target)
    (missing : ¬(target.element.isFunction = false ∧ store.contains target.name = true))
    (ambient : Ambient) : (store.source mode context).run.run ambient = (.ok none, ambient) := by
  have refused : (target.element.isFunction || !store.contains target.name) = true := by
    cases proper : target.element.isFunction <;> simp_all
  unfold source
  rw [refers]
  simp only [refused, if_true]
  rfl

theorem source_drifts (mode : SourceMode) (context : Context) :
    (store.source mode context).Drifts issuing := by
  unfold source
  split
  · exact Act.drifts_pure _
  · split
    · exact Act.drifts_pure _
    · refine (Act.drifts_build ?_).map _
      intro supply
      cases mode with
      | root => exact Nat.le_add_right supply.next 2
      | embedded => exact Nat.le_succ supply.next

/-- All that a store answers with is its fragment for the reference of the frame, and a query over
the fragment where the root is asked for. -/
theorem answer_of_source {mode : SourceMode} {ambient after : Ambient} {sourced : Expr}
    (ran : (store.source mode context).run.run ambient = (.ok (some sourced), after)) :
    ∃ target id, context.binding.reference? = some target ∧ target.element.isFunction = false ∧
      match mode with
      | .root => ∃ stamp, sourced = .queryable stamp store.proxy target.logicalType.elementOrSelf
          (.native ⟨id, target.logicalType⟩ store.proxy target.name)
      | .embedded => sourced = .native ⟨id, target.logicalType⟩ store.proxy target.name := by
  cases refers : context.binding.reference? with
  | none =>
    unfold source at ran
    rw [refers] at ran
    cases ran
  | some target =>
    by_cases served : target.element.isFunction = false ∧ store.contains target.name = true
    · obtain ⟨proper, stored⟩ := served
      cases mode with
      | root =>
        obtain ⟨outer, inner, later, answer⟩ := source_root store refers proper stored ambient
        rw [answer] at ran
        cases ran
        exact ⟨target, inner, rfl, proper, outer, rfl⟩
      | embedded =>
        obtain ⟨inner, later, answer⟩ := source_embedded store refers proper stored ambient
        rw [answer] at ran
        cases ran
        exact ⟨target, inner, rfl, proper, rfl⟩
    · rw [source_missing store mode refers served] at ran
      cases ran

theorem sourcer_referenceFree : store.sourcer.ReferenceFree := by
  intro mode context ambient tree after ran
  obtain ⟨target, id, -, -, answer⟩ := store.answer_of_source ran
  cases mode with
  | root =>
    obtain ⟨stamp, rfl⟩ := answer
    rfl
  | embedded =>
    cases answer
    rfl

/-- A tree is the fragment that a store serves for the reference of a node. The context is as it was
but for the consultation, and its root belongs to the store if it is a new one. -/
structure Served (target : DataReference) (node : Expr) (before : Context) (tree : Expr)
    (after : Context) : Prop where
  shape : ∃ id, tree = .native ⟨id, target.logicalType⟩ store.proxy target.name
  proper : target.element.isFunction = false
  stored : store.contains target.name = true
  accepted : node.type.accepts target.logicalType = true
  onward : ∃ mode root, after = { before.consulting (.source mode) store.sourcer.name with root } ∧
    ∀ found, root = some found → found.proxy = store.proxy ∨ before.root = some found

/-- Why the reference of a node is not served next to a root. -/
inductive Unserved (target : DataReference) (node : Expr) : Option Root → Rewriting.Error → Prop
  | missing {root : Option Root} :
    ¬(target.element.isFunction = false ∧ store.contains target.name = true) →
    Unserved target node root (.unsupported (.notSourced store.sourcer.name target.name))
  | mistyped {root : Option Root} : node.type.accepts target.logicalType = false →
    Unserved target node root (.typeMismatch store.sourcer.name node.type target.logicalType)
  | foreign {root : Root} : store.proxy ≠ root.proxy →
    Unserved target node (some root) (.badSource (.foreignProxy target.name))

section Serving

variable {store} {registry : Registry} {before : Recording} {node tree : Expr} {after : Context}

theorem Served.setting_eq (served : store.Served target node context tree after) :
    after.setting = context.setting := by
  obtain ⟨mode, root, rfl, -⟩ := served.onward
  rfl

theorem Served.collection_eq (served : store.Served target node context tree after) :
    after.collection = context.collection := by
  obtain ⟨mode, root, rfl, -⟩ := served.onward
  rfl

theorem Served.asked_eq (served : store.Served target node context tree after)
    (under : context.node? = some node) :
    after.asked = context.asked ++ [some node] := by
  obtain ⟨mode, root, rfl, -⟩ := served.onward
  rw [← under]
  exact Context.asked_sourcing mode _

theorem Served.erased_eq (served : store.Served target node context tree after) :
    tree.erased = .native (.anonymous target.logicalType) store.proxy target.name := by
  obtain ⟨id, rfl⟩ := served.shape
  rfl

theorem Served.hasDataReference_eq (served : store.Served target node context tree after) :
    tree.hasDataReference = false := by
  obtain ⟨id, rfl⟩ := served.shape
  rfl

/-- The reference of a frame is sourced as what the store serves for it. Otherwise it is not served,
and the error says why. -/
theorem ends_source (sourced : registry.sourcer = some store.sourcer)
    (under : before.context.node? = some node)
    (refers : before.context.binding.reference? = some target) :
    Ends (Walk.source registry node)
      (fun tree after => store.Served target node before.context tree after.context)
      (fun error _ => store.Unserved target node before.context.root error) before := by
  have asked (mode : SourceMode) : (before.context.consulting (.source mode)
      (store.sourcer.hook mode).name).binding.reference? = some target := refers
  unfold Walk.source
  rw [ends_bind, Walk.ends_context, refers, under, sourced]
  simp only [if_true]
  by_cases served : target.element.isFunction = false ∧ store.contains target.name = true
  · obtain ⟨proper, stored⟩ := served
    cases taken : before.context.root with
    | none =>
      obtain ⟨stamp, id, after, answer⟩ :=
        store.source_root (asked .root) proper stored before.ambient
      rw [Option.isNone_none, if_pos rfl, ends_bind, Walk.ends_consult_of_run answer]
      dsimp only [Walk.takeRoot]
      rw [ends_bind, Walk.ends_checkType]
      split
      · next accepted =>
        refine ⟨⟨id, rfl⟩, proper, stored, accepted, .root, _, rfl, ?_⟩
        rintro found ⟨⟩
        exact .inl rfl
      · next refused => exact .mistyped (Bool.eq_false_iff.mpr refused)
    | some root =>
      obtain ⟨id, after, answer⟩ :=
        store.source_embedded (asked .embedded) proper stored before.ambient
      rw [Option.isNone_some, if_neg Bool.false_ne_true, ends_bind,
        Walk.ends_consult_of_run answer]
      dsimp only [Walk.takeFragment, Walk.checkEmbedded]
      rw [if_neg (by simp [Expr.isQueryable]), ends_bind]
      split
      · next foreign =>
        exact .foreign (by simpa [Expr.hasNode, Walk.checkEmbedded.foreign] using foreign)
      · rw [ends_pure, ends_bind, Walk.ends_checkType]
        split
        · next accepted =>
          exact ⟨⟨id, rfl⟩, proper, stored, accepted, .embedded, _, rfl, fun _ found => .inr found⟩
        · next refused => exact .mistyped (Bool.eq_false_iff.mpr refused)
  · have answer (mode : SourceMode) := store.source_missing mode (asked mode) served before.ambient
    rw [ends_bind, Walk.ends_consult_of_run (answer _)]
    exact .missing served

end Serving

end Evaluation.Store

end QueryRewriting
