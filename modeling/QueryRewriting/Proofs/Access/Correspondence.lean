import QueryRewriting.Proofs.Access.Matching
import QueryRewriting.Proofs.Access.ViewExpansion

/-! Two walks over trees that correspond. A correspondence says at which nodes the walks may be side
by side, in which contexts, and what they may make of these nodes. Its laws are about one node each,
and that the walks keep in step is proved once, along the recursion of the visits. -/
namespace QueryRewriting.Access

open Schema Rewriting Walk Evaluation
open Views (Clear Composed Keyed)

/-- A node that exists if it is a reference, as do those that are substituted. -/
structure Existing (model : Model) (e : Expr) (state : Recording) : Prop
    extends Keyed model state where
  issued : e.isSource = true → e.id < state.ambient.supply.next

/-- What has become of two nodes so far: references are still what they are, or nothing of the kind
is left. -/
def Standing (e e' current current' : Expr) : Prop :=
  (e.isSource = true ∧ current = e ∧ current' = e') ∨
    (current.hasDataReference = false ∧ current'.hasDataReference = false)

/-- What normalizers make of two nodes: nothing if both or none of them are references, or else the
reference to a source of one of them or of both. -/
inductive NormalForms (pairs : Expr → Expr → Prop) (model : Model) (e e' : Expr)
    (after after' : NodeSupply) : Option Expr → Option Expr → Prop
  | kept (settled : e.isSource = e'.isSource) : NormalForms pairs model e e' after after' none none
  | both {name : String} {element : Element} {id id' : NodeId} (plain : e.isLambda = false)
      (found : model.resolve? none name = some element) (issued : id < after.next)
      (issued' : id' < after'.next)
      (alike : pairs (.source ⟨id, element.logicalType⟩ none name [])
        (.source ⟨id', element.logicalType⟩ none name [])) :
      NormalForms pairs model e e' after after'
        (some (.source ⟨id, element.logicalType⟩ none name []))
        (some (.source ⟨id', element.logicalType⟩ none name []))
  | first {name : String} {element : Element} {id : NodeId} (plain : e.isLambda = false)
      (source' : e'.isSource = true) (found : model.resolve? none name = some element)
      (issued : id < after.next)
      (alike : pairs (.source ⟨id, element.logicalType⟩ none name []) e') :
      NormalForms pairs model e e' after after'
        (some (.source ⟨id, element.logicalType⟩ none name [])) none

section Existing

variable {model : Model} {e : Expr} {before after : Recording}

theorem Existing.onward (existing : Existing model e before) (onward : Onward before after) :
    Existing model e after where
  toKeyed := existing.toKeyed.onward onward
  issued := fun source => Nat.lt_of_lt_of_le (existing.issued source) onward.issued

/-- A reference with an identity may take the frame of a node over. -/
theorem Existing.reframed {node : Expr} {replaced : Context} (existing : Existing model e before)
    (onward : Onward before after) (issued : node.id < after.ambient.supply.next)
    (reframed : after.context.Reframed node replaced) :
    Existing model node { after with context := replaced } := by
  have keyed := existing.toKeyed.onward onward
  refine ⟨?_, fun _ => issued⟩
  rw [reframed.frames_only]
  exact ⟨keyed.modelled, keyed.keys⟩

theorem Existing.entered {node : Option Expr} {entered : Context}
    (existing : Existing model e before) (pushed : before.context.push node = .ok entered) :
    Existing model e { before with context := entered } :=
  ⟨existing.toKeyed.entered pushed, existing.issued⟩

theorem existing_of_clear (clear : Clear model e before) : Existing model e before where
  toKeyed := clear.toKeyed
  issued := fun _ => clear.issued.id_lt

/-- Nothing is substituted in a new selector, while a node stands for another one. -/
theorem clear_selector {lambda : Expr}
    (composed : Composed [] before.ambient.supply lambda after.ambient.supply)
    (existing : Existing model e before) (source : e.isSource = true)
    (onward : Onward before after) (current : Expr) :
    Clear model lambda { after with context := after.context.substitute e current } := by
  let start : Recording := { before with context := before.context.substitute e current }
  have keyed : Keyed model start :=
    existing.toKeyed.substitute source (existing.issued source) current
  have composed : Composed [] start.ambient.supply lambda after.ambient.supply := composed
  refine composed.clear keyed (fun _ absent => absurd absent List.not_mem_nil) ?_ (Nat.le_refl _)
  exact congrArg (fun context : Context => context.substitute e current) onward.setting

end Existing

/-- How the nodes of two walks over a model correspond. The hooks of the walks come from two
registries over a store. -/
structure Correspondence (model : Model) (store : Store) (registry registry' : Registry) where
  /-- What is known of the nodes around two nodes. -/
  Around : Type
  /-- What is known of the nodes around their children. -/
  inside : Around → Expr → Expr → Around
  /-- The nodes that correspond. -/
  pairs : Around → Expr → Expr → Prop
  /-- The nodes that are normalized alike. -/
  normal : Around → Expr → Expr → Prop
  /-- The trees that may be visited. -/
  visitable : Around → Expr → Expr → Prop
  /-- The trees that visits may make. -/
  makes : Around → Expr → Expr → Prop
  /-- The lambdas by which filters may select rows. -/
  selects : Expr → Expr → Prop
  /-- The contexts in which frames may be entered. -/
  level : Around → Context → Context → Prop
  /-- The contexts in the frames of two nodes. -/
  facing : Around → Expr → Expr → Context → Context → Prop
  akin : Akin store registry registry'
  filters : List.Forall₂ (SelectsAlike selects) registry.filters registry'.filters
  normalizes {around : Around} {e e' : Expr} {before before' : Recording} :
    normal around e e' → facing around e e' before.context before'.context →
      before.context.model = model →
      Lockstep (replacement? .normalize e registry.normalizers.reverse)
        (replacement? .normalize e' registry'.normalizers.reverse)
        (fun answer answer' after after' => (Idle before after ∧ Idle before' after') ∧
          NormalForms (pairs around) model e e' after.ambient.supply after'.ambient.supply answer
            answer')
        before before'
  inside_plain {around : Around} {e e' : Expr} : e.isLambda = false → inside around e e' = around
  visitable_pairs {around : Around} {e e' : Expr} : visitable around e e' → pairs around e e'
  visitable_normal {around : Around} {e e' : Expr} : visitable around e e' → normal around e e'
  visitable_children {around : Around} {e e' : Expr} :
    visitable around e e' → e.isSource = false → e'.isSource = false →
      List.Forall₂ (visitable (inside around e e')) e.children e'.children
  makes_pairs {around : Around} {e e' : Expr} : makes around e e' → pairs around e e'
  makes_settled {around : Around} {e e' : Expr} : makes around e e' → e.isSource = e'.isSource
  makes_reference {around : Around} {e e' : Expr} :
    pairs around e e' → e.isSource = true → makes around e e'
  makes_native (around : Around) (inner inner' : NodeId) (type : QueryType) (proxy : ProxyId)
    (name : String) :
    makes around (.native ⟨inner, type⟩ proxy name) (.native ⟨inner', type⟩ proxy name)
  makes_rebuilt {around : Around} {e e' : Expr} {given given' : List Expr}
    (supply supply' : NodeSupply) :
    pairs around e e' → e.isSource = false → e'.isSource = false →
      List.Forall₂ (makes (inside around e e')) given given' →
      List.Forall₂ (fun child tree => child.isLambda = true → tree.isLambda = true) e.children
        given →
      makes around ((e.withChildren given).run supply).1 ((e'.withChildren given').run supply').1
  selects_visitable {around : Around} {lambda lambda' : Expr} :
    selects lambda lambda' → visitable around lambda lambda'
  selects_pairs {around : Around} {e e' lambda lambda' : Expr} {stamp stamp' : Stamp} :
    pairs around e e' → e.isSource = true → stamp.type = stamp'.type → selects lambda lambda' →
      pairs around (.call stamp .filter [e, lambda]) (.call stamp' .filter [e', lambda'])
  selects_normal (around : Around) (e e' lambda lambda' : Expr) (stamp stamp' : Stamp) :
    normal around (.call stamp .filter [e, lambda]) (.call stamp' .filter [e', lambda'])
  level_beside {around : Around} {context other : Context} :
    level around context other → Beside context other
  level_bound {around : Around} {context other : Context} {e e' : Expr} :
    level around context other → pairs around e e' →
      Binding.BoundAlike (Binding.bind context.model context.around e)
        (Binding.bind context.model other.around e')
  level_unframed {around : Around} {context other entered entered' : Context} :
    level around context other → Beside entered entered' → context.push none = .ok entered →
      other.push none = .ok entered' → level around entered entered'
  level_setting {around : Around} {context other later later' : Context} :
    level around context other → later.setting = context.setting → later'.setting = other.setting →
      FoundAlike later later' → level around later later'
  facing_entered {around : Around} {context other entered entered' : Context} {e e' : Expr} :
    level around context other → pairs around e e' → Beside entered entered' →
      context.push (some e) = .ok entered → other.push (some e') = .ok entered' →
      facing around e e' entered entered'
  facing_beside {around : Around} {context other : Context} {e e' : Expr} :
    facing around e e' context other → Beside context other
  facing_framed {around : Around} {context other : Context} {e e' : Expr} :
    facing around e e' context other → context.Framed e ∧ other.Framed e'
  facing_pairs {around : Around} {context other : Context} {e e' : Expr} :
    facing around e e' context other → pairs around e e'
  facing_matching {around : Around} {context other : Context} {e e' : Expr} :
    facing around e e' context other → e.isSource = e'.isSource → Matching e e' context other
  facing_setting {around : Around} {context other later later' : Context} {e e' : Expr} :
    facing around e e' context other → later.setting = context.setting →
      later'.setting = other.setting → FoundAlike later later' → facing around e e' later later'
  facing_reframed {around : Around} {context other later later' : Context}
    {e e' node node' : Expr} :
    facing around e e' context other → pairs around node node' → context.Reframed node later →
      other.Reframed node' later' → facing around node node' later later'
  facing_substitute {around : Around} {context other : Context} {e e' : Expr}
    (current current' : Expr) : facing around e e' context other →
      facing around e e' (context.substitute e current) (other.substitute e' current')
  facing_level {around : Around} {context other : Context} {e e' : Expr} :
    facing around e e' context other →
      (e.isLambda = true → Placed e context.outside ∧ Placed e' other.outside) →
      level (inside around e e') context other
  /-- Leaving the frames, the walks take the rows to be from the same collection. -/
  facing_pop {around : Around} {context other : Context} {e e' : Expr} :
    facing around e e' context other → e.isSource = e'.isSource →
      other.pop.collection = context.pop.collection

namespace Correspondence

variable {model : Model} {store : Store} {registry registry' : Registry}
  (pairing : Correspondence model store registry registry')

/-- Trees have been made of two nodes, and no reference is left in them. -/
structure Made (around : pairing.Around) (e tree tree' : Expr) (after after' : Recording) :
    Prop where
  makes : pairing.makes around tree tree'
  free : tree.hasDataReference = false
  free' : tree'.hasDataReference = false
  bodied : e.isLambda = true → tree.isLambda = true
  found : FoundAlike after.context after'.context

/-- Trees stand for two nodes in the course of their visits. -/
structure Stands (around : pairing.Around) (e e' current current' : Expr) : Prop where
  makes : pairing.makes around current current'
  standing : Standing e e' current current'
  bodied : e.isLambda = true → current.isLambda = true

/-- What two nodes have become once they are normalized: nothing else, or data references. -/
structure Settled (around : pairing.Around) (e e' node node' : Expr)
    (before before' after after' : Recording) : Prop where
  facing : pairing.facing around node node' after.context after'.context
  settled : node.isSource = node'.isSource
  existing : Existing model node after
  existing' : Existing model node' after'
  kept : (node = e ∧ node' = e' ∧ Onward before after ∧ Onward before' after') ∨
    (node.isSource = true ∧ e.isLambda = false)

/-- Two nodes may be visited: nothing in their trees is substituted. -/
structure Visited (around : pairing.Around) (e e' : Expr) (before before' : Recording) :
    Prop where
  visitable : pairing.visitable around e e'
  level : pairing.level around before.context before'.context
  placed : e.isLambda = true → Placed e before.context.around ∧ Placed e' before'.context.around
  clear : Clear model e before
  clear' : Clear model e' before'

/-- Visits of trees that may be visited keep in step. -/
def Visits (room : Nat) : Prop :=
  ∀ around e e' before before', pairing.Visited around e e' before before' →
    Lockstep (visit registry room e) (visit registry' room e') (pairing.Made around e) before
      before'

/-- References, while what has been made of them stands for them. -/
structure Substituted (around : pairing.Around) (e e' current current' : Expr)
    (before before' : Recording) : Prop where
  facing : pairing.facing around e e' before.context before'.context
  source : e.isSource = true
  source' : e'.isSource = true
  substituted : before.context.substitution? e = some current
  substituted' : before'.context.substitution? e' = some current'
  stands : pairing.Stands around e e' current current'

/-- Lambdas select rows, and nothing in them is substituted. -/
structure Selected (lambda lambda' : Expr) (before before' : Recording) : Prop where
  selects : pairing.selects lambda lambda'
  clear : Clear model lambda before
  clear' : Clear model lambda' before'

/-- Revisits of the rows that filters select from references keep in step. -/
def Revisits (room : Nat) : Prop :=
  ∀ around e e' current current' (stamp stamp' : Stamp) lambda lambda' before before',
    pairing.Substituted around e e' current current' before before' → stamp.type = stamp'.type →
    pairing.Selected lambda lambda' before before' →
    Lockstep (revisit registry room (.call stamp .filter [e, lambda]))
      (revisit registry' room (.call stamp' .filter [e', lambda'])) (pairing.Made around e) before
      before'

/-- Visits of the children of two nodes keep in step, as long as they begin in the settings of the
nodes' frames. -/
structure Descends (around : pairing.Around) (e e' : Expr) (room : Nat)
    (before before' : Recording) : Prop where
  placed : e.isLambda = true → Placed e before.context.outside ∧ Placed e' before'.context.outside
  each : List.Forall₂ (fun child child' => ∀ state state',
    pairing.level (pairing.inside around e e') state.context state'.context →
    Onward before state → Onward before' state' →
    Lockstep (visit registry room child) (visit registry' room child')
      (pairing.Made (pairing.inside around e e') child) state state')
    e.children e'.children

variable {pairing} {around : pairing.Around} {e e' current current' : Expr}
  {before before' after after' : Recording} {room : Nat}

theorem Made.stands (made : pairing.Made around e current current' after after') :
    pairing.Stands around e e' current current' :=
  ⟨made.makes, .inr ⟨made.free, made.free'⟩, made.bodied⟩

/-- What is made of any node is as good as made of one that is no lambda. -/
theorem Made.of_plain {tree tree' : Expr}
    (made : pairing.Made around current tree tree' after after') (plain : e.isLambda = false) :
    pairing.Made around e tree tree' after after' where
  makes := made.makes
  free := made.free
  free' := made.free'
  bodied := fun bodied => by
    rw [plain] at bodied
    contradiction
  found := made.found

theorem Descends.onward (descends : pairing.Descends around e e' room before before')
    (onward : Onward before after) (onward' : Onward before' after') :
    pairing.Descends around e e' room after after' where
  placed := by
    rw [Context.outside_of_setting onward.setting, Context.outside_of_setting onward'.setting]
    exact descends.placed
  each := by
    apply descends.each.imp
    intro child child' step state state' level beyond beyond'
    exact step state state' level (onward.trans beyond) (onward'.trans beyond')

section Frame

variable (facing : pairing.facing around e e' before.context before'.context)

include facing

theorem facing_idle (idle : Idle before after) (idle' : Idle before' after') :
    pairing.facing around e e' after.context after'.context :=
  pairing.facing_setting facing idle.setting idle'.setting
    ((pairing.facing_beside facing).toFoundAlike.of_idle idle idle')

theorem facing_made {tree tree' : Expr} {inner : pairing.Around} (onward : Onward before after)
    (onward' : Onward before' after')
    (made : pairing.Made inner current tree tree' after after') :
    pairing.facing around e e' after.context after'.context :=
  pairing.facing_setting facing onward.setting onward'.setting made.found

/-- Two nodes are normalized to nodes that correspond. -/
theorem normalize_lockstep (normal : pairing.normal around e e')
    (existing : Existing model e before) (existing' : Existing model e' before') :
    Lockstep (Walk.normalize registry e) (Walk.normalize registry' e')
      (fun _ _ after after' => ∃ node node',
        pairing.Settled around e e' node node' before before' after after')
      before before' := by
  have akin := pairing.akin
  unfold Walk.normalize
  apply ((pairing.normalizes normal facing existing.modelled).and
    (onward_replacement? akin.drifts e before) (onward_replacement? akin.drifts' e' before')).bind
  rintro answer answer' after after' ⟨⟨⟨idle, idle'⟩, forms⟩, onward, onward'⟩
  have still := facing_idle facing idle idle'
  have modelled := (existing.toKeyed.onward onward).modelled
  have modelled' := (existing'.toKeyed.onward onward').modelled
  obtain ⟨framed, framed'⟩ := pairing.facing_framed still
  cases forms with
  | kept settled =>
    exact ⟨e, e', still, settled, existing.onward onward, existing'.onward onward',
      .inl ⟨rfl, rfl, onward, onward'⟩⟩
  | @both name element id id' plain found issued issued' alike =>
    obtain ⟨replaced, possible, reframed⟩ := framed.replace_source (modelled ▸ found) id
    obtain ⟨replaced', possible', reframed'⟩ := framed'.replace_source (modelled' ▸ found) id'
    dsimp only
    rw [lockstep_trying possible possible']
    exact ⟨_, _, pairing.facing_reframed still alike reframed reframed', rfl,
      existing.reframed onward issued reframed, existing'.reframed onward' issued' reframed',
      .inr ⟨rfl, plain⟩⟩
  | @first name element id plain source' found issued alike =>
    obtain ⟨replaced, possible, reframed⟩ := framed.replace_source (modelled ▸ found) id
    dsimp only
    -- Only the first walk puts another node into its frame.
    rw [lockstep_iff_ends, ends_trying, possible]
    exact ⟨_, e', pairing.facing_reframed still alike reframed framed'.reframed, source'.symm,
      existing.reframed onward issued reframed, existing'.onward onward', .inr ⟨rfl, plain⟩⟩

/-- What stands for two nodes is sourced alike. -/
theorem source_lockstep (settled : e.isSource = e'.isSource)
    (stands : pairing.Stands around e e' current current') :
    Lockstep (source registry current) (source registry' current')
      (fun tree tree' after after' => pairing.Made around e tree tree' after after' ∧
        pairing.facing around e e' after.context after'.context)
      before before' := by
  have matching := pairing.facing_matching facing settled
  have akin := pairing.akin
  have made : Lockstep (source registry current) (source registry' current')
      (pairing.Made around e) before before' := by
    rcases stands.standing with ⟨source, rfl, rfl⟩ | ⟨free, free'⟩
    · apply (sourced_lockstep matching akin.sourcer akin.sourcer' source).mono
      rintro _ _ after after' ⟨⟨type, proxy, name, inner, inner', rfl, rfl⟩, found⟩
      exact {
        makes := pairing.makes_native around inner inner' type proxy name
        free := rfl
        free' := rfl
        bodied := fun bodied => by
          rw [Expr.isLambda_of_isSource source] at bodied
          contradiction
        found }
    · apply (unsourced_lockstep matching (Expr.isSource_of_hasDataReference free)
        (Expr.isSource_of_hasDataReference free')).mono
      rintro _ _ after after' ⟨⟨rfl, rfl⟩, rfl, rfl⟩
      exact ⟨stands.makes, free, free', stands.bodied, matching.toFoundAlike⟩
  apply (made.and ((advancing akin.drifts).follows_source current before)
    ((advancing akin.drifts').follows_source current' before')).mono
  rintro tree tree' after after' ⟨made, onward, onward'⟩
  exact ⟨made, facing_made facing onward onward' made⟩

/-- Filters that select alike wrap references in the same way. -/
theorem filtered_lockstep (again : pairing.Revisits room) {filters filters' : List TreeHook}
    (alike : List.Forall₂ (SelectsAlike pairing.selects) filters filters')
    (drifts : ∀ filter ∈ filters, ∀ context, (filter.run context).Drifts issuing)
    (drifts' : ∀ filter ∈ filters', ∀ context, (filter.run context).Drifts issuing)
    (settled : e.isSource = e'.isSource) (existing : Existing model e before)
    (existing' : Existing model e' before')
    (stands : pairing.Stands around e e' current current') :
    Lockstep (filtered (revisit registry room) e filters current)
      (filtered (revisit registry' room) e' filters' current')
      (fun tree tree' after after' => pairing.facing around e e' after.context after'.context ∧
        pairing.Stands around e e' tree tree') before before' := by
  induction alike generalizing before before' current current' with
  | nil => exact ⟨facing, stands⟩
  | @cons filter filter' filters filters' selects _ ih =>
    obtain ⟨first, later⟩ := List.forall_mem_cons.mp drifts
    obtain ⟨first', later'⟩ := List.forall_mem_cons.mp drifts'
    have matching := pairing.facing_matching facing settled
    have asked : Matching e e' (before.context.consulting .filter filter.name)
        (before'.context.consulting .filter filter'.name) :=
      matching.of_setting rfl rfl ⟨matching.root, matching.collection⟩
    unfold filtered
    apply ((lockstep_consult (selects e e' _ _ asked _ _)).and
      (onward_consult first before) (onward_consult first' before')).bind
    rintro answer answer' middle middle' ⟨⟨offers, idle, idle'⟩, onward, onward'⟩
    have still := facing_idle facing idle idle'
    cases offers with
    | none =>
      exact ih still later later' (existing.onward onward) (existing'.onward onward') stands
    | @some stamp stamp' lambda lambda' source typed typed' selectors composed composed' =>
      have source' : e'.isSource = true := settled ▸ source
      have fresh := Expr.ne_selection stamp lambda source
        (stands.standing.imp (fun same => same.2.1) fun free => free.1)
      have fresh' := Expr.ne_selection stamp' lambda' source'
        (stands.standing.imp (fun same => same.2.2) fun free => free.2)
      have typed : (Expr.call stamp .filter [e, lambda]).type = e.type := typed
      have typed' : (Expr.call stamp' .filter [e', lambda']).type = e'.type := typed'
      dsimp only
      -- The offer is new and of the type of the reference, so that both walks revisit it.
      rw [if_neg fresh, if_neg fresh', checkType_of_type_eq filter.name typed,
        checkType_of_type_eq filter'.name typed', pure_bind, pure_bind]
      have walked : Lockstep
          (substituting e current (revisit registry room (.call stamp .filter [e, lambda])))
          (substituting e' current' (revisit registry' room (.call stamp' .filter [e', lambda'])))
          (pairing.Made around e) middle middle' := by
        apply lockstep_substituting
        apply (again around e e' current current' stamp stamp' lambda lambda' _ _ ?_ ?_ ?_).mono
        · rintro tree tree' after after' ⟨makes, free, free', bodied, found⟩
          exact ⟨makes, free, free', bodied, ⟨found.root, found.collection⟩⟩
        · exact {
            facing := pairing.facing_substitute current current' still
            source
            source'
            substituted := Context.substitution?_substitute e current
            substituted' := Context.substitution?_substitute e' current'
            stands }
        · exact typed.trans (matching.type_eq.trans typed'.symm)
        · exact {
            selects := selectors
            clear := clear_selector composed existing source onward current
            clear' := clear_selector composed' existing' source' onward' current' }
      have akin := pairing.akin
      have steady := (advancing akin.drifts).follows_revisit room
      have steady' := (advancing akin.drifts').follows_revisit room
      apply (walked.and (onward_substituting (steady _) e current middle)
        (onward_substituting (steady' _) e' current' middle')).bind
      rintro tree tree' after after' ⟨made, beyond, beyond'⟩
      exact ih (facing_made still beyond beyond' made) later later'
        (existing.onward (onward.trans beyond)) (existing'.onward (onward'.trans beyond'))
        made.stands

/-- Two nodes are put together again over what has been made of their children. -/
theorem children_lockstep (plain : e.isSource = false) (plain' : e'.isSource = false)
    (descends : pairing.Descends around e e' room before before') :
    Lockstep (children (visit registry room) e) (children (visit registry' room) e')
      (pairing.Made around e) before before' := by
  have steady := (advancing pairing.akin.drifts).follows_visit room
  have steady' := (advancing pairing.akin.drifts').follows_visit room
  have visited : Lockstep (e.children.mapM (visit registry room))
      (e'.children.mapM (visit registry' room))
      (fun trees trees' after after' =>
        (pairing.level (pairing.inside around e e') after.context after'.context ∧
          Onward before after ∧ Onward before' after') ∧
        List.Forall₂ (fun tree tree' => pairing.makes (pairing.inside around e e') tree tree' ∧
          tree'.hasDataReference = false) trees trees' ∧
        List.Forall₂ (fun child tree => tree.hasDataReference = false ∧
          (child.isLambda = true → tree.isLambda = true)) e.children trees)
      before before' := by
    apply lockstep_mapM ⟨pairing.facing_level facing descends.placed, .refl _, .refl _⟩
    apply descends.each.imp
    rintro child child' step state state' ⟨level, onward, onward'⟩
    apply ((step state state' level onward onward').and (steady child state)
      (steady' child' state')).mono
    rintro tree tree' last last' ⟨made, beyond, beyond'⟩
    exact ⟨⟨pairing.level_setting level beyond.setting beyond'.setting made.found,
      onward.trans beyond, onward'.trans beyond'⟩, ⟨made.makes, made.free'⟩, made.free,
      made.bodied⟩
  unfold children
  apply visited.bind
  rintro trees trees' after after' ⟨⟨level, -, -⟩, alike, stems⟩
  have pairs := pairing.facing_pairs facing
  have makes : List.Forall₂ (pairing.makes (pairing.inside around e e')) trees trees' :=
    alike.imp fun _ _ made => made.1
  have shapes : List.Forall₂ (fun child tree => child.isLambda = true → tree.isLambda = true)
      e.children trees := stems.imp fun _ _ made => made.2
  have free : List.Forall₂ (fun _ tree => tree.hasDataReference = false) e.children trees :=
    stems.imp fun _ _ made => made.1
  have free' : List.Forall₂ (fun _ tree => tree.hasDataReference = false) e'.children trees' := by
    refine List.forall₂_iff_zip.mpr ⟨?_, fun member => ?_⟩
    · rw [← descends.each.length_eq, stems.length_eq, alike.length_eq]
    · obtain ⟨_, -, made⟩ := Expr.exists_origin alike (List.of_mem_zip member).2
      exact made.2
  have built : Lockstep (Act.build (e.withChildren trees) : Act Rewriting.Error Expr)
      (Act.build (e'.withChildren trees')) (fun tree tree' _ _ =>
        pairing.makes around tree tree' ∧ tree.hasDataReference = false ∧
          tree'.hasDataReference = false ∧ (e.isLambda = true → tree.isLambda = true))
      after.ambient after'.ambient := by
    refine ⟨pairing.makes_rebuilt _ _ pairs plain plain' makes shapes,
      Expr.hasDataReference_withChildren _ plain free,
      Expr.hasDataReference_withChildren _ plain' free', fun bodied => ?_⟩
    exact (Expr.isLambda_withChildren e trees _).trans bodied
  apply (lockstep_acting built).mono
  rintro tree tree' last last' ⟨⟨makes, free, free', bodied⟩, idle, idle'⟩
  exact ⟨makes, free, free', bodied,
    (pairing.level_beside level).toFoundAlike.of_idle idle idle'⟩

/-- Once two nodes are normalized, what happens in their frames keeps in step. -/
theorem normalized_lockstep (again : pairing.Revisits room)
    (settled : e.isSource = e'.isSource) (existing : Existing model e before)
    (existing' : Existing model e' before')
    (descends : e.isSource = false → pairing.Descends around e e' room before before')
    (node node' : Expr) :
    Lockstep (normalized registry (visit registry room) (revisit registry room) node)
      (normalized registry' (visit registry' room) (revisit registry' room) node')
      (fun tree tree' after after' => pairing.Made around e tree tree' after after' ∧
        pairing.facing around e e' after.context after'.context)
      before before' := by
  have akin := pairing.akin
  have descended : Lockstep (descended (visit registry room) e e.isSource)
      (descended (visit registry' room) e' e.isSource)
      (fun tree tree' after after' => pairing.facing around e e' after.context after'.context ∧
        Onward before after ∧ Onward before' after' ∧ pairing.Stands around e e' tree tree')
      before before' := by
    unfold Walk.descended
    cases source : e.isSource with
    | true =>
      have itself : pairing.Stands around e e' e e' :=
        ⟨pairing.makes_reference (pairing.facing_pairs facing) source, .inl ⟨source, rfl, rfl⟩, id⟩
      exact ⟨facing, .refl _, .refl _, itself⟩
    | false =>
      have plain' : e'.isSource = false := settled.symm.trans source
      apply ((children_lockstep facing source plain' (descends source)).and
        (follows_children ((advancing akin.drifts).follows_visit room) e before)
        (follows_children ((advancing akin.drifts').follows_visit room) e' before')).mono
      rintro tree tree' after after' ⟨made, onward, onward'⟩
      exact ⟨facing_made facing onward onward' made, onward, onward', made.stands⟩
  have matching := pairing.facing_matching facing settled
  unfold normalized
  rw [lockstep_context, lockstep_context, matching.framed.node?, matching.framed'.node?,
    matching.framed.isReference, matching.framed'.isReference, ← settled]
  apply descended.bind
  rintro tree tree' after after' ⟨still, onward, onward', stands⟩
  have judged : Lockstep (inspect e registry.inspectors.reverse)
      (inspect e' registry'.inspectors.reverse)
      (fun _ _ last last' => Idle after last ∧ Idle after' last') after after' := by
    rw [akin.inspectors]
    exact inspect_lockstep (fun hook member => akin.judges hook (List.mem_reverse.mp member))
      (pairing.facing_matching still settled)
  apply (judged.and ((advancing akin.drifts).follows_inspect e after)
    ((advancing akin.drifts').follows_inspect e' after')).bind
  rintro - - last last' ⟨⟨idle, idle'⟩, beyond, beyond'⟩
  rw [expansion_of_none akin.expanders, expansion_of_none akin.expanders', pure_bind, pure_bind]
  unfold expandedOr
  rw [pure_bind, pure_bind]
  apply (filtered_lockstep (facing_idle still idle idle') again pairing.filters
    akin.drifts.filters akin.drifts'.filters settled (existing.onward (onward.trans beyond))
    (existing'.onward (onward'.trans beyond')) stands).bind
  rintro current current' final final' ⟨facing, stands⟩
  exact source_lockstep facing settled stands

/-- What happens in the frames of two nodes keeps in step. -/
theorem inFrame_lockstep (again : pairing.Revisits room) (normal : pairing.normal around e e')
    (existing : Existing model e before) (existing' : Existing model e' before')
    (descends : e.isSource = false → e'.isSource = false →
      pairing.Descends around e e' room before before') :
    Lockstep (inFrame registry (visit registry room) (revisit registry room) e)
      (inFrame registry' (visit registry' room) (revisit registry' room) e')
      (fun tree tree' after after' => pairing.Made around e tree tree' after after' ∧
        after'.context.pop.collection = after.context.pop.collection) before before' := by
  rw [inFrame, inFrame]
  apply (normalize_lockstep facing normal existing existing').bind
  rintro - - after after' ⟨node, node', still, settled, existing, existing', kept⟩
  apply (normalized_lockstep still again settled existing existing' ?_ e e').mono
  · rintro tree tree' last last' ⟨made, facing⟩
    refine ⟨?_, pairing.facing_pop facing settled⟩
    rcases kept with ⟨rfl, -⟩ | ⟨-, plain⟩
    · exact made
    · exact made.of_plain plain
  · intro plain
    rcases kept with ⟨rfl, rfl, onward, onward'⟩ | ⟨source, -⟩
    · exact (descends plain (settled ▸ plain)).onward onward onward'
    · rw [source] at plain
      contradiction

end Frame

theorem tooDeep_lockstep {done : Expr → Expr → Recording → Recording → Prop}
    (level : pairing.level around before.context before'.context) :
    Lockstep tooDeep tooDeep done before before' := by
  unfold tooDeep
  rw [lockstep_context, (pairing.level_beside level).maxDepth]
  exact lockstep_throw _

/-- What is made of two nodes in frames of their own is made of them around these. -/
theorem nested_lockstep {node node' : Option Expr} {entered entered' : Context}
    {step other : Walk Expr}
    (pushed : before.context.push node = .ok entered)
    (pushed' : before'.context.push node' = .ok entered')
    (inside : Lockstep step other (fun tree tree' after after' =>
        pairing.Made around e tree tree' after after' ∧
          after'.context.pop.collection = after.context.pop.collection)
      { before with context := entered } { before' with context := entered' }) :
    Lockstep (nested node step) (nested node' other) (pairing.Made around e) before before' := by
  apply lockstep_entered pushed pushed'
  apply inside.mono
  rintro tree tree' after after' ⟨⟨makes, free, free', bodied, root, -⟩, collection⟩
  refine ⟨makes, free, free', bodied, ?_, collection⟩
  rw [Context.root_pop, Context.root_pop, root]

/-- In the frame of a node, the node is around what is visited. -/
theorem around_onward {entered : Context} (pushed : before.context.push (some e) = .ok entered)
    (onward : Onward { before with context := entered } after) :
    after.context.around = e :: before.context.around := by
  obtain ⟨binding, -, rfl⟩ := Context.push_some pushed
  exact Context.around_of_setting onward.setting

theorem substitution?_onward {node : Option Expr} {entered : Context}
    (pushed : before.context.push node = .ok entered)
    (onward : Onward { before with context := entered } after) :
    after.context.substitution? = before.context.substitution? := by
  have kept : entered.substitutions = before.context.substitutions := by
    rw [Context.push_frames pushed]
  apply Context.substitution?_congr
  exact (congrArg (·.substitutions) onward.setting : after.context.substitutions = _).trans kept

/-- Two nodes that are not substituted are visited in frames of their own, and these keep in step if
the visits of the children do. -/
theorem frame_lockstep (again : pairing.Revisits room) (pairs : pairing.pairs around e e')
    (normal : pairing.normal around e e')
    (level : pairing.level around before.context before'.context)
    (placed : e.isLambda = true → Placed e before.context.around ∧ Placed e' before'.context.around)
    (existing : Existing model e before) (existing' : Existing model e' before')
    (each : e.isSource = false → e'.isSource = false → ∀ entered entered',
      before.context.push (some e) = .ok entered → before'.context.push (some e') = .ok entered' →
      List.Forall₂ (fun child child' => ∀ state state',
        pairing.level (pairing.inside around e e') state.context state'.context →
        Onward { before with context := entered } state →
        Onward { before' with context := entered' } state' →
        Lockstep (visit registry room child) (visit registry' room child')
          (pairing.Made (pairing.inside around e e') child) state state') e.children e'.children) :
    Lockstep
      (nested (some e) (inFrame registry (visit registry room) (revisit registry room) e))
      (nested (some e') (inFrame registry' (visit registry' room) (revisit registry' room) e'))
      (pairing.Made around e) before before' := by
  rcases (pairing.level_beside level).push (pairing.level_bound level pairs) with
    ⟨error, refused, refused'⟩ | ⟨entered, entered', pushed, pushed', beside⟩
  · exact lockstep_refused refused refused'
  · apply nested_lockstep pushed pushed'
    apply inFrame_lockstep (pairing.facing_entered level pairs beside pushed pushed') again normal
      (existing.entered pushed) (existing'.entered pushed')
    intro plain plain'
    constructor
    · rw [Context.outside_push pushed, Context.outside_push pushed']
      exact placed
    · exact each plain plain' entered entered' pushed pushed'

/-- One visit keeps in step if the visits inside of it do. -/
theorem visit_lockstep (visits : pairing.Visits room) (again : pairing.Revisits room) :
    pairing.Visits (room + 1) := by
  rintro around e e' before before' ⟨visitable, level, placed, clear, clear'⟩
  unfold visit
  rw [lockstep_context, clear.unsubstituted, clear'.unsubstituted]
  apply frame_lockstep again (pairing.visitable_pairs visitable)
    (pairing.visitable_normal visitable) level placed (existing_of_clear clear)
    (existing_of_clear clear')
  intro plain plain' entered entered' pushed pushed'
  apply (Expr.forall₂_mem (pairing.visitable_children visitable plain plain')).imp
  rintro child child' ⟨below, below', visitable⟩ state state' level onward onward'
  apply visits
  exact {
    visitable
    level
    placed := fun _ => by
      rw [around_onward pushed onward, around_onward pushed' onward']
      exact ⟨placed_of_child below, placed_of_child below'⟩
    clear := ((clear.entered pushed).onward onward).child below
    clear' := ((clear'.entered pushed').onward onward').child below' }

/-- What stands for references is sourced in frames of its own. -/
theorem substituted_lockstep (level : pairing.level around before.context before'.context)
    (source : e.isSource = true) (substituted : before.context.substitution? e = some current)
    (substituted' : before'.context.substitution? e' = some current')
    (stands : pairing.Stands around e e' current current') :
    Lockstep (visit registry room e) (visit registry' room e') (pairing.Made around e) before
      before' := by
  have itself : pairing.Stands around current current' current current' := by
    refine ⟨stands.makes, ?_, id⟩
    rcases stands.standing with ⟨source, rfl, rfl⟩ | free
    · exact .inl ⟨source, rfl, rfl⟩
    · exact .inr free
  have pairs := pairing.makes_pairs stands.makes
  have settled := pairing.makes_settled stands.makes
  cases room with
  | zero =>
    unfold visit
    exact tooDeep_lockstep level
  | succ room =>
    unfold visit
    rw [lockstep_context, substituted, substituted']
    rcases (pairing.level_beside level).push (pairing.level_bound level pairs) with
      ⟨error, refused, refused'⟩ | ⟨entered, entered', pushed, pushed', beside⟩
    · exact lockstep_refused refused refused'
    · apply nested_lockstep pushed pushed'
      have facing := pairing.facing_entered level pairs beside pushed pushed'
      apply (source_lockstep facing settled itself).mono
      rintro tree tree' after after' ⟨made, facing⟩
      exact ⟨made.of_plain (Expr.isLambda_of_isSource source), pairing.facing_pop facing settled⟩

/-- Revisits keep in step with their visits. -/
theorem revisit_lockstep {node node' : Expr}
    (level : pairing.level around before.context before'.context)
    (visited : ∀ entered entered', before.context.push none = .ok entered →
      before'.context.push none = .ok entered' → pairing.level around entered entered' →
      Lockstep (visit registry room node) (visit registry' room node') (pairing.Made around e)
        { before with context := entered } { before' with context := entered' }) :
    Lockstep (revisit registry (room + 1) node) (revisit registry' (room + 1) node')
      (pairing.Made around e) before before' := by
  unfold revisit
  rcases (pairing.level_beside level).push_none with
    ⟨error, refused, refused'⟩ | ⟨entered, entered', pushed, pushed', beside⟩
  · exact lockstep_refused refused refused'
  · apply nested_lockstep pushed pushed'
    have akin := pairing.akin
    have inside := pairing.level_unframed level beside pushed pushed'
    apply ((visited entered entered' pushed pushed' inside).and
      ((advancing akin.drifts).follows_visit room node _)
      ((advancing akin.drifts').follows_visit room node' _)).mono
    rintro tree tree' after after' ⟨made, onward, onward'⟩
    have unbound {context entered later : Context} (pushed : context.push none = .ok entered)
        (same : later.setting = entered.setting) : later.pop.collection = later.collection := by
      have frames : later.frames = entered.frames := congrArg (·.frames) same
      rw [Context.push_none pushed] at frames
      exact Context.collection_pop_unbound frames
    refine ⟨made, ?_⟩
    rw [unbound pushed onward.setting, unbound pushed' onward'.setting, made.found.collection]

/-- A revisit of the rows that a filter selects keeps in step: what stands for the reference is
sourced, and the selector is visited as any lambda. -/
theorem selection_lockstep
    (inner : ∀ less, room = less + 1 → pairing.Visits less ∧ pairing.Revisits less) :
    pairing.Revisits (room + 1) := by
  rintro around e e' current current' stamp stamp' lambda lambda' before before'
    ⟨facing, source, source', substituted, substituted', stands⟩ typed selected
  set rows : Expr := .call stamp .filter [e, lambda]
  set rows' : Expr := .call stamp' .filter [e', lambda']
  have inside : pairing.inside around rows rows' = around := pairing.inside_plain rfl
  have pairs : pairing.pairs around rows rows' :=
    pairing.selects_pairs (pairing.facing_pairs facing) source typed selected.selects
  have plain : e.isLambda = false := Expr.isLambda_of_isSource source
  have outer := pairing.facing_level facing fun bodied => by
    rw [plain] at bodied
    contradiction
  rw [pairing.inside_plain plain] at outer
  apply revisit_lockstep outer
  intro entered entered' pushed pushed' level
  unfold visit
  cases room with
  | zero => exact tooDeep_lockstep level
  | succ room =>
    obtain ⟨visits, again⟩ := inner room rfl
    have clear := selected.clear.entered pushed
    have clear' := selected.clear'.entered pushed'
    have made : ∀ tree tree' after after', pairing.Made around rows tree tree' after after' →
        pairing.Made around e tree tree' after after' := fun _ _ _ _ made => made.of_plain plain
    rw [lockstep_context, clear.toKeyed.unsubstituted rfl, clear'.toKeyed.unsubstituted rfl]
    refine (frame_lockstep again pairs (pairing.selects_normal ..) level ?_ ?_ ?_ ?_).mono made
    · intro bodied
      contradiction
    · exact ⟨clear.toKeyed, fun source => absurd source Bool.false_ne_true⟩
    · exact ⟨clear'.toKeyed, fun source => absurd source Bool.false_ne_true⟩
    · intro _ _ framed framed' into into'
      rw [inside]
      -- The reference is substituted in both walks, and the selector is not.
      refine .cons ?_ (.cons ?_ .nil)
      · intro state state' level onward onward'
        apply substituted_lockstep level source _ _ stands
        · rw [substitution?_onward into onward, substitution?_onward pushed (.refl _)]
          exact substituted
        · rw [substitution?_onward into' onward', substitution?_onward pushed' (.refl _)]
          exact substituted'
      · intro state state' level onward onward'
        apply visits
        exact {
          visitable := pairing.selects_visitable selected.selects
          level
          placed := fun _ => by
            rw [around_onward into onward, around_onward into' onward']
            exact ⟨placed_of_child (List.mem_cons_of_mem _ List.mem_cons_self),
              placed_of_child (List.mem_cons_of_mem _ List.mem_cons_self)⟩
          clear := (clear.entered into).onward onward
          clear' := (clear'.entered into').onward onward' }

/-- Visits and revisits keep in step however many frames may still be entered. -/
theorem walk_lockstep (pairing : Correspondence model store registry registry') (room : Nat) :
    pairing.Visits room ∧ pairing.Revisits room := by
  -- A revisit enters an unbound frame first, so its visits are two rooms below.
  induction room using Nat.strongRecOn with
  | ind room ih =>
    cases room with
    | zero =>
      constructor
      · intro around e e' before before' visited
        unfold visit
        exact tooDeep_lockstep visited.level
      · intro around e e' current current' _ _ _ _ before before' substituted _ _
        unfold revisit
        exact tooDeep_lockstep (pairing.facing_level substituted.facing fun bodied => by
          rw [Expr.isLambda_of_isSource substituted.source] at bodied
          contradiction)
    | succ room =>
      obtain ⟨visits, again⟩ := ih room (Nat.lt_succ_self room)
      refine ⟨visit_lockstep visits again, selection_lockstep ?_⟩
      rintro less rfl
      exact ih less (Nat.lt_succ_of_lt (Nat.lt_succ_self less))

/-- Whole walks over trees that correspond keep in step. -/
theorem whole_lockstep {request : RequestContext} {maxDepth : Nat} {ambient ambient' : Ambient}
    (visitable : pairing.visitable around e e')
    (level : pairing.level around { model, request, maxDepth } { model, request, maxDepth })
    (issued : e.Issued ambient.supply) (issued' : e'.Issued ambient'.supply) :
    Lockstep (whole registry e) (whole registry' e') (pairing.Made around e)
      { context := { model, request, maxDepth }, ambient }
      { context := { model, request, maxDepth }, ambient := ambient' } := by
  set context : Context := { model, request, maxDepth }
  have clear {e : Expr} {ambient : Ambient} (issued : e.Issued ambient.supply) :
      Clear model e { context, ambient } := {
    modelled := rfl
    keys := fun _ absent => absurd absent List.not_mem_nil
    issued
    apart := fun _ absent => absurd absent List.not_mem_nil }
  unfold whole
  rw [lockstep_context]
  change Lockstep (revisit registry maxDepth e) (revisit registry' maxDepth e') _ _ _
  cases maxDepth with
  | zero =>
    unfold revisit
    exact tooDeep_lockstep level
  | succ room =>
    apply revisit_lockstep level
    intro entered entered' pushed pushed' inside
    have outermost {entered : Context} (pushed : context.push none = .ok entered) :
        entered.around = [] := Context.around_push_none pushed
    apply (pairing.walk_lockstep room).1
    exact {
      visitable
      level := inside
      placed := fun _ => by
        rw [outermost pushed, outermost pushed']
        exact ⟨placed_outermost e, placed_outermost e'⟩
      clear := (clear issued).entered pushed
      clear' := (clear issued').entered pushed' }

end Correspondence

end QueryRewriting.Access
