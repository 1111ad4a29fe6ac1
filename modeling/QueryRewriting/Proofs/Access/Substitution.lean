import QueryRewriting.Access.RowFilter
import QueryRewriting.Proofs.Binding
import QueryRewriting.Proofs.Evaluation.Backend
import QueryRewriting.Proofs.Request.Ambient
import QueryRewriting.Proofs.Rewriting.Sourcing

/-! Collection filters amount to plain substitution. A walk installs what the filters so far have
made of a reference under its identity, walks what the next filter offers, and sources the reference
on the way. In the end each reference of the query is the fragment of the store with one `where`
call around it for each filter that has a predicate for it, it is sourced once, and in its turn. -/
namespace QueryRewriting.Access.CollectionFilter

open Rewriting Rewriting.Walk Schema Evaluation

/-- The predicate that a filter has for the rows a reference stands for. -/
def predicate? (rows : CollectionFilter) (model : Model) (target : DataReference) :
    Option RowPredicate :=
  if target.logicalType.isCollection then
    Entries.find? rows.predicates (((Binding.reference target).owner? model).getD target.name)
  else none

/-- The predicate that a filter has for the rows of a reference whose node is of some type. -/
def restriction? (rows : CollectionFilter) (model : Model) (target : DataReference)
    (type : QueryType) : Option RowPredicate :=
  if type.isCollection then
    Entries.find? rows.predicates (((Binding.reference target).owner? model).getD target.name)
  else none

/-- A predicate that is built on a row of a reference. -/
def Builds (predicate : RowPredicate) (target : DataReference) (built : Expr) : Prop :=
  ∃ id supply, ((predicate (.parameter ⟨id, target.logicalType.elementOrSelf⟩ rowParameter)).run
    supply).1 = built

/-- The fragment of a store for a reference. -/
def fragment (store : Store) (target : DataReference) : Expr :=
  .native (.anonymous target.logicalType) store.proxy target.name

/-- A tree with a `where` call around it for each filter that has a predicate for a reference, in
the order of the filters. -/
inductive Wrapped (model : Model) (target : DataReference) :
    List CollectionFilter → Expr → Expr → Prop
  | done {tree : Expr} : Wrapped model target [] tree tree
  | unconcerned {rows : CollectionFilter} {rest : List CollectionFilter} {tree result : Expr} :
    rows.predicate? model target = none → Wrapped model target rest tree result →
      Wrapped model target (rows :: rest) tree result
  | restricted {rows : CollectionFilter} {rest : List CollectionFilter} {tree result built : Expr}
    {predicate : RowPredicate} :
    rows.predicate? model target = some predicate → Builds predicate target built →
      Wrapped model target rest (.call (.anonymous target.logicalType) .filter
        [tree, .lambda (.anonymous .bool) rowParameter built.erased]) result →
      Wrapped model target (rows :: rest) tree result

/-- A query with each of its references, but for those among the arguments of others, replaced by
the wrapped fragment; all other nodes are as they were. -/
inductive Substituted (filters : List CollectionFilter) (model : Model) (store : Store) :
    Expr → Expr → Prop
  | reference {stamp : Stamp} {target : DataReference} {tree : Expr} :
    model.resolve? target.qualifier target.name = some target.element →
      Wrapped model target filters (fragment store target) tree →
      Substituted filters model store (.source stamp target.qualifier target.name target.args) tree
  | rebuilt {e : Expr} {given : List Expr} :
    e.isSource = false → List.Forall₂ (Substituted filters model store) e.children given →
      Substituted filters model store e (e.overChildren given)

/-- No predicate of a filter holds a data reference. -/
def ReferenceFree (rows : CollectionFilter) : Prop :=
  ∀ name predicate, Entries.find? rows.predicates name = some predicate → ∀ stamp supply,
    ((predicate (.parameter stamp rowParameter)).run supply).1.hasDataReference = false

/-- The references of a query carry the type that the schema gives them. -/
def Annotated (model : Model) (query : Expr) : Prop :=
  ∀ stamp qualifier name args, .source stamp qualifier name args ∈ query.outerReferences →
    ∀ element, model.resolve? qualifier name = some element → stamp.type = element.logicalType

theorem Builds.free {rows : CollectionFilter} {model : Model} {target : DataReference}
    {predicate : RowPredicate} {built : Expr} (free : rows.ReferenceFree)
    (concerned : rows.predicate? model target = some predicate)
    (builds : Builds predicate target built) : built.hasDataReference = false := by
  obtain ⟨id, supply, rfl⟩ := builds
  unfold predicate? at concerned
  split at concerned
  · exact free _ predicate concerned _ supply
  · contradiction

theorem found_of_restriction {rows : CollectionFilter} {model : Model} {target : DataReference}
    {type : QueryType} {predicate : RowPredicate}
    (concerned : rows.restriction? model target type = some predicate) :
    ∃ name, Entries.find? rows.predicates name = some predicate := by
  unfold restriction? at concerned
  split at concerned
  · exact ⟨_, concerned⟩
  · contradiction

theorem ReferenceFree.of_entries {rows : CollectionFilter}
    (each : ∀ entry ∈ rows.predicates, ∀ stamp supply,
      ((entry.2 (.parameter stamp rowParameter)).run supply).1.hasDataReference = false) :
    rows.ReferenceFree := by
  intro name predicate found
  exact each (name, predicate) (Entries.mem_of_find? found)

/-- Collection filters over a store, and no other hooks. -/
def registry (filters : List CollectionFilter) (store : Store) : Registry where
  filters := filters.map hook
  sourcer := some store.sourcer

section Filter

variable {rows : CollectionFilter} {context : Context} {target : DataReference} {node : Expr}
  {offered : Option Expr} {ambient after : Ambient}

theorem filter_unbound (unbound : context.binding.reference? = none) :
    (rows.filter context).run.run ambient = (.ok none, ambient) := by
  unfold filter
  rw [Context.reading?, unbound]
  rfl

theorem restricted_run (under : context.node? = some node) (body : Expr) (supply : NodeSupply) :
    (restricted context body).run supply =
      (some (.call ⟨supply.next + 1, node.type⟩ .filter
        [node, .lambda ⟨supply.next, body.type⟩ rowParameter body]), ⟨supply.next + 2⟩) := by
  unfold restricted
  rw [under]
  rfl

/-- In the frame of a reference a filter wraps the node with what its predicate builds, if it has one
for the rows that the node stands for. It refuses a predicate that is not one of truth. -/
theorem filter_run (bound : context.binding = .reference target)
    (under : context.node? = some node) :
    (rows.filter context).run.run ambient =
      let collection := ((Binding.reference target).owner? context.model).getD target.name
      match rows.restriction? context.model target node.type with
      | none => (.ok none, ambient)
      | some predicate =>
        let built := (predicate (.parameter ⟨ambient.supply.next, target.logicalType.elementOrSelf⟩
          rowParameter)).run ⟨ambient.supply.next + 1⟩
        if built.1.type = .bool then
          (.ok (some (.call ⟨built.2.next + 1, node.type⟩ .filter
            [node, .lambda ⟨built.2.next, .bool⟩ rowParameter built.1])),
            { ambient with supply := ⟨built.2.next + 2⟩ })
        else (.error (.hookFailed "collection_filter"
          s!"Predicate for {collection} is {built.1.type.text}, not bool"),
            { ambient with supply := built.2 }) := by
  have reading : context.reading? = some (target,
      ((Binding.reference target).owner? context.model).getD target.name) := by
    simp [Context.reading?, bound, Binding.reference?]
  have rowType : rowType? context = if node.type.isCollection then
      some target.logicalType.elementOrSelf else none := by
    simp [rowType?, under, bound, Binding.elementType?, Binding.logicalType?]
  have row : (Fresh.parameter rowParameter target.logicalType.elementOrSelf).run
      ambient.supply = (.parameter ⟨ambient.supply.next, target.logicalType.elementOrSelf⟩
        rowParameter, ⟨ambient.supply.next + 1⟩) := rfl
  unfold filter restriction?
  rw [reading]
  dsimp only
  rw [rowType]
  cases found : Entries.find? rows.predicates
      (((Binding.reference target).owner? context.model).getD target.name) with
  | none =>
    rw [ite_self]
    rfl
  | some predicate =>
    cases many : node.type.isCollection with
    | false => rfl
    | true =>
      rw [if_pos rfl, if_pos rfl]
      dsimp only
      rw [run_bind, Act.run_build, row]
      dsimp only
      rw [run_bind, Act.run_build]
      dsimp only
      split
      · next truth => rw [Act.run_build, restricted_run under, truth]
      · rfl

theorem filter_restricts (bound : context.binding = .reference target)
    (under : context.node? = some node)
    (ran : (rows.filter context).run.run ambient = (.ok offered, after)) :
    (offered = none ∧ after = ambient ∧ rows.restriction? context.model target node.type = none) ∨
      ∃ predicate built later, rows.restriction? context.model target node.type = some predicate ∧
        (predicate (.parameter ⟨ambient.supply.next, target.logicalType.elementOrSelf⟩
          rowParameter)).run ⟨ambient.supply.next + 1⟩ = (built, later) ∧ built.type = .bool ∧
        offered = some (.call ⟨later.next + 1, node.type⟩ .filter
          [node, .lambda ⟨later.next, .bool⟩ rowParameter built]) ∧
        after = { ambient with supply := ⟨later.next + 2⟩ } := by
  rw [filter_run bound under] at ran
  cases concerned : rows.restriction? context.model target node.type with
  | none =>
    rw [concerned] at ran
    cases ran
    exact .inl ⟨rfl, rfl, rfl⟩
  | some predicate =>
    rw [concerned] at ran
    dsimp only at ran
    split at ran
    · next truth =>
      cases ran
      exact .inr ⟨predicate, _, _, rfl, rfl, truth, rfl, rfl⟩
    · cases ran

theorem filter_bound (bound : context.binding = .reference target)
    (under : context.node? = some node) (typed : node.type = target.logicalType)
    (ran : (rows.filter context).run.run ambient = (.ok offered, after)) :
    (offered = none ∧ rows.predicate? context.model target = none) ∨
      ∃ predicate built stamp id, rows.predicate? context.model target = some predicate ∧
        Builds predicate target built ∧ stamp.type = target.logicalType ∧
        offered = some (.call stamp .filter [node, .lambda ⟨id, .bool⟩ rowParameter built]) := by
  have same : rows.predicate? context.model target =
      rows.restriction? context.model target node.type := by
    rw [typed]
    rfl
  rw [same]
  rcases filter_restricts bound under ran with
    ⟨idle, -, unconcerned⟩ | ⟨predicate, built, later, concerned, building, -, offer, -⟩
  · exact .inl ⟨idle, unconcerned⟩
  · exact .inr ⟨predicate, built, ⟨later.next + 1, node.type⟩, later.next, concerned,
      ⟨_, _, by rw [building]⟩, typed, offer⟩

end Filter

/-- A node is a data reference of the model that carries its type. -/
structure Denotes (model : Model) (target : DataReference) (node : Expr) : Prop where
  shape : ∃ stamp, node = .source stamp target.qualifier target.name target.args
  resolved : model.resolve? target.qualifier target.name = some target.element
  typed : node.type = target.logicalType

/-- What stands for a reference in the course of the filters: the reference itself until it has been
sourced, and a tree without references from then on. Sourcing it asks about some nodes and comes to
some shape. -/
inductive Standing (store : Store) (target : DataReference) (node : Expr) :
    Expr → List Expr → Expr → Prop
  | itself : Standing store target node node [node] (fragment store target)
  | settled {current : Expr} : current.hasDataReference = false →
    Standing store target node current [] current.erased

/-- A tree without references of some shape. -/
def Settles (shape tree : Expr) : Prop := tree.hasDataReference = false ∧ tree.erased = shape

/-- Two contexts hold the same model and the same substitutions. -/
structure Agrees (context other : Context) : Prop where
  model_eq : context.model = other.model
  substitutions_eq : context.substitutions = other.substitutions

namespace Agrees

variable {context other : Context}

theorem of_setting (same : context.setting = other.setting) : Agrees context other where
  model_eq := congrArg (·.model) same
  substitutions_eq := congrArg (·.substitutions) same

theorem of_push {node : Option Expr} (pushed : context.push node = .ok other) :
    Agrees other context := by
  rw [Context.push_frames pushed]
  exact ⟨rfl, rfl⟩

theorem trans {third : Context} (first : Agrees context other) (second : Agrees other third) :
    Agrees context third :=
  ⟨first.model_eq.trans second.model_eq, first.substitutions_eq.trans second.substitutions_eq⟩

theorem substitution?_eq (agrees : Agrees context other) (e : Expr) :
    context.substitution? e = other.substitution? e :=
  congrFun (Context.substitution?_congr agrees.substitutions_eq) e

end Agrees

section Frame

variable {filters : List CollectionFilter} {store : Store} {before : Recording} {node : Expr}
  {target : DataReference} {binding : Binding} {outer : List Frame}

theorem Denotes.isSource {model : Model} (denotes : Denotes model target node) :
    node.isSource = true := by
  obtain ⟨stamp, rfl⟩ := denotes.shape
  rfl

theorem binding_of_source {context : Context} {stamp : Stamp}
    (resolved : context.model.resolve? target.qualifier target.name = some target.element)
    (bound : context.bindIn outer (.source stamp target.qualifier target.name target.args) =
      .ok binding) : binding = .reference target := by
  have bound := Context.bindIn_ok bound
  rw [Binding.ofNode_source stamp resolved] at bound
  exact (Except.ok.inj bound).symm

/-- A reference in its frame is sourced as the fragment of the store. -/
theorem yields_fragment (under : before.context.node? = some node)
    (here : before.context.binding = .reference target) :
    Yields (source (registry filters store) node) [node] (Settles (fragment store target))
      before := by
  have refers : before.context.binding.reference? = some target := by rw [here]; rfl
  refine (store.ends_source rfl under refers).mono ?_ (fun _ _ _ => trivial)
  rintro tree after served
  exact ⟨served.setting_eq, served.asked_eq under, served.hasDataReference_eq, served.erased_eq⟩

theorem yields_settled {current : Expr}
    (other : before.context.binding.reference? = none ∨ before.context.node? ≠ some current) :
    Yields (source (registry filters store) current) [] (fun tree => tree = current) before := by
  unfold Yields Account.Charges
  rw [ends_source_settled other]
  exact ⟨rfl, (List.append_nil _).symm, rfl⟩

theorem yields_unfiltered {revisit : Expr → Walk Expr} {current : Expr}
    (rest : List CollectionFilter) (unbound : before.context.binding.reference? = none) :
    Yields (filtered revisit node (rest.map hook) current) [] (fun tree => tree = current)
      before := by
  induction rest generalizing before with
  | nil => exact Account.charges_pure rfl
  | cons rows rest ih =>
    rw [List.map_cons]
    unfold filtered
    refine (yields_consult (by simp) rows.hook).bind fun offered middle same answer => ?_
    obtain ⟨after, ran⟩ := answer
    have idle : (rows.hook.run (before.context.consulting .filter rows.hook.name)).run.run
        before.ambient = (.ok none, before.ambient) := filter_unbound unbound
    rw [idle] at ran
    cases ran
    exact ih (by rw [Context.binding_of_setting same]; exact unbound)

/-- In the frame of a node that is no reference, what has been made of it stays what it is. -/
theorem yields_unconcerned {revisit : Expr → Walk Expr} {current : Expr}
    (unbound : before.context.binding.reference? = none) :
    Yields (filtered revisit node (filters.map hook) current >>= source (registry filters store)) []
      (fun tree => tree = current) before := by
  refine (yields_unfiltered filters unbound).bind fun _ after same unchanged => ?_
  subst unchanged
  refine yields_settled (.inl ?_)
  rw [Context.binding_of_setting same]
  exact unbound

/-- In the frame of a node, what is below it is visited first, then filters are asked about it, and
in the end it may be sourced. -/
theorem ends_inFrame {visit revisit : Expr → Walk Expr} {done : Expr → Recording → Prop}
    {failed : Rewriting.Error → Recording → Prop}
    (frames : before.context.frames = ⟨some node, binding⟩ :: outer) :
    Ends (inFrame (registry filters store) visit revisit node) done failed before ↔
      Ends (descended visit node binding.isReference >>= fun rewritten =>
        filtered revisit node (filters.map hook) rewritten >>= source (registry filters store))
        done failed before := ends_unhooked rfl rfl rfl frames

theorem yields_inFrame {visit revisit : Expr → Walk Expr} {sourced others : List Expr}
    {made good : Expr → Prop} (frames : before.context.frames = ⟨some node, binding⟩ :: outer)
    (below : Yields (descended visit node binding.isReference) sourced made before)
    (above : ∀ rewritten middle, middle.context.setting = before.context.setting →
      made rewritten →
      Yields
        (filtered revisit node (filters.map hook) rewritten >>= source (registry filters store))
        others good middle) :
    Yields (inFrame (registry filters store) visit revisit node) (sourced ++ others) good
      before := by
  unfold Yields Account.Charges
  rw [ends_inFrame frames]
  exact below.bind above

/-- A node that is no reference, in a frame of its own, is put together again from what becomes of
its children. -/
theorem yields_plain {room : Nat} {sourced : List Expr} {made : List Expr → Prop}
    (plain : node.isSource = false) (free : before.context.substitution? node = none)
    (below : ∀ state : Recording, Agrees state.context before.context →
      Yields (node.children.mapM (visit (registry filters store) room)) sourced made state) :
    Yields (visit (registry filters store) (room + 1) node) sourced
      (fun tree => ∃ given, made given ∧ ∃ supply, tree = ((node.withChildren given).run supply).1)
      before := by
  unfold Yields Account.Charges
  rw [ends_visit free]
  refine yields_nested fun entered pushed => ?_
  obtain ⟨binding, frames, bound⟩ := Context.entered_some pushed
  have unbound := Context.unbound_of_bindIn bound plain
  have unreferenced : binding.isReference = false := by
    rw [← Context.isSource_of_bindIn bound, plain]
  have visited : Yields (descended (visit (registry filters store) room) node binding.isReference)
      sourced
      (fun tree => ∃ given, made given ∧ ∃ supply, tree = ((node.withChildren given).run supply).1)
      { before with context := entered } := by
    rw [descended, unreferenced, if_neg Bool.false_ne_true]
    exact Account.charges_children (below _ (.of_push pushed))
  rw [← List.append_nil sourced]
  refine yields_inFrame frames visited fun rewritten middle same left => ?_
  have here : middle.context.binding = binding :=
    (Context.binding_of_setting same).trans (Context.binding_of_frames frames)
  refine (yields_unconcerned (here ▸ unbound)).mono ?_
  rintro tree rfl
  exact left

theorem yields_standing {current shape : Expr} {sourced : List Expr} {stamp : Stamp}
    (same : node = .source stamp target.qualifier target.name target.args)
    (resolved : before.context.model.resolve? target.qualifier target.name = some target.element)
    (standing : Standing store target node current sourced shape) :
    Yields (nested (some current) (source (registry filters store) current)) sourced
      (Settles shape) before := by
  refine yields_nested fun entered pushed => ?_
  obtain ⟨binding, frames, bound⟩ := Context.entered_some pushed
  cases standing with
  | itself =>
    rw [← (Agrees.of_push pushed).model_eq] at resolved
    rw [same] at bound
    rw [binding_of_source resolved bound] at frames
    exact yields_fragment (Context.node?_of_frames frames) (Context.binding_of_frames frames)
  | settled free =>
    have unbound := Context.unbound_of_bindIn bound (Expr.isSource_of_hasDataReference free)
    rw [← Context.binding_of_frames frames] at unbound
    refine (yields_settled (.inl unbound)).mono ?_
    rintro tree rfl
    exact ⟨free, rfl⟩

end Frame

section Walk

/-- Visits that make of a tree what substitution makes of it, wherever no reference of the tree is
substituted. -/
def Substitutes (filters : List CollectionFilter) (store : Store) (model : Model)
    (visit : Expr → Walk Expr) : Prop :=
  ∀ e before, before.context.model = model →
    (∀ entry ∈ before.context.substitutions,
      entry.1.isSource = true ∧ entry.1 ∉ e.outerReferences) →
    Annotated model e →
    Yields (visit e) e.outerReferences
      (fun tree => tree.hasDataReference = false ∧
        Substituted filters model store e tree.erased) before

/-- Visits that put what stands for a reference in its place in what a filter offers for it. -/
def Restricts (store : Store) (model : Model) (visit : Expr → Walk Expr) : Prop :=
  ∀ node target current sourced shape stamp selector before, before.context.model = model →
    (∀ entry ∈ before.context.substitutions, entry.1.isSource = true) →
    before.context.substitution? node = some current → Denotes model target node →
    Standing store target node current sourced shape → selector.hasDataReference = false →
    Yields (visit (.call stamp .filter [node, selector])) sourced
      (Settles (.call (.anonymous stamp.type) .filter [shape, selector.erased])) before

variable {filters : List CollectionFilter} {store : Store} {model : Model} {before : Recording}

theorem Substituted.of_free {e tree : Expr} (free : e.hasDataReference = false)
    (substituted : Substituted filters model store e tree) : tree = e.erased := by
  induction e using Expr.ofChildren generalizing tree with
  | step e ih =>
    rw [Expr.hasDataReference_eq, Bool.or_eq_false_iff, List.any_eq_false] at free
    obtain ⟨plain, below⟩ := free
    cases substituted with
    | reference => contradiction
    | @rebuilt _ given _ children =>
      have same : given = e.children.map Expr.erased := by
        have each : List.Forall₂ (fun child tree => tree = child.erased) e.children given := by
          refine List.forall₂_iff_get.mpr ⟨children.length_eq, fun place inside inside' => ?_⟩
          have member := List.get_mem e.children ⟨place, inside⟩
          exact ih _ member (by simpa using below _ member) (children.get inside inside')
        rw [← List.forall₂_eq_eq_eq, List.forall₂_map_right_iff]
        exact each.flip
      rw [same, Expr.overChildren_self]

theorem substitution?_of_plain {context : Context} {e : Expr} (plain : e.isSource = false)
    (keys : ∀ entry ∈ context.substitutions, entry.1.isSource = true) :
    context.substitution? e = none := by
  unfold Context.substitution?
  rw [Option.map_eq_none_iff, List.find?_eq_none]
  intro entry member same
  have source := keys entry member
  rw [of_decide_eq_true same, plain] at source
  contradiction

theorem restricts_visit {room : Nat}
    (substitutes : Substitutes filters store model (visit (registry filters store) room)) :
    Restricts store model (visit (registry filters store) (room + 1)) := by
  intro node target current sourced shape stamp selector before modelled keys found denotes standing
    free
  have first (state : Recording) (agrees : Agrees state.context before.context) :
      Yields (visit (registry filters store) room node) sourced (Settles shape) state := by
    cases room with
    | zero => trivial
    | succ room =>
      unfold Yields Account.Charges
      rw [ends_visit_substituted ((agrees.substitution?_eq _).trans found)]
      rw [← modelled, ← agrees.model_eq] at denotes
      obtain ⟨stamp, same⟩ := denotes.shape
      exact yields_standing same denotes.resolved standing
  have second (state : Recording) (agrees : Agrees state.context before.context) :
      Yields (visit (registry filters store) room selector) [] (Settles selector.erased) state := by
    have none := Expr.outerReferences_of_free selector free
    have visited := substitutes selector state (agrees.model_eq.trans modelled) ?_ ?_
    · rw [none] at visited
      exact visited.mono fun tree ⟨settled, substituted⟩ => ⟨settled, substituted.of_free free⟩
    · rw [agrees.substitutions_eq, none]
      exact fun entry member => ⟨keys entry member, List.not_mem_nil⟩
    · intro stamp qualifier name args member
      rw [none] at member
      contradiction
  have both (state : Recording) (agrees : Agrees state.context before.context) :
      Yields ([node, selector].mapM (visit (registry filters store) room)) (sourced ++ ([] ++ []))
        (List.Forall₂ Settles [shape, selector.erased]) state := by
    simp only [List.mapM_cons, List.mapM_nil, pure_bind]
    refine (first state agrees).bind fun filled middle same settles => ?_
    have still := (Agrees.of_setting same).trans agrees
    refine Account.Charges.bind ?_ fun rest _ _ selected =>
      Account.charges_pure (.cons settles selected)
    exact (second middle still).bind fun selected _ _ settles =>
      Account.charges_pure (.cons settles .nil)
  simp only [List.append_nil] at both
  refine (yields_plain rfl (substitution?_of_plain rfl keys) both).mono ?_
  rintro tree ⟨given, made, supply, rfl⟩
  obtain ⟨filled, _, settled, rest, rfl⟩ := List.forall₂_cons_left_iff.mp made
  obtain ⟨selected, _, chosen, none, rfl⟩ := List.forall₂_cons_left_iff.mp rest
  cases none
  constructor
  · exact Expr.hasDataReference_withChildren supply rfl (.cons settled.1 (.cons chosen.1 .nil))
  · rw [Expr.erased_withChildren, List.map_cons, List.map_cons, settled.2, chosen.2]
    rfl

theorem restricts_revisit {room : Nat}
    (restricts : Restricts store model (visit (registry filters store) room)) :
    Restricts store model (revisit (registry filters store) (room + 1)) := by
  intro node target current sourced shape stamp selector before modelled keys found denotes standing
    free
  unfold revisit
  refine yields_nested fun entered pushed => ?_
  have agrees := Agrees.of_push pushed
  refine restricts node target current sourced shape stamp selector _
    (agrees.model_eq.trans modelled) ?_ ?_ denotes standing free
  · dsimp only
    rw [agrees.substitutions_eq]
    exact keys
  · rw [agrees.substitution?_eq, found]

/-- A walk is in the frame of a reference. -/
structure Visiting (model : Model) (target : DataReference) (node : Expr) (context : Context) :
    Prop where
  model_eq : context.model = model
  keys : ∀ entry ∈ context.substitutions, entry.1.isSource = true
  under : context.node? = some node
  here : context.binding = .reference target
  denotes : Denotes model target node

section Reference

variable {node current shape : Expr} {target : DataReference} {sourced : List Expr}
  {context : Context}

theorem Visiting.of_setting {earlier : Context} (visiting : Visiting model target node earlier)
    (same : context.setting = earlier.setting) : Visiting model target node context := by
  obtain ⟨model_eq, keys, under, here, denotes⟩ := visiting
  have agrees := Agrees.of_setting same
  refine ⟨agrees.model_eq.trans model_eq, ?_, ?_, ?_, denotes⟩
  · rw [agrees.substitutions_eq]
    exact keys
  · exact (Context.node?_of_setting same).trans under
  · exact (Context.binding_of_setting same).trans here

theorem Standing.ne_offered (standing : Standing store target node current sourced shape)
    (source : node.isSource = true) (stamp : Stamp) (selector : Expr) :
    ¬(Expr.call stamp .filter [node, selector] = node ∨
      Expr.call stamp .filter [node, selector] = current) := by
  rintro (same | same)
  · rw [← same] at source
    contradiction
  · cases standing with
    | itself =>
      rw [← same] at source
      contradiction
    | settled free =>
      rw [← same, Expr.hasDataReference_eq] at free
      simp [Expr.children, Expr.hasDataReference_eq node, source] at free

theorem yields_unwrapped (visiting : Visiting model target node before.context)
    (standing : Standing store target node current sourced shape) :
    Yields (source (registry filters store) current) sourced (Settles shape) before := by
  cases standing with
  | itself => exact yields_fragment visiting.under visiting.here
  | settled free =>
    have other : before.context.node? ≠ some current := by
      rw [visiting.under]
      rintro ⟨⟩
      have plain := Expr.isSource_of_hasDataReference free
      rw [visiting.denotes.isSource] at plain
      contradiction
    refine (yields_settled (.inr other)).mono ?_
    rintro tree rfl
    exact ⟨free, rfl⟩

/-- In the frame of a reference, each filter that has a predicate for it puts a `where` call around
what the filters before have made of it. In the end the reference has been sourced. -/
theorem yields_filters {revisit : Expr → Walk Expr} (restricts : Restricts store model revisit)
    (rest : List CollectionFilter) (free : ∀ rows ∈ rest, rows.ReferenceFree)
    (visiting : Visiting model target node before.context)
    (standing : Standing store target node current sourced shape) :
    Yields (filtered revisit node (rest.map hook) current >>= source (registry filters store))
      sourced
      (fun tree => tree.hasDataReference = false ∧ Wrapped model target rest shape tree.erased)
      before := by
  induction rest generalizing before current sourced shape with
  | nil =>
    rw [List.map_nil, filtered, pure_bind]
    refine (yields_unwrapped visiting standing).mono ?_
    rintro tree ⟨settled, rfl⟩
    exact ⟨settled, .done⟩
  | cons rows rest ih =>
    obtain ⟨freely, others⟩ := List.forall_mem_cons.mp free
    rw [List.map_cons, filtered, bind_assoc, ← List.nil_append sourced]
    refine (yields_consult (by simp) rows.hook).bind fun offered middle same answer => ?_
    have visiting' := visiting.of_setting same
    obtain ⟨after, ran⟩ := answer
    rcases filter_bound visiting.here visiting.under visiting.denotes.typed ran with
      ⟨rfl, unconcerned⟩ | ⟨predicate, built, stamp, id, concerned, builds, typed, rfl⟩
    · rw [visiting.model_eq] at unconcerned
      exact (ih others visiting' standing).mono fun tree ⟨settled, wrapped⟩ =>
        ⟨settled, .unconcerned unconcerned wrapped⟩
    · rw [visiting.model_eq] at concerned
      have selector : (Expr.lambda ⟨id, .bool⟩ rowParameter built).hasDataReference = false := by
        simp [Expr.hasDataReference_eq (.lambda _ _ _), Expr.isSource, Expr.children,
          builds.free freely concerned]
      dsimp only
      rw [if_neg (standing.ne_offered visiting.denotes.isSource stamp _), bind_assoc,
        ← List.nil_append sourced]
      refine (Account.charges_checkType trivial).bind fun _ checked same _ => ?_
      have visiting := visiting'.of_setting same
      rw [bind_assoc, ← List.append_nil sourced]
      -- The offer holds the reference itself, for which `current` stands while the offer is walked.
      have walked := restricts node target current sourced shape stamp _
        { checked with context := checked.context.substitute node current } visiting.model_eq
        (List.forall_mem_cons.mpr ⟨visiting.denotes.isSource, visiting.keys⟩)
        (by simp [Context.substitution?, Context.substitute]) visiting.denotes standing selector
      have substituted := Account.charges_substituting yielding_unstacked walked
      refine substituted.bind fun tree last same settles => ?_
      -- That walk has sourced the reference, so the other filters find it settled.
      refine (ih others (visiting.of_setting same) (.settled settles.1)).mono ?_
      rintro result ⟨settled, wrapped⟩
      rw [settles.2, typed] at wrapped
      exact ⟨settled, .restricted concerned builds wrapped⟩

theorem yields_reference {room : Nat}
    (restricts : Restricts store model (revisit (registry filters store) room))
    (free : ∀ rows ∈ filters, rows.ReferenceFree) (modelled : before.context.model = model)
    (keys : ∀ entry ∈ before.context.substitutions, entry.1.isSource = true)
    (unsubstituted : before.context.substitution? node = none) (source : node.isSource = true)
    (annotated : Annotated model node) :
    Yields (visit (registry filters store) (room + 1) node) [node]
      (fun tree => tree.hasDataReference = false ∧
        Substituted filters model store node tree.erased) before := by
  unfold Yields Account.Charges
  rw [ends_visit unsubstituted]
  refine yields_nested fun entered pushed => ?_
  obtain ⟨binding, frames, bound⟩ := Context.entered_some pushed
  have agrees := Agrees.of_push pushed
  obtain ⟨target, rfl⟩ := Binding.ofNode_of_isSource source (Context.bindIn_ok bound)
  obtain ⟨-, stamp, rfl, resolved⟩ := Context.bindIn_reference bound rfl
  have entered_model : entered.model = model := agrees.model_eq.trans modelled
  rw [entered_model] at resolved
  have typed : stamp.type = target.logicalType :=
    annotated stamp _ _ _ (List.mem_singleton.mpr rfl) _ resolved
  have visiting : Visiting model target (.source stamp target.qualifier target.name target.args)
      entered := by
    refine ⟨entered_model, ?_, ?_, ?_, ⟨⟨stamp, rfl⟩, resolved, typed⟩⟩
    · rw [agrees.substitutions_eq]
      exact keys
    · exact Context.node?_of_frames frames
    · exact Context.binding_of_frames frames
  have below : Yields (descended (visit (registry filters store) room)
      (.source stamp target.qualifier target.name target.args)
      (Binding.reference target).isReference) []
      (fun rewritten => rewritten = .source stamp target.qualifier target.name target.args)
      { before with context := entered } := Account.charges_pure rfl
  refine yields_inFrame frames below fun rewritten middle same unchanged => ?_
  subst unchanged
  refine (yields_filters restricts filters free (visiting.of_setting same) .itself).mono ?_
  rintro tree ⟨settled, wrapped⟩
  exact ⟨settled, .reference resolved wrapped⟩

end Reference

theorem Annotated.child {e child : Expr} (annotated : Annotated model e)
    (plain : e.isSource = false) (below : child ∈ e.children) : Annotated model child := by
  intro stamp qualifier name args member
  refine annotated stamp qualifier name args ?_
  rw [Expr.outerReferences_eq plain]
  exact List.mem_flatMap.mpr ⟨child, below, member⟩

theorem substitutes_visit {room : Nat} (free : ∀ rows ∈ filters, rows.ReferenceFree)
    (substitutes : Substitutes filters store model (visit (registry filters store) room))
    (restricts : Restricts store model (revisit (registry filters store) room)) :
    Substitutes filters store model (visit (registry filters store) (room + 1)) := by
  intro e before modelled unsubstituted annotated
  have keys : ∀ entry ∈ before.context.substitutions, entry.1.isSource = true :=
    fun entry member => (unsubstituted entry member).1
  cases shape : e.isSource with
  | true =>
    rw [Expr.outerReferences_of_isSource shape] at unsubstituted ⊢
    refine yields_reference restricts free modelled keys ?_ shape annotated
    unfold Context.substitution?
    rw [Option.map_eq_none_iff, List.find?_eq_none]
    intro entry member same
    exact (unsubstituted entry member).2 (List.mem_singleton.mpr (of_decide_eq_true same))
  | false =>
    rw [Expr.outerReferences_eq shape] at unsubstituted ⊢
    have below (state : Recording) (agrees : Agrees state.context before.context) :
        Yields (e.children.mapM (visit (registry filters store) room))
          (e.children.flatMap Expr.outerReferences) (List.Forall₂ (fun child tree =>
            tree.hasDataReference = false ∧ Substituted filters model store child tree.erased)
            e.children) state := by
      refine yields_mapM fun child member state' same => ?_
      have still := (Agrees.of_setting same).trans agrees
      refine substitutes child state' (still.model_eq.trans modelled) ?_
        (annotated.child shape member)
      rw [still.substitutions_eq]
      intro entry listed
      obtain ⟨source, absent⟩ := unsubstituted entry listed
      exact ⟨source, fun inside => absent (List.mem_flatMap.mpr ⟨child, member, inside⟩)⟩
    refine (yields_plain shape (substitution?_of_plain shape keys) below).mono ?_
    rintro tree ⟨given, made, supply, rfl⟩
    constructor
    · exact Expr.hasDataReference_withChildren supply shape (made.imp fun _ _ both => both.1)
    · rw [Expr.erased_withChildren]
      refine .rebuilt shape ?_
      rw [List.forall₂_map_right_iff]
      exact made.imp fun _ _ both => both.2

/-- By induction on the frames that may still be entered. A visit of a plain node needs visits with
fewer of them; one of a reference needs the walk of what a filter offers. -/
theorem substitutes_walk (free : ∀ rows ∈ filters, rows.ReferenceFree) (room : Nat) :
    Substitutes filters store model (visit (registry filters store) room) ∧
      Restricts store model (visit (registry filters store) room) ∧
      Restricts store model (revisit (registry filters store) room) := by
  induction room with
  | zero =>
    refine ⟨fun e before _ _ _ => trivial, ?_, ?_⟩
    · intro node target current sourced shape stamp selector before _ _ _ _ _ _
      trivial
    · intro node target current sourced shape stamp selector before _ _ _ _ _ _
      trivial
  | succ room ih =>
    obtain ⟨substitutes, restricts, again⟩ := ih
    exact ⟨substitutes_visit free substitutes again, restricts_visit substitutes,
      restricts_revisit restricts⟩

end Walk

/-- A walk with collection filters over a store that succeeds makes of a query what substitution
makes of it, and has asked the sourcer about each of its references once, from left to right. -/
theorem substituted_of_run (filters : List CollectionFilter) (store : Store) (query : Expr)
    (model : Model) (request : RequestContext) (maxDepth : Nat) (ambient : Ambient)
    (free : ∀ rows ∈ filters, rows.ReferenceFree) (annotated : Annotated model query)
    {tree : Expr} {after : State}
    (ran : run (registry filters store) query { model, request, maxDepth } ambient =
      (.ok tree, after)) :
    Substituted filters model store query tree.erased ∧
      after.context.asked = query.outerReferences.map some := by
  have walked : Yields (whole (registry filters store) query) query.outerReferences
      (fun tree => tree.hasDataReference = false ∧
        Substituted filters model store query tree.erased)
      { context := { model, request, maxDepth }, ambient } := by
    unfold Yields Account.Charges
    rw [ends_whole]
    dsimp only
    cases maxDepth - ({ model, request, maxDepth } : Context).depth with
    | zero => trivial
    | succ room =>
      refine yields_nested fun entered pushed => ?_
      have agrees := Agrees.of_push pushed
      refine (substitutes_walk free room).1 query _ agrees.model_eq ?_ annotated
      rw [agrees.substitutions_eq]
      intro entry member
      contradiction
  obtain ⟨inquiries, ran⟩ := recorded_of_run ran
  obtain ⟨-, asked, -, substituted⟩ := Ends.done_of_ok walked ran
  exact ⟨substituted, asked⟩

/-- Two filters protect the orders, which a query refers to twice, and none the customers. -/
theorem orders_restricted :
    let model : Model := {
      space := "shop"
      entityTypes := [
        ("Customer", { name := "Customer", fields := [] }),
        ("Order", { name := "Order", fields := [("open", { type := .bool })] })]
      elements := [
        ("Customers", .collection "Customers" "Customer"),
        ("Orders", .collection "Orders" "Order")] }
    let store : Store := { collections := [("Customers", []), ("Orders", [])] }
    let opened : CollectionFilter := ⟨[("Orders", fun row => Fresh.member row "open" .bool)]⟩
    let known : CollectionFilter := ⟨[("Orders", fun row => Fresh.binary .eq row row)]⟩
    let orders (id : Nat) : Expr := .source ⟨id, .queryable (.entity "Order")⟩ none "Orders" []
    let customers : Expr := .source ⟨5, .queryable (.entity "Customer")⟩ none "Customers" []
    let query : Expr := .call ⟨0, .queryable (.entity "Order")⟩ .filter [orders 1,
      .lambda ⟨2, .bool⟩ "o" (.binary ⟨3, .bool⟩ .and (.call ⟨4, .bool⟩ .any [customers])
        (.call ⟨6, .bool⟩ .any [orders 7]))]
    ∃ tree after, run (registry [opened, known] store) query
        { model, request := .ofCaller .service, maxDepth := 16 } { supply := ⟨8⟩ } =
          (.ok tree, after) ∧
      Substituted [opened, known] model store query tree.erased ∧
      after.context.asked = [some (orders 1), some customers, some (orders 7)] := by
  intro model store opened known orders customers query
  have succeeds : (run (registry [opened, known] store) query
      { model, request := .ofCaller .service, maxDepth := 16 } { supply := ⟨8⟩ }).1.isOk =
        true := by
    decide +kernel
  have free : ∀ rows ∈ [opened, known], rows.ReferenceFree := by
    simp only [List.forall_mem_cons, List.not_mem_nil, false_implies, implies_true, and_true]
    constructor
    · refine .of_entries fun entry member stamp supply => ?_
      cases List.mem_singleton.mp member
      rfl
    · refine .of_entries fun entry member stamp supply => ?_
      cases List.mem_singleton.mp member
      rfl
  have annotated : Annotated model query := by
    intro stamp qualifier name args member element resolved
    rw [show query.outerReferences = [orders 1, customers, orders 7] by decide +kernel] at member
    simp only [List.mem_cons, List.not_mem_nil, or_false] at member
    rcases member with same | same | same
    all_goals
      obtain ⟨rfl, rfl, rfl, rfl⟩ := Expr.source.inj same
      cases resolved
      rfl
  obtain ⟨tree, after, ran⟩ := exists_of_isOk succeeds
  obtain ⟨substituted, asked⟩ := substituted_of_run [opened, known] store query model _ 16 _ free
    annotated ran
  exact ⟨tree, after, ran, substituted, asked⟩

end QueryRewriting.Access.CollectionFilter
