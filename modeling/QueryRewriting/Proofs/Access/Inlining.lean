import QueryRewriting.Proofs.Access.CircularViews
import QueryRewriting.Proofs.Access.Substitution

/-! Inlining of views. What a walk makes of a query is a function of the query, identities aside: a
reference to a view stands for what its definition builds, every other reference for the fragment of
the store in the `where` calls of its filters. The same comes of a query whose views are inlined. -/
namespace QueryRewriting.Access.Views

open Rewriting Schema Evaluation

/-- A tree that is built of given ones. Its nodes exist then, and each data reference in it is new or
a node of the given trees. -/
structure Composed (given : List Expr) (supply : NodeSupply) (tree : Expr) (after : NodeSupply) :
    Prop where
  later : supply.next ≤ after.next
  issued : tree.Issued after
  references : ∀ node ∈ tree.nodes, node.isSource = true →
    supply.next ≤ node.id ∨ ∃ arg ∈ given, node ∈ arg.nodes

/-- What is built goes by the form of the given trees, and holds no data reference of its own. -/
structure Structural {α : Type} (given : α → List Expr)
    (build : α → ExceptT Schema.Error Fresh Expr) : Prop where
  composes : ∀ input supply, (∀ tree ∈ given input, tree.Issued supply) → ∀ tree after,
    (build input).run.run supply = (.ok tree, after) → Composed (given input) supply tree after
  alike : ∀ input input' supply supply' tree tree' after after',
    (given input).map Expr.erased = (given input').map Expr.erased →
    (build input).run.run supply = (.ok tree, after) →
    (build input').run.run supply' = (.ok tree', after') → tree.erased = tree'.erased

/-- All definitions build trees by the form of the arguments. -/
def AllStructural (views : Views) (model : Model) : Prop :=
  ∀ name definition, Entries.find? views.definitions name = some definition →
    Structural id (definition model)

/-- A predicate as a definition over the one row. -/
def ofPredicate (predicate : RowPredicate) (row : Expr) : ExceptT Schema.Error Fresh Expr :=
  liftM (predicate row)

theorem Composed.given {given : List Expr} {supply after : NodeSupply} {tree : Expr}
    (member : tree ∈ given) (issued : tree.Issued supply) (later : supply.next ≤ after.next) :
    Composed given supply tree after where
  later := later
  issued := issued.later later
  references := fun _ inside _ => .inr ⟨tree, member, inside⟩

/-- A new node over trees that are built. -/
theorem Composed.node {given : List Expr} {supply after : NodeSupply} {e : Expr}
    (fresh : supply.next ≤ e.id) (last : e.id < after.next)
    (below : ∀ child ∈ e.children, Composed given supply child after) :
    Composed given supply e after := by
  refine ⟨Nat.le_of_lt (Nat.lt_of_le_of_lt fresh last), ?_, ?_⟩
  · exact Expr.Issued.node last fun child listed => (below child listed).issued
  · intro node member source
    rw [Expr.nodes_eq, List.mem_cons, List.mem_flatMap] at member
    rcases member with rfl | ⟨child, listed, inside⟩
    · exact .inl fresh
    · exact (below child listed).references node inside source

theorem Composed.weaken {given : List Expr} {supply last after : NodeSupply} {tree : Expr}
    (composed : Composed given supply tree last) (later : last.next ≤ after.next) :
    Composed given supply tree after :=
  ⟨Nat.le_trans composed.later later, composed.issued.later later, composed.references⟩

/-- What is built of the children of a reference that exists is another node. -/
theorem Composed.ne_above {given : List Expr} {supply after : NodeSupply} {e tree : Expr}
    (composed : Composed given supply tree after) (below : ∀ arg ∈ given, arg ∈ e.children)
    (issued : e.id < supply.next) (source : e.isSource = true) : tree ≠ e := by
  rintro rfl
  rcases composed.references tree tree.mem_nodes_self source with fresh | ⟨arg, listed, inside⟩
  · exact absurd fresh (Nat.not_le_of_lt issued)
  · exact Expr.not_mem_nodes_of_child (below arg listed) inside

/-- What is built on a new row is all new. -/
theorem Composed.on_row {param : String} {id : NodeId} {type : QueryType} {built : Expr}
    {later : NodeSupply}
    (composed : Composed [.parameter ⟨id, type⟩ param] ⟨id + 1⟩ built later) :
    Composed [] ⟨id⟩ built later := by
  refine ⟨Nat.le_of_succ_le composed.later, composed.issued, ?_⟩
  intro node member source
  rcases composed.references node member source with fresh | ⟨row, listed, inside⟩
  · exact .inl (Nat.le_of_succ_le fresh)
  · cases List.mem_singleton.mp listed
    rw [List.mem_singleton.mp inside] at source
    contradiction

theorem Structural.on_row {predicate : RowPredicate}
    (structural : Structural (fun row => [row]) (ofPredicate predicate)) {id : NodeId}
    {type : QueryType} {built : Expr} {later : NodeSupply}
    (building : (predicate (.parameter ⟨id, type⟩ rowParameter)).run ⟨id + 1⟩ = (built, later)) :
    Composed [] ⟨id⟩ built later := by
  apply Composed.on_row
  apply structural.composes (.parameter ⟨id, type⟩ rowParameter)
  · intro tree member node inside
    cases List.mem_singleton.mp member
    cases List.mem_singleton.mp inside
    exact Nat.lt_succ_self id
  · change (Except.ok ((predicate _).run _).1, ((predicate _).run _).2) = _
    rw [building]

/-- All predicates of a filter build trees by the form of the row. -/
def Regular (rows : CollectionFilter) : Prop :=
  ∀ name predicate, Entries.find? rows.predicates name = some predicate →
    Structural (fun row => [row]) (ofPredicate predicate)

/-- A filter has no predicate for what a reference to a view reads from. -/
def Spares (views : Views) (model : Model) (rows : CollectionFilter) : Prop :=
  ∀ qualifier name element, views.defines name = true →
    model.resolve? qualifier name = some element →
    Entries.find? rows.predicates
      (((Binding.reference ⟨qualifier, name, [], element⟩).owner? model).getD name) = none

/-- The definition of a view builds a tree of some arguments, identities aside. -/
def Builds (views : Views) (model : Model) (name : String) (args : List Expr) (tree : Expr) : Prop :=
  ∃ definition given supply built after, Entries.find? views.definitions name = some definition ∧
    given.map Expr.erased = args ∧
    (definition model given).run.run supply = (.ok built, after) ∧ built.erased = tree

/-- A tree with every reference to a view replaced by what the definition of the view builds of the
arguments, and so on within that. The nodes above keep their types. -/
inductive Inlined (views : Views) (model : Model) : Expr → Expr → Prop
  | view {stamp : Stamp} {qualifier : Option String} {name : String} {args : List Expr}
    {tree inlined : Expr} :
    views.Builds model name args tree → Inlined views model tree inlined →
      Inlined views model (.source stamp qualifier name args) inlined
  | kept {e : Expr} {given : List Expr} :
    views.isView e = false → List.Forall₂ (Inlined views model) e.children given →
      Inlined views model e (e.overChildren given)

/-- The predicates that filters have for a reference whose node is of some type. -/
def restrictions (filters : List CollectionFilter) (model : Model) (target : DataReference)
    (type : QueryType) : List RowPredicate :=
  filters.filterMap fun rows => rows.restriction? model target type

/-- The selector that a predicate makes for a reference, identities aside. -/
def Selects (target : DataReference) (predicate : RowPredicate) (selector : Expr) : Prop :=
  ∃ built, CollectionFilter.Builds predicate target built ∧
    selector = .lambda (.anonymous .bool) rowParameter built.erased

/-- A tree with a `where` call around it for each selector. -/
def wrapped (type : QueryType) (tree : Expr) (selectors : List Expr) : Expr :=
  selectors.foldl (fun tree selector => .call (.anonymous type) .filter [tree, selector]) tree

/-- What a walk makes of trees that it comes to one after the other, identities aside, and how often
it asks the sourcer. -/
inductive Walked (views : Views) (filters : List CollectionFilter) (store : Store) (model : Model) :
    List Expr → List Expr → Nat → Prop
  | nil : Walked views filters store model [] [] 0
  | view {stamp : Stamp} {qualifier : Option String} {name : String} {args rest results : List Expr}
    {tree result : Expr} {calls others : Nat} :
    views.Builds model name args tree → Walked views filters store model [tree] [result] calls →
      Walked views filters store model rest results others →
      Walked views filters store model (.source stamp qualifier name args :: rest)
        (result :: results) (calls + others)
  | reference {stamp : Stamp} {qualifier : Option String} {name : String} {element : Element}
    {args selectors selected rest results : List Expr} {calls others : Nat} :
    views.defines name = false → model.resolve? qualifier name = some element →
      List.Forall₂ (Selects ⟨qualifier, name, [], element⟩)
        (restrictions filters model ⟨qualifier, name, [], element⟩ stamp.type) selectors →
      Walked views filters store model selectors selected calls →
      Walked views filters store model rest results others →
      Walked views filters store model (.source stamp qualifier name args :: rest)
        (wrapped stamp.type (CollectionFilter.fragment store ⟨qualifier, name, [], element⟩)
          selected :: results) (1 + calls + others)
  | rebuilt {e : Expr} {given rest results : List Expr} {calls others : Nat} :
    e.isSource = false → Walked views filters store model e.children given calls →
      Walked views filters store model rest results others →
      Walked views filters store model (e :: rest) (e.overChildren given :: results)
        (calls + others)

variable {views : Views} {filters : List CollectionFilter} {store : Store} {model : Model}

theorem Builds.defines {name : String} {args : List Expr} {tree : Expr}
    (builds : views.Builds model name args tree) : views.defines name = true := by
  obtain ⟨definition, _, _, _, _, found, -⟩ := builds
  exact Option.isSome_of_eq_some found

theorem isView_erased (e : Expr) : views.isView e.erased = views.isView e := by cases e <;> rfl

/-- Nothing is inlined in a tree without references to views. -/
theorem Inlined.of_unviewed {e : Expr} (unviewed : e.hasNode views.isView = false) :
    Inlined views model e.erased e.erased := by
  induction e using Expr.ofChildren with
  | step e ih =>
    rw [Expr.hasNode_eq, Bool.or_eq_false_iff, List.any_eq_false] at unviewed
    obtain ⟨here, below⟩ := unviewed
    have whole : Inlined views model e.erased (e.erased.overChildren e.erased.children) := by
      apply Inlined.kept
      · rw [isView_erased, here]
      · rw [Expr.children_erased, List.forall₂_map_left_iff, List.forall₂_map_right_iff,
          List.forall₂_same]
        intro child member
        exact ih child member (by simpa using below child member)
    rwa [Expr.children_erased, Expr.overChildren_erased, Expr.overChildren_self] at whole

theorem Builds.unique (structural : views.AllStructural model) {name : String} {args : List Expr}
    {tree tree' : Expr} (builds : views.Builds model name args tree)
    (builds' : views.Builds model name args tree') : tree = tree' := by
  obtain ⟨definition, given, supply, built, after, found, form, ran, rfl⟩ := builds
  obtain ⟨definition', given', supply', built', after', found', form', ran', rfl⟩ := builds'
  cases found.symm.trans found'
  exact (structural _ _ found).alike _ _ _ _ _ _ _ _ (form.trans form'.symm) ran ran'

theorem Selects.unique {target : DataReference} {predicate : RowPredicate} {selector other : Expr}
    (structural : Structural (fun row => [row]) (ofPredicate predicate))
    (selects : Selects target predicate selector) (others : Selects target predicate other) :
    selector = other := by
  obtain ⟨_, ⟨id, supply, rfl⟩, rfl⟩ := selects
  obtain ⟨_, ⟨id', supply', rfl⟩, rfl⟩ := others
  congr 1
  exact structural.alike (.parameter ⟨id, target.logicalType.elementOrSelf⟩ rowParameter)
    (.parameter ⟨id', target.logicalType.elementOrSelf⟩ rowParameter) supply supply' _ _ _ _ rfl
    rfl rfl

/-- The filters of a reference make the same selectors whenever they are asked. -/
theorem selectors_unique (regular : ∀ rows ∈ filters, Regular rows) {target : DataReference}
    {type : QueryType} {selectors others : List Expr}
    (selects : List.Forall₂ (Selects target) (restrictions filters model target type) selectors)
    (selects' : List.Forall₂ (Selects target) (restrictions filters model target type) others) :
    selectors = others := by
  have structural : ∀ predicate ∈ restrictions filters model target type,
      Structural (fun row => [row]) (ofPredicate predicate) := by
    intro predicate member
    obtain ⟨rows, listed, concerned⟩ := List.mem_filterMap.mp member
    obtain ⟨name, found⟩ := CollectionFilter.found_of_restriction concerned
    exact regular rows listed name predicate found
  revert structural
  generalize restrictions filters model target type = predicates at selects selects'
  intro structural
  induction selects generalizing others with
  | nil =>
    cases selects'
    rfl
  | cons first _ ih =>
    cases selects' with
    | cons first' rest' =>
      obtain ⟨here, below⟩ := List.forall_mem_cons.mp structural
      rw [first.unique here first', ih rest' below]

theorem hasDataReference_wrapped {type : QueryType} {tree : Expr} {selectors : List Expr}
    (settled : tree.hasDataReference = false)
    (each : ∀ selector ∈ selectors, selector.hasDataReference = false) :
    (wrapped type tree selectors).hasDataReference = false := by
  induction selectors generalizing tree with
  | nil => exact settled
  | cons selector rest ih =>
    obtain ⟨here, below⟩ := List.forall_mem_cons.mp each
    apply ih _ below
    simp [Expr.hasDataReference_eq (.call _ _ _), Expr.isSource, Expr.children, settled, here]

theorem Walked.length_eq {es trees : List Expr} {calls : Nat}
    (walked : Walked views filters store model es trees calls) : trees.length = es.length := by
  induction walked with
  | nil => rfl
  | view _ _ _ _ ih | reference _ _ _ _ _ _ ih | rebuilt _ _ _ _ ih =>
    rw [List.length_cons, List.length_cons, ih]

/-- No reference is left in what comes of a tree. -/
theorem Walked.settled {es trees : List Expr} {calls : Nat}
    (walked : Walked views filters store model es trees calls) :
    ∀ tree ∈ trees, tree.hasDataReference = false := by
  induction walked with
  | nil => simp
  | view _ _ _ single ih => exact List.forall_mem_cons.mpr ⟨single _ List.mem_cons_self, ih⟩
  | reference _ _ _ _ _ each ih =>
    exact List.forall_mem_cons.mpr ⟨hasDataReference_wrapped rfl each, ih⟩
  | @rebuilt e given _ _ _ _ plain below _ free ih =>
    refine List.forall_mem_cons.mpr ⟨?_, ih⟩
    apply Expr.hasDataReference_replaceChildren _ _ _ free
    · rw [below.length_eq, Expr.children_erased, List.length_map]
    · rw [Expr.isSource_erased, plain]

theorem Walked.cons {e tree : Expr} {es trees : List Expr} {calls others : Nat}
    (first : Walked views filters store model [e] [tree] calls)
    (rest : Walked views filters store model es trees others) :
    Walked views filters store model (e :: es) (tree :: trees) (calls + others) := by
  cases first with
  | view builds walked none =>
    cases none
    exact .view builds walked rest
  | reference stored resolved selects walked none =>
    cases none
    exact .reference stored resolved selects walked rest
  | rebuilt plain walked none =>
    cases none
    exact .rebuilt plain walked rest

/-- Where definitions and predicates go by the form of what they are given, a walk can make only one
thing of a tree. -/
theorem Walked.unique (structural : views.AllStructural model)
    (regular : ∀ rows ∈ filters, Regular rows) {es trees trees' : List Expr} {calls calls' : Nat}
    (walked : Walked views filters store model es trees calls)
    (walked' : Walked views filters store model es trees' calls') :
    trees = trees' ∧ calls = calls' := by
  induction walked generalizing trees' calls' with
  | nil =>
    cases walked'
    exact ⟨rfl, rfl⟩
  | view builds _ _ single others =>
    cases walked' with
    | view builds' single' others' =>
      cases builds.unique structural builds'
      obtain ⟨same, rfl⟩ := single single'
      obtain ⟨rfl, rfl⟩ := others others'
      cases same
      exact ⟨rfl, rfl⟩
    | reference stored =>
      rw [builds.defines] at stored
      contradiction
    | rebuilt plain => contradiction
  | reference stored resolved selects _ _ selecting others =>
    cases walked' with
    | view builds' =>
      rw [builds'.defines] at stored
      contradiction
    | reference _ resolved' selects' selecting' others' =>
      cases resolved.symm.trans resolved'
      cases selectors_unique regular selects selects'
      obtain ⟨rfl, rfl⟩ := selecting selecting'
      obtain ⟨rfl, rfl⟩ := others others'
      exact ⟨rfl, rfl⟩
    | rebuilt plain => contradiction
  | rebuilt plain _ _ below others =>
    cases walked' with
    | view => contradiction
    | reference => contradiction
    | rebuilt _ below' others' =>
      obtain ⟨rfl, rfl⟩ := below below'
      obtain ⟨rfl, rfl⟩ := others others'
      exact ⟨rfl, rfl⟩

/-- By induction on what comes of a query the same comes of the query with its views inlined. -/
theorem Walked.inlined (structural : views.AllStructural model) {es inlined trees : List Expr}
    {calls : Nat} (walked : Walked views filters store model es trees calls)
    (inlines : List.Forall₂ (Inlined views model) es inlined) :
    Walked views filters store model inlined trees calls := by
  induction walked generalizing inlined with
  | nil =>
    cases inlines
    exact .nil
  | view builds _ _ single others =>
    cases inlines with
    | cons first rest =>
      cases first with
      | view builds' inlines' =>
        cases builds.unique structural builds'
        exact (single (.cons inlines' .nil)).cons (others rest)
      | kept unviewed =>
        rw [isView, builds.defines] at unviewed
        contradiction
  | reference stored resolved selects walked _ _ others =>
    cases inlines with
    | cons first rest =>
      cases first with
      | view builds =>
        rw [builds.defines] at stored
        contradiction
      | kept => exact .reference stored resolved selects walked (others rest)
  | @rebuilt e given _ _ _ _ plain walked _ below others =>
    cases inlines with
    | cons first rest =>
      cases first with
      | view => contradiction
      | @kept _ replaced _ inlines' =>
        have complete : replaced.length = e.children.length := inlines'.length_eq.symm
        rw [← Expr.overChildren_overChildren replaced walked.length_eq]
        refine .rebuilt ((Expr.isSource_overChildren _ _).trans plain) ?_ (others rest)
        rw [Expr.children_overChildren complete]
        exact below inlines'

end QueryRewriting.Access.Views
