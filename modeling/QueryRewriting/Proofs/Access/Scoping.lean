import QueryRewriting.Config
import QueryRewriting.Proofs.Access.Matching
import QueryRewriting.Proofs.Rewriting.Realization

/-! The root parameter under lambdas. A parameter that a lambda declares is not the root, even where
it has its name, and a normalizer that looks at the lambdas around a member access answers alike
about trees that are the same but for the names of lambda parameters. The hooks of a configuration
do so as long as no member of the root parameter is accessed under a lambda that declares it. -/
namespace QueryRewriting

open Schema Rewriting

theorem Enclosed.declared {scopes : Scopes} {around around' : List Expr}
    (enclosed : Enclosed scopes around around') (name : String) :
    (around.any (Binding.declares name) = true ↔ name ∈ scopes.map Prod.fst) ∧
      (around'.any (Binding.declares name) = true ↔ name ∈ scopes.map Prod.snd) := by
  induction enclosed with
  | nil => simp
  | cons outside renamed placed ih =>
    cases renamed <;> simp [Binding.declares, Scopes.inside, ih, @eq_comm _ name]

namespace Access

namespace RootMember

variable (access : RootMember)

/-- Whether the root parameter is that of a lambda around the node under visit. -/
def shadowed (context : Context) : Bool := context.outside.any (Binding.declares access.root)

/-- The normalizer that leaves the members of a lambda's parameter alone, whatever its name. -/
def scopedHook : TreeHook where
  name := access.hook.name
  run := fun context => if access.shadowed context then return none else access.normalize context

/-- The name of the member that the node under visit accesses on the root. -/
def memberOf? (context : Context) (e : Expr) : Option String :=
  if access.shadowed context then none else access.accessed? e

/-- The normalizer has nothing to do with a node: it is no member of the root, or that of the name of
a function. -/
def Overlooks (model : Model) (e : Expr) : Prop :=
  ∀ name, access.accessed? e = some name →
    ∃ element, model.resolve? none name = some element ∧ element.isFunction = true

/-- No member of the root parameter is accessed under a lambda that declares it, but for functions.
-/
def Unshadowed (model : Model) (e : Expr) : Prop :=
  ∀ stamp body, .lambda stamp access.root body ∈ e.nodes →
    ∀ node ∈ body.nodes, access.Overlooks model node

/-- About the nodes of a tree, under lambdas over some parameters, a normalizer answers as the one
that looks at the lambdas. -/
inductive Heeds (model : Model) : TreeHook → List String → Expr → Prop
  | aware (params : List String) (e : Expr) : Heeds model access.scopedHook params e
  | blind {params : List String} {e : Expr} (unshadowed : access.Unshadowed model e)
      (clear : access.root ∈ params → ∀ node ∈ e.nodes, access.Overlooks model node) :
      Heeds model access.hook params e

/-- What two normalizers make of corresponding nodes: nothing, or the data reference that a member of
the root stands for. -/
inductive Normalized (model : Model) (e : Expr) (after after' : NodeSupply) :
    Option Expr → Option Expr → Prop
  | none : Normalized model e after after' none none
  | source {name : String} {element : Element} (accessed : access.accessed? e = some name)
      (found : model.resolve? .none name = some element) {id id' : NodeId}
      (issued : id < after.next) (issued' : id' < after'.next) :
      Normalized model e after after' (some (.source ⟨id, element.logicalType⟩ .none name []))
        (some (.source ⟨id', element.logicalType⟩ .none name []))

variable {access} {model : Model} {scopes : Scopes} {e e' : Expr} {context other : Context}

theorem overlooks_of_bare (bare : access.accessed? e = none) : access.Overlooks model e := by
  intro name accessed
  rw [bare] at accessed
  contradiction

/-- What is bare of accesses to the root may be normalized under any lambdas. -/
theorem heeds_of_bare {normalizer : TreeHook}
    (either : normalizer = access.hook ∨ normalizer = access.scopedHook)
    (bare : ∀ node ∈ e.nodes, access.accessed? node = none) (params : List String) :
    access.Heeds model normalizer params e := by
  rcases either with rfl | rfl
  · apply Heeds.blind
    · intro stamp body member node inside
      apply overlooks_of_bare
      apply bare
      exact Expr.mem_nodes_trans member (Expr.mem_nodes_of_child List.mem_cons_self inside)
    · exact fun _ node inside => overlooks_of_bare (bare node inside)
  · exact .aware params e

theorem Heeds.child {normalizer : TreeHook} {params inner : List String} {child : Expr}
    (heeds : access.Heeds model normalizer params e) (below : child ∈ e.children)
    (within : access.root ∈ inner → access.root ∈ params ∨ Binding.declares access.root e = true) :
    access.Heeds model normalizer inner child := by
  cases heeds with
  | aware => exact .aware inner child
  | blind unshadowed clear =>
    apply Heeds.blind
    · intro stamp body member
      exact unshadowed stamp body (Expr.mem_nodes_of_child below member)
    · intro member node inside
      rcases within member with outer | declared
      · exact clear outer node (Expr.mem_nodes_of_child below inside)
      · cases e with
        | lambda stamp param body =>
          cases List.mem_singleton.mp below
          obtain rfl : param = access.root := by simpa [Binding.declares] using declared
          exact unshadowed stamp child (Expr.mem_nodes_self _) node inside
        | _ => contradiction

/-- About a node itself, under lambdas over some parameters, a normalizer answers as the one that
looks at the lambdas. -/
inductive Minds (access : RootMember) (model : Model) : TreeHook → List String → Expr → Prop
  | aware (params : List String) (e : Expr) : Minds access model access.scopedHook params e
  | blind {params : List String} {e : Expr}
      (clear : access.root ∈ params → access.Overlooks model e) :
      Minds access model access.hook params e

theorem Heeds.minds {normalizer : TreeHook} {params : List String}
    (heeds : access.Heeds model normalizer params e) : access.Minds model normalizer params e := by
  cases heeds with
  | aware => exact .aware params e
  | blind _ clear => exact .blind fun declared => clear declared e e.mem_nodes_self

theorem minds_of_bare {normalizer : TreeHook}
    (either : normalizer = access.hook ∨ normalizer = access.scopedHook)
    (bare : access.accessed? e = none) (params : List String) :
    access.Minds model normalizer params e := by
  rcases either with rfl | rfl
  · exact .blind fun _ => overlooks_of_bare bare
  · exact .aware params e

theorem normalize_of_overlooked (under : context.node? = some e)
    (overlooks : access.Overlooks context.model e) : access.normalize context = return none := by
  unfold normalize
  rw [under, Option.bind_some]
  cases accessed : access.accessed? e with
  | none => rfl
  | some name =>
    obtain ⟨element, found, function⟩ := overlooks name accessed
    simp only [found, function, if_true]

theorem Minds.run_eq {normalizer : TreeHook} {params : List String}
    (minds : access.Minds context.model normalizer params e) (under : context.node? = some e)
    (around : access.shadowed context = true → access.root ∈ params) :
    normalizer.run context = access.scopedHook.run context := by
  cases minds with
  | aware => rfl
  | blind clear =>
    change access.normalize context =
      if access.shadowed context then return none else access.normalize context
    split
    · next shadowed => exact normalize_of_overlooked under (clear (around shadowed))
    · rfl

theorem scoped_run (under : context.node? = some e) (ambient : Ambient) :
    ∃ answer after, (access.scopedHook.run context).run.run ambient = (answer, after) ∧
      match access.memberOf? context e with
      | none => answer = .ok none
      | some name =>
        match context.model.resolve? none name with
        | none => answer = .error (.unknownSource name)
        | some element =>
          if element.isFunction then answer = .ok none
          else ∃ id, id < after.supply.next ∧
            answer = .ok (some (.source ⟨id, element.logicalType⟩ none name [])) := by
  unfold memberOf? scopedHook
  dsimp only
  split
  · exact ⟨_, _, rfl, rfl⟩
  · exact Plan.normalize_run access under ambient

/-- The root parameter stands for itself where no lambda declares it, and for nothing else. -/
theorem free_root (facing : Facing scopes e e' context other) {name name' : String}
    (same : Corresponds scopes name name') :
    access.shadowed context = false ∧ name = access.root ↔
      access.shadowed other = false ∧ name' = access.root := by
  obtain ⟨declared, declared'⟩ := facing.enclosed.declared access.root
  unfold shadowed
  rw [← Bool.not_eq_true, ← Bool.not_eq_true, declared, declared']
  constructor
  · rintro ⟨unbound, rfl⟩
    obtain ⟨rfl, unbound'⟩ := same.eq_of_free unbound
    exact ⟨unbound', rfl⟩
  · rintro ⟨unbound', rfl⟩
    obtain ⟨rfl, unbound⟩ := same.symm.eq_of_free (by simpa [Function.comp_def] using unbound')
    exact ⟨by simpa [Function.comp_def] using unbound, rfl⟩

/-- Nodes that correspond access the same member of the root, or none. -/
theorem memberOf?_alike (facing : Facing scopes e e' context other) :
    access.memberOf? other e' = access.memberOf? context e := by
  unfold memberOf?
  cases facing.renamed with
  | member _ below name =>
    cases below with
    | parameter _ same =>
      have free := access.free_root facing same
      simp only [accessed?]
      split <;> split <;> simp_all
    | _ => simp [accessed?]
  | _ => simp [accessed?]

/-- What a normalizer has answered about a node that accesses some member of the root, or none. -/
def Answered (model : Model) (member : Option String)
    (answer : Except Rewriting.Error (Option Expr)) (after : Ambient) : Prop :=
  match member with
  | none => answer = .ok none
  | some name =>
    match model.resolve? none name with
    | none => answer = .error (.unknownSource name)
    | some element =>
      if element.isFunction then answer = .ok none
      else ∃ id, id < after.supply.next ∧
        answer = .ok (some (.source ⟨id, element.logicalType⟩ none name []))

/-- Normalizers that have answered about the same member have made the same data reference of it. -/
theorem lockstep_of_answered {act act' : Act Rewriting.Error (Option Expr)} {member : Option String}
    {ambient ambient' : Ambient}
    (answers : ∃ answer after, act.run.run ambient = (answer, after) ∧
      Answered model member answer after)
    (answers' : ∃ answer after, act'.run.run ambient' = (answer, after) ∧
      Answered model member answer after)
    (accesses : ∀ name ∈ member, access.accessed? e = some name) :
    Lockstep act act' (fun answer answer' after after' =>
      access.Normalized model e after.supply after'.supply answer answer') ambient ambient' := by
  obtain ⟨answer, after, run, answered⟩ := answers
  obtain ⟨answer', after', run', answered'⟩ := answers'
  unfold Lockstep
  rw [run, run']
  unfold Answered at answered answered'
  cases member with
  | none =>
    subst answered answered'
    exact .none
  | some name =>
    cases found : model.resolve? none name with
    | none =>
      simp only [found] at answered answered'
      subst answered answered'
      rfl
    | some element =>
      simp only [found] at answered answered'
      split at answered
      · next function =>
        rw [if_pos function] at answered'
        subst answered answered'
        exact .none
      · next proper =>
        rw [if_neg proper] at answered'
        obtain ⟨id, issued, rfl⟩ := answered
        obtain ⟨id', issued', rfl⟩ := answered'
        exact .source (accesses name rfl) found issued issued'

/-- Both walks make the same data reference of what they normalize. -/
theorem scopedHook_lockstep (facing : Facing scopes e e' context other)
    (ambient ambient' : Ambient) :
    Lockstep (access.scopedHook.run context) (access.scopedHook.run other)
      (fun answer answer' after after' =>
        access.Normalized context.model e after.supply after'.supply answer answer')
      ambient ambient' := by
  have answers' := access.scoped_run facing.framed'.node? ambient'
  rw [access.memberOf?_alike facing, facing.model] at answers'
  apply lockstep_of_answered (access.scoped_run facing.framed.node? ambient) answers'
  intro name accessed
  unfold memberOf? at accessed
  split at accessed
  · contradiction
  · exact accessed

theorem normalize_drifts (context : Context) : (access.normalize context).Drifts issuing := by
  unfold normalize
  split
  · exact Act.drifts_pure _
  · split
    · exact Act.drifts_throw _
    · split
      · exact Act.drifts_pure _
      · exact (Act.drifts_build ((Fresh.issues_stamp _).bind fun _ => Fresh.issues_pure _)).map _

theorem scopedHook_drifts (context : Context) : (access.scopedHook.run context).Drifts issuing := by
  change (if access.shadowed context then return none else access.normalize context).Drifts issuing
  split
  · exact Act.drifts_pure _
  · exact normalize_drifts context

end RootMember

section Hooks

open Views

variable {scopes : Scopes} {e e' : Expr} {context other : Context}

/-- The rows of the node under visit that satisfy a predicate over a parameter of some name. -/
def restrictedOver (param : String) (context : Context) (predicate : Expr) : Fresh (Option Expr) :=
  match context.node? with
  | none => return none
  | some node => do
    let selector ← Fresh.lambda param predicate
    some <$> Fresh.filter node selector

/-- A collection filter whose predicates are built on a parameter of some name. -/
def CollectionFilter.filterOver (rows : CollectionFilter) (param : String) (context : Context) :
    Act Rewriting.Error (Option Expr) :=
  match context.reading? with
  | none => return none
  | some (_, collection) =>
    match Entries.find? rows.predicates collection, rowType? context with
    | some predicate, some type => do
      let row ← Act.build (Fresh.parameter param type)
      let built ← Act.build (predicate row)
      if built.type = .bool then Act.build (restrictedOver param context built)
      else throw (.hookFailed "collection_filter"
        s!"Predicate for {collection} is {built.type.text}, not bool")
    | _, _ => return none

/-- Row security whose predicate is built on a parameter of some name. -/
def RowSecurity.filterOver (security : RowSecurity) (param : String) (context : Context) :
    Act Rewriting.Error (Option Expr) :=
  if context.request.bypassesRowSecurity then return none
  else match context.reading? with
    | none => return none
    | some (_, collection) =>
      if !security.isProtected collection then return none
      else match rowType? context with
        | none => return none
        | some type => do
          let row ← Act.build (Fresh.parameter param type)
          match context.request.auth.requireUser with
          | .error .authenticationRequired =>
            throw (.accessDenied (.authenticationRequired collection))
          | .ok user => do
            let test ← Act.attempt (fun error => .hookFailed "row_security" error.message)
              (security.ownership context.model user row)
            Act.build (restrictedOver param context test)

/-- A row filter of either kind. -/
inductive RowFilter where
  | collections (rows : CollectionFilter)
  | security (rows : RowSecurity)

/-- A row filter whose predicates are built on a parameter of some name. -/
def RowFilter.over (param : String) : RowFilter → TreeHook
  | .collections rows => ⟨rows.hook.name, rows.filterOver param⟩
  | .security rows => ⟨rows.hook.name, rows.filterOver param⟩

theorem RowFilter.over_collections (rows : CollectionFilter) :
    (RowFilter.collections rows).over rowParameter = rows.hook := rfl

theorem RowFilter.over_security (rows : RowSecurity) :
    (RowFilter.security rows).over rowParameter = rows.hook := rfl

/-- The selectors of two filters. They are the same lambda but for the names of parameters, wherever
they are put, and access no member of the root. -/
structure Selectors (access : RootMember) (lambda lambda' : Expr) : Prop where
  renamed : ∀ scopes, lambda.Renamed scopes lambda'
  bare : ∀ node ∈ lambda.nodes, access.accessed? node = none
  bare' : ∀ node ∈ lambda'.nodes, access.accessed? node = none

/-- Of what is built on either parameter: it is the same, holds new data references only, and
accesses no member of the root. -/
structure BuiltAlike (access : RootMember) (param param' : String) (row row' : Expr)
    (before before' after after' : NodeSupply) (built built' : Expr) : Prop where
  renamed : ∀ scopes, built.Renamed ((param, param') :: scopes) built'
  composed : Composed [row] before built after
  composed' : Composed [row'] before' built' after'
  bare : ∀ node ∈ built.nodes, access.accessed? node = none
  bare' : ∀ node ∈ built'.nodes, access.accessed? node = none

/-- A predicate builds the same tree on either parameter. -/
structure UniformPredicate (access : RootMember) (param param' : String)
    (predicate : RowPredicate) : Prop where
  issues : ∀ row, (predicate row).Issues
  builds : ∀ type id id' supply supply', id < supply.next → id' < supply'.next →
    ∀ built built' after after',
      (predicate (.parameter ⟨id, type⟩ param)).run supply = (built, after) →
      (predicate (.parameter ⟨id', type⟩ param')).run supply' = (built', after') →
      BuiltAlike access param param' (.parameter ⟨id, type⟩ param) (.parameter ⟨id', type⟩ param')
        supply supply' after after' built built'

/-- All predicates of a filter build the same trees on either parameter. -/
def CollectionFilter.Uniform (rows : CollectionFilter) (access : RootMember)
    (param param' : String) : Prop :=
  ∀ name predicate, Entries.find? rows.predicates name = some predicate →
    UniformPredicate access param param' predicate

/-- The selector on a predicate is new if the predicate is. -/
theorem composed_selector {param : String} {before middle : NodeSupply} {built : Expr}
    (composed : Composed [] before built middle) :
    Composed [] before (.lambda ⟨middle.next, built.type⟩ param built) ⟨middle.next + 2⟩ := by
  apply Composed.node composed.later
  · exact Nat.lt_add_of_pos_right Nat.two_pos
  · intro child below
    cases List.mem_singleton.mp below
    exact composed.weaken (Nat.le_add_right middle.next 2)

/-- The rows of references that match and that satisfy the same predicate. -/
theorem restrictedOver_offers {access : RootMember} (matching : Matching e e' context other)
    (source : e.isSource = true) {param param' : String} {type : QueryType} {id id' : NodeId}
    {built built' : Expr} {middle middle' : NodeSupply}
    (alike : BuiltAlike access param param' (.parameter ⟨id, type⟩ param)
      (.parameter ⟨id', type⟩ param') ⟨id + 1⟩ ⟨id' + 1⟩ middle middle' built built') :
    Offers (Selectors access) e e' ⟨id⟩ ⟨id'⟩ ((restrictedOver param context built).run middle).2
      ((restrictedOver param' other built').run middle').2
      ((restrictedOver param context built).run middle).1
      ((restrictedOver param' other built').run middle').1 := by
  unfold restrictedOver
  rw [matching.framed.node?, matching.framed'.node?]
  have selectors : Selectors access (.lambda ⟨middle.next, built.type⟩ param built)
      (.lambda ⟨middle'.next, built'.type⟩ param' built') := {
    renamed := fun scopes => .lambda (alike.renamed scopes).type_eq (alike.renamed scopes)
    bare := List.forall_mem_cons.mpr ⟨rfl, alike.bare⟩
    bare' := List.forall_mem_cons.mpr ⟨rfl, alike.bare'⟩ }
  exact .some source rfl rfl selectors (composed_selector alike.composed.on_row)
    (composed_selector alike.composed'.on_row)

theorem CollectionFilter.selectsAlike {rows : CollectionFilter} {access : RootMember}
    {param param' : String} (uniform : rows.Uniform access param param') :
    SelectsAlike (Selectors access) ((RowFilter.collections rows).over param)
      ((RowFilter.collections rows).over param') := by
  intro e e' context other matching ambient ambient'
  change Lockstep (rows.filterOver param context) (rows.filterOver param' other) _ _ _
  unfold CollectionFilter.filterOver
  cases source : e.isSource with
  | false =>
    rw [reading?_of_plain matching.framed source,
      reading?_of_plain matching.framed' (matching.isSource_eq ▸ source)]
    exact .none
  | true =>
    obtain ⟨target, args, collection, -, -, reads, reads'⟩ := reading?_alike matching source
    rw [reads, reads', rowType?_alike matching source]
    dsimp only
    cases found : Entries.find? rows.predicates collection with
    | none => exact .none
    | some predicate =>
      cases rowType? context with
      | none => exact .none
      | some type =>
        dsimp only
        rw [Act.lockstep_build_bind, Act.lockstep_build_bind]
        set row : Expr := ((Fresh.parameter param type).run ambient.supply).1
        set row' : Expr := ((Fresh.parameter param' type).run ambient'.supply).1
        rcases building : (predicate row).run ((Fresh.parameter param type).run ambient.supply).2
          with ⟨built, after⟩
        rcases building' : (predicate row').run
          ((Fresh.parameter param' type).run ambient'.supply).2 with ⟨built', after'⟩
        have alike := (uniform collection predicate found).builds type _ _ _ _
          (Nat.lt_succ_self _) (Nat.lt_succ_self _) _ _ _ _ building building'
        rw [(alike.renamed []).type_eq]
        split
        · rw [Act.lockstep_build]
          exact restrictedOver_offers matching source alike
        · exact lockstep_throw _

/-- A comparison of a row's field with a constant is built of the row. -/
theorem composed_comparison {row : Expr} {supply : NodeSupply} (issued : row.Issued supply)
    (type : QueryType) (name : String) (wanted : QueryType) (content : Json.Value) :
    Composed [row] supply (.binary ⟨supply.next + 2, .bool⟩ .eq
      (.member ⟨supply.next, type⟩ row name) (.value ⟨supply.next + 1, wanted⟩ content))
      ⟨supply.next + 3⟩ := by
  apply Composed.node (Nat.le_add_right _ 2) (Nat.lt_succ_self _)
  intro child below
  simp only [Expr.children, List.mem_cons, List.not_mem_nil, or_false] at below
  rcases below with rfl | rfl
  · apply Composed.node (Nat.le_refl _) (Nat.lt_add_of_pos_right (Nat.succ_pos 2))
    intro child below
    cases List.mem_singleton.mp below
    exact .given List.mem_cons_self issued (Nat.le_add_right _ 3)
  · apply Composed.node (Nat.le_succ _) (Nat.lt_add_of_pos_right Nat.two_pos)
    intro child below
    contradiction

/-- The test whether a row of some type belongs to a user, built with the next three identities. -/
def RowSecurity.OwnerTest (security : RowSecurity) (user : Uuid) (field : QueryType) (row : Expr)
    (supply : NodeSupply) (test : Expr) (after : NodeSupply) : Prop :=
  test = .binary ⟨supply.next + 2, .bool⟩ .eq
      (.member ⟨supply.next, field⟩ row security.ownerField)
      (.value ⟨supply.next + 1, .string⟩ (.string user.text)) ∧
    after = ⟨supply.next + 3⟩

/-- The test of ownership is the same on rows of the same type. -/
theorem RowSecurity.ownership_lockstep (security : RowSecurity) (model : Model) (user : Uuid)
    {row row' : Expr} (typed : row.type = row'.type) (supply supply' : NodeSupply) :
    Lockstep (security.ownership model user row) (security.ownership model user row')
      (fun test test' after after' => ∃ field, security.OwnerTest user field row supply test after ∧
        security.OwnerTest user field row' supply' test' after') supply supply' := by
  unfold ownership Model.propertyExpr
  rw [← typed]
  cases row.type.entityName? with
  | none => exact lockstep_throw _
  | some entity =>
    dsimp only
    cases model.propertyType? entity security.ownerField with
    | none => exact lockstep_throw _
    | some field => exact ⟨field, ⟨rfl, rfl⟩, rfl, rfl⟩

theorem composed_ownerTest {security : RowSecurity} {user : Uuid} {field : QueryType}
    {row test : Expr} {supply after : NodeSupply}
    (tests : security.OwnerTest user field row supply test after) (issued : row.Issued supply) :
    Composed [row] supply test after := by
  obtain ⟨rfl, rfl⟩ := tests
  exact composed_comparison issued _ _ _ _

theorem issued_row {type : QueryType} {param : String} {id : NodeId} {supply : NodeSupply}
    (issued : id < supply.next) : (Expr.parameter ⟨id, type⟩ param).Issued supply := by
  intro node member
  cases List.mem_singleton.mp member
  exact issued

/-- The tests of ownership on either parameter are the same. -/
theorem RowSecurity.OwnerTest.builtAlike {security : RowSecurity} {user : Uuid}
    {field type : QueryType} {access : RootMember} {param param' : String}
    (apart : param ≠ access.root) (apart' : param' ≠ access.root) {id id' : NodeId}
    {supply supply' after after' : NodeSupply}
    {test test' : Expr} (issued : id < supply.next) (issued' : id' < supply'.next)
    (tests : security.OwnerTest user field (.parameter ⟨id, type⟩ param) supply test after)
    (tests' : security.OwnerTest user field (.parameter ⟨id', type⟩ param') supply' test' after') :
    BuiltAlike access param param' (.parameter ⟨id, type⟩ param) (.parameter ⟨id', type⟩ param')
      supply supply' after after' test test' where
  composed := composed_ownerTest tests (issued_row issued)
  composed' := composed_ownerTest tests' (issued_row issued')
  renamed := by
    obtain ⟨rfl, -⟩ := tests
    obtain ⟨rfl, -⟩ := tests'
    intro scopes
    apply Expr.Renamed.binary (by rfl) _ _ (.value (by rfl) _)
    exact .member (by rfl) (.parameter (by rfl) (.bound ..)) _
  bare := by
    obtain ⟨rfl, -⟩ := tests
    simp [Expr.nodes, RootMember.accessed?, apart]
  bare' := by
    obtain ⟨rfl, -⟩ := tests'
    simp [Expr.nodes, RootMember.accessed?, apart']

/-- Row security does the same about nodes that match: nothing, or it selects the rows of references
that pass the tests of ownership. -/
theorem RowSecurity.filterOver_lockstep (security : RowSecurity)
    (matching : Matching e e' context other) {param param' : String}
    (done : NodeSupply → NodeSupply → Option Expr → Option Expr → Prop) {ambient ambient' : Ambient}
    (leaves : ∀ after after', done after after' none none)
    (selects : e.isSource = true → ∀ user field type test test' after after',
      security.OwnerTest user field (.parameter ⟨ambient.supply.next, type⟩ param)
        ⟨ambient.supply.next + 1⟩ test after →
      security.OwnerTest user field (.parameter ⟨ambient'.supply.next, type⟩ param')
        ⟨ambient'.supply.next + 1⟩ test' after' →
      done ((restrictedOver param context test).run after).2
        ((restrictedOver param' other test').run after').2
        ((restrictedOver param context test).run after).1
        ((restrictedOver param' other test').run after').1) :
    Lockstep (security.filterOver param context) (security.filterOver param' other)
      (fun answer answer' after after' => done after.supply after'.supply answer answer')
      ambient ambient' := by
  unfold filterOver
  rw [matching.request]
  split
  · exact leaves _ _
  · cases source : e.isSource with
    | false =>
      rw [reading?_of_plain matching.framed source,
        reading?_of_plain matching.framed' (matching.isSource_eq ▸ source)]
      exact leaves _ _
    | true =>
      obtain ⟨target, args, collection, -, -, reads, reads'⟩ := reading?_alike matching source
      rw [reads, reads', rowType?_alike matching source, matching.model]
      dsimp only
      split
      · exact leaves _ _
      · cases rowType? context with
        | none => exact leaves _ _
        | some type =>
          dsimp only
          rw [Act.lockstep_build_bind]
          cases context.request.auth.requireUser with
          | error missing => exact lockstep_throw _
          | ok user =>
            dsimp only
            refine (Act.lockstep_attempt _ (security.ownership_lockstep context.model user
              (by rfl) _ _)).bind ?_
            rintro test test' after after' ⟨field, tests, tests'⟩
            rw [Act.lockstep_build]
            exact selects source user field type test test' _ _ tests tests'

theorem RowSecurity.selectsAlike (security : RowSecurity) {access : RootMember}
    {param param' : String} (apart : param ≠ access.root) (apart' : param' ≠ access.root) :
    SelectsAlike (Selectors access) ((RowFilter.security security).over param)
      ((RowFilter.security security).over param') := by
  intro e e' context other matching ambient ambient'
  apply security.filterOver_lockstep matching
    (Offers (Selectors access) e e' ambient.supply ambient'.supply)
  · intro after after'
    exact .none
  · intro source user field type test test' after after' tests tests'
    exact restrictedOver_offers matching source
      (tests.builtAlike apart apart' (Nat.lt_succ_self _) (Nat.lt_succ_self _) tests')

/-- What it takes for a row filter to select alike over either parameter. -/
def RowFilter.Uniform (access : RootMember) (param param' : String) : RowFilter → Prop
  | .collections rows => rows.Uniform access param param'
  | .security _ => param ≠ access.root ∧ param' ≠ access.root

theorem RowFilter.selectsAlike {filter : RowFilter} {access : RootMember} {param param' : String}
    (uniform : filter.Uniform access param param') :
    SelectsAlike (Selectors access) (filter.over param) (filter.over param') := by
  cases filter with
  | collections rows => exact CollectionFilter.selectsAlike uniform
  | security rows => exact RowSecurity.selectsAlike rows uniform.1 uniform.2

theorem restrictedOver_issues (param : String) (context : Context) (predicate : Expr) :
    (restrictedOver param context predicate).Issues := by
  unfold restrictedOver
  split
  · exact Fresh.issues_pure _
  · refine Fresh.Issues.bind ((Fresh.issues_stamp _).bind fun _ => Fresh.issues_pure _) fun _ => ?_
    exact ((Fresh.issues_stamp _).bind fun _ => Fresh.issues_pure _).map _

theorem RowSecurity.ownership_issues (security : RowSecurity) (model : Model) (user : Uuid)
    (row : Expr) : (security.ownership model user row).run.Issues := by
  intro supply
  unfold ownership Model.propertyExpr
  cases row.type.entityName? with
  | none => exact Nat.le_refl _
  | some entity =>
    dsimp only
    cases model.propertyType? entity security.ownerField with
    | none => exact Nat.le_refl _
    | some field => exact Nat.le_add_right supply.next 3

theorem RowSecurity.filterOver_drifts (security : RowSecurity) (param : String)
    (context : Context) : (security.filterOver param context).Drifts issuing := by
  unfold filterOver
  split
  · exact Act.drifts_pure _
  · split
    · exact Act.drifts_pure _
    · split
      · exact Act.drifts_pure _
      · split
        · exact Act.drifts_pure _
        · refine (Act.drifts_build ((Fresh.issues_stamp _).bind fun _ =>
            Fresh.issues_pure _)).bind fun row => ?_
          split
          · exact Act.drifts_throw _
          · refine (Act.drifts_attempt _ (security.ownership_issues _ _ _)).bind fun _ => ?_
            exact Act.drifts_build (restrictedOver_issues _ _ _)

/-- A row filter whose predicates take identities from the supply only. -/
def RowFilter.Issues : RowFilter → Prop
  | .collections rows => ∀ name predicate, Entries.find? rows.predicates name = some predicate →
    ∀ row, (predicate row).Issues
  | .security _ => True

theorem RowFilter.Uniform.issues {filter : RowFilter} {access : RootMember}
    {param param' : String} (uniform : filter.Uniform access param param') : filter.Issues := by
  cases filter with
  | collections rows => exact fun name predicate found => (uniform name predicate found).issues
  | security rows => trivial

theorem RowFilter.over_drifts {filter : RowFilter} (issues : filter.Issues) (name : String)
    (context : Context) : ((filter.over name).run context).Drifts issuing := by
  cases filter with
  | collections rows =>
    change (rows.filterOver name context).Drifts issuing
    unfold CollectionFilter.filterOver
    split
    · exact Act.drifts_pure _
    · split
      · next found _ =>
        refine (Act.drifts_build ((Fresh.issues_stamp _).bind fun _ => Fresh.issues_pure _)).bind
          fun row => (Act.drifts_build (issues _ _ found row)).bind fun built => ?_
        split
        · exact Act.drifts_build (restrictedOver_issues _ _ _)
        · exact Act.drifts_throw _
      · exact Act.drifts_pure _
  | security rows => exact rows.filterOver_drifts name context

end Hooks

end Access

end QueryRewriting
