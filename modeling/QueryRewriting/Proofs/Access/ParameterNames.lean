import QueryRewriting.Proofs.Access.Addressing
import QueryRewriting.Proofs.Access.Correspondence
import QueryRewriting.Proofs.Access.Scoping

/-! The names of lambda parameters do not matter to a walk, as long as no member of the root
parameter is accessed under a lambda that declares it: two walks over trees that are the same but
for these names keep in step, and so do the trees that they make. -/
namespace QueryRewriting

open Schema Rewriting Walk Evaluation

theorem Expr.Renamed.isLambda_eq {scopes : Scopes} {e other : Expr}
    (renamed : e.Renamed scopes other) : e.isLambda = other.isLambda := by
  cases renamed <;> rfl

theorem Enclosed.any_isLambda {scopes : Scopes} {around around' : List Expr}
    (enclosed : Enclosed scopes around around') :
    around'.any Expr.isLambda = around.any Expr.isLambda := by
  induction enclosed with
  | nil => rfl
  | cons _ renamed _ ih => rw [List.any_cons, List.any_cons, ih, renamed.isLambda_eq]

/-- Outside of lambdas nodes that correspond are bound to the same data, whatever the arguments of
references. -/
theorem Binding.ofNode_bare_renamed {model : Model} {scopes : Scopes} {e e' : Expr}
    (renamed : e.Renamed scopes e') {binding binding' : Binding}
    (bound : ofNode model (fun _ => .ok .unbound) e = .ok binding)
    (bound' : ofNode model (fun _ => .ok .unbound) e' = .ok binding') :
    binding'.bare = binding.bare := by
  induction renamed generalizing binding binding' with
  | source _ qualifier name =>
    rw [ofNode] at bound bound'
    cases found : model.resolve? qualifier name with
    | none =>
      rw [found] at bound
      contradiction
    | some element =>
      rw [found] at bound bound'
      cases bound
      cases bound'
      rfl
  | member _ _ name ih =>
    obtain ⟨owner, target, rfl⟩ := ofNode_member bound
    obtain ⟨owner', target', rfl⟩ := ofNode_member bound'
    rw [bare_propertyOf, bare_propertyOf, ih target target']
  | _ =>
    cases bound
    cases bound'
    rfl

/-- What the walks take for the collection of the rows stays the same when they leave the frames. -/
theorem Rewriting.Facing.collection_pop {scopes : Scopes} {e e' : Expr} {context other : Context}
    (facing : Facing scopes e e' context other) :
    other.pop.collection = context.pop.collection := by
  apply facing.toBeside.collection_pop facing.framed facing.framed' facing.enclosed.any_isLambda
  intro binding binding' bound bound'
  have same := Binding.ofNode_bare_renamed facing.renamed bound bound'
  rw [← Binding.owner?_bare binding', same, Binding.owner?_bare]

namespace Access.RootMember

/-- Two registries of a store whose hooks do the same but for the names of parameters. -/
structure Paired (access : RootMember) (normalizer normalizer' : TreeHook) (store : Store)
    (registry registry' : Registry) : Prop extends Akin store registry registry' where
  normal : normalizer = access.hook ∨ normalizer = access.scopedHook
  normal' : normalizer' = access.hook ∨ normalizer' = access.scopedHook
  normalizers : registry.normalizers = [normalizer]
  normalizers' : registry'.normalizers = [normalizer']
  filters : List.Forall₂ (SelectsAlike (Selectors access)) registry.filters registry'.filters

variable {access : RootMember} {normalizer normalizer' : TreeHook} {store : Store}
  {registry registry' : Registry} {model : Model} {scopes : Scopes} {e e' : Expr}
  {before before' : Recording}

theorem isLambda_of_accessed {name : String} (accessed : access.accessed? e = some name) :
    e.isLambda = false := by
  cases e with
  | lambda => contradiction
  | _ => rfl

/-- Walks whose normalizers answer alike about nodes of the same type take the answers. -/
theorem replacement_of_answered (name_eq : normalizer'.name = normalizer.name)
    (typed : e.type = e'.type) (kinds : e.isSource = e'.isSource)
    (answered : Lockstep (normalizer.run (before.context.consulting .normalize normalizer.name))
      (normalizer'.run (before'.context.consulting .normalize normalizer'.name))
      (fun answer answer' after after' =>
        access.Normalized model e after.supply after'.supply answer answer')
      before.ambient before'.ambient) :
    Lockstep (replacement? .normalize e [normalizer]) (replacement? .normalize e' [normalizer'])
      (fun answer answer' after after' => (Idle before after ∧ Idle before' after') ∧
        access.Normalized model e after.ambient.supply after'.ambient.supply answer answer')
      before before' := by
  simp only [replacement?]
  apply (lockstep_consult answered).bind
  rintro answer answer' after after' ⟨normal, idle, idle'⟩
  cases normal with
  | none => exact ⟨⟨idle, idle'⟩, .none⟩
  | @source name element accessed found id id' issued issued' =>
    have member : e.isSource = false := by
      cases e with
      | source => contradiction
      | _ => rfl
    have apart : Expr.source ⟨id, element.logicalType⟩ none name [] ≠ e := by
      rintro rfl
      contradiction
    have apart' : Expr.source ⟨id', element.logicalType⟩ none name [] ≠ e' := by
      rintro rfl
      rw [member] at kinds
      contradiction
    dsimp only
    rw [if_neg apart, if_neg apart', name_eq]
    apply Lockstep.bind (lockstep_checkType _ typed rfl)
    rintro - - last last' ⟨rfl, rfl⟩
    exact ⟨⟨idle, idle'⟩, .source accessed found issued issued'⟩

/-- Where references to one source correspond, so do those that normalizers make of one member. -/
theorem normalForms_of_normalized {pairs : Expr → Expr → Prop} {after after' : NodeSupply}
    {answer answer' : Option Expr} (settled : e.isSource = e'.isSource)
    (alike : ∀ id id' type name,
      pairs (.source ⟨id, type⟩ none name []) (.source ⟨id', type⟩ none name []))
    (normalized : access.Normalized model e after after' answer answer') :
    NormalForms pairs model e e' after after' answer answer' := by
  cases normalized with
  | none => exact .kept settled
  | source accessed found issued issued' =>
    exact .both (isLambda_of_accessed accessed) found issued issued' (alike _ _ _ _)

/-- Both walks look for a normal form with the same result. -/
theorem replacement_lockstep (paired : access.Paired normalizer normalizer' store registry registry')
    (facing : Facing scopes e e' before.context before'.context)
    (modelled : before.context.model = model)
    (minds : access.Minds model normalizer (scopes.map Prod.fst) e)
    (minds' : access.Minds model normalizer' (scopes.map Prod.snd) e') :
    Lockstep (replacement? .normalize e registry.normalizers.reverse)
      (replacement? .normalize e' registry'.normalizers.reverse)
      (fun answer answer' after after' => (Idle before after ∧ Idle before' after') ∧
        access.Normalized model e after.ambient.supply after'.ambient.supply answer answer')
      before before' := by
  subst modelled
  have asked : Facing scopes e e' (before.context.consulting .normalize normalizer.name)
      (before'.context.consulting .normalize normalizer'.name) :=
    facing.of_setting rfl rfl ⟨facing.root, facing.collection⟩
  obtain ⟨declared, declared'⟩ := asked.enclosed.declared access.root
  have minds : access.Minds (before.context.consulting .normalize normalizer.name).model normalizer
    (scopes.map Prod.fst) e := minds
  have minds' : access.Minds (before'.context.consulting .normalize normalizer'.name).model
      normalizer' (scopes.map Prod.snd) e' := by
    rw [asked.model]
    exact minds'
  have name_eq : normalizer'.name = normalizer.name := by
    rcases paired.normal with rfl | rfl <;> rcases paired.normal' with rfl | rfl <;> rfl
  rw [paired.normalizers, paired.normalizers', List.reverse_singleton, List.reverse_singleton]
  apply replacement_of_answered name_eq facing.renamed.type_eq facing.renamed.isSource_eq
  rw [minds.run_eq asked.framed.node? declared.mp, minds'.run_eq asked.framed'.node? declared'.mp]
  exact access.scopedHook_lockstep asked _ _

/-- The lambdas around the children of corresponding nodes are those around the nodes, and the node
itself if it is one. -/
theorem declared_inside (name : String) (renamed : e.Renamed scopes e') :
    (name ∈ (scopes.inside e e').map Prod.fst →
      name ∈ scopes.map Prod.fst ∨ Binding.declares name e = true) ∧
    (name ∈ (scopes.inside e e').map Prod.snd →
      name ∈ scopes.map Prod.snd ∨ Binding.declares name e' = true) := by
  cases renamed with
  | lambda => simp [Scopes.inside, Binding.declares, or_comm, @eq_comm _ name]
  | _ => exact ⟨.inl, .inl⟩

/-- Nodes under corresponding lambdas correspond if they are the same but for the names of the
parameters of these, and the normalizers look at the lambdas where it matters. -/
def Paired.correspondence (paired : access.Paired normalizer normalizer' store registry registry')
    (model : Model) : Correspondence model store registry registry' where
  Around := Scopes
  inside := Scopes.inside
  pairs := Expr.Renamed
  normal scopes e e' := access.Minds model normalizer (scopes.map Prod.fst) e ∧
    access.Minds model normalizer' (scopes.map Prod.snd) e'
  visitable scopes e e' := e.Renamed scopes e' ∧
    access.Heeds model normalizer (scopes.map Prod.fst) e ∧
    access.Heeds model normalizer' (scopes.map Prod.snd) e'
  makes := Expr.Renamed
  selects := Selectors access
  level := Level
  facing := Facing
  akin := paired.toAkin
  filters := paired.filters
  normalizes minds facing modelled := by
    apply (replacement_lockstep paired facing modelled minds.1 minds.2).mono
    rintro answer answer' after after' ⟨idle, normalized⟩
    refine ⟨idle, normalForms_of_normalized facing.renamed.isSource_eq ?_ normalized⟩
    intro id id' type name
    apply Expr.Renamed.source (by rfl) none name (by rfl)
    intro pair absent
    contradiction
  inside_plain := Scopes.inside_of_plain
  visitable_pairs visitable := visitable.1
  visitable_normal visitable := ⟨visitable.2.1.minds, visitable.2.2.minds⟩
  visitable_children := by
    rintro scopes e e' ⟨renamed, heeds, heeds'⟩ - -
    apply (Expr.forall₂_mem renamed.children).imp
    rintro child child' ⟨below, below', inner⟩
    obtain ⟨declared, declared'⟩ := declared_inside access.root renamed
    exact ⟨inner, heeds.child below declared, heeds'.child below' declared'⟩
  makes_pairs renamed := renamed
  makes_settled renamed := renamed.isSource_eq
  makes_reference renamed _ := renamed
  makes_native _ _ _ _ proxy name := .native (by rfl) proxy name
  makes_rebuilt supply supply' renamed _ _ each shapes :=
    renamed.withChildren each shapes.length_eq.symm supply supply'
  selects_visitable selectors := ⟨selectors.renamed _, heeds_of_bare paired.normal selectors.bare _,
    heeds_of_bare paired.normal' selectors.bare' _⟩
  selects_pairs := by
    intro scopes e e' lambda lambda' stamp stamp' renamed _ typed selectors
    apply Expr.Renamed.call typed .filter (by rfl)
    exact List.forall_mem_cons.mpr
      ⟨renamed, List.forall_mem_singleton.mpr (selectors.renamed scopes)⟩
  selects_normal _ _ _ _ _ _ _ :=
    ⟨minds_of_bare paired.normal rfl _, minds_of_bare paired.normal' rfl _⟩
  level_beside level := level.toBeside
  level_bound := Level.bound
  level_unframed := Level.unframed
  level_setting := Level.of_setting
  facing_entered := Level.facing
  facing_beside facing := facing.toBeside
  facing_framed facing := ⟨facing.framed, facing.framed'⟩
  facing_pairs facing := facing.renamed
  facing_matching facing _ := facing.matching
  facing_setting := Facing.of_setting
  facing_reframed facing renamed := facing.reframed renamed
  facing_substitute current current' facing := facing.substitute current current'
  facing_level := Facing.level
  facing_pop facing _ := facing.collection_pop

/-- Two rewrites end alike: in the same error, or in trees that are the same but for the names of
lambda parameters. -/
inductive EndAlike : Except Rewriting.Error Expr → Except Rewriting.Error Expr → Prop
  | made {tree tree' : Expr} (renamed : tree.Renamed [] tree') : EndAlike (.ok tree) (.ok tree')
  | failed (error : Rewriting.Error) : EndAlike (.error error) (.error error)

/-- Queries that are the same but for the names of lambda parameters are rewritten alike. -/
theorem run_endAlike
    (paired : access.Paired normalizer normalizer' store registry registry')
    (renamed : e.Renamed [] e') (model : Model) (request : RequestContext) (maxDepth : Nat)
    (heeds : access.Heeds model normalizer [] e) (heeds' : access.Heeds model normalizer' [] e')
    {ambient ambient' : Ambient} (issued : e.Issued ambient.supply)
    (issued' : e'.Issued ambient'.supply) :
    EndAlike (run registry e { model, request, maxDepth } ambient).1
      (run registry' e' { model, request, maxDepth } ambient').1 := by
  let context : Context := { model, request, maxDepth }
  have level : Level [] context context := {
    root := rfl
    collection := rfl
    model := rfl
    request := rfl
    maxDepth := rfl
    depth := rfl
    enclosed := .nil }
  have walked := (paired.correspondence model).whole_lockstep ⟨renamed, heeds, heeds'⟩ level issued
    issued'
  unfold Lockstep at walked
  change EndAlike ((whole registry e).run.run { context, ambient }).1
    ((whole registry' e').run.run { context, ambient := ambient' }).1
  split at walked
  · next same same' =>
    rw [same, same']
    exact .made walked.makes
  · next same same' =>
    rw [same, same', walked]
    exact .failed _
  · exact walked.elim

end Access.RootMember

namespace EngineConfig

open Access Access.RootMember

variable (config : EngineConfig)

/-- The parameter through which sources are addressed. -/
def rootMember : RootMember := { root := config.apiRoot }

/-- The row filters that a configuration describes. -/
def rowFilters : List RowFilter := (config.rowSecurityFilter?.map .security).toList

/-- The hooks of a configuration over a store, with another normalizer, and with row filters over a
parameter of some name. -/
def registryOver (store : Store) (normalizer : TreeHook) (filters : List RowFilter)
    (param : String) : Registry :=
  { config.registry store.sourcer with
    normalizers := [normalizer]
    filters := filters.map (RowFilter.over param) }

theorem rowFilters_issues : ∀ filter ∈ config.rowFilters, filter.Issues := by
  intro filter member
  obtain ⟨security, -, rfl⟩ := Option.map_eq_some_iff.mp (Option.mem_toList.mp member)
  trivial

/-- The hooks that a configuration describes. -/
theorem registryOver_rowParameter (store : Store) :
    config.registryOver store config.rootMember.hook config.rowFilters rowParameter =
      config.registry store.sourcer := by
  unfold registryOver rowFilters registry
  cases config.rowSecurityFilter? <;> rfl

theorem registryOver_drifts (store : Store) {normalizer : TreeHook}
    (normal : normalizer = config.rootMember.hook ∨ normalizer = config.rootMember.scopedHook)
    {filters : List RowFilter} (issues : ∀ filter ∈ filters, filter.Issues) (param : String) :
    (config.registryOver store normalizer filters param).Drifts issuing := by
  constructor
  · intro hook member context
    cases List.mem_singleton.mp member
    rcases normal with rfl | rfl
    · exact normalize_drifts context
    · exact scopedHook_drifts context
  · intro hook member context
    cases List.mem_singleton.mp member
    exact Act.drifts_pure _
  · intro hook member
    contradiction
  · intro hook member context
    obtain ⟨filter, listed, rfl⟩ := List.mem_map.mp member
    exact RowFilter.over_drifts (issues filter listed) param context
  · intro sourcer found mode context
    cases found
    exact store.source_drifts mode context

theorem registryOver_paired (store : Store) {normalizer normalizer' : TreeHook}
    (normal : normalizer = config.rootMember.hook ∨ normalizer = config.rootMember.scopedHook)
    (normal' : normalizer' = config.rootMember.hook ∨ normalizer' = config.rootMember.scopedHook)
    {filters : List RowFilter} {param param' : String}
    (uniform : ∀ filter ∈ filters, filter.Uniform config.rootMember param param') :
    config.rootMember.Paired normalizer normalizer' store
      (config.registryOver store normalizer filters param)
      (config.registryOver store normalizer' filters param') where
  normal
  normal'
  normalizers := rfl
  normalizers' := rfl
  inspectors := rfl
  judges hook member := ⟨config.readAuthorizer, List.mem_singleton.mp member⟩
  expanders := rfl
  expanders' := rfl
  filters := by
    refine List.forall₂_map_left_iff.mpr (List.forall₂_map_right_iff.mpr ?_)
    exact List.forall₂_same.mpr fun filter member => RowFilter.selectsAlike (uniform filter member)
  sourcer := rfl
  sourcer' := rfl
  drifts := config.registryOver_drifts store normal
    (fun filter member => (uniform filter member).issues) param
  drifts' := config.registryOver_drifts store normal'
    (fun filter member => (uniform filter member).issues) param'

/-- The names of lambda parameters do not matter to a rewrite, neither in the query nor in the row
filters, where no member of the root parameter is accessed under a lambda that declares it: it ends
as the rewrite that leaves the members of lambda parameters alone, and as that of any query that is
the same but for these names. -/
theorem parameter_names_immaterial (model : Model) (store : Store) (request : RequestContext)
    (filters : List RowFilter) {param param' : String} {query other : Expr}
    (renamed : query.Renamed [] other) (unshadowed : config.rootMember.Unshadowed model query)
    (uniform : ∀ filter ∈ filters, filter.Uniform config.rootMember param param')
    {ambient ambient' : Ambient} (issued : query.Issued ambient.supply)
    (issued' : other.Issued ambient'.supply) :
    let rewritten (normalizer : TreeHook) (param : String) (query : Expr) (ambient : Ambient) :=
      (run (config.registryOver store normalizer filters param) query
        { model, request, maxDepth := config.maxDepth } ambient).1
    EndAlike (rewritten config.rootMember.hook param query ambient)
        (rewritten config.rootMember.scopedHook param' other ambient') ∧
      (config.rootMember.Unshadowed model other →
        EndAlike (rewritten config.rootMember.hook param query ambient)
          (rewritten config.rootMember.hook param' other ambient')) := by
  intro rewritten
  have heeds (query : Expr) (unshadowed : config.rootMember.Unshadowed model query) :
      config.rootMember.Heeds model config.rootMember.hook [] query :=
    .blind unshadowed fun member => absurd member List.not_mem_nil
  constructor
  · exact run_endAlike (config.registryOver_paired store (.inl rfl) (.inr rfl) uniform) renamed model
      request config.maxDepth (heeds query unshadowed) (.aware [] other) issued issued'
  · intro unshadowed'
    exact run_endAlike (config.registryOver_paired store (.inl rfl) (.inl rfl) uniform) renamed model
      request config.maxDepth (heeds query unshadowed) (heeds other unshadowed') issued issued'

/-- The customers of some identity, over a lambda parameter of some name. -/
def customersOver (param : String) : Expr :=
  .call ⟨6, .queryable (.entity "Customer")⟩ .filter [
    .source ⟨0, .queryable (.entity "Customer")⟩ none "Customers" [],
    .lambda ⟨5, .bool⟩ param (.binary ⟨4, .bool⟩ .eq
      (.member ⟨2, .int⟩ (.parameter ⟨1, .entity "Customer"⟩ param) "Id")
      (.value ⟨3, .int⟩ (.ofUInt64 1)))]

theorem customersOver_renamed (param param' : String) :
    (customersOver param).Renamed [] (customersOver param') := by
  apply Expr.Renamed.call (by rfl) .filter (by rfl)
  refine List.forall_mem_cons.mpr ⟨.refl _ (List.forall_mem_nil _), ?_⟩
  refine List.forall_mem_singleton.mpr (.lambda (by rfl) (.binary (by rfl) .eq ?_ ?_))
  · exact .member (by rfl) (.parameter (by rfl) (.bound ..)) "Id"
  · exact .value (by rfl) _

/-- The names of the parameters do not matter to what is left of the customers. -/
theorem owned_customers_alike :
    let model : Model := {
      space := "shop"
      entityTypes := [("Customer",
        { name := "Customer", fields := [("Id", ⟨.int, true⟩), ("owner_id", ⟨.string, true⟩)] })]
      elements := [("Customers", .collection "Customers" "Customer")] }
    let config : EngineConfig := { rowSecurity := some { collections := ["Customers"] } }
    let store : Store := Store.insert {} "Customers" []
    let context : Context := {
      model, request := .ofCaller (.user ⟨7⟩), maxDepth := config.maxDepth }
    let ambient : Ambient := { supply := ⟨7⟩ }
    ∃ tree tree',
      (run (config.registry store.sourcer) (customersOver "c") context ambient).1 = .ok tree ∧
      (run (config.registryOver store config.rootMember.hook config.rowFilters "row")
        (customersOver "o") context ambient).1 = .ok tree' ∧ tree.Renamed [] tree' := by
  intro model config store context ambient
  have unshadowed (param : String) (apart : param ≠ config.apiRoot) :
      config.rootMember.Unshadowed model (customersOver param) := by
    intro stamp body member
    simp only [customersOver, Expr.nodes, Expr.nodesOf, List.mem_cons, List.mem_append,
      Expr.lambda.injEq, reduceCtorEq, List.not_mem_nil, false_or, or_false] at member
    exact absurd member.2.1.symm apart
  have issued (param : String) : (customersOver param).Issued ambient.supply := by
    simp [Expr.Issued, customersOver, Expr.nodes, Expr.nodesOf, Expr.id, Expr.stamp, ambient]
  have uniform : ∀ filter ∈ config.rowFilters,
      filter.Uniform config.rootMember rowParameter "row" := by
    intro filter member
    cases List.mem_singleton.mp member
    exact ⟨by decide, by decide⟩
  have alike : EndAlike
      (run (config.registryOver store config.rootMember.hook config.rowFilters rowParameter)
        (customersOver "c") context ambient).1
      (run (config.registryOver store config.rootMember.hook config.rowFilters "row")
        (customersOver "o") context ambient).1 :=
    (config.parameter_names_immaterial model store context.request config.rowFilters
      (customersOver_renamed "c" "o") (unshadowed "c" (by decide)) uniform (issued "c") (issued "o")).2
      (unshadowed "o" (by decide))
  rw [registryOver_rowParameter] at alike
  have succeeds : (run (config.registry store.sourcer) (customersOver "c") context
      ambient).1.toOption.isSome = true := by decide +kernel
  generalize (run (config.registry store.sourcer) (customersOver "c") context ambient).1 = result at *
  generalize (run (config.registryOver store config.rootMember.hook config.rowFilters "row")
    (customersOver "o") context ambient).1 = result' at *
  cases alike with
  | made renamed => exact ⟨_, _, rfl, rfl, renamed⟩
  | failed => contradiction

/-- Where a lambda parameter has the name of the root, a field of it is taken for a source. -/
theorem customers_of_root_unknown :
    let model : Model := {
      space := "shop"
      entityTypes := [("Customer", { name := "Customer", fields := [("Id", ⟨.int, true⟩)] })]
      elements := [("Customers", .collection "Customers" "Customer")] }
    let config : EngineConfig := {}
    let store : Store := Store.insert {} "Customers" []
    let rewritten (query : Expr) :=
      (run (config.registry store.sourcer) query { model, request := {} } {}).1
    config.validate = .ok config ∧ (customersOver "api").Renamed [] (customersOver "c") ∧
      rewritten (customersOver "api") = .error (.unknownSource "Id") ∧
      (rewritten (customersOver "c")).toOption.isSome = true := by
  intro model config store rewritten
  refine ⟨by decide +kernel, customersOver_renamed _ _, ?_, ?_⟩
  · decide +kernel
  · decide +kernel

end EngineConfig

end QueryRewriting
