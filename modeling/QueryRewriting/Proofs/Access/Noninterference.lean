import QueryRewriting.Proofs.Config

/-! Row security is noninterfering. Two stores that differ only in rows of protected collections
that do not belong to the caller give the same answers, whatever the query does with them. -/
namespace QueryRewriting.Access.RowSecurity

open Rewriting Rewriting.Plan Schema Evaluation Json

/-- Whether a row belongs to the user behind a request. -/
def owns (security : RowSecurity) (auth : Auth) (row : Value) : Bool :=
  auth.user?.any fun user =>
    match memberOf security.ownerField row with
    | .ok owner => equal owner (.string user.text)
    | .error _ => false

/-- Whether a name is that of a protected collection. -/
def Protects (security : RowSecurity) (model : Model) (name : String) : Prop :=
  security.isProtected name = true ∧
    ∃ entity, model.resolve? none name = some (.collection name entity)

/-- Two stores that a caller cannot tell apart: they store the same collections, with the same rows
but for those of protected collections that belong to others. -/
structure Indistinct (security : RowSecurity) (model : Model) (auth : Auth)
    (store other : Store) : Prop where
  unprotected : ∀ name, ¬security.Protects model name → store.rows? name = other.rows? name
  owned : ∀ name, security.Protects model name →
    (store.rows? name).map (·.filter (security.owns auth)) =
      (other.rows? name).map (·.filter (security.owns auth))

/-- Two results that are the same if there are both of them. -/
def Agree {α : Type} (first second : Option α) : Prop :=
  ∀ a ∈ first, ∀ b ∈ second, a = b

theorem Agree.of_eq {α : Type} {first second : Option α} (same : first = second) :
    Agree first second := by
  subst same
  intro a known b also
  exact Option.mem_unique known also

theorem Agree.none {α : Type} {second : Option α} : Agree none second := by
  intro a known
  contradiction

theorem Agree.bind {α β : Type} {first second : Option α} {next next' : α → Option β}
    (agree : Agree first second) (each : ∀ a, Agree (next a) (next' a)) :
    Agree (first.bind next) (second.bind next') := by
  intro a known b also
  obtain ⟨value, found, known⟩ := Option.bind_eq_some_iff.mp known
  obtain ⟨value', found', also⟩ := Option.bind_eq_some_iff.mp also
  cases agree value found value' found'
  exact each value a known b also

theorem Agree.map {α β : Type} {first second : Option α} (agree : Agree first second) (f : α → β) :
    Agree (first.map f) (second.map f) := by
  rw [Option.map_eq_bind, Option.map_eq_bind]
  exact agree.bind fun _ => .of_eq rfl

theorem Agree.mapM {α β : Type} {f g : α → Option β} (each : ∀ a, Agree (f a) (g a))
    (items : List α) : Agree (items.mapM f) (items.mapM g) := by
  induction items with
  | nil => exact .of_eq rfl
  | cons item rest ih =>
    rw [List.mapM_cons, List.mapM_cons]
    exact (each item).bind fun _ => ih.bind fun _ => .of_eq rfl

/-- What two functions return for the same items is related item by item. -/
theorem forall₂_of_mapM {α β γ : Type} {f : α → Option β} {g : α → Option γ} {R : β → γ → Prop}
    {items : List α} {firsts : List β} {seconds : List γ}
    (each : ∀ item ∈ items, ∀ {first second}, f item = some first → g item = some second →
      R first second)
    (mapped : items.mapM f = some firsts) (mapped' : items.mapM g = some seconds) :
    List.Forall₂ R firsts seconds := by
  rw [mapM_eq_some_iff] at mapped mapped'
  induction mapped generalizing seconds with
  | nil =>
    cases mapped'
    exact .nil
  | @cons item first rest firsts found _ ih =>
    obtain _ | ⟨found', others'⟩ := mapped'
    refine .cons (each item List.mem_cons_self found found') ?_
    exact ih (fun item listed => each item (List.mem_cons_of_mem _ listed)) others'

theorem agree_operate? (method : Method) (items : List Value) {argument argument' : Option Value}
    {images images' : Option (List Value)} (arguments : Agree argument argument')
    (lambdas : Agree images images') :
    Agree (operate? method items argument images) (operate? method items argument' images') := by
  cases method with
  | count | first | any => exact .of_eq rfl
  | skip | take => exact (arguments.bind fun _ => .of_eq rfl).map _
  | filter | select | orderBy | orderByDescending => exact lambdas.map _

theorem agree_combine? (op : BinaryOp) (left : Value) {right right' : Option Value}
    (rights : Agree right right') : Agree (combine? op left right) (combine? op left right') := by
  unfold combine?
  split
  · split
    · exact rights.map _
    · exact .of_eq rfl
  · split
    · exact .of_eq rfl
    · exact rights.map _
  · exact rights.map _

/-- Trees over two stores with the same values, whatever their parameters stand for. -/
structure Alike (store other : Store) (tree tree' : Expr) : Prop where
  types : tree.type = tree'.type
  values : ∀ scope, Agree (value? store tree scope) (value? other tree' scope)
  images : ∀ item scope, Agree (image? store tree item scope) (image? other tree' item scope)

/-- What cannot be applied is alike if its values agree. -/
theorem Alike.of_values {store other : Store} {tree tree' : Expr} (types : tree.type = tree'.type)
    (plain : tree.isLambda = false)
    (values : ∀ scope, Agree (value? store tree scope) (value? other tree' scope)) :
    Alike store other tree tree' where
  types
  values
  images item scope := by
    rw [image?_of_not_lambda store scope plain]
    exact fun _ => nofun

theorem Alike.refl (store : Store) (tree : Expr) : Alike store store tree tree :=
  ⟨rfl, fun _ => .of_eq rfl, fun _ _ => .of_eq rfl⟩

section Congruence

variable {store other : Store} {tree tree' : Expr}

theorem Alike.parameter (stamp : Stamp) (name : String) :
    Alike store other (.parameter stamp name) (.parameter stamp name) := by
  refine .of_values rfl rfl fun scope => .of_eq ?_
  exact (value?_parameter ..).trans (value?_parameter ..).symm

theorem Alike.member (stamp : Stamp) (name : String) (alike : Alike store other tree tree') :
    Alike store other (.member stamp tree name) (.member stamp tree' name) := by
  refine .of_values rfl rfl fun scope => ?_
  rw [value?_member, value?_member]
  exact (alike.values scope).bind fun _ => .of_eq rfl

theorem Alike.lambda (stamp : Stamp) (param : String) (alike : Alike store other tree tree') :
    Alike store other (.lambda stamp param tree) (.lambda stamp param tree') := by
  refine ⟨rfl, fun scope => ?_, fun item scope => ?_⟩
  · rw [value?_lambda]
    exact .none
  · rw [image?_lambda, image?_lambda]
    exact alike.values _

theorem Alike.not (stamp : Stamp) (alike : Alike store other tree tree') :
    Alike store other (.not stamp tree) (.not stamp tree') := by
  refine .of_values rfl rfl fun scope => ?_
  rw [value?_not, value?_not]
  exact (alike.values scope).map _

theorem Alike.binary (stamp : Stamp) (op : BinaryOp) {right right' : Expr}
    (lefts : Alike store other tree tree') (rights : Alike store other right right') :
    Alike store other (.binary stamp op tree right) (.binary stamp op tree' right') := by
  refine .of_values rfl rfl fun scope => ?_
  rw [value?_binary, value?_binary]
  exact (lefts.values scope).bind fun first => agree_combine? op first (rights.values scope)

/-- An operator call depends on its first two arguments. -/
theorem agree_call (stamp : Stamp) (method : Method) {rest rest' : List Expr}
    (alike : Alike store other tree tree')
    (others : ∀ e ∈ rest.head?, ∀ e' ∈ rest'.head?, Alike store other e e') (scope : Scope) :
    Agree (value? store (.call stamp method (tree :: rest)) scope)
      (value? other (.call stamp method (tree' :: rest')) scope) := by
  have second {α : Type} {f f' : Expr → Option α}
      (each : ∀ e e', Alike store other e e' → Agree (f e) (f' e')) :
      Agree (rest.head?.bind f) (rest'.head?.bind f') := by
    intro a known b also
    obtain ⟨e, found, known⟩ := Option.bind_eq_some_iff.mp known
    obtain ⟨e', found', also⟩ := Option.bind_eq_some_iff.mp also
    exact each e e' (others e found e' found') a known b also
  rw [value?_call, value?_call]
  refine ((alike.values scope).bind fun _ => .of_eq rfl).bind fun items => ?_
  refine agree_operate? method items (second fun _ _ alike => alike.values scope) ?_
  exact second fun _ _ alike => Agree.mapM (fun item => alike.images item scope) items

theorem Alike.call (stamp : Stamp) (method : Method) {args args' : List Expr}
    (alike : List.Forall₂ (Alike store other) args args') :
    Alike store other (.call stamp method args) (.call stamp method args') := by
  refine .of_values rfl rfl fun scope => ?_
  cases alike with
  | nil =>
    rw [value?_call_nil]
    exact .none
  | cons first rest =>
    refine agree_call _ _ first ?_ scope
    cases rest with
    | nil =>
      intro e listed
      contradiction
    | cons second rest =>
      rintro _ ⟨⟩ _ ⟨⟩
      exact second

end Congruence

/-- Whether a node belongs to a backend already. -/
def isNative : Expr → Bool
  | .native .. | .queryable .. => true
  | _ => false

/-- Whether a node is a reference under another type than that of what it refers to. -/
def isMistyped (model : Model) : Expr → Bool
  | .source stamp qualifier name _ =>
    (model.resolve? qualifier name).any fun element => element.logicalType != stamp.type
  | _ => false

/-- What two plans make of a tree is alike if what they make of its references and of what belongs to
a backend already is. -/
theorem Alike.resolved {plan plan' : Plan} (roles : ∀ e, plan'.role e = plan.role e)
    {e tree tree' : Expr}
    (natives : ∀ node ∈ e.nodes, isNative node = true →
      Alike plan.store plan'.store node.erased node.erased)
    (references : ∀ node ∈ e.nodes, ∀ target type tree tree',
      plan.role node = .reference target type → plan.sourced? target type = some tree →
      plan'.sourced? target type = some tree' → Alike plan.store plan'.store tree tree')
    (resolved : plan.resolve? [] e = some tree) (resolved' : plan'.resolve? [] e = some tree') :
    Alike plan.store plan'.store tree tree' := by
  induction e using Expr.ofChildren generalizing tree tree' with
  | step e ih =>
    have below (child : Expr) (member : child ∈ e.children) {tree tree' : Expr}
        (resolved : plan.resolve? [] child = some tree)
        (resolved' : plan'.resolve? [] child = some tree') :
        Alike plan.store plan'.store tree tree' :=
      ih child member (fun node inside => natives node (Expr.mem_nodes_of_child member inside))
        (fun node inside => references node (Expr.mem_nodes_of_child member inside))
        resolved resolved'
    cases role : plan.role e with
    | broken =>
      rw [resolve?_broken rfl role] at resolved
      contradiction
    | reference target type =>
      rw [resolve?_reference rfl role] at resolved
      rw [resolve?_reference rfl ((roles e).trans role)] at resolved'
      exact references e e.mem_nodes_self target type tree tree' role resolved resolved'
    | plain =>
      have role' : plan'.role e = .plain := (roles e).trans role
      cases e with
      | source => cases isSource_of_plain role
      | native | queryable =>
        rw [resolve?, resolving_leaf role rfl] at resolved
        rw [resolve?, resolving_leaf role' rfl] at resolved'
        cases resolved
        cases resolved'
        exact natives _ (Expr.mem_nodes_self _) rfl
      | value =>
        rw [resolve?, resolving_leaf role rfl] at resolved
        rw [resolve?, resolving_leaf role' rfl] at resolved'
        cases resolved
        cases resolved'
        exact .of_values rfl rfl fun scope => .of_eq rfl
      | parameter stamp name =>
        rw [resolve?, resolving_leaf role rfl] at resolved
        rw [resolve?, resolving_leaf role' rfl] at resolved'
        cases resolved
        cases resolved'
        exact .parameter _ name
      | member stamp target name =>
        rw [resolve?, resolving_member rfl role, Option.map_eq_some_iff] at resolved
        rw [resolve?, resolving_member rfl role', Option.map_eq_some_iff] at resolved'
        obtain ⟨target, resolved, rfl⟩ := resolved
        obtain ⟨target', resolved', rfl⟩ := resolved'
        exact .member _ name (below _ (by simp [Expr.children]) resolved resolved')
      | lambda stamp param body =>
        rw [resolve?, resolving_lambda, Option.map_eq_some_iff] at resolved resolved'
        obtain ⟨body, resolved, rfl⟩ := resolved
        obtain ⟨body', resolved', rfl⟩ := resolved'
        exact .lambda _ param (below _ (by simp [Expr.children]) resolved resolved')
      | not stamp operand =>
        rw [resolve?, resolving_not, Option.map_eq_some_iff] at resolved resolved'
        obtain ⟨operand, resolved, rfl⟩ := resolved
        obtain ⟨operand', resolved', rfl⟩ := resolved'
        exact .not _ (below _ (by simp [Expr.children]) resolved resolved')
      | binary stamp op left right =>
        simp only [resolve?, resolving_binary, Option.bind_eq_some_iff,
          Option.map_eq_some_iff] at resolved resolved'
        obtain ⟨left, leftward, right, rightward, rfl⟩ := resolved
        obtain ⟨left', leftward', right', rightward', rfl⟩ := resolved'
        exact .binary _ op (below _ (by simp [Expr.children]) leftward leftward')
          (below _ (by simp [Expr.children]) rightward rightward')
      | call stamp method args =>
        rw [resolve?, resolving_call, Option.map_eq_some_iff] at resolved resolved'
        obtain ⟨trees, each, rfl⟩ := resolved
        obtain ⟨trees', each', rfl⟩ := resolved'
        exact .call _ method (forall₂_of_mapM below each each')

/-- A query that nothing has been resolved in yet, with references under their own types. -/
def Submitted (model : Model) (query : Expr) : Prop :=
  query.hasNode (fun e => isNative e || isMistyped model e) = false

instance (model : Model) (query : Expr) : Decidable (Submitted model query) :=
  inferInstanceAs (Decidable (_ = _))

theorem Submitted.stripPaging {model : Model} {query : Expr} (submitted : Submitted model query) :
    Submitted model query.stripPaging := by
  induction query using Expr.ofChildren with
  | step query ih =>
    cases paging : query.isPaging with
    | false => rwa [Expr.stripPaging_of_not_paging paging]
    | true =>
      cases query with
      | call stamp method args =>
        cases args with
        | nil => exact submitted
        | cons inner rest =>
          rw [Expr.stripPaging_call paging]
          refine ih inner (by simp [Expr.children]) ?_
          unfold Submitted at submitted
          rw [Expr.hasNode_eq, Bool.or_eq_false_iff, List.any_eq_false] at submitted
          simpa [Submitted] using submitted.2 inner (by simp [Expr.children])
      | _ => contradiction

variable {security : RowSecurity} {auth : Auth} {user : Uuid}

/-- The verdict of the selector about a row. -/
theorem image?_selector (store : Store) (entity : String) (field : QueryType) (user : Uuid)
    (row : Value) (scope : Scope) :
    image? store (security.selector entity field user) row scope =
      (memberOf security.ownerField row).toOption.map fun owner =>
        .bool (equal owner (.string user.text)) := by
  simp only [selector, image?_lambda, value?_binary, value?_member, value?_parameter, value?_value,
    List.lookup_cons_self, Option.bind_some, Option.map_eq_bind]
  rfl

/-- The rows that row security lets out of a collection of a store. -/
theorem value?_restricted (known : auth.user? = some user) {store : Store} {name entity : String}
    {call fragment : Stamp} {field : QueryType} {scope : Scope} {value : Value}
    (many : fragment.type.isCollection = true)
    (found : value? store (.call call .filter
        [.native fragment store.proxy name, security.selector entity field user]) scope =
      some value) :
    ((store.rows? name).map (·.filter (security.owns auth))).map .array = some value := by
  simp only [value?_call, value?_own, many, if_true, List.head?_cons, Option.bind_some,
    Option.bind_eq_some_iff, Option.map_eq_some_iff, operate?, image?_selector] at found
  obtain ⟨items, ⟨_, ⟨rows, stored, rfl⟩, listed⟩, verdicts, visited, rfl⟩ := found
  cases listed
  rw [stored, Option.map_some, Option.map_some, kept_eq_filter visited]
  congr 2
  refine List.filter_congr fun row _ => ?_
  unfold owns
  rw [known, Option.any_some]
  cases memberOf security.ownerField row with
  | error => rfl
  | ok owner => exact (isTrue_bool _).symm

/-- Rows that are objects all have a verdict. -/
theorem value?_owned (known : auth.user? = some user) {store : Store} {name entity : String}
    {call fragment : Stamp} {field : QueryType} {rows : List Value}
    (stored : store.rows? name = some rows) (objects : ∀ row ∈ rows, isObject row = true)
    (many : fragment.type.isCollection = true) (scope : Scope) :
    value? store (.call call .filter
        [.native fragment store.proxy name, security.selector entity field user]) scope =
      some (.array (rows.filter (security.owns auth))) := by
  have verdicts : rows.mapM
        (fun row => image? store (security.selector entity field user) row scope) =
      some (rows.map fun row => .bool (security.owns auth row)) := by
    rw [mapM_eq_some_iff, List.forall₂_map_right_iff, List.forall₂_same]
    intro row listed
    rw [image?_selector, owns, known]
    cases row with
    | object members => rfl
    | _ => exact absurd (objects _ listed) (by simp [isObject])
  rw [value?_call, value?_own, stored, Option.map_some, if_pos many, Option.bind_some, items?,
    Option.bind_some]
  simp only [List.head?_cons, Option.bind_some, verdicts, operate?, Option.map_some, kept_map,
    isTrue_bool]

section Resolved

variable {plan : Plan} {other : Store} {target : DataReference} {tree tree' : Expr}

/-- A protected collection is covered under its own type. -/
theorem Protects.covers (protects : security.Protects plan.model target.name)
    (named : plan.model.resolve? target.qualifier target.name = some target.element) :
    security.Covers plan.model target ∧ target.logicalType.isCollection = true := by
  obtain ⟨listed, entity, found⟩ := protects
  have collection : target.element = .collection target.name entity :=
    Option.some.inj ((Model.resolve?_unqualified named).symm.trans found)
  constructor
  · unfold Covers Binding.owner?
    rw [collection]
    exact listed
  · unfold DataReference.logicalType
    rw [collection]
    rfl

variable (indistinct : security.Indistinct plan.model plan.request.auth plan.store other)
  (uncaptured : security.Uncaptured plan.model plan.root)
  (guarded : plan.request.bypassesRowSecurity = false)
  (secured : plan.rules = [security.rule plan.model plan.request])

include indistinct uncaptured guarded secured

/-- A reference that is typed by the schema becomes trees with the same value. -/
theorem sourced?_agree
    (named : plan.model.resolve? target.qualifier target.name = some target.element)
    (sourced : plan.sourced? target target.logicalType = some tree)
    (sourced' : (plan.onto other).sourced? target target.logicalType = some tree') :
    Alike plan.store other tree tree' := by
  have uncaptured' : security.Uncaptured (plan.onto other).model (plan.onto other).root :=
    uncaptured
  rcases sourced?_cases uncaptured secured guarded sourced with
    ⟨free, rfl⟩ | ⟨covered, user, field, known, declared, rfl⟩ <;>
  rcases sourced?_cases uncaptured' secured guarded sourced' with
    ⟨free', rfl⟩ | ⟨covered', user', field', known', declared', rfl⟩
  · refine .of_values rfl rfl fun scope => .of_eq ?_
    have same := indistinct.unprotected target.name fun protects => free (protects.covers named)
    rw [value?_own]
    exact same ▸ (value?_own other _ _ _).symm
  · exact (free covered').elim
  · exact (free' covered).elim
  · refine .of_values rfl rfl fun scope value found value' found' => ?_
    have mine := value?_restricted known covered.2 found
    have theirs := value?_restricted known' covered.2 found'
    have same : (plan.store.rows? target.name).map (·.filter (security.owns plan.request.auth)) =
        (other.rows? target.name).map (·.filter (security.owns plan.request.auth)) := by
      by_cases protects : security.Protects plan.model target.name
      · exact indistinct.owned _ protects
      · rw [indistinct.unprotected _ protects]
    rw [same] at mine
    exact Option.some.inj (mine.symm.trans theirs)

omit indistinct uncaptured guarded secured in
/-- A reference in a submitted query has the type of what it refers to. -/
theorem role_typed {e : Expr} {type : QueryType} (typed : isMistyped plan.model e = false)
    (role : plan.role e = .reference target type) :
    plan.model.resolve? target.qualifier target.name = some target.element ∧
      type = target.logicalType := by
  have accessed {accepting : QueryType} {name : Option String}
      (role : plan.accessRole accepting name = .reference target type) :
      plan.model.resolve? target.qualifier target.name = some target.element ∧
        type = target.logicalType := by
    unfold accessRole at role
    split at role
    · contradiction
    · split at role
      · contradiction
      · next found =>
        split at role
        · contradiction
        · split at role
          · cases role
            exact ⟨found, rfl⟩
          · contradiction
  cases e with
  | source stamp qualifier name args =>
    unfold Plan.role at role
    dsimp only at role
    split at role
    · next element found =>
      cases role
      simp only [isMistyped, found, Option.any_some, bne_eq_false_iff_eq] at typed
      exact ⟨found, typed.symm⟩
    · contradiction
  | _ => exact accessed role

/-- Submitted queries become trees with the same values over stores that cannot be told apart. -/
theorem resolve?_alike {e : Expr} (submitted : Submitted plan.model e)
    (resolved : plan.resolve? [] e = some tree)
    (resolved' : (plan.onto other).resolve? [] e = some tree') :
    Alike plan.store other tree tree' := by
  have proper (node : Expr) (member : node ∈ e.nodes) :
      isNative node = false ∧ isMistyped plan.model node = false :=
    Bool.or_eq_false_iff.mp (Expr.test_of_mem_nodes submitted member)
  have roles (e : Expr) : (plan.onto other).role e = plan.role e := rfl
  refine Alike.resolved roles ?_ ?_ resolved resolved'
  · intro node member native
    rw [(proper node member).1] at native
    contradiction
  · intro node member target type tree tree' role sourced sourced'
    obtain ⟨named, rfl⟩ := role_typed (proper node member).2 role
    exact sourced?_agree indistinct uncaptured guarded secured named sourced sourced'

end Resolved

/-- Alike trees, with and without their pages, get the same answer. -/
theorem agree_answer? {store other : Store} {tree tree' : Expr}
    (alike : Alike store other tree.erased tree'.erased)
    (stripped : Alike store other tree.stripPaging.erased tree'.stripPaging.erased)
    (options : ExecutionOptions) :
    Agree (store.answer? tree options) (other.answer? tree' options) := by
  have types : tree.type = tree'.type := by simpa using alike.types
  have values : Agree (value? store tree []) (value? other tree' []) := by
    have values := alike.values []
    rwa [value?_erased, value?_erased] at values
  have totals : Agree (store.total? tree) (other.total? tree') := by
    have values := stripped.values []
    rw [value?_erased, value?_erased] at values
    exact (values.bind fun _ => .of_eq rfl).map _
  unfold Store.answer?
  rw [types]
  cases Shape.of tree'.type with
  | scalar => exact values.map _
  | sequence =>
    refine (values.bind fun _ => .of_eq rfl).bind fun items => Agree.map ?_ _
    cases options.includeTotalCount with
    | false => exact .of_eq rfl
    | true => exact totals.map _

/-- A caller who is bound by row security gets the same answer over two stores that differ in the
rows of others only, whatever the query, if there is an answer over both. -/
theorem execute_indistinct {config : EngineConfig} {security : RowSecurity} {model : Model}
    {request : QueryRequest} {store other : Store} {metrics metrics' : Telemetry.Metrics}
    {ambient ambient' : Ambient} {result result' : QueryResult}
    (secured : config.rowSecurityFilter? = some security)
    (uncaptured : security.Uncaptured model (some { root := config.apiRoot }))
    (guarded : request.context.bypassesRowSecurity = false)
    (submitted : Submitted model request.query)
    (indistinct : security.Indistinct model request.context.auth store other)
    (answered : ((config.pipeline model store).execute request metrics ambient).1 = .ok result)
    (answered' : ((config.pipeline model other).execute request metrics' ambient').1 =
      .ok result') :
    result = result' := by
  let plan := config.plan model request.context store
  have rules : plan.rules = [security.rule plan.model plan.request] := by
    simp [plan, EngineConfig.plan, secured]
  have uncaptured' : ∀ listed ∈ config.rowSecurityFilter?,
      listed.Uncaptured model (some { root := config.apiRoot }) := by
    rw [secured]
    rintro _ ⟨⟩
    exact uncaptured
  have ends := config.execute_ends model store request metrics ambient
  have ends' := config.execute_ends model other request metrics' ambient'
  rw [answered] at ends
  rw [answered'] at ends'
  obtain ⟨-, tree, collection, answer, walks, answers, rfl⟩ := ends
  obtain ⟨-, tree', collection', answer', walks', answers', rfl⟩ := ends'
  obtain ⟨resolved, rfl⟩ := EngineConfig.walks_resolve uncaptured' walks
  obtain ⟨resolved', rfl⟩ := EngineConfig.walks_resolve uncaptured' walks'
  have indistinct : security.Indistinct plan.model plan.request.auth plan.store other := indistinct
  have alike := resolve?_alike indistinct uncaptured guarded rules submitted resolved resolved'
  have stripped := resolve?_alike indistinct uncaptured guarded rules submitted.stripPaging
    (resolve?_stripPaging resolved) (resolve?_stripPaging resolved')
  rw [Expr.stripPaging_erased, Expr.stripPaging_erased] at stripped
  cases agree_answer? alike stripped request.options answer answers answer' answers'
  have same : (plan.onto other).collected [] request.query none =
      plan.collected [] request.query none := plan.collected_onto other _ _
  rw [← same]
  rfl

/-- Two stores that differ in one protected collection, and there in the rows of others. -/
theorem indistinct_insert {security : RowSecurity} {model : Model} {auth : Auth} {name : String}
    (protects : security.Protects model name) (store : Store) {rows rows' : List Value}
    (same : rows.filter (security.owns auth) = rows'.filter (security.owns auth)) :
    security.Indistinct model auth (store.insert name rows) (store.insert name rows') where
  unprotected other free := by
    have differs : other ≠ name := by
      rintro rfl
      exact free protects
    simp only [Store.rows?, Store.insert, Entries.find?_insert_of_ne differs]
  owned other _ := by
    by_cases differs : other = name
    · subst differs
      simp only [Store.rows?, Store.insert, Entries.find?_insert_self, Option.map_some, same]
    · simp only [Store.rows?, Store.insert, Entries.find?_insert_of_ne differs]

/-- A user sees the same customers, whether or not there are customers of somebody else. -/
theorem foreign_customers_unseen :
    let model : Model := {
      space := "shop"
      entityTypes := [
        ("Customer", { name := "Customer", fields := [("owner_id", ⟨.string, true⟩)] })]
      elements := [("Customers", .collection "Customers" "Customer")] }
    let config : EngineConfig := { rowSecurity := some { collections := ["Customers"] } }
    let row (owner : Uuid) : Value := .object [("owner_id", .string owner.text)]
    let store : Store := Store.insert {} "Customers" [row ⟨7⟩, row ⟨8⟩]
    let other : Store := Store.insert {} "Customers" [row ⟨7⟩]
    let request : QueryRequest := {
      query := .source ⟨0, .queryable (.entity "Customer")⟩ none "Customers" []
      context := .ofCaller (.user ⟨7⟩)
      options := { includeTotalCount := true } }
    ∃ result, ((config.pipeline model store).execute request {} {}).1 = .ok result ∧
      ((config.pipeline model other).execute request {} {}).1 = .ok result := by
  intro model config row store other request
  let security : RowSecurity := { protectedNames := ["Customers"] }
  have protects : security.Protects model "Customers" := ⟨by decide, "Customer", rfl⟩
  have indistinct : security.Indistinct model request.context.auth store other :=
    indistinct_insert protects {} (by decide +kernel)
  have uncaptured : security.Uncaptured model (some { root := config.apiRoot }) :=
    fun same => absurd same (by decide)
  have succeeds (store : Store) (some : ((config.pipeline model store).execute request
      {} {}).1.toOption.isSome = true) :
      ∃ result, ((config.pipeline model store).execute request {} {}).1 = .ok result := by
    cases answered : ((config.pipeline model store).execute request {} {}).1 with
    | error error => rw [answered] at some; contradiction
    | ok result => exact ⟨result, rfl⟩
  obtain ⟨result, answered⟩ := succeeds store (by decide +kernel)
  obtain ⟨result', answered'⟩ := succeeds other (by decide +kernel)
  have submitted : Submitted model request.query := by decide
  obtain rfl := execute_indistinct rfl uncaptured rfl submitted indistinct answered answered'
  exact ⟨result, answered, answered'⟩

/-- Where the root goes by the name of the row parameter and a singleton by that of the owner field,
the singleton is compared with the user in place of the field, and all customers are seen. -/
theorem captured_customers_seen :
    let model : Model := {
      space := "shop"
      entityTypes := [
        ("Customer", { name := "Customer", fields := [("owner", ⟨.entity "Person", false⟩)] }),
        ("Person", { name := "Person", fields := [] })]
      elements := [("Customers", .collection "Customers" "Customer"),
        ("owner", .singleton "owner" "Person")] }
    let config : EngineConfig := {
      apiRoot := "it"
      rowSecurity := some { ownerField := "owner", collections := ["Customers"] } }
    let security : RowSecurity := { ownerField := "owner", protectedNames := ["Customers"] }
    let row (owner : Uuid) : Value := .object [("owner", .string owner.text)]
    let stored : Store := Store.insert {} "owner" [.string (Uuid.text ⟨7⟩)]
    let store := stored.insert "Customers" [row ⟨8⟩]
    let other := stored.insert "Customers" []
    let request : QueryRequest := {
      query := .source ⟨0, .queryable (.entity "Customer")⟩ none "Customers" []
      context := .ofCaller (.user ⟨7⟩) }
    security.Indistinct model request.context.auth store other ∧ Submitted model request.query ∧
      ((config.pipeline model store).execute request {} {}).1.toOption.map QueryResult.results =
        some [row ⟨8⟩] ∧
      ((config.pipeline model other).execute request {} {}).1.toOption.map QueryResult.results =
        some [] := by
  intro model config security row stored store other request
  have protects : security.Protects model "Customers" := ⟨by decide, "Customer", rfl⟩
  refine ⟨indistinct_insert protects stored (by decide +kernel), by decide, ?_, ?_⟩
  · decide +kernel
  · decide +kernel

end QueryRewriting.Access.RowSecurity
