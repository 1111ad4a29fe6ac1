import Mathlib.Data.List.Forall2
import QueryRewriting.Access.RootMember
import QueryRewriting.Evaluation.Store
import QueryRewriting.Proofs.Binding
import QueryRewriting.Proofs.Expr.Erasure

/-! What row filters over a store make of a query tree, said without frames, hooks or a supply of
identities. A plan resolves every data reference on its own: into the fragment of the store, and
around it one `where` call for each filter that wraps the reference. Everything else is put together
again as it was. `resolve?` takes what stands for nodes under a substitution into account, so that
it also says what becomes of the trees that filters offer. -/
namespace QueryRewriting.Rewriting

open Access Schema Evaluation

/-- What a row filter does about a data reference. -/
inductive Wrapping where
  | refuse
  | leave
  | wrap (selector : Expr)

/-- What a row filter does about each data reference and the static type of its node. -/
abbrev RowRule := DataReference → QueryType → Wrapping

/-- A way of resolving data references for a request: as members of a root too if there is one, from
a store, under the rules of row filters. -/
structure Plan where
  model : Model
  request : RequestContext
  root : Option RootMember := none
  store : Store
  rules : List RowRule := []

/-- The same plan over another store. -/
def Plan.onto (plan : Plan) (store : Store) : Plan := { plan with store }

/-- What a node is in the resolution of a tree. A broken node cannot be resolved. -/
inductive Role where
  | plain
  | broken
  | reference (target : DataReference) (type : QueryType)

/-- Every item of a list has a value, and the values come in order. -/
theorem mapM_eq_some_iff {α β : Type} {f : α → Option β} {items : List α} {values : List β} :
    items.mapM f = some values ↔
      List.Forall₂ (fun item value => f item = some value) items values := by
  induction items generalizing values with
  | nil => cases values <;> simp
  | cons item rest ih =>
    rw [List.mapM_cons, List.forall₂_cons_left_iff]
    simp only [Option.bind_eq_bind, Option.bind_eq_some_iff, Option.pure_def, Option.some.injEq, ih]
    grind

theorem isSome_of_mapM {α β : Type} {f : α → Option β} {items : List α} {item : α}
    (all : (items.mapM f).isSome = true) (member : item ∈ items) : (f item).isSome = true := by
  obtain ⟨values, all⟩ := Option.isSome_iff_exists.mp all
  obtain ⟨place, inside, rfl⟩ := List.getElem_of_mem member
  have each := mapM_eq_some_iff.mp all
  exact Option.isSome_iff_exists.mpr ⟨_, each.get inside (each.length_eq ▸ inside)⟩

theorem mapM_congr {m : Type → Type} [Monad m] [LawfulMonad m] {α β : Type} {f g : α → m β}
    {items : List α} (same : ∀ item ∈ items, f item = g item) : items.mapM f = items.mapM g := by
  induction items with
  | nil => rfl
  | cons item rest ih =>
    rw [List.mapM_cons, List.mapM_cons, same item List.mem_cons_self,
      ih fun other member => same other (List.mem_cons_of_mem _ member)]

namespace Plan

variable (plan : Plan)

/-- The role of a node of some type that may access a member of the root. Such a member stands for a
reference, unless it names a function. -/
def accessRole (type : QueryType) : Option String → Role
  | none => .plain
  | some name =>
    match plan.model.resolve? none name with
    | none => .broken
    | some element =>
      if element.isFunction then .plain
      else if type.accepts element.logicalType then
        .reference { qualifier := none, name, args := [], element } element.logicalType
      else .broken

/-- The role of a node. -/
def role : Expr → Role
  | .source stamp qualifier name args =>
    match plan.model.resolve? qualifier name with
    | some element => .reference { qualifier, name, args, element } stamp.type
    | none => .broken
  | e => plan.accessRole e.type (plan.root.bind (·.accessed? e))

/-- The fragment of the store for a reference whose node has some type. -/
def fragment? (target : DataReference) (type : QueryType) : Option Expr :=
  if type.accepts target.logicalType ∧ target.element.isFunction = false ∧
      plan.store.contains target.name = true then
    some (.native (Stamp.anonymous target.logicalType) plan.store.proxy target.name)
  else none

/-- What becomes of a tree that stands for a node under substitution: a reference is sourced, and
anything else is taken as it is. -/
def standing? : Expr → Option Expr
  | .source stamp qualifier name args =>
    match plan.model.resolve? qualifier name with
    | some element => plan.fragment? { qualifier, name, args, element } stamp.type
    | none => none
  | other => some other.erased

/-- The trees that stand for nodes right now, the innermost substitution first. -/
abbrev Substitutions := List (Expr × Expr)

/-- What stands for a node. -/
def substitute? (under : Substitutions) (e : Expr) : Option Expr :=
  (under.find? fun entry => entry.1 = e).map Prod.snd

section Resolution

variable (leaf : DataReference → QueryType → Option Expr) (under : Substitutions)

mutual

/-- What becomes of a tree if it is known what becomes of references. -/
def resolving (e : Expr) : Option Expr :=
  match substitute? under e with
  | some substitute => plan.standing? substitute
  | none =>
    match plan.role e with
    | .broken => none
    | .reference target type => leaf target type
    | .plain =>
      match e with
      | .member stamp target name =>
        (resolving target).map fun e => .member (.anonymous stamp.type) e name
      | .source .. => none
      | .call stamp method args => (resolvingAll args).map (.call (.anonymous stamp.type) method)
      | .lambda stamp param body => (resolving body).map (.lambda (.anonymous stamp.type) param)
      | .binary stamp op left right => do
        return .binary (.anonymous stamp.type) op (← resolving left) (← resolving right)
      | .not stamp operand => (resolving operand).map (.not (.anonymous stamp.type))
      | leaf => some leaf.erased

/-- What becomes of several trees. -/
def resolvingAll : List Expr → Option (List Expr)
  | [] => some []
  | e :: rest => do return (← resolving e) :: (← resolvingAll rest)

end

end Resolution

/-- The references of a tree that are resolved, each with the static type of its node. References
among the arguments of references are not. -/
def reached (e : Expr) : List (DataReference × QueryType) :=
  match plan.role e with
  | .broken => []
  | .reference target type => [(target, type)]
  | .plain =>
    match e with
    | .member _ target _ => reached target
    | .call _ _ args => reachedAll args
    | .lambda _ _ body => reached body
    | .binary _ _ left right => reached left ++ reached right
    | .not _ operand => reached operand
    | _ => []
where
  /-- The references of several trees that are resolved. -/
  reachedAll : List Expr → List (DataReference × QueryType)
    | [] => []
    | e :: rest => reached e ++ reachedAll rest

/-- What becomes of the selector of a filter. It holds no references. -/
def selected? (selector : Expr) : Option Expr := plan.resolving (fun _ _ => none) [] selector

/-- A fragment after some filters, each one around those before it. -/
def wrapped? (target : DataReference) (type : QueryType) : List RowRule → Expr → Option Expr
  | [], current => some current
  | rule :: rest, current =>
    match rule target type with
    | .refuse => none
    | .leave => wrapped? target type rest current
    | .wrap selector =>
      match plan.selected? selector with
      | none => none
      | some selector =>
        wrapped? target type rest (.call (.anonymous type) .filter [current, selector])

/-- What becomes of a reference whose node has some type. -/
def sourced? (target : DataReference) (type : QueryType) : Option Expr :=
  (plan.fragment? target type).bind (plan.wrapped? target type plan.rules)

/-- What becomes of a tree. -/
def resolve? (under : Substitutions) (e : Expr) : Option Expr :=
  plan.resolving plan.sourced? under e

/-- The collection that a node outside of lambdas belongs to. -/
def ownerOf? (e : Expr) : Option String :=
  match Binding.ofNode plan.model (fun _ => .ok .unbound) e with
  | .ok binding => binding.owner? plan.model
  | .error _ => none

/-- The collection that rows come from after a tree outside of lambdas: that of the node that was
left last and has one. -/
def collected (under : Substitutions) (e : Expr) (before : Option String) : Option String :=
  match substitute? under e with
  | some substitute => plan.ownerOf? substitute <|> before
  | none =>
    match plan.role e with
    | .broken => before
    | .reference target _ => (Binding.reference target).owner? plan.model <|> before
    | .plain =>
      match e with
      | .member stamp target name =>
        plan.ownerOf? (.member stamp target name) <|> collected under target before
      | .call _ _ args => collectedAll under args before
      | .binary _ _ left right => collected under right (collected under left before)
      | .not _ operand => collected under operand before
      | _ => before
where
  /-- The collection that rows come from after several trees. -/
  collectedAll (under : Substitutions) : List Expr → Option String → Option String
    | [], before => before
    | e :: rest, before => collectedAll under rest (collected under e before)

variable {plan} {leaf : DataReference → QueryType → Option Expr} {under : Substitutions} {e : Expr}

theorem fragment?_eq {target : DataReference} {type : QueryType} {fragment : Expr}
    (found : plan.fragment? target type = some fragment) :
    .native (.anonymous target.logicalType) plan.store.proxy target.name = fragment := by
  unfold fragment? at found
  split at found
  · exact Option.some.inj found
  · contradiction

section Wrapping

variable {target : DataReference} {type : QueryType} {rule : RowRule} {rest : List RowRule}

theorem wrapped?_refuse (ruled : rule target type = .refuse) (current : Expr) :
    plan.wrapped? target type (rule :: rest) current = none := by rw [wrapped?, ruled]

theorem wrapped?_leave (ruled : rule target type = .leave) (current : Expr) :
    plan.wrapped? target type (rule :: rest) current = plan.wrapped? target type rest current := by
  rw [wrapped?, ruled]

theorem wrapped?_wrap {selector : Expr} (ruled : rule target type = .wrap selector)
    (current : Expr) :
    plan.wrapped? target type (rule :: rest) current =
      (plan.selected? selector).bind fun chosen =>
        plan.wrapped? target type rest (.call (.anonymous type) .filter [current, chosen]) := by
  rw [wrapped?, ruled]
  dsimp only
  cases plan.selected? selector <;> rfl

/-- What gets through a list of filters has been left alone or wrapped by the first one. -/
theorem wrapped?_cons {current tree : Expr}
    (wrapped : plan.wrapped? target type (rule :: rest) current = some tree) :
    rule target type = .leave ∧ plan.wrapped? target type rest current = some tree ∨
      ∃ selector chosen, rule target type = .wrap selector ∧
        plan.selected? selector = some chosen ∧
        plan.wrapped? target type rest (.call (.anonymous type) .filter [current, chosen]) =
          some tree := by
  cases ruled : rule target type with
  | refuse =>
    rw [wrapped?_refuse ruled] at wrapped
    contradiction
  | leave =>
    rw [wrapped?_leave ruled] at wrapped
    exact .inl ⟨rfl, wrapped⟩
  | wrap selector =>
    rw [wrapped?_wrap ruled, Option.bind_eq_some_iff] at wrapped
    obtain ⟨chosen, selected, wrapped⟩ := wrapped
    exact .inr ⟨selector, chosen, rfl, selected, wrapped⟩

end Wrapping

theorem resolvingAll_eq (es : List Expr) :
    plan.resolvingAll leaf under es = es.mapM (plan.resolving leaf under) := by
  induction es with
  | nil => rfl
  | cons e rest ih => rw [resolvingAll, ih, List.mapM_cons]

theorem isSource_of_plain (role : plan.role e = .plain) : e.isSource = false := by
  cases e with
  | source =>
    unfold Plan.role at role
    dsimp only at role
    split at role <;> contradiction
  | _ => rfl

/-- What is neither a reference nor an access to the root has no role of its own. -/
theorem role_plain (proper : e.isSource = false)
    (unaccessed : ∀ access, plan.root = some access → access.accessed? e = none) :
    plan.role e = .plain := by
  have none : plan.root.bind (·.accessed? e) = none := by
    cases root : plan.root with
    | none => rfl
    | some access => exact unaccessed access root
  cases e with
  | source => contradiction
  | _ => simp only [Plan.role, none, accessRole]

@[simp] theorem role_call (stamp : Stamp) (method : Method) (args : List Expr) :
    plan.role (.call stamp method args) = .plain := role_plain rfl fun _ _ => rfl

@[simp] theorem role_lambda (stamp : Stamp) (param : String) (body : Expr) :
    plan.role (.lambda stamp param body) = .plain := role_plain rfl fun _ _ => rfl

@[simp] theorem role_binary (stamp : Stamp) (op : BinaryOp) (left right : Expr) :
    plan.role (.binary stamp op left right) = .plain := role_plain rfl fun _ _ => rfl

@[simp] theorem role_value (stamp : Stamp) (content : Json.Value) :
    plan.role (.value stamp content) = .plain := role_plain rfl fun _ _ => rfl

@[simp] theorem role_parameter (stamp : Stamp) (name : String) :
    plan.role (.parameter stamp name) = .plain := role_plain rfl fun _ _ => rfl

/-- A node without a role of its own is put together again from what becomes of its children. -/
theorem resolving_eq (e : Expr) :
    plan.resolving leaf under e =
      match substitute? under e with
      | some substitute => plan.standing? substitute
      | none =>
        match plan.role e with
        | .broken => none
        | .reference target type => leaf target type
        | .plain => (e.children.mapM (plan.resolving leaf under)).map e.overChildren := by
  conv_lhs => unfold resolving
  cases substitute? under e with
  | some substitute => rfl
  | none =>
    cases role : plan.role e with
    | broken | reference => rfl
    | plain =>
      have proper := isSource_of_plain role
      cases e with
      | source => contradiction
      | value | queryable | parameter | native => rfl
      | call stamp method args =>
        simp only [resolvingAll_eq, Expr.children]
        cases visited : args.mapM (plan.resolving leaf under) with
        | none => rfl
        | some rewritten =>
          have complete : rewritten.length = (Expr.erasedAll args).length := by
            rw [Expr.erasedAll_eq_map, List.length_map]
            exact (mapM_eq_some_iff.mp visited).length_eq.symm
          simp only [Option.map_some, Expr.overChildren, Expr.erased, Expr.replaceChildren,
            Expr.overlay_of_length_eq complete]
          rfl
      | member stamp only name | lambda stamp name only | not stamp only =>
        simp only [Expr.children, List.mapM_cons, List.mapM_nil]
        cases plan.resolving leaf under only <;> rfl
      | binary stamp op left right =>
        simp only [Expr.children, List.mapM_cons, List.mapM_nil]
        cases plan.resolving leaf under left <;> cases plan.resolving leaf under right <;> rfl

theorem resolving_substituted {substitute : Expr} (found : substitute? under e = some substitute) :
    plan.resolving leaf under e = plan.standing? substitute := by
  rw [resolving_eq, found]

theorem resolving_broken (free : substitute? under e = none) (role : plan.role e = .broken) :
    plan.resolving leaf under e = none := by
  rw [resolving_eq, free, role]

theorem resolving_reference {target : DataReference} {type : QueryType}
    (free : substitute? under e = none) (role : plan.role e = .reference target type) :
    plan.resolving leaf under e = leaf target type := by
  rw [resolving_eq, free, role]

theorem resolving_plain (free : substitute? under e = none) (role : plan.role e = .plain) :
    plan.resolving leaf under e =
      (e.children.mapM (plan.resolving leaf under)).map e.overChildren := by
  rw [resolving_eq, free, role]

theorem resolve?_substituted {substitute : Expr} (found : substitute? under e = some substitute) :
    plan.resolve? under e = plan.standing? substitute := resolving_substituted found

theorem resolve?_broken (free : substitute? under e = none) (role : plan.role e = .broken) :
    plan.resolve? under e = none := resolving_broken free role

theorem resolve?_reference {target : DataReference} {type : QueryType}
    (free : substitute? under e = none) (role : plan.role e = .reference target type) :
    plan.resolve? under e = plan.sourced? target type := resolving_reference free role

theorem resolve?_plain (free : substitute? under e = none) (role : plan.role e = .plain) :
    plan.resolve? under e = (e.children.mapM (plan.resolve? under)).map e.overChildren :=
  resolving_plain free role

/-- What becomes of a member access, unless it is one to the root. -/
theorem resolving_member {stamp : Stamp} {target : Expr} {name : String}
    (free : substitute? under (.member stamp target name) = none)
    (role : plan.role (.member stamp target name) = .plain) :
    plan.resolving leaf under (.member stamp target name) =
      (plan.resolving leaf under target).map fun e => .member (.anonymous stamp.type) e name := by
  rw [resolving_plain free role, Expr.children, List.mapM_cons, List.mapM_nil]
  cases plan.resolving leaf under target <;> rfl

theorem resolving_call (stamp : Stamp) (method : Method) (args : List Expr) :
    plan.resolving leaf [] (.call stamp method args) =
      (args.mapM (plan.resolving leaf [])).map (.call (.anonymous stamp.type) method) := by
  rw [← resolvingAll_eq]
  conv_lhs => unfold resolving
  rw [show substitute? [] _ = none from rfl, role_call]

theorem resolving_lambda (stamp : Stamp) (param : String) (body : Expr) :
    plan.resolving leaf [] (.lambda stamp param body) =
      (plan.resolving leaf [] body).map (.lambda (.anonymous stamp.type) param) := by
  rw [resolving_plain rfl (role_lambda ..), Expr.children, List.mapM_cons, List.mapM_nil]
  cases plan.resolving leaf [] body <;> rfl

theorem resolving_binary (stamp : Stamp) (op : BinaryOp) (left right : Expr) :
    plan.resolving leaf [] (.binary stamp op left right) =
      (plan.resolving leaf [] left).bind fun first =>
        (plan.resolving leaf [] right).map (.binary (.anonymous stamp.type) op first) := by
  rw [resolving_plain rfl (role_binary ..), Expr.children, List.mapM_cons, List.mapM_cons,
    List.mapM_nil]
  cases plan.resolving leaf [] left <;> cases plan.resolving leaf [] right <;> rfl

theorem resolving_not (stamp : Stamp) (operand : Expr) :
    plan.resolving leaf [] (.not stamp operand) =
      (plan.resolving leaf [] operand).map (.not (.anonymous stamp.type)) := by
  rw [resolving_plain rfl (role_plain rfl fun _ _ => rfl), Expr.children, List.mapM_cons,
    List.mapM_nil]
  cases plan.resolving leaf [] operand <;> rfl

/-- What has no children and no role stays what it is. -/
theorem resolving_leaf (role : plan.role e = .plain) (childless : e.children = []) :
    plan.resolving leaf [] e = some (e.overChildren []) := by
  rw [resolving_plain rfl role, childless]
  rfl

theorem reachedAll_eq (es : List Expr) : reached.reachedAll plan es = es.flatMap plan.reached := by
  induction es with
  | nil => rfl
  | cons e rest ih => rw [reached.reachedAll, ih, List.flatMap_cons]

theorem reached_eq (e : Expr) :
    plan.reached e =
      match plan.role e with
      | .broken => []
      | .reference target type => [(target, type)]
      | .plain => e.children.flatMap plan.reached := by
  conv_lhs => unfold reached
  cases role : plan.role e with
  | broken | reference => rfl
  | plain =>
    have proper := isSource_of_plain role
    cases e with
    | source => contradiction
    | _ => simp [Expr.children, reachedAll_eq]

theorem reached_reference {target : DataReference} {type : QueryType}
    (role : plan.role e = .reference target type) : plan.reached e = [(target, type)] := by
  rw [reached_eq, role]

theorem reached_plain (role : plan.role e = .plain) :
    plan.reached e = e.children.flatMap plan.reached := by
  rw [reached_eq, role]

theorem reached_broken (role : plan.role e = .broken) : plan.reached e = [] := by
  rw [reached_eq, role]

theorem collectedAll_eq (es : List Expr) (before : Option String) :
    collected.collectedAll plan under es before =
      es.foldl (fun before e => plan.collected under e before) before := by
  induction es generalizing before with
  | nil => rfl
  | cons e rest ih => rw [collected.collectedAll, ih, List.foldl_cons]

/-- A lambda does not say where rows come from; any other node without a role of its own does, if
its children do not. -/
theorem collected_eq (e : Expr) (before : Option String) :
    plan.collected under e before =
      match substitute? under e with
      | some substitute => plan.ownerOf? substitute <|> before
      | none =>
        match plan.role e with
        | .broken => before
        | .reference target _ => (Binding.reference target).owner? plan.model <|> before
        | .plain => if e.isLambda then before else plan.ownerOf? e <|>
            e.children.foldl (fun before e => plan.collected under e before) before := by
  conv_lhs => unfold collected
  cases substitute? under e with
  | some substitute => rfl
  | none =>
    cases role : plan.role e with
    | broken | reference => rfl
    | plain =>
      have proper := isSource_of_plain role
      cases e with
      | source => contradiction
      | call => exact collectedAll_eq _ _
      | value | queryable | parameter | native | member | lambda | binary | not => rfl

theorem collected_substituted {substitute : Expr} (found : substitute? under e = some substitute)
    (before : Option String) :
    plan.collected under e before = (plan.ownerOf? substitute <|> before) := by
  rw [collected_eq, found]

theorem collected_reference {target : DataReference} {type : QueryType}
    (free : substitute? under e = none) (role : plan.role e = .reference target type)
    (before : Option String) :
    plan.collected under e before =
      ((Binding.reference target).owner? plan.model <|> before) := by
  rw [collected_eq, free, role]

theorem collected_plain (free : substitute? under e = none) (role : plan.role e = .plain)
    (before : Option String) :
    plan.collected under e before = if e.isLambda then before else
      (plan.ownerOf? e <|>
        e.children.foldl (fun before e => plan.collected under e before) before) := by
  rw [collected_eq, free, role]

/-- Which collection rows come from depends on the model and on the roles of nodes only. -/
theorem collected_congr {other : Plan} (model : other.model = plan.model)
    (roles : ∀ e, other.role e = plan.role e) (e : Expr) (before : Option String) :
    other.collected under e before = plan.collected under e before := by
  have owners (e : Expr) : other.ownerOf? e = plan.ownerOf? e := by simp only [ownerOf?, model]
  induction e using Expr.ofChildren generalizing before with
  | step e ih =>
    have folded :
        e.children.foldl (fun before e => other.collected under e before) before =
          e.children.foldl (fun before e => plan.collected under e before) before :=
      List.foldl_ext _ _ _ fun before child member => ih child member before
    rw [collected_eq, collected_eq, roles, folded]
    simp only [owners, model]

theorem collected_onto (store : Store) (e : Expr) (before : Option String) :
    (plan.onto store).collected under e before = plan.collected under e before := by
  have model : (plan.onto store).model = plan.model := rfl
  exact collected_congr model (fun _ => rfl) e before

/-- Without its identities a node that is no reference has the same role. -/
theorem role_erased (plain : ∀ target type, plan.role e ≠ .reference target type) :
    plan.role e.erased = plan.role e := by
  cases e with
  | source stamp qualifier name args =>
    simp only [Expr.erased, Plan.role] at plain ⊢
    split at plain
    · exact (plain _ _ rfl).elim
    · rfl
  | member stamp target name =>
    cases target <;> rfl
  | _ => rfl

/-- A tree without references is resolved on its own: it does not matter how references are, nor
what stands for nodes that are. -/
theorem resolving_unreached (unreached : plan.reached e = [])
    (references : ∀ entry ∈ under, ∃ target type, plan.role entry.1 = .reference target type)
    (other : DataReference → QueryType → Option Expr) :
    plan.resolving leaf under e = plan.resolving other [] e.erased := by
  induction e using Expr.ofChildren with
  | step e ih =>
    have plain (target : DataReference) (type : QueryType) :
        plan.role e ≠ .reference target type := by
      intro role
      rw [reached_reference role] at unreached
      contradiction
    have free : substitute? under e = none := by
      simp only [substitute?, Option.map_eq_none_iff, List.find?_eq_none, decide_eq_true_eq]
      rintro entry member rfl
      obtain ⟨target, type, role⟩ := references entry member
      exact plain target type role
    have alike := role_erased plain
    cases role : plan.role e with
    | reference target type => exact (plain target type role).elim
    | broken =>
      rw [resolving_broken free role, resolving_broken rfl (alike.trans role)]
    | plain =>
      rw [reached_plain role, List.flatMap_eq_nil_iff] at unreached
      rw [resolving_plain free role, resolving_plain rfl (alike.trans role), Expr.children_erased,
        List.mapM_map]
      have visited : e.children.mapM (plan.resolving leaf under) =
          e.children.mapM (plan.resolving other [] ∘ Expr.erased) :=
        mapM_congr fun child member => ih child member (unreached child member)
      rw [visited]
      congr 1
      funext given
      simp [Expr.overChildren]

/-- What becomes of a reference selects no page of it. -/
theorem isPaging_sourced {target : DataReference} {type : QueryType} {tree : Expr}
    (sourced : plan.sourced? target type = some tree) : tree.isPaging = false := by
  have wrapped (rules : List RowRule) {current : Expr} (plain : current.isPaging = false)
      (wrapped : plan.wrapped? target type rules current = some tree) : tree.isPaging = false := by
    induction rules generalizing current with
    | nil =>
      cases wrapped
      exact plain
    | cons rule rest ih =>
      unfold wrapped? at wrapped
      split at wrapped
      · contradiction
      · exact ih plain wrapped
      · split at wrapped
        · contradiction
        · exact ih rfl wrapped
  obtain ⟨fragment, stored, sourced⟩ := Option.bind_eq_some_iff.mp sourced
  cases fragment?_eq stored
  exact wrapped _ rfl sourced

/-- Without its pages a tree becomes what it becomes with them, without its pages. -/
theorem resolve?_stripPaging {tree : Expr} (resolved : plan.resolve? [] e = some tree) :
    plan.resolve? [] e.stripPaging = some tree.stripPaging := by
  induction e using Expr.ofChildren generalizing tree with
  | step e ih =>
    cases role : plan.role e with
    | broken =>
      rw [resolve?_broken rfl role] at resolved
      contradiction
    | reference target type =>
      have plain : e.isPaging = false := by
        cases e with
        | call => rw [role_call] at role; contradiction
        | _ => rfl
      rw [Expr.stripPaging_of_not_paging plain, resolved]
      rw [resolve?_reference rfl role] at resolved
      rw [Expr.stripPaging_of_not_paging (isPaging_sourced resolved)]
    | plain =>
      cases paging : e.isPaging with
      | false =>
        rw [Expr.stripPaging_of_not_paging paging, resolved]
        rw [resolve?_plain rfl role, Option.map_eq_some_iff] at resolved
        obtain ⟨given, -, rfl⟩ := resolved
        have still : (e.overChildren given).isPaging = false := by
          cases e <;> first | rfl | exact paging
        rw [Expr.stripPaging_of_not_paging still]
      | true =>
        cases e with
        | call stamp method args =>
          rw [resolve?, resolving_call, Option.map_eq_some_iff] at resolved
          obtain ⟨trees, each, rfl⟩ := resolved
          cases args with
          | nil =>
            cases each
            exact resolving_call stamp method []
          | cons inner rest =>
            obtain _ | ⟨leading, others⟩ := mapM_eq_some_iff.mp each
            rw [Expr.stripPaging_call paging, Expr.stripPaging_call paging]
            exact ih inner (by simp [Expr.children]) leading
        | _ => contradiction

end Plan

end QueryRewriting.Rewriting
