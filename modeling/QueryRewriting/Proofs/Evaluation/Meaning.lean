import QueryRewriting.Evaluation.Eval
import QueryRewriting.Proofs.Expr.Erasure

/-! The values of trees without the reasons for having none. Each kind of node has one equation, so
that nothing later opens the evaluator, and a value does not depend on identities. -/
namespace QueryRewriting.Evaluation

open Json

variable {α β : Type} {ε : Type}

@[simp] theorem toOption_bind (result : Except ε α) (next : α → Except ε β) :
    (result >>= next).toOption = result.toOption.bind fun value => (next value).toOption := by
  cases result <;> rfl

@[simp] theorem toOption_pure (value : α) : (pure value : Except ε α).toOption = some value := rfl

@[simp] theorem toOption_error (error : ε) : (.error error : Except ε α).toOption = none := rfl

@[simp] theorem toOption_map (result : Except ε α) (change : α → β) :
    (change <$> result).toOption = result.toOption.map change := by
  cases result <;> rfl

@[simp] theorem toOption_mapM (items : List α) (step : α → Except ε β) :
    (items.mapM step).toOption = items.mapM fun item => (step item).toOption := by
  induction items with
  | nil => rfl
  | cons item rest ih =>
    simp only [List.mapM_cons, toOption_bind, toOption_pure, ih]
    rfl

theorem eq_ok_of_toOption {result : Except ε α} {value : α} (found : result.toOption = some value) :
    result = .ok value := by
  cases result <;> simp_all [Except.toOption]

@[simp] theorem isTrue_bool (truth : Bool) : isTrue (.bool truth) = truth := by cases truth <;> rfl

/-- The value of a tree, if it has one. -/
def value? (store : Store) (e : Expr) (scope : Scope) : Option Value :=
  (eval store e scope).toOption

/-- The value of a lambda for an item, if it has one. -/
def image? (store : Store) (e : Expr) (item : Value) (scope : Scope) : Option Value :=
  (apply store e item scope).toOption

/-- The items of a sequence. -/
def items? : Value → Option (List Value)
  | .array items => some items
  | _ => none

/-- Whether a value is that of a row. -/
def isObject : Value → Bool
  | .object _ => true
  | _ => false

/-- What an operator makes of items, given the value of its argument and those of its lambda for the
items. Only what the operator asks for has to be there. -/
def operate? (method : Method) (items : List Value) (argument : Option Value)
    (images : Option (List Value)) : Option Value :=
  match method with
  | .count => some (countOf items)
  | .first => some (items.headD .null)
  | .any => some (.bool (!items.isEmpty))
  | .skip => (argument.bind fun value => (pageCount .skip value).toOption).map fun count =>
      .array (items.drop count)
  | .take => (argument.bind fun value => (pageCount .take value).toOption).map fun count =>
      .array (items.take count)
  | .filter => images.map fun verdicts => .array (kept items verdicts)
  | .select => images.map .array
  | .orderBy => images.map fun keys => .array (sortedBy compareValues items keys)
  | .orderByDescending => images.map fun keys =>
      .array (sortedBy (fun a b => (compareValues a b).swap) items keys)

/-- What a binary operation comes to. The right side does not matter where the left one decides. -/
def combine? (op : BinaryOp) (left : Value) (right : Option Value) : Option Value :=
  match op with
  | .and => if isTrue left then right.map fun value => .bool (isTrue value) else some (.bool false)
  | .or => if isTrue left then some (.bool true) else right.map fun value => .bool (isTrue value)
  | op => right.map fun value => .bool (compareBy op left value)

variable (store : Store) (stamp : Stamp) (scope : Scope)

theorem value?_value (content : Value) : value? store (.value stamp content) scope = some content :=
  rfl

theorem value?_parameter (name : String) :
    value? store (.parameter stamp name) scope = scope.lookup name := by
  unfold value? eval
  cases scope.lookup name <;> rfl

theorem value?_queryable (proxy : ProxyId) (element : QueryType) (expression : Expr) :
    value? store (.queryable stamp proxy element expression) scope =
      value? store expression scope := rfl

theorem value?_member (target : Expr) (name : String) :
    value? store (.member stamp target name) scope =
      (value? store target scope).bind fun value => (memberOf name value).toOption :=
  toOption_bind (eval store target scope) (memberOf name)

theorem value?_source (qualifier : Option String) (name : String) (args : List Expr) :
    value? store (.source stamp qualifier name args) scope = none := rfl

theorem value?_native (proxy : ProxyId) (name : String) :
    value? store (.native stamp proxy name) scope =
      (nativeRows store stamp.type proxy name).toOption := rfl

theorem value?_lambda (param : String) (body : Expr) :
    value? store (.lambda stamp param body) scope = none := rfl

theorem value?_binary (op : BinaryOp) (left right : Expr) :
    value? store (.binary stamp op left right) scope =
      (value? store left scope).bind fun first => combine? op first (value? store right scope) := by
  unfold value?
  rw [eval, toOption_bind]
  congr 1
  funext first
  cases op with
  | and | or =>
    unfold combine?
    dsimp only
    split <;> simp
  | _ => simp [combine?]

/-- What a comparison of trees with values comes to. -/
theorem eval_compared {store : Store} {scope : Scope} {op : BinaryOp} {left right : Expr}
    {a b : Value} (proper : op ≠ .and ∧ op ≠ .or) (first : eval store left scope = .ok a)
    (second : eval store right scope = .ok b) (stamp : Stamp) :
    eval store (.binary stamp op left right) scope = .ok (.bool (compareBy op a b)) := by
  apply eq_ok_of_toOption
  have left : value? store left scope = some a := congrArg Except.toOption first
  have right : value? store right scope = some b := congrArg Except.toOption second
  refine (value?_binary ..).trans ?_
  rw [left, right]
  cases op with
  | and | or => simp at proper
  | _ => rfl

theorem value?_not (operand : Expr) :
    value? store (.not stamp operand) scope =
      (value? store operand scope).map fun value => .bool !isTrue value := by
  rw [Option.map_eq_bind]
  exact toOption_bind (eval store operand scope) _

theorem value?_call_nil (method : Method) : value? store (.call stamp method []) scope = none := rfl

theorem value?_call (method : Method) (source : Expr) (rest : List Expr) :
    value? store (.call stamp method (source :: rest)) scope =
      ((value? store source scope).bind items?).bind fun items =>
        operate? method items (rest.head?.bind fun e => value? store e scope)
          (rest.head?.bind fun e => items.mapM fun item => image? store e item scope) := by
  unfold value?
  rw [eval, toOption_bind, Option.bind_assoc]
  congr 1
  funext value
  cases value with
  | array items =>
    simp only [items?, Option.bind_some]
    cases rest with
    | nil => cases method <;> simp [operate?, argument, applied]
    | cons first rest =>
      cases method with
      | skip | take =>
        simp only [operate?, argument, bind_pure_comp, toOption_bind, toOption_map, List.head?_cons,
          Option.bind_some, Option.map_bind]
        rfl
      | _ => simp [operate?, applied, image?]
  | _ => rfl

theorem image?_lambda (param : String) (body : Expr) (item : Value) :
    image? store (.lambda stamp param body) item scope =
      value? store body ((param, item) :: scope) := rfl

/-- What is no lambda cannot be applied. -/
theorem image?_of_not_lambda {e : Expr} (proper : e.isLambda = false) (item : Value) :
    image? store e item scope = none := by
  cases e with
  | lambda => contradiction
  | _ => rfl

/-- A fragment of the store itself. -/
theorem value?_own (name : String) :
    value? store (.native stamp store.proxy name) scope =
      (store.rows? name).map fun rows =>
        if stamp.type.isCollection then .array rows else rows.headD .null := by
  rw [value?_native]
  unfold nativeRows
  rw [if_neg (by simp)]
  cases store.rows? name <;> rfl

/-- The items that are kept are those with a true verdict. -/
theorem kept_eq_filter {verdict : Value → Option Value} {items verdicts : List Value}
    (known : items.mapM verdict = some verdicts) :
    kept items verdicts = items.filter fun item => (verdict item).any isTrue := by
  induction items generalizing verdicts with
  | nil =>
    cases known
    rfl
  | cons item rest ih =>
    simp only [List.mapM_cons, Option.bind_eq_bind, Option.bind_eq_some_iff, Option.pure_def,
      Option.some.injEq] at known
    obtain ⟨first, found, others, known, rfl⟩ := known
    have others := ih known
    unfold kept at others ⊢
    simp only [List.zip_cons_cons, List.filter_cons, found, Option.any_some]
    split <;> simp [others]

theorem kept_map (verdict : Value → Value) (items : List Value) :
    kept items (items.map verdict) = items.filter fun item => isTrue (verdict item) := by
  have known : items.mapM (fun item => some (verdict item)) = some (items.map verdict) :=
    List.mapM_pure ..
  exact kept_eq_filter known

mutual

/-- A value does not depend on identities. -/
theorem value?_erased (store : Store) : (e : Expr) → (scope : Scope) →
    value? store e.erased scope = value? store e scope
  | .value .., scope | .parameter .., scope | .native .., scope | .source .., scope => by
    simp only [Expr.erased, Stamp.anonymous, value?_value, value?_parameter, value?_native,
      value?_source]
  | .queryable _ _ _ expression, scope => by
    simp only [Expr.erased, value?_queryable, value?_erased store expression]
  | .member _ target _, scope => by
    simp only [Expr.erased, value?_member, value?_erased store target]
  | .call _ _ [], scope => by simp only [Expr.erased, Expr.erasedAll, value?_call_nil]
  | .call _ _ [source], scope => by
    simp only [Expr.erased, Expr.erasedAll, value?_call, value?_erased store source, List.head?_nil]
  | .call _ _ (source :: first :: more), scope => by
    simp only [Expr.erased, Expr.erasedAll, value?_call, value?_erased store source,
      List.head?_cons, Option.bind_some, value?_erased store first, image?_erased store first]
  | .lambda .., scope => by simp only [Expr.erased, value?_lambda]
  | .binary _ _ left right, scope => by
    simp only [Expr.erased, value?_binary, value?_erased store left, value?_erased store right]
  | .not _ operand, scope => by simp only [Expr.erased, value?_not, value?_erased store operand]

theorem image?_erased (store : Store) : (e : Expr) → (item : Value) → (scope : Scope) →
    image? store e.erased item scope = image? store e item scope
  | .lambda _ _ body, item, scope => by
    simp only [Expr.erased, image?_lambda, value?_erased store body]
  | .value .., item, scope | .parameter .., item, scope | .native .., item, scope
  | .source .., item, scope | .queryable .., item, scope | .member .., item, scope
  | .call .., item, scope | .binary .., item, scope | .not .., item, scope => by
    rw [image?_of_not_lambda _ _ rfl, image?_of_not_lambda _ _ rfl]

end

end QueryRewriting.Evaluation
