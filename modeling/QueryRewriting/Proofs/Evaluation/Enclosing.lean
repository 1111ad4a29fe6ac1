import QueryRewriting.Binding
import QueryRewriting.Proofs.Evaluation.Meaning

/-! Evaluation with the nodes around the one that is evaluated. A lambda among them comes with the
row that it is applied to, and a parameter stands for the row of the innermost lambda over it. This
is the value that the evaluator finds in the scope. -/
namespace QueryRewriting.Evaluation

open Json

/-- A node around the one that is evaluated, and the row that it is applied to if it is a lambda. -/
structure Enclosure where
  node : Expr
  row : Option Value := none

mutual

/-- The value of a tree under the nodes around it, the innermost first. -/
def valueAt (store : Store) : Expr → List Enclosure → Option Value
  | .value _ content, _ => some content
  | .queryable stamp proxy element expression, around =>
    valueAt store expression (⟨.queryable stamp proxy element expression, none⟩ :: around)
  | .parameter _ name, around =>
    (around.find? fun enclosure => Binding.declares name enclosure.node).bind Enclosure.row
  | .member stamp target name, around =>
    (valueAt store target (⟨.member stamp target name, none⟩ :: around)).bind fun value =>
      (memberOf name value).toOption
  | .source .., _ => none
  | .native stamp proxy name, _ => (nativeRows store stamp.type proxy name).toOption
  | .call _ _ [], _ => none
  | .call stamp method (source :: rest), around =>
    let around := ⟨.call stamp method (source :: rest), none⟩ :: around
    ((valueAt store source around).bind items?).bind fun items =>
      operate? method items (argumentAt store rest around) (imagesAt store rest items around)
  | .lambda .., _ => none
  | .binary stamp op left right, around =>
    let around := ⟨.binary stamp op left right, none⟩ :: around
    (valueAt store left around).bind fun first => combine? op first (valueAt store right around)
  | .not stamp operand, around =>
    (valueAt store operand (⟨.not stamp operand, none⟩ :: around)).map fun value =>
      .bool !isTrue value

/-- The value of the argument of an operator. -/
def argumentAt (store : Store) : List Expr → List Enclosure → Option Value
  | [], _ => none
  | e :: _, around => valueAt store e around

/-- The values of the lambda argument of an operator for each of the items. -/
def imagesAt (store : Store) : List Expr → List Value → List Enclosure → Option (List Value)
  | [], _, _ => none
  | e :: _, items, around => items.mapM fun item => imageAt store e item around

/-- The value of a lambda for an item: the value of its body under the lambda with this row. -/
def imageAt (store : Store) : Expr → Value → List Enclosure → Option Value
  | .lambda stamp param body, item, around =>
    valueAt store body (⟨.lambda stamp param body, some item⟩ :: around)
  | _, _, _ => none

end

/-- A parameter stands for the row of the innermost lambda over it. -/
theorem valueAt_parameter {store : Store} {stamp : Stamp} {name : String}
    {inner outer : List Enclosure} {lambda : Enclosure}
    (undeclared : ∀ enclosure ∈ inner, Binding.declares name enclosure.node = false)
    (declared : Binding.declares name lambda.node = true) :
    valueAt store (.parameter stamp name) (inner ++ lambda :: outer) = lambda.row := by
  have found : (inner ++ lambda :: outer).find?
      (fun enclosure => Binding.declares name enclosure.node) = some lambda := by
    rw [List.find?_eq_some_iff_append]
    refine ⟨declared, inner, outer, rfl, ?_⟩
    intro enclosure member
    rw [undeclared enclosure member]
    rfl
  rw [valueAt, found, Option.bind_some]

/-- The parameter and the row of a lambda. -/
def Enclosure.entry? : Enclosure → Option (String × Value)
  | ⟨.lambda _ param _, row⟩ => row.map fun row => (param, row)
  | _ => none

/-- The values of parameters among some nodes. -/
def scopeOf (around : List Enclosure) : Scope := around.filterMap Enclosure.entry?

/-- Every lambda among some nodes has its row. -/
def Applied (around : List Enclosure) : Prop :=
  ∀ enclosure ∈ around, enclosure.node.isLambda = true → enclosure.row.isSome = true

theorem Applied.cons {around : List Enclosure} (applied : Applied around) {e : Expr}
    (proper : e.isLambda = false) : Applied (⟨e, none⟩ :: around) := by
  refine List.forall_mem_cons.mpr ⟨?_, applied⟩
  intro lambda
  rw [proper] at lambda
  contradiction

theorem Applied.lambda {around : List Enclosure} (applied : Applied around) (stamp : Stamp)
    (param : String) (body : Expr) (row : Value) :
    Applied (⟨.lambda stamp param body, some row⟩ :: around) :=
  List.forall_mem_cons.mpr ⟨fun _ => rfl, applied⟩

theorem scopeOf_cons (around : List Enclosure) {e : Expr} (proper : e.isLambda = false) :
    scopeOf (⟨e, none⟩ :: around) = scopeOf around := by
  cases e with
  | lambda => contradiction
  | _ => rfl

/-- The scope has for a parameter the row of the innermost lambda over it. -/
theorem lookup_scopeOf {around : List Enclosure} (applied : Applied around) (name : String) :
    (scopeOf around).lookup name =
      (around.find? fun enclosure => Binding.declares name enclosure.node).bind Enclosure.row := by
  induction around with
  | nil => rfl
  | cons enclosure outer ih =>
    obtain ⟨e, row⟩ := enclosure
    obtain ⟨here, applied⟩ := List.forall_mem_cons.mp applied
    have outside := ih applied
    cases e with
    | lambda stamp param body =>
      obtain ⟨value, rfl⟩ := Option.isSome_iff_exists.mp (here rfl)
      have entered : scopeOf (⟨.lambda stamp param body, some value⟩ :: outer) =
        (param, value) :: scopeOf outer := rfl
      rw [entered, List.lookup_cons, List.find?_cons]
      by_cases same : param = name
      · subst same
        simp [Binding.declares]
      · have other : (name == param) = false := beq_eq_false_iff_ne.mpr (Ne.symm same)
        have undeclared : Binding.declares name (.lambda stamp param body) = false := by
          simpa [Binding.declares] using same
        rw [other, undeclared]
        exact outside
    | _ => exact outside

mutual

/-- The evaluator finds in the scope what the nodes around say. -/
theorem valueAt_eq (store : Store) : (e : Expr) → (around : List Enclosure) → Applied around →
    valueAt store e around = value? store e (scopeOf around)
  | .value .., _, _ | .native .., _, _ | .source .., _, _ | .lambda .., _, _
  | .call _ _ [], _, _ => rfl
  | .parameter stamp name, around, applied => by
    rw [valueAt, value?_parameter, lookup_scopeOf applied]
  | .queryable stamp proxy element expression, around, applied => by
    rw [valueAt, value?_queryable, valueAt_eq store expression _ (applied.cons rfl),
      scopeOf_cons around rfl]
  | .member stamp target name, around, applied => by
    rw [valueAt, value?_member, valueAt_eq store target _ (applied.cons rfl),
      scopeOf_cons around rfl]
  | .call stamp method [source], around, applied => by
    rw [valueAt, value?_call, valueAt_eq store source _ (applied.cons rfl), scopeOf_cons around rfl]
    rfl
  | .call stamp method (source :: first :: more), around, applied => by
    have inside := applied.cons (e := .call stamp method (source :: first :: more)) rfl
    have same : scopeOf (⟨.call stamp method (source :: first :: more), none⟩ :: around) =
      scopeOf around := rfl
    rw [valueAt, value?_call, valueAt_eq store source _ inside, argumentAt,
      valueAt_eq store first _ inside, same]
    simp only [imagesAt, imageAt_eq store first _ _ inside, same, List.head?_cons, Option.bind_some]
  | .binary stamp op left right, around, applied => by
    have applied := applied.cons (e := .binary stamp op left right) rfl
    rw [valueAt, value?_binary, valueAt_eq store left _ applied, valueAt_eq store right _ applied,
      scopeOf_cons around rfl]
  | .not stamp operand, around, applied => by
    rw [valueAt, value?_not, valueAt_eq store operand _ (applied.cons rfl), scopeOf_cons around rfl]

theorem imageAt_eq (store : Store) : (e : Expr) → (item : Value) → (around : List Enclosure) →
    Applied around → imageAt store e item around = image? store e item (scopeOf around)
  | .lambda stamp param body, item, around, applied => by
    rw [imageAt, valueAt_eq store body _ (applied.lambda stamp param body item), image?_lambda]
    rfl
  | .value .., item, around, _ | .parameter .., item, around, _ | .native .., item, around, _
  | .source .., item, around, _ | .queryable .., item, around, _ | .member .., item, around, _
  | .call .., item, around, _ | .binary .., item, around, _ | .not .., item, around, _ => by
    rw [image?_of_not_lambda _ _ rfl, imageAt]
    intro stamp param body same
    contradiction

end

end QueryRewriting.Evaluation
