import QueryRewriting.Proofs.Evaluation.Meaning
import QueryRewriting.Proofs.Expr.StaticType

/-! Static types are honest. Over a store whose rows conform to their entity types, the value of a
typed tree conforms to the type that the tree carries, wherever parameters stand for what conforms
to theirs. -/
namespace QueryRewriting.Evaluation

open Json Schema QueryRewriting.Expr

/-- A value conforms to a type of a model: `null` to each, every value to `any`, and every other one
by its kind. Of an object only the fields that its entity type declares matter. -/
inductive Conforms (model : Model) : QueryType → Value → Prop
  | null {type : QueryType} : Conforms model type .null
  | any {value : Value} : Conforms model .any value
  | bool {truth : Bool} : Conforms model .bool (.bool truth)
  | int {value : Int} {fits : -(UInt64.size / 2) ≤ value ∧ value < UInt64.size} :
    Conforms model .int (.number (.integer value fits))
  | float {number : Number} : Conforms model .float (.number number)
  | string {text : String} : Conforms model .string (.string text)
  | entity {entity : String} {members : List (String × Value)} :
    (∀ member ∈ members, ∀ type, model.propertyType? entity member.1 = some type →
      Conforms model type member.2) → Conforms model (.entity entity) (.object members)
  | sequence {element : QueryType} {items : List Value} :
    (∀ item ∈ items, Conforms model element item) →
      Conforms model (.sequence element) (.array items)
  | queryable {element : QueryType} {items : List Value} :
    (∀ item ∈ items, Conforms model element item) →
      Conforms model (.queryable element) (.array items)

/-- The rows of every stored collection and singleton conform to its entity type. -/
def Store.Honest (store : Store) (model : Model) : Prop :=
  ∀ name element rows, model.resolve? none name = some element → element.isFunction = false →
    store.rows? name = some rows → ∀ row ∈ rows, Conforms model (.entity element.entity) row

/-- Parameters stand for values that conform to their types. -/
def Scope.Honest (model : Model) (types : Parameters) (scope : Scope) : Prop :=
  ∀ name type, types.lookup name = some type → ∀ value, scope.lookup name = some value →
    Conforms model type value

/-- The value of a tree conforms to the type of the tree. What can be applied has values that do so
for the rows it ranges over. -/
structure Honest (model : Model) (store : Store) (types : Parameters) (row : QueryType) (e : Expr) :
    Prop where
  value : ∀ scope, Scope.Honest model types scope → ∀ value, value? store e scope = some value →
    Conforms model e.type value
  image : ∀ scope item, Scope.Honest model types scope → Conforms model row item →
    ∀ value, image? store e item scope = some value → Conforms model e.type value

section Values

variable {model : Model} {type : QueryType} {items : List Value}

/-- A constant conforms to its type. -/
theorem Conforms.constant (content : Value) : Conforms model (Fresh.valueType content) content := by
  cases content with
  | null => exact .null
  | bool truth => exact .bool
  | number number =>
    cases number with
    | integer value fits => exact .int
    | double value => exact .float
  | string text => exact .string
  | array items => exact .any
  | object members => exact .any

/-- The items of what conforms to a type conform to the type of its rows. -/
theorem Conforms.each (conforms : Conforms model type (.array items)) :
    ∀ item ∈ items, Conforms model type.rows item := by
  cases conforms with
  | any => exact fun item _ => .any
  | sequence each => exact each
  | queryable each => exact each

/-- Some of the items, in any order, conform to the type that all of them conform to. -/
theorem Conforms.part {part : List Value} (conforms : Conforms model type (.array items))
    (inside : ∀ item ∈ part, item ∈ items) : Conforms model type (.array part) := by
  cases conforms with
  | any => exact .any
  | sequence each => exact .sequence fun item member => each item (inside item member)
  | queryable each => exact .queryable fun item member => each item (inside item member)

theorem Conforms.head (each : ∀ item ∈ items, Conforms model type item) :
    Conforms model type (items.headD .null) := by
  cases items with
  | nil => exact .null
  | cons first rest => exact each first List.mem_cons_self

/-- What a row has for a property conforms to the type of the property. -/
theorem Conforms.property {entity name : String} {value found : Value}
    (conforms : Conforms model (.entity entity) value)
    (declared : model.propertyType? entity name = some type)
    (read : memberOf name value = .ok found) : Conforms model type found := by
  cases conforms with
  | null =>
    cases read
    exact .null
  | @entity _ members each =>
    cases read
    cases listed : Entries.find? members name with
    | none => exact .null
    | some value => exact each _ (Entries.mem_of_find? listed) type declared

/-- What is among the values of items is the value of one of them. -/
theorem exists_of_mem_mapM {f : Value → Option Value} {values : List Value} {value : Value}
    (known : items.mapM f = some values) (member : value ∈ values) :
    ∃ item ∈ items, f item = some value := by
  induction items generalizing values with
  | nil =>
    cases known
    contradiction
  | cons item rest ih =>
    simp only [List.mapM_cons, Option.bind_eq_bind, Option.bind_eq_some_iff, Option.pure_def,
      Option.some.injEq] at known
    obtain ⟨first, found, others, known, rfl⟩ := known
    rcases List.mem_cons.mp member with rfl | member
    · exact ⟨item, List.mem_cons_self, found⟩
    · obtain ⟨other, inside, found⟩ := ih known member
      exact ⟨other, List.mem_cons_of_mem _ inside, found⟩

theorem mem_of_mem_kept {verdicts : List Value} {item : Value}
    (member : item ∈ kept items verdicts) : item ∈ items := by
  unfold kept at member
  obtain ⟨entry, passed, rfl⟩ := List.mem_map.mp member
  exact (List.of_mem_zip (List.mem_of_mem_filter passed)).1

theorem mem_of_mem_sortedBy {compare : Value → Value → Ordering} {keys : List Value} {item : Value}
    (member : item ∈ sortedBy compare items keys) : item ∈ items := by
  unfold sortedBy at member
  obtain ⟨entry, sorted, rfl⟩ := List.mem_map.mp member
  exact (List.of_mem_zip (List.mem_mergeSort.mp sorted)).1

/-- What an operator makes of conforming items conforms to its type, if the values of its lambda
conform to the type of the lambda. -/
theorem Conforms.operate {method : Method} {argument : Option Value} {images : Option (List Value)}
    {value : Value} (types : List QueryType) (conforms : Conforms model type (.array items))
    (projected : ∀ values, images = some values → ∀ value ∈ values,
      Conforms model (types.headD .any) value)
    (operated : operate? method items argument images = some value) :
    Conforms model (method.resultType (type :: types)) value := by
  cases method with
  | count =>
    cases operated
    exact .int
  | first =>
    cases operated
    exact .head conforms.each
  | any =>
    cases operated
    exact .bool
  | skip =>
    obtain ⟨count, -, rfl⟩ := Option.map_eq_some_iff.mp operated
    exact conforms.part fun item => List.mem_of_mem_drop
  | take =>
    obtain ⟨count, -, rfl⟩ := Option.map_eq_some_iff.mp operated
    exact conforms.part fun item => List.mem_of_mem_take
  | filter =>
    obtain ⟨verdicts, -, rfl⟩ := Option.map_eq_some_iff.mp operated
    exact conforms.part fun item => mem_of_mem_kept
  | orderBy | orderByDescending =>
    obtain ⟨keys, -, rfl⟩ := Option.map_eq_some_iff.mp operated
    exact conforms.part fun item => mem_of_mem_sortedBy
  | select =>
    obtain ⟨values, applied, rfl⟩ := Option.map_eq_some_iff.mp operated
    have each := projected values applied
    rw [List.headD_eq_head?_getD] at each
    cases type <;> simp only [Method.resultType, List.head?_cons, Option.getD_some,
      List.getElem?_cons_succ, ← List.head?_eq_getElem?]
    case sequence => exact .sequence each
    all_goals exact .queryable each

theorem Conforms.combined {op : BinaryOp} {left value : Value} {right : Option Value}
    (combined : combine? op left right = some value) : Conforms model .bool value := by
  unfold combine? at combined
  split at combined
  · split at combined
    · obtain ⟨_, -, rfl⟩ := Option.map_eq_some_iff.mp combined
      exact .bool
    · cases combined
      exact .bool
  · split at combined
    · cases combined
      exact .bool
    · obtain ⟨_, -, rfl⟩ := Option.map_eq_some_iff.mp combined
      exact .bool
  · obtain ⟨_, -, rfl⟩ := Option.map_eq_some_iff.mp combined
    exact .bool

end Values

section Trees

variable {model : Model} {store : Store} {types : Parameters} {row : QueryType} {e : Expr}

theorem Scope.Honest.nil : Scope.Honest model [] [] := by
  intro name type declared
  contradiction

theorem Scope.Honest.cons {scope : Scope} (honest : Scope.Honest model types scope)
    (param : String) {item : Value} (conforms : Conforms model row item) :
    Scope.Honest model ((param, row) :: types) ((param, item) :: scope) := by
  intro name type declared value bound
  rw [List.lookup_cons] at declared bound
  cases same : name == param with
  | true =>
    rw [same] at declared bound
    cases declared
    cases bound
    exact conforms
  | false =>
    rw [same] at declared bound
    exact honest name type declared value bound

/-- What is no lambda is honest if its values are. -/
theorem Honest.of_value (plain : e.isLambda = false)
    (value : ∀ scope, Scope.Honest model types scope → ∀ value,
      value? store e scope = some value → Conforms model e.type value) :
    Honest model store types row e where
  value
  image scope item _ _ value found := by
    rw [image?_of_not_lambda store scope plain] at found
    contradiction

theorem conforms_native {proxy : ProxyId} {name : String} {element : Element} {stamp : Stamp}
    (stored : store.Honest model) (resolved : model.resolve? none name = some element)
    (proper : element.isFunction = false) (typed : stamp.type = element.logicalType) {value : Value}
    (read : nativeRows store stamp.type proxy name = .ok value) :
    Conforms model stamp.type value := by
  unfold nativeRows at read
  split at read
  · contradiction
  · split at read
    · contradiction
    · next rows found =>
      have each := stored name element rows resolved proper found
      rw [typed] at read ⊢
      unfold Element.logicalType at read ⊢
      cases many : element.isMany with
      | true =>
        rw [many] at read
        cases read
        exact .queryable each
      | false =>
        rw [many] at read
        cases read
        exact .head each

/-- A property of what is honest is honest. -/
theorem Honest.member {stamp : Stamp} {target : Expr} {name entity : String} {other : QueryType}
    (honest : Honest model store types other target)
    (owner : target.type.entityName? = some entity)
    (declared : model.propertyType? entity name = some stamp.type) :
    Honest model store types row (.member stamp target name) := by
  refine .of_value rfl fun scope bound value found => ?_
  rw [value?_member, Option.bind_eq_some_iff] at found
  obtain ⟨whole, known, read⟩ := found
  have conforms := honest.value scope bound whole known
  rw [QueryType.eq_entity owner] at conforms
  exact conforms.property declared (eq_ok_of_toOption read)

/-- An operator call is honest if its source is, and its arguments are for the rows of the source. -/
theorem Honest.call {stamp : Stamp} {method : Method} {source : Expr} {rest : List Expr}
    {other : QueryType} (honest : Honest model store types other source)
    (others : ∀ e ∈ rest, Honest model store types source.type.rows e)
    (result : stamp.type = method.resultType ((source :: rest).map Expr.type)) :
    Honest model store types row (.call stamp method (source :: rest)) := by
  refine .of_value rfl fun scope bound value found => ?_
  rw [value?_call, Option.bind_eq_some_iff] at found
  obtain ⟨items, known, operated⟩ := found
  obtain ⟨whole, known, listed⟩ := Option.bind_eq_some_iff.mp known
  have conforms := honest.value scope bound whole known
  cases whole with
  | array whole =>
    cases listed
    change Conforms model stamp.type value
    rw [result, List.map_cons]
    refine conforms.operate (rest.map Expr.type) ?_ operated
    intro values applied value member
    obtain ⟨lambda, first, images⟩ := Option.bind_eq_some_iff.mp applied
    obtain ⟨item, inside, image⟩ := exists_of_mem_mapM images member
    have typed : (rest.map Expr.type).headD .any = lambda.type := by
      rw [List.headD_eq_head?_getD, List.head?_map, first]
      rfl
    rw [typed]
    exact (others lambda (List.mem_of_head? first)).image scope item bound
      (conforms.each item inside) value image
  | _ => contradiction

/-- A lambda is honest for rows if its body is wherever the parameter stands for one of them. -/
theorem Honest.lambda {stamp : Stamp} {param : String} {body : Expr} {other : QueryType}
    (honest : Honest model store ((param, row) :: types) other body)
    (known : stamp.type = body.type) :
    Honest model store types row (.lambda stamp param body) where
  value scope _ value found := by
    rw [value?_lambda] at found
    contradiction
  image scope item bound conforms value found := by
    rw [image?_lambda] at found
    change Conforms model stamp.type value
    rw [known]
    exact honest.value _ (bound.cons param conforms) value found

/-- Typed trees over a store of conforming rows are honest, by induction on how they are typed. -/
theorem honest_of_typed (stored : store.Honest model) (typed : Typed model types row e) :
    Honest model store types row e := by
  induction typed with
  | @value _ _ stamp content known =>
    refine .of_value rfl fun scope _ value found => ?_
    rw [value?_value] at found
    cases found
    change Conforms model stamp.type content
    rw [known]
    exact .constant content
  | parameter declared =>
    refine .of_value rfl fun scope bound value found => ?_
    rw [value?_parameter] at found
    exact bound _ _ declared value found
  | member _ owner declared ih => exact ih.member owner declared
  | source =>
    refine .of_value rfl fun scope _ value found => ?_
    rw [value?_source] at found
    contradiction
  | native resolved proper known =>
    refine .of_value rfl fun scope _ value found => ?_
    rw [value?_native] at found
    exact conforms_native stored resolved proper known (eq_ok_of_toOption found)
  | call _ _ result ih others => exact ih.call others result
  | lambda _ known ih => exact ih.lambda known
  | @binary _ _ stamp op left right _ _ truth =>
    refine .of_value rfl fun scope _ value found => ?_
    rw [value?_binary, Option.bind_eq_some_iff] at found
    obtain ⟨first, -, combined⟩ := found
    change Conforms model stamp.type value
    rw [truth]
    exact .combined combined
  | @not _ _ stamp operand _ truth =>
    refine .of_value rfl fun scope _ value found => ?_
    rw [value?_not] at found
    obtain ⟨operand, -, rfl⟩ := Option.map_eq_some_iff.mp found
    change Conforms model stamp.type _
    rw [truth]
    exact .bool

end Trees

end QueryRewriting.Evaluation
