import QueryRewriting.Proofs.Expr.Children
import QueryRewriting.Proofs.Outcome
import QueryRewriting.QuerySpec

/-! Which descriptions have a query over a model, and the types of what is built. Every stage of
building fails exactly where one of its fields is not declared, and every access to a row that it
adds has the type of the property. -/
namespace QueryRewriting

open Json Schema

/-- The type of a collection over other elements. -/
def QueryType.withElement : QueryType → QueryType → QueryType
  | .sequence _, element => .sequence element
  | .queryable _, element => .queryable element
  | type, _ => type

/-- An entity type of a model has a field. -/
def Schema.Model.Declares (model : Model) (entity name : String) : Prop :=
  ∃ type definition, Entries.find? model.entityTypes entity = some type ∧
    type.field? name = some definition

theorem Schema.Model.Declares.of_propertyType? {model : Model} {entity name : String}
    {type : QueryType} (found : model.propertyType? entity name = some type) :
    model.Declares entity name := by
  unfold Model.propertyType? at found
  simp only [Option.bind_eq_bind, Option.bind_eq_some_iff] at found
  obtain ⟨declared, known, definition, field, -⟩ := found
  exact ⟨declared, definition, known, field⟩

theorem Schema.Model.not_declares {model : Model} {entity name : String}
    (missing : model.propertyType? entity name = none) : ¬model.Declares entity name := by
  rintro ⟨declared, definition, known, field⟩
  unfold Model.propertyType? at missing
  rw [known, Option.bind_eq_bind, Option.bind_some, field] at missing
  contradiction

namespace Expr

/-- Whether a node is an access to a member. -/
def isMember : Expr → Bool
  | .member .. => true
  | _ => false

/-- Every access to a member in a tree is one of those allowed. -/
def Accesses (allowed : Stamp → Expr → String → Prop) (e : Expr) : Prop :=
  ∀ stamp target name, .member stamp target name ∈ e.nodes → allowed stamp target name

variable {allowed : Stamp → Expr → String → Prop}

theorem Accesses.member {stamp : Stamp} {target : Expr} {name : String}
    (own : allowed stamp target name) (inside : target.Accesses allowed) :
    (Expr.member stamp target name).Accesses allowed := by
  intro stamp' target' name' listed
  rw [nodes_eq, List.mem_cons, children, List.flatMap_singleton] at listed
  rcases listed with same | listed
  · cases same
    exact own
  · exact inside stamp' target' name' listed

theorem Accesses.node {e : Expr} (plain : e.isMember = false)
    (below : ∀ child ∈ e.children, child.Accesses allowed) : e.Accesses allowed := by
  intro stamp target name listed
  rw [nodes_eq, List.mem_cons, List.mem_flatMap] at listed
  rcases listed with rfl | ⟨child, member, inside⟩
  · contradiction
  · exact below child member stamp target name inside

theorem Accesses.leaf {e : Expr} (plain : e.isMember = false) (bare : e.children = []) :
    e.Accesses allowed := by
  refine node plain ?_
  rw [bare]
  exact List.forall_mem_nil _

theorem Accesses.single {e child : Expr} (inside : child.Accesses allowed)
    (plain : e.isMember = false) (only : e.children = [child]) : e.Accesses allowed := by
  refine node plain ?_
  rw [only]
  exact List.forall_mem_singleton.mpr inside

theorem Accesses.pair {e left right : Expr} (first : left.Accesses allowed)
    (second : right.Accesses allowed) (plain : e.isMember = false)
    (both : e.children = [left, right]) : e.Accesses allowed := by
  refine node plain ?_
  rw [both]
  exact List.forall_mem_cons.mpr ⟨first, List.forall_mem_singleton.mpr second⟩

end Expr

namespace QuerySpec

/-- The fields of a row that a description names. -/
def fields (spec : QuerySpec) : List String :=
  spec.filter.map Predicate.field ++ spec.order.map OrderKey.field ++ spec.select.toList

/-- What a description has to be in order to have a query over a model, where its source is the
given element. -/
structure WellFormed (spec : QuerySpec) (model : Model) (element : Element) : Prop where
  single : ¬(spec.count ∧ spec.first) ∧ ¬(spec.count ∧ spec.any) ∧ ¬(spec.first ∧ spec.any)
  resolved : model.resolve? spec.qualifier spec.source = some element
  collection : (spec.filter ≠ [] ∨ spec.order ≠ [] ∨ spec.select.isSome ∨ spec.skip.isSome ∨
    spec.take.isSome ∨ spec.count ∨ spec.first ∨ spec.any) → element.logicalType.isCollection
  declared : ∀ name ∈ spec.fields, model.Declares element.entity name

/-- The type of the rows that a description asks for, one property of them if it is selected. -/
def rowsType (spec : QuerySpec) (model : Model) (element : Element) : QueryType :=
  match spec.select.bind (model.propertyType? element.entity) with
  | none => element.logicalType
  | some property => element.logicalType.withElement property

/-- The type of the query of a description. -/
structure HasType (spec : QuerySpec) (model : Model) (element : Element) (type : QueryType) :
    Prop where
  count : spec.count = true → type = .int
  any : spec.any = true → type = .bool
  first : spec.first = true → (spec.rowsType model element).element? = some type
  rows : spec.count = false → spec.any = false → spec.first = false →
    type = spec.rowsType model element

/-- The accesses to members in the query of a description: to a property of a row, with the type
that the model gives it, and to the source as a member of the root. -/
inductive Accessed (spec : QuerySpec) (model : Model) (element : Element)
    (apiRoot : Option String) : Stamp → Expr → String → Prop where
  | row {stamp row : Stamp} {name : String} (entity : row.type = .entity element.entity)
      (property : model.propertyType? element.entity name = some stamp.type) :
      Accessed spec model element apiRoot stamp (.parameter row Access.rowParameter) name
  | root {stamp parameter : Stamp} {root : String} (addressed : apiRoot = some root)
      (untyped : parameter.type = .any) (type : stamp.type = element.logicalType) :
      Accessed spec model element apiRoot stamp (.parameter parameter root) spec.source

section Stages

variable {allowed : Stamp → Expr → String → Prop} {model : Model} {entity : String}
  {supply : NodeSupply}
  (rows : ∀ stamp row name, row.type = .entity entity →
    model.propertyType? entity name = some stamp.type →
    allowed stamp (.parameter row Access.rowParameter) name)

include rows

theorem field_accepts (name : String) :
    Ends (field model entity name)
      (fun access _ => model.propertyType? entity name = some access.type ∧ access.Accesses allowed)
      (fun _ _ => ¬model.Declares entity name) supply := by
  have entered : (Fresh.parameter Access.rowParameter (.entity entity)).run supply =
      (.parameter ⟨supply.next, .entity entity⟩ Access.rowParameter, ⟨supply.next + 1⟩) := rfl
  unfold field
  rw [ends_bind, ends_liftM, entered]
  unfold Model.propertyExpr
  simp only [Expr.type, Expr.stamp, QueryType.entityName?]
  cases found : model.propertyType? entity name with
  | none => exact Model.not_declares found
  | some type => exact ⟨rfl, .member (rows _ _ _ rfl found) (.leaf rfl rfl)⟩

theorem test_accepts (predicate : Predicate) :
    Ends (test model entity predicate)
      (fun test _ => model.Declares entity predicate.field ∧ test.Accesses allowed)
      (fun _ _ => ¬model.Declares entity predicate.field) supply := by
  unfold test
  rw [ends_bind]
  refine (field_accepts rows predicate.field).weaken ?_
  rintro access middle ⟨found, accesses⟩
  rw [ends_bind, ends_liftM, ends_liftM]
  exact ⟨.of_propertyType? found, accesses.pair (.leaf rfl rfl) rfl rfl⟩

/-- Further predicates are conjoined to a test. -/
theorem conjunction_accepts (predicates : List Predicate) {body : Expr}
    (accesses : body.Accesses allowed) :
    Ends (conjunction model entity body predicates)
      (fun body _ => (∀ predicate ∈ predicates, model.Declares entity predicate.field) ∧
        body.Accesses allowed)
      (fun _ _ => ¬∀ predicate ∈ predicates, model.Declares entity predicate.field) supply := by
  induction predicates generalizing body supply with
  | nil => exact ⟨List.forall_mem_nil _, accesses⟩
  | cons predicate rest ih =>
    simp only [List.forall_mem_cons]
    unfold conjunction
    rw [ends_bind]
    refine (test_accepts rows predicate).mono ?_ fun _ _ missing declared => missing declared.1
    rintro test middle ⟨declared, tests⟩
    rw [ends_bind, ends_liftM]
    refine (ih (accesses.pair tests rfl rfl)).mono ?_ fun _ _ missing declared =>
      missing declared.2
    rintro body after ⟨others, accesses⟩
    exact ⟨⟨declared, others⟩, accesses⟩

theorem selector_accepts (name : String) :
    Ends (selector model entity name)
      (fun lambda _ => model.propertyType? entity name = some lambda.type ∧ lambda.Accesses allowed)
      (fun _ _ => ¬model.Declares entity name) supply := by
  unfold selector
  rw [ends_bind]
  refine (field_accepts rows name).weaken ?_
  rintro access after ⟨found, accesses⟩
  rw [ends_liftM]
  exact ⟨found, accesses.single rfl rfl⟩

variable {query : Expr} (accesses : query.Accesses allowed)

include accesses

theorem filtered_accepts (predicates : List Predicate) :
    Ends (filtered model entity query predicates)
      (fun tree _ => (∀ predicate ∈ predicates, model.Declares entity predicate.field) ∧
        tree.type = query.type ∧ tree.Accesses allowed)
      (fun _ _ => ¬∀ predicate ∈ predicates, model.Declares entity predicate.field) supply := by
  cases predicates with
  | nil => exact ⟨List.forall_mem_nil _, rfl, accesses⟩
  | cons predicate rest =>
    simp only [List.forall_mem_cons]
    unfold filtered
    rw [ends_bind]
    refine (test_accepts rows predicate).mono ?_ fun _ _ missing declared => missing declared.1
    rintro test middle ⟨declared, tests⟩
    rw [ends_bind]
    refine (conjunction_accepts rows rest tests).mono ?_ fun _ _ missing declared =>
      missing declared.2
    rintro body after ⟨others, bodies⟩
    rw [ends_bind, ends_liftM, ends_liftM]
    exact ⟨⟨declared, others⟩, rfl, accesses.pair (bodies.single rfl rfl) rfl rfl⟩

/-- Sorting by some keys, one after the other. -/
theorem sorted_accepts (keys : List OrderKey) :
    Ends (keys.foldlM (fun query key => do
        let lambda ← selector model entity key.field
        liftM (Fresh.call (if key.descending then .orderByDescending else .orderBy)
          [query, lambda]))
        query)
      (fun tree _ => (∀ key ∈ keys, model.Declares entity key.field) ∧ tree.type = query.type ∧
        tree.Accesses allowed)
      (fun _ _ => ¬∀ key ∈ keys, model.Declares entity key.field) supply := by
  induction keys generalizing query supply with
  | nil => exact ⟨List.forall_mem_nil _, rfl, accesses⟩
  | cons key rest ih =>
    simp only [List.forall_mem_cons]
    rw [List.foldlM_cons, ends_bind, ends_bind]
    refine (selector_accepts rows key.field).mono ?_ fun _ _ missing declared => missing declared.1
    rintro lambda middle ⟨found, keyed⟩
    rw [ends_liftM]
    refine (ih (accesses.pair keyed rfl rfl)).mono ?_ fun _ _ missing declared =>
      missing declared.2
    rintro tree after ⟨others, type, accesses⟩
    refine ⟨⟨.of_propertyType? found, others⟩, type.trans ?_, accesses⟩
    cases key.descending <;> rfl

theorem ordered_accepts (keys : List OrderKey) :
    Ends (ordered model entity query keys)
      (fun tree _ => (∀ key ∈ keys, model.Declares entity key.field) ∧ tree.type = query.type ∧
        tree.Accesses allowed)
      (fun _ _ => ¬∀ key ∈ keys, model.Declares entity key.field) supply := by
  have listed (key : OrderKey) : key ∈ keys ↔ key ∈ keys.reverse := List.mem_reverse.symm
  simp only [listed]
  exact sorted_accepts rows accesses keys.reverse

theorem projected_accepts (property : Option String)
    (many : property.isSome = true → ∃ element, query.type = .queryable element) :
    Ends (projected model entity query property)
      (fun tree _ => (∀ name ∈ property.toList, model.Declares entity name) ∧
        tree.type = (match property.bind (model.propertyType? entity) with
          | none => query.type
          | some type => query.type.withElement type) ∧ tree.Accesses allowed)
      (fun _ _ => ¬∀ name ∈ property.toList, model.Declares entity name) supply := by
  cases property with
  | none => exact ⟨List.forall_mem_nil _, rfl, accesses⟩
  | some property =>
    simp only [Option.toList_some, List.forall_mem_singleton, Option.bind_some]
    unfold projected
    rw [ends_bind]
    refine (selector_accepts rows property).weaken ?_
    rintro lambda middle ⟨found, projects⟩
    rw [ends_liftM]
    refine ⟨.of_propertyType? found, ?_, accesses.pair projects rfl rfl⟩
    obtain ⟨element, many⟩ := many rfl
    change Method.resultType .select [query.type, lambda.type] = _
    rw [found, many]
    rfl

end Stages

/-- A page operator keeps the type of the rows. -/
theorem paged_accepts {allowed : Stamp → Expr → String → Prop} {supply : NodeSupply}
    {query : Expr} {method : Method} (paging : method.isPaging = true)
    (accesses : query.Accesses allowed) (bound : Option UInt64) :
    Ends (paged method query bound)
      (fun tree _ => tree.type = query.type ∧ tree.Accesses allowed) (fun _ _ => False) supply := by
  cases bound with
  | none => exact ⟨rfl, accesses⟩
  | some bound =>
    unfold paged
    rw [ends_liftM]
    refine ⟨?_, accesses.pair (.leaf rfl rfl) rfl rfl⟩
    cases method with
    | skip | take => rfl
    | _ => contradiction

variable {spec : QuerySpec} {model : Model} {element : Element} {apiRoot : Option String}

theorem single_iff (spec : QuerySpec) : ¬1 < spec.terminals ↔
    ¬(spec.count ∧ spec.first) ∧ ¬(spec.count ∧ spec.any) ∧ ¬(spec.first ∧ spec.any) := by
  unfold terminals
  cases spec.count <;> cases spec.first <;> cases spec.any <;> decide

theorem composes_iff (spec : QuerySpec) : spec.composes = true ↔
    (spec.filter ≠ [] ∨ spec.order ≠ [] ∨ spec.select.isSome ∨ spec.skip.isSome ∨
      spec.take.isSome ∨ spec.count ∨ spec.first ∨ spec.any) := by
  simp [composes, or_assoc]

theorem isCollection_logicalType (element : Element) :
    element.logicalType.isCollection = element.isMany := by
  unfold Element.logicalType
  cases element.isMany <;> rfl

/-- The constants of a reference access no members. -/
theorem constants_accesses {allowed : Stamp → Expr → String → Prop} (values : List Value)
    (supply : NodeSupply) :
    ∀ arg ∈ ((values.mapM Fresh.constant).run supply).1, arg.Accesses allowed := by
  induction values generalizing supply with
  | nil => exact List.forall_mem_nil _
  | cons value rest ih =>
    rw [List.mapM_cons]
    exact List.forall_mem_cons.mpr ⟨.leaf rfl rfl, ih _⟩

theorem reference_accepts (spec : QuerySpec) (model : Model) (element : Element)
    (apiRoot : Option String) (supply : NodeSupply) :
    ((spec.reference element apiRoot).run supply).1.type = element.logicalType ∧
      ((spec.reference element apiRoot).run supply).1.Accesses
        (Accessed spec model element apiRoot) := by
  have direct (root : Option String) :
      ((spec.reference element none).run supply).1.type = element.logicalType ∧
        ((spec.reference element none).run supply).1.Accesses (Accessed spec model element root) :=
    ⟨rfl, .node rfl (constants_accesses spec.args supply)⟩
  cases apiRoot with
  | none => exact direct none
  | some root =>
    by_cases unrooted : (element.isFunction || spec.qualifier.isSome) = true
    · rw [show spec.reference element (some root) = spec.reference element none from
        if_pos unrooted]
      exact direct (some root)
    · rw [show spec.reference element (some root) = (do
          let parameter ← Fresh.parameter root .any
          Fresh.member parameter spec.source element.logicalType) from if_neg unrooted]
      exact ⟨rfl, .member (.root rfl rfl rfl) (.leaf rfl rfl)⟩

theorem logicalType_of_many (many : element.isMany = true) :
    element.logicalType = .queryable (.entity element.entity) := by
  unfold Element.logicalType
  rw [if_pos many]

theorem isCollection_rowsType (many : element.isMany = true) :
    (spec.rowsType model element).isCollection = true := by
  unfold rowsType
  rw [logicalType_of_many many]
  cases spec.select.bind (model.propertyType? element.entity) <;> rfl

/-- The type of a query is what its last operator makes of the type of the rows. -/
theorem hasType_terminal (single : ¬1 < spec.terminals)
    (many : spec.first = true → (spec.rowsType model element).isCollection = true) :
    spec.HasType model element (match spec.terminal? with
      | none => spec.rowsType model element
      | some method => method.resultType [spec.rowsType model element]) := by
  obtain ⟨countFirst, countAny, firstAny⟩ := (single_iff spec).mp single
  unfold terminal?
  cases count : spec.count with
  | true => exact ⟨fun _ => rfl, by simp_all, by simp_all, by simp_all⟩
  | false =>
    cases first : spec.first with
    | true =>
      refine ⟨by simp_all, by simp_all, fun _ => ?_, by simp_all⟩
      obtain ⟨element', found⟩ := Option.isSome_iff_exists.mp (many first)
      simp [Method.resultType, found]
    | false =>
      cases any : spec.any with
      | true => exact ⟨by simp_all, fun _ => rfl, by simp_all, by simp_all⟩
      | false => exact ⟨by simp_all, by simp_all, by simp_all, fun _ _ _ => rfl⟩

theorem fields_declared (spec : QuerySpec) (model : Model) (entity : String) :
    (∀ name ∈ spec.fields, model.Declares entity name) ↔
      (∀ predicate ∈ spec.filter, model.Declares entity predicate.field) ∧
      (∀ key ∈ spec.order, model.Declares entity key.field) ∧
      ∀ name ∈ spec.select.toList, model.Declares entity name := by
  unfold fields
  simp only [List.forall_mem_append, List.forall_mem_map, and_assoc]

/-- Pages keep the type of the rows, and the last operator gives its own. -/
theorem ended_accepts {query : Expr} {supply : NodeSupply} (single : ¬1 < spec.terminals)
    (many : spec.first = true → (spec.rowsType model element).isCollection = true)
    (typed : query.type = spec.rowsType model element)
    (accesses : query.Accesses (Accessed spec model element apiRoot)) :
    Ends (do
        let query ← paged .skip query spec.skip
        let query ← paged .take query spec.take
        match spec.terminal? with
        | none => return query
        | some method => liftM (Fresh.call method [query]) : Building Expr)
      (fun tree _ => spec.HasType model element tree.type ∧
        tree.Accesses (Accessed spec model element apiRoot))
      (fun _ _ => False) supply := by
  rw [ends_bind]
  refine (paged_accepts rfl accesses spec.skip).weaken ?_
  rintro skipped _ ⟨skippedType, accesses⟩
  rw [ends_bind]
  refine (paged_accepts rfl accesses spec.take).weaken ?_
  rintro taken _ ⟨takenType, accesses⟩
  have ends := hasType_terminal single many
  rw [← typed, ← skippedType, ← takenType] at ends
  cases last : spec.terminal? with
  | none =>
    rw [last] at ends
    exact ⟨ends, accesses⟩
  | some method =>
    rw [last] at ends
    exact ⟨ends, accesses.single rfl rfl⟩

/-- A description has a query exactly if it is well-formed, and then the query has its type. -/
theorem toExpr_wellFormed (spec : QuerySpec) (apiRoot : Option String)
    (found : model.resolve? spec.qualifier spec.source = some element) (supply : NodeSupply) :
    Ends (spec.toExpr model apiRoot)
      (fun tree _ => spec.WellFormed model element ∧ spec.HasType model element tree.type ∧
        tree.Accesses (Accessed spec model element apiRoot))
      (fun _ _ => ¬spec.WellFormed model element) supply := by
  unfold toExpr
  dsimp only
  by_cases several : 1 < spec.terminals
  · simp only [several, if_true]
    intro fine
    exact (single_iff spec).mpr fine.single several
  simp only [several, if_false, found]
  rw [ends_bind, ends_liftM]
  obtain ⟨typed, accesses⟩ := reference_accepts spec model element apiRoot supply
  by_cases misfit : (spec.composes && !element.isMany) = true
  · -- an operator over one row
    simp only [misfit, if_true]
    intro fine
    obtain ⟨composes, single⟩ : spec.composes = true ∧ element.isMany = false := by
      simpa using misfit
    have many := fine.collection ((composes_iff spec).mp composes)
    rw [isCollection_logicalType, single] at many
    contradiction
  -- each stage that follows fails for its own fields only
  rw [if_neg misfit, ends_bind]
  have many (composes : spec.composes = true) : element.isMany = true := by
    simpa [composes] using misfit
  have rows (stamp row : Stamp) (name : String) (entity : row.type = .entity element.entity)
      (property : model.propertyType? element.entity name = some stamp.type) :
      Accessed spec model element apiRoot stamp (.parameter row Access.rowParameter) name :=
    .row entity property
  refine (filtered_accepts rows accesses spec.filter).mono ?_ fun _ _ missing fine =>
    missing ((fields_declared spec model _).mp fine.declared).1
  rintro query _ ⟨filtered, filteredType, accesses⟩
  rw [ends_bind]
  refine (ordered_accepts rows accesses spec.order).mono ?_ fun _ _ missing fine =>
    missing ((fields_declared spec model _).mp fine.declared).2.1
  rintro query _ ⟨ordered, orderedType, accesses⟩
  replace typed := orderedType.trans (filteredType.trans typed)
  have projects (selects : spec.select.isSome = true) :
      ∃ element, query.type = .queryable element :=
    ⟨_, typed.trans (logicalType_of_many (many (by simp [composes, selects])))⟩
  rw [ends_bind]
  refine (projected_accepts rows accesses spec.select projects).mono ?_ fun _ _ missing fine =>
    missing ((fields_declared spec model _).mp fine.declared).2.2
  rintro query _ ⟨projected, projectedType, accesses⟩
  rw [typed] at projectedType
  have fine : spec.WellFormed model element := {
    single := (single_iff spec).mp several
    resolved := found
    collection := fun uses => by
      rw [isCollection_logicalType]
      exact many ((composes_iff spec).mpr uses)
    declared := (fields_declared spec model _).mpr ⟨filtered, ordered, projected⟩ }
  have first (first : spec.first = true) : (spec.rowsType model element).isCollection = true :=
    isCollection_rowsType (many (by simp [composes, first]))
  refine (ended_accepts several first projectedType accesses).mono ?_ fun _ _ fails => fails.elim
  exact fun tree _ built => ⟨fine, built⟩

/-- A description has a query over a model exactly if it is well-formed. The query then has the type
that the description says, and each access to a row the type of the property. -/
theorem toExpr_accepts (spec : QuerySpec) (model : Model) (apiRoot : Option String)
    (supply : NodeSupply) :
    ((∃ tree after, (spec.toExpr model apiRoot).run.run supply = (.ok tree, after)) ↔
      ∃ element, spec.WellFormed model element) ∧
    ∀ tree after, (spec.toExpr model apiRoot).run.run supply = (.ok tree, after) →
      ∃ element, model.resolve? spec.qualifier spec.source = some element ∧
        spec.HasType model element tree.type ∧
        tree.Accesses (Accessed spec model element apiRoot) := by
  cases found : model.resolve? spec.qualifier spec.source with
  | none =>
    have fails : Ends (spec.toExpr model apiRoot) (fun _ _ => False) (fun _ _ => True) supply := by
      unfold toExpr
      dsimp only
      split <;> simp [found]
    constructor
    · constructor
      · rintro ⟨tree, after, run⟩
        exact (fails.done_of_ok run).elim
      · rintro ⟨element, fine⟩
        have resolved := fine.resolved
        rw [found] at resolved
        contradiction
    · intro tree after run
      exact (fails.done_of_ok run).elim
  | some element =>
    have ends := toExpr_wellFormed spec apiRoot found supply
    constructor
    · rw [ends.ok_iff]
      constructor
      · exact fun fine => ⟨element, fine⟩
      · rintro ⟨element', fine⟩
        cases found.symm.trans fine.resolved
        exact fine
    · intro tree after run
      obtain ⟨-, typed, accesses⟩ := ends.done_of_ok run
      exact ⟨element, rfl, typed, accesses⟩

/-- The first name of the customers in the order of their numbers is a string. -/
theorem first_name_built :
    let customer : EntityType :=
      { name := "Customer", fields := [("Id", ⟨.int, true⟩), ("Name", ⟨.string, false⟩)] }
    let model : Model := {
      space := "S", entityTypes := [("Customer", customer)]
      elements := [("Customers", .collection "Customers" "Customer")] }
    let spec : QuerySpec := {
      source := "Customers", order := [⟨"Id", false⟩], select := some "Name", first := true }
    ∃ tree after, (spec.toExpr model none).run.run {} = (.ok tree, after) ∧
      tree.type = .string := by
  intro customer model spec
  obtain ⟨accepts, typed⟩ := toExpr_accepts spec model none {}
  have number : model.propertyType? "Customer" "Id" = some .int := rfl
  have name : model.propertyType? "Customer" "Name" = some .string := rfl
  have fine : spec.WellFormed model (.collection "Customers" "Customer") := {
    single := by decide
    resolved := rfl
    collection := fun _ => rfl
    declared := List.forall_mem_cons.mpr ⟨.of_propertyType? number,
      List.forall_mem_singleton.mpr (.of_propertyType? name)⟩ }
  obtain ⟨tree, after, run⟩ := accepts.mpr ⟨_, fine⟩
  obtain ⟨element, found, typed, -⟩ := typed tree after run
  cases found
  exact ⟨tree, after, run, (Option.some.inj (typed.first rfl)).symm⟩

end QuerySpec

end QueryRewriting
