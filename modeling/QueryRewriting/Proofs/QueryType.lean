import QueryRewriting.QueryType

/-! Acceptance as an order on types of any depth. It is the least one with `any` above all types and a
sequence above the query over the same elements that lets the elements of a collection vary. -/
namespace QueryRewriting.QueryType

/-- Whether values of the second type may stand where the first is wanted, by the rules alone. -/
inductive Admits : QueryType → QueryType → Prop
  | refl (type : QueryType) : Admits type type
  | trans {wanted between given : QueryType} : Admits wanted between → Admits between given →
      Admits wanted given
  | any (given : QueryType) : Admits .any given
  | evaluated (element : QueryType) : Admits (.sequence element) (.queryable element)
  | sequence {wanted given : QueryType} : Admits wanted given →
      Admits (.sequence wanted) (.sequence given)
  | queryable {wanted given : QueryType} : Admits wanted given →
      Admits (.queryable wanted) (.queryable given)

theorem Admits.of_accepts {wanted given : QueryType} (accepted : wanted.accepts given = true) :
    Admits wanted given := by
  fun_induction accepts wanted given with
  | case1 given => exact .any given
  | case2 wanted given ih => exact .sequence (ih accepted)
  | case3 wanted given ih => exact .trans (.evaluated wanted) (.queryable (ih accepted))
  | case4 wanted given ih => exact .queryable (ih accepted)
  | case5 wanted given =>
    obtain rfl := beq_iff_eq.mp accepted
    exact .refl wanted

/-- Acceptance decides what the rules admit. -/
theorem accepts_iff_admits {wanted given : QueryType} :
    wanted.accepts given = true ↔ Admits wanted given := by
  constructor
  · exact Admits.of_accepts
  · intro admitted
    induction admitted with
    | refl type => exact accepts_refl type
    | trans _ _ first second => exact accepts_trans first second
    | any given => rfl
    | evaluated element => exact accepts_refl element
    | sequence _ ih => exact ih
    | queryable _ ih => exact ih

/-- Acceptance is a partial order, and of those that follow the rules the least one. -/
theorem accepts_partialOrder :
    (∀ type : QueryType, type.accepts type = true) ∧
    (∀ a b c : QueryType, a.accepts b = true → b.accepts c = true → a.accepts c = true) ∧
    (∀ a b : QueryType, a.accepts b = true → b.accepts a = true → a = b) ∧
    ∀ wanted given : QueryType, wanted.accepts given = true ↔ Admits wanted given := by
  refine ⟨accepts_refl, ?_, ?_, ?_⟩
  · intro a b c first second
    exact accepts_trans first second
  · intro a b first second
    exact accepts_antisymm first second
  · intro wanted given
    exact accepts_iff_admits

/-- A sequence of sequences takes a query over queries, by way of a sequence of queries, which does not
take sequences. -/
theorem nested_queries_accepted :
    let wanted := sequence (sequence any)
    let between := sequence (queryable any)
    let given := queryable (queryable (entity "Order"))
    wanted.accepts between = true ∧ between.accepts given = true ∧ wanted.accepts given = true ∧
      between.accepts wanted ≠ true := by
  intro wanted between given
  obtain ⟨-, trans, antisymm, -⟩ := accepts_partialOrder
  have first : wanted.accepts between = true := by decide
  have second : between.accepts given = true := by decide
  have different : wanted ≠ between := by decide
  exact ⟨first, second, trans wanted between given first second,
    fun back => different (antisymm wanted between first back)⟩

end QueryRewriting.QueryType
