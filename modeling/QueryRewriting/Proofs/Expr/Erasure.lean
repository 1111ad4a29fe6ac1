import QueryRewriting.Proofs.Expr.Children

/-! Trees without identities. Two trees are built alike, whoever built their nodes, when nothing but
identities tells them apart. -/
namespace QueryRewriting

/-- The stamp of all nodes of a type in a tree without identities. -/
def Stamp.anonymous (type : QueryType) : Stamp := ⟨0, type⟩

namespace Expr

mutual

/-- The tree without its identities. -/
def erased : Expr → Expr
  | .value stamp content => .value (.anonymous stamp.type) content
  | .queryable stamp proxy element expression =>
    .queryable (.anonymous stamp.type) proxy element (erased expression)
  | .parameter stamp name => .parameter (.anonymous stamp.type) name
  | .member stamp target name => .member (.anonymous stamp.type) (erased target) name
  | .source stamp qualifier name args =>
    .source (.anonymous stamp.type) qualifier name (erasedAll args)
  | .native stamp proxy name => .native (.anonymous stamp.type) proxy name
  | .call stamp method args => .call (.anonymous stamp.type) method (erasedAll args)
  | .lambda stamp param body => .lambda (.anonymous stamp.type) param (erased body)
  | .binary stamp op left right => .binary (.anonymous stamp.type) op (erased left) (erased right)
  | .not stamp operand => .not (.anonymous stamp.type) (erased operand)

/-- Several trees without their identities. -/
def erasedAll : List Expr → List Expr
  | [] => []
  | e :: rest => erased e :: erasedAll rest

end

theorem erasedAll_eq_map (es : List Expr) : erasedAll es = es.map erased := by
  induction es with
  | nil => rfl
  | cons e rest ih => rw [erasedAll, ih, List.map_cons]

@[simp] theorem type_erased (e : Expr) : e.erased.type = e.type := by cases e <;> rfl

@[simp] theorem isSource_erased (e : Expr) : e.erased.isSource = e.isSource := by cases e <;> rfl

@[simp] theorem isLambda_erased (e : Expr) : e.erased.isLambda = e.isLambda := by cases e <;> rfl

@[simp] theorem children_erased (e : Expr) : e.erased.children = e.children.map erased := by
  cases e <;> simp [erased, children, erasedAll_eq_map]

/-- A test that does not look at identities passes as often without them. -/
theorem hasNode_erased {test : Expr → Bool} (blind : ∀ e, test e.erased = test e) (e : Expr) :
    e.erased.hasNode test = e.hasNode test := by
  induction e using ofChildren with
  | step e ih =>
    rw [hasNode_eq, hasNode_eq test e, blind, children_erased, List.any_map]
    congr 1
    rw [Bool.eq_iff_iff, List.any_eq_true, List.any_eq_true]
    constructor <;>
    · rintro ⟨child, member, found⟩
      exact ⟨child, member, by simpa [ih child member] using found⟩

@[simp] theorem hasDataReference_erased (e : Expr) :
    e.erased.hasDataReference = e.hasDataReference := hasNode_erased isSource_erased e

mutual

@[simp] theorem erased_erased : (e : Expr) → e.erased.erased = e.erased
  | .value .. | .parameter .. | .native .. => rfl
  | .queryable _ _ _ expression => by simp only [erased, Stamp.anonymous, erased_erased expression]
  | .member _ target _ => by simp only [erased, Stamp.anonymous, erased_erased target]
  | .source _ _ _ args => by simp only [erased, Stamp.anonymous, erasedAll_erasedAll args]
  | .call _ _ args => by simp only [erased, Stamp.anonymous, erasedAll_erasedAll args]
  | .lambda _ _ body => by simp only [erased, Stamp.anonymous, erased_erased body]
  | .binary _ _ left right => by
    simp only [erased, Stamp.anonymous, erased_erased left, erased_erased right]
  | .not _ operand => by simp only [erased, Stamp.anonymous, erased_erased operand]

theorem erasedAll_erasedAll : (es : List Expr) → erasedAll (erasedAll es) = erasedAll es
  | [] => rfl
  | e :: rest => by simp only [erasedAll, erased_erased e, erasedAll_erasedAll rest]

end

theorem stripPaging_of_not_paging {e : Expr} (plain : e.isPaging = false) : e.stripPaging = e := by
  unfold stripPaging
  split
  · next stamp method inner rest =>
    rw [if_neg (by simpa [isPaging] using plain)]
  · rfl

theorem stripPaging_call {stamp : Stamp} {method : Method} (paging : method.isPaging = true)
    (inner : Expr) (rest : List Expr) :
    stripPaging (.call stamp method (inner :: rest)) = stripPaging inner := by
  rw [stripPaging, if_pos paging]

theorem isPaging_erased (e : Expr) : e.erased.isPaging = e.isPaging := by cases e <;> rfl

theorem stripPaging_erased (e : Expr) : e.erased.stripPaging = e.stripPaging.erased := by
  induction e using ofChildren with
  | step e ih =>
    cases paging : e.isPaging with
    | false =>
      rw [stripPaging_of_not_paging paging,
        stripPaging_of_not_paging ((isPaging_erased e).trans paging)]
    | true =>
      cases e with
      | call stamp method args =>
        cases args with
        | nil => rfl
        | cons inner rest =>
          rw [stripPaging_call paging, erased, erasedAll, stripPaging_call paging]
          exact ih inner (by simp [children])
      | _ => contradiction

/-- A node without its identity over other children. -/
def overChildren (e : Expr) (given : List Expr) : Expr :=
  e.erased.replaceChildren (.anonymous e.type) given

theorem map_erased_overlay (old given : List Expr) :
    erasedAll (overlay old given) = overlay (erasedAll old) (given.map erased) := by
  induction old generalizing given with
  | nil => rfl
  | cons first old ih =>
    cases given with
    | nil => rfl
    | cons new rest => simp only [overlay, erasedAll, List.map_cons, ih]

theorem erased_replaceChildren (e : Expr) (id : NodeId) (given : List Expr) :
    (e.replaceChildren ⟨id, e.type⟩ given).erased = e.overChildren (given.map erased) := by
  cases e with
  | source | call => simp only [overChildren, replaceChildren, erased, map_erased_overlay]
  | member | lambda | not => cases given <;> rfl
  | binary =>
    match given with
    | [] | [_] | _ :: _ :: _ => rfl
  | value | queryable | parameter | native => rfl

theorem length_overlay (old given : List Expr) : (overlay old given).length = old.length := by
  induction old generalizing given with
  | nil => rfl
  | cons first old ih =>
    cases given with
    | nil => rfl
    | cons new rest => rw [overlay, List.length_cons, ih, List.length_cons]

/-- Of children that were replaced nothing is left once they are all replaced again. -/
theorem replaceChildren_replaceChildren {e : Expr} {given : List Expr} (stamp stamp' : Stamp)
    (old : List Expr) (complete : given.length = e.children.length) :
    (e.replaceChildren stamp old).replaceChildren stamp' given = e.replaceChildren stamp' given := by
  cases e with
  | value | queryable | parameter | native => rfl
  | source _ _ _ args | call _ _ args =>
    have complete : given.length = args.length := complete
    have complete' := complete.trans (length_overlay args old).symm
    simp only [replaceChildren, overlay_of_length_eq complete, overlay_of_length_eq complete']
  | member | lambda | not =>
    obtain ⟨only, rfl⟩ := List.length_eq_one_iff.mp complete
    rfl
  | binary =>
    match given, complete with
    | [_, _], _ => rfl

theorem replaceChildren_self (e : Expr) : e.replaceChildren e.stamp e.children = e := by
  cases e <;> simp [replaceChildren, children, stamp, overlay_of_length_eq]

theorem overChildren_self (e : Expr) : e.overChildren (e.children.map erased) = e.erased := by
  rw [← erased_replaceChildren e e.id]
  exact congrArg erased (replaceChildren_self e)

theorem overChildren_erased (e : Expr) (given : List Expr) :
    e.erased.overChildren given = e.overChildren given := by
  rw [overChildren, erased_erased, type_erased, overChildren]

theorem isSource_overChildren (e : Expr) (given : List Expr) :
    (e.overChildren given).isSource = e.isSource := by
  rw [overChildren, isSource_replaceChildren, isSource_erased]

theorem children_overChildren {e : Expr} {given : List Expr}
    (complete : given.length = e.children.length) : (e.overChildren given).children = given := by
  apply children_replaceChildren
  rw [complete, children_erased, List.length_map]

theorem overChildren_overChildren {e : Expr} {given : List Expr} (old : List Expr)
    (complete : given.length = e.children.length) :
    (e.overChildren old).overChildren given = e.overChildren given := by
  have anonymous : e.overChildren old = e.erased.replaceChildren ⟨0, e.erased.type⟩ old := by
    rw [type_erased]
    rfl
  have kept : (e.overChildren old).type = e.type := by
    rw [anonymous, type_replaceChildren, type_erased]
  have bare : (e.overChildren old).erased =
      e.erased.replaceChildren (.anonymous e.type) (old.map erased) := by
    rw [anonymous, erased_replaceChildren, overChildren, erased_erased, type_erased]
  rw [overChildren, bare, kept]
  apply replaceChildren_replaceChildren
  rw [complete, children_erased, List.length_map]

/-- Putting a node together again gives it another identity at most. -/
theorem erased_withChildren (e : Expr) (given : List Expr) (supply : NodeSupply) :
    ((e.withChildren given).run supply).1.erased = e.overChildren (given.map erased) := by
  unfold withChildren
  split
  · next same =>
    change e.erased = _
    rw [← same, ← erased_replaceChildren e e.id]
    exact congrArg erased (replaceChildren_self e).symm
  · exact erased_replaceChildren e _ given

end Expr

end QueryRewriting
