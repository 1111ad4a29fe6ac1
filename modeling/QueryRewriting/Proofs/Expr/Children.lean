import Mathlib.Data.List.Forall2
import QueryRewriting.Expr.Build

/-! A node and its children. A node that is put together again from as many children as it has is a
node of the same kind over these children. -/
namespace QueryRewriting.Expr

theorem sizeOf_lt_of_mem_children {e child : Expr} (below : child ∈ e.children) :
    sizeOf child < sizeOf e := by
  cases e with
  | value | queryable | parameter | native => contradiction
  | source _ _ _ args | call _ _ args =>
    have smaller := List.sizeOf_lt_of_mem (show child ∈ args from below)
    simp only [source.sizeOf_spec, call.sizeOf_spec]
    omega
  | member | lambda | not =>
    cases List.mem_singleton.mp below
    simp only [member.sizeOf_spec, lambda.sizeOf_spec, not.sizeOf_spec]
    omega
  | binary =>
    simp only [children, List.mem_cons, List.not_mem_nil, or_false] at below
    rcases below with rfl | rfl <;>
    · simp only [binary.sizeOf_spec]
      omega

/-- What passes from the children of a node to the node holds of every tree. -/
theorem ofChildren {holds : Expr → Prop}
    (step : ∀ e, (∀ child ∈ e.children, holds child) → holds e) (e : Expr) : holds e :=
  step e fun child member =>
    have := sizeOf_lt_of_mem_children member
    ofChildren step child
termination_by sizeOf e

theorem anyHasNode_eq (test : Expr → Bool) (es : List Expr) :
    anyHasNode test es = es.any (hasNode test) := by
  induction es with
  | nil => rfl
  | cons e rest ih => rw [anyHasNode, ih, List.any_cons]

theorem hasNode_eq (test : Expr → Bool) (e : Expr) :
    e.hasNode test = (test e || e.children.any (hasNode test)) := by
  cases e <;> simp [hasNode, children, anyHasNode_eq]

theorem nodesOf_eq (es : List Expr) : nodesOf es = es.flatMap nodes := by
  induction es with
  | nil => rfl
  | cons e rest ih => rw [nodesOf, ih, List.flatMap_cons]

theorem nodes_eq (e : Expr) : e.nodes = e :: e.children.flatMap nodes := by
  cases e <;> simp [nodes, children, nodesOf_eq]

theorem sizeOf_le_of_mem_nodes {e node : Expr} (member : node ∈ e.nodes) :
    sizeOf node ≤ sizeOf e := by
  induction e using ofChildren with
  | step e ih =>
    rw [nodes_eq, List.mem_cons, List.mem_flatMap] at member
    rcases member with rfl | ⟨child, below, member⟩
    · exact Nat.le_refl _
    · exact Nat.le_trans (ih child below member) (Nat.le_of_lt (sizeOf_lt_of_mem_children below))

theorem not_mem_nodes_of_child {e child : Expr} (below : child ∈ e.children) : e ∉ child.nodes := by
  intro member
  have smaller := sizeOf_lt_of_mem_children below
  have larger := sizeOf_le_of_mem_nodes member
  omega

theorem mem_nodes_self (e : Expr) : e ∈ e.nodes := by
  rw [nodes_eq]
  exact List.mem_cons_self

theorem mem_nodes_of_child {e child node : Expr} (below : child ∈ e.children)
    (member : node ∈ child.nodes) : node ∈ e.nodes := by
  rw [nodes_eq]
  exact List.mem_cons_of_mem _ (List.mem_flatMap.mpr ⟨child, below, member⟩)

theorem mem_nodes_trans {e node inner : Expr} (member : node ∈ e.nodes)
    (inside : inner ∈ node.nodes) : inner ∈ e.nodes := by
  induction e using ofChildren with
  | step e ih =>
    rw [nodes_eq, List.mem_cons, List.mem_flatMap] at member
    rcases member with rfl | ⟨child, below, member⟩
    · exact inside
    · exact mem_nodes_of_child below (ih child below member)

theorem test_of_mem_nodes {test : Expr → Bool} {e node : Expr} (free : e.hasNode test = false)
    (member : node ∈ e.nodes) : test node = false := by
  rw [hasNode_eq_any, List.any_eq_false] at free
  simpa using free node member

theorem hasDataReference_eq (e : Expr) :
    e.hasDataReference = (e.isSource || e.children.any hasDataReference) := hasNode_eq isSource e

theorem isSource_of_hasDataReference {e : Expr} (free : e.hasDataReference = false) :
    e.isSource = false := by
  rw [hasDataReference_eq, Bool.or_eq_false_iff] at free
  exact free.1

theorem hasDataReference_child {e child : Expr} (free : e.hasDataReference = false)
    (below : child ∈ e.children) : child.hasDataReference = false := by
  rw [hasDataReference_eq, Bool.or_eq_false_iff, List.any_eq_false] at free
  simpa using free.2 child below

/-- The rows that a filter selects from a reference are neither the reference nor anything without
references that stood for it. -/
theorem ne_selection {e current : Expr} (stamp : Stamp) (lambda : Expr) (source : e.isSource = true)
    (standing : current = e ∨ current.hasDataReference = false) :
    ¬(.call stamp .filter [e, lambda] = e ∨ .call stamp .filter [e, lambda] = current) := by
  have other : call stamp .filter [e, lambda] ≠ e := by
    intro same
    rw [← same] at source
    contradiction
  rintro (same | same)
  · exact other same
  · rcases standing with rfl | free
    · exact other same
    · rw [← same] at free
      have plain := isSource_of_hasDataReference
        (hasDataReference_child free (show e ∈ [e, lambda] from List.mem_cons_self))
      rw [source] at plain
      contradiction

theorem overlay_of_length_eq {old given : List Expr} (complete : given.length = old.length) :
    overlay old given = given := by
  induction old generalizing given with
  | nil => exact (List.length_eq_zero_iff.mp complete).symm
  | cons first old ih =>
    cases given with
    | nil => contradiction
    | cons new rest =>
      have complete : rest.length = old.length := by simpa using complete
      rw [overlay, ih complete]

theorem children_replaceChildren {e : Expr} {given : List Expr} (stamp : Stamp)
    (complete : given.length = e.children.length) :
    (e.replaceChildren stamp given).children = given := by
  cases e with
  | value | queryable | parameter | native => exact (List.length_eq_zero_iff.mp complete).symm
  | source | call => exact overlay_of_length_eq complete
  | member | lambda | not =>
    obtain ⟨only, rfl⟩ := List.length_eq_one_iff.mp complete
    rfl
  | binary =>
    match given, complete with
    | [_, _], _ => rfl

theorem isSource_replaceChildren (e : Expr) (stamp : Stamp) (given : List Expr) :
    (e.replaceChildren stamp given).isSource = e.isSource := by cases e <;> rfl

theorem isLambda_of_isSource {e : Expr} (source : e.isSource = true) : e.isLambda = false := by
  cases e with
  | source => rfl
  | _ => contradiction

theorem isLambda_replaceChildren (e : Expr) (stamp : Stamp) (given : List Expr) :
    (e.replaceChildren stamp given).isLambda = e.isLambda := by cases e <;> rfl

/-- No reference is left in a node that is none over children without any. -/
theorem hasDataReference_replaceChildren {e : Expr} {given : List Expr} (stamp : Stamp)
    (complete : given.length = e.children.length) (plain : e.isSource = false)
    (free : ∀ child ∈ given, child.hasDataReference = false) :
    (e.replaceChildren stamp given).hasDataReference = false := by
  rw [hasDataReference_eq, isSource_replaceChildren, plain, children_replaceChildren stamp complete]
  simpa using free

theorem type_replaceChildren (e : Expr) (id : NodeId) (given : List Expr) :
    (e.replaceChildren ⟨id, e.type⟩ given).type = e.type := by cases e <;> rfl

/-- A node that is put together again from its own children is the node itself. -/
theorem withChildren_children (e : Expr) (supply : NodeSupply) :
    ((e.withChildren e.children).run supply).1 = e := by
  simp only [withChildren, if_true]
  rfl

/-- A node that is put together again is still of its type. -/
theorem type_withChildren (e : Expr) (given : List Expr) (supply : NodeSupply) :
    ((e.withChildren given).run supply).1.type = e.type := by
  unfold withChildren
  split
  · rfl
  · exact type_replaceChildren e _ given

theorem isLambda_withChildren (e : Expr) (given : List Expr) (supply : NodeSupply) :
    ((e.withChildren given).run supply).1.isLambda = e.isLambda := by
  unfold withChildren
  split
  · rfl
  · exact isLambda_replaceChildren e _ given

/-- What a tree was made of, where trees were made one by one. -/
theorem exists_origin {made : Expr → Expr → Prop} {old given : List Expr}
    (each : List.Forall₂ made old given) {tree : Expr} (member : tree ∈ given) :
    ∃ origin ∈ old, made origin tree := by
  induction each with
  | nil => contradiction
  | @cons origin first _ _ makes _ ih =>
    rcases List.mem_cons.mp member with rfl | member
    · exact ⟨origin, List.mem_cons_self, makes⟩
    · obtain ⟨other, inside, makes⟩ := ih member
      exact ⟨other, List.mem_cons_of_mem _ inside, makes⟩

/-- What is related one by one, with where it comes from. -/
theorem forall₂_mem {α β : Type} {related : α → β → Prop} {items : List α} {others : List β}
    (each : List.Forall₂ related items others) :
    List.Forall₂ (fun item other => item ∈ items ∧ other ∈ others ∧ related item other) items
      others := by
  induction each with
  | nil => exact .nil
  | cons first _ ih =>
    apply List.Forall₂.cons
    · exact ⟨List.mem_cons_self, List.mem_cons_self, first⟩
    · apply ih.imp
      rintro item other ⟨listed, listed', related⟩
      exact ⟨List.mem_cons_of_mem _ listed, List.mem_cons_of_mem _ listed', related⟩

theorem hasDataReference_withChildren {e : Expr} {given : List Expr} (supply : NodeSupply)
    (plain : e.isSource = false)
    (made : List.Forall₂ (fun _ tree => tree.hasDataReference = false) e.children given) :
    ((e.withChildren given).run supply).1.hasDataReference = false := by
  have free : ∀ tree ∈ given, tree.hasDataReference = false := by
    intro tree member
    obtain ⟨_, -, free⟩ := exists_origin made member
    exact free
  unfold withChildren
  split
  · next same =>
    rw [← same] at free
    change e.hasDataReference = false
    rw [hasDataReference_eq, plain]
    simpa using free
  · exact hasDataReference_replaceChildren _ made.length_eq.symm plain free

/-- A leaf of a node that is put together again is the node itself or a leaf of a new child. -/
theorem mem_nodes_withChildren {e leaf : Expr} {given : List Expr} (supply : NodeSupply)
    (complete : given.length = e.children.length) (bare : leaf.children = [])
    (member : leaf ∈ ((e.withChildren given).run supply).1.nodes) :
    leaf = e ∨ ∃ tree ∈ given, leaf ∈ tree.nodes := by
  unfold withChildren at member
  split at member
  · next same =>
    have member : leaf ∈ e.nodes := member
    rw [nodes_eq, same, List.mem_cons, List.mem_flatMap] at member
    exact member
  · next changed =>
    have member : leaf ∈ (e.replaceChildren ((Fresh.stamp e.type).run supply).1 given).nodes :=
      member
    rw [nodes_eq, children_replaceChildren _ complete, List.mem_cons, List.mem_flatMap] at member
    refine member.imp_left fun rebuilt => ?_
    rw [rebuilt, children_replaceChildren _ complete] at bare
    rw [bare] at complete changed
    exact (changed (List.length_eq_zero_iff.mp complete.symm)).elim

mutual

/-- The data references of a tree from left to right, without those among the arguments of others.
-/
def outerReferences : Expr → List Expr
  | .source stamp qualifier name args => [.source stamp qualifier name args]
  | .member _ target _ => outerReferences target
  | .call _ _ args => outerReferencesOf args
  | .lambda _ _ body => outerReferences body
  | .binary _ _ left right => outerReferences left ++ outerReferences right
  | .not _ operand => outerReferences operand
  | _ => []

/-- The data references of several trees, one tree after the other. -/
def outerReferencesOf : List Expr → List Expr
  | [] => []
  | e :: rest => outerReferences e ++ outerReferencesOf rest

end

theorem outerReferencesOf_eq (es : List Expr) :
    outerReferencesOf es = es.flatMap outerReferences := by
  induction es with
  | nil => rfl
  | cons e rest ih => rw [outerReferencesOf, ih, List.flatMap_cons]

theorem outerReferences_of_isSource {e : Expr} (source : e.isSource = true) :
    e.outerReferences = [e] := by
  cases e with
  | source => rfl
  | _ => contradiction

theorem outerReferences_eq {e : Expr} (plain : e.isSource = false) :
    e.outerReferences = e.children.flatMap outerReferences := by
  cases e with
  | source => contradiction
  | call => exact outerReferencesOf_eq _
  | _ => simp [outerReferences, children]

theorem outerReferences_of_free (e : Expr) :
    e.hasDataReference = false → e.outerReferences = [] := by
  induction e using ofChildren with
  | step e ih =>
    intro free
    rw [outerReferences_eq (isSource_of_hasDataReference free), List.flatMap_eq_nil_iff]
    exact fun child member => ih child member (hasDataReference_child free member)

theorem isSource_of_mem_outerReferences {e node : Expr} (member : node ∈ e.outerReferences) :
    node.isSource = true := by
  induction e using ofChildren with
  | step e ih =>
    cases shape : e.isSource with
    | true =>
      rw [outerReferences_of_isSource shape] at member
      cases List.mem_singleton.mp member
      exact shape
    | false =>
      rw [outerReferences_eq shape, List.mem_flatMap] at member
      obtain ⟨child, below, inside⟩ := member
      exact ih child below inside

/-- All nodes of a tree exist: a supply has given out their identities. -/
def Issued (supply : NodeSupply) (e : Expr) : Prop :=
  ∀ node ∈ e.nodes, node.id < supply.next

theorem Issued.later {supply after : NodeSupply} {e : Expr} (issued : e.Issued supply)
    (later : supply.next ≤ after.next) : e.Issued after := by
  intro node member
  exact Nat.lt_of_lt_of_le (issued node member) later

theorem Issued.child {supply : NodeSupply} {e child : Expr} (issued : e.Issued supply)
    (below : child ∈ e.children) : child.Issued supply := by
  intro node member
  exact issued node (mem_nodes_of_child below member)

theorem Issued.node {supply : NodeSupply} {e : Expr} (last : e.id < supply.next)
    (below : ∀ child ∈ e.children, child.Issued supply) : e.Issued supply := by
  intro node member
  rw [nodes_eq, List.mem_cons, List.mem_flatMap] at member
  rcases member with rfl | ⟨child, listed, inside⟩
  · exact last
  · exact below child listed node inside

theorem Issued.id_lt {supply : NodeSupply} {e : Expr} (issued : e.Issued supply) :
    e.id < supply.next := issued e e.mem_nodes_self

end QueryRewriting.Expr
