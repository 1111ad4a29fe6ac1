import QueryRewriting.Proofs.Expr.Erasure

/-! The levels of a tree: the nodes on its longest path, where a data reference ends a path. The
arguments of a reference do not count, but what becomes of a reference may be counted in. -/
namespace QueryRewriting.Expr

mutual

/-- The number of nodes on the longest path from the root of a tree to a leaf, where a data
reference ends a path, with so many more nodes as there are below it. -/
def levels (below : Expr → Nat) : Expr → Nat
  | .source stamp qualifier name args => below (.source stamp qualifier name args) + 1
  | .member _ target _ => levels below target + 1
  | .call _ _ args => levelsOf below args + 1
  | .lambda _ _ body => levels below body + 1
  | .binary _ _ left right => max (levels below left) (levels below right) + 1
  | .not _ operand => levels below operand + 1
  | _ => 1

/-- The number of nodes on the longest such path in one of several trees. -/
def levelsOf (below : Expr → Nat) : List Expr → Nat
  | [] => 0
  | e :: rest => max (levels below e) (levelsOf below rest)

end

/-- The number of nodes on the longest path from the root of a tree to a leaf that does not enter
the arguments of data references. -/
def outerHeight (e : Expr) : Nat := e.levels fun _ => 0

variable {below : Expr → Nat} {e : Expr}

theorem levels_pos (below : Expr → Nat) (e : Expr) : 0 < e.levels below := by
  cases e <;> exact Nat.succ_pos _

theorem levels_of_isSource (source : e.isSource = true) : e.levels below = below e + 1 := by
  cases e with
  | source => rfl
  | _ => contradiction

theorem levelsOf_le_iff {es : List Expr} {room : Nat} :
    levelsOf below es ≤ room ↔ ∀ e ∈ es, e.levels below ≤ room := by
  induction es with
  | nil => simp [levelsOf]
  | cons e rest ih => rw [levelsOf, Nat.max_le, ih, List.forall_mem_cons]

/-- A node that is no reference needs one level more than its children. -/
theorem levels_le_succ_iff (plain : e.isSource = false) {room : Nat} :
    e.levels below ≤ room + 1 ↔ ∀ child ∈ e.children, child.levels below ≤ room := by
  cases e with
  | source => contradiction
  | value | queryable | parameter | native => simp [levels, children]
  | call => exact Nat.succ_le_succ_iff.trans levelsOf_le_iff
  | member | lambda | not => simp [levels, children]
  | binary =>
    rw [levels, Nat.add_le_add_iff_right, Nat.max_le]
    simp [children]

/-- Levels are within a bound if they are for each of several ways of counting what is below
references, where that is so at every reference. -/
theorem levels_le_iff_forall {ι : Type} [Nonempty ι] {belows : ι → Expr → Nat}
    (each : ∀ node ∈ e.outerReferences, ∀ room, below node ≤ room ↔ ∀ i, belows i node ≤ room)
    (room : Nat) : e.levels below ≤ room ↔ ∀ i, e.levels (belows i) ≤ room := by
  induction e using ofChildren generalizing room with
  | step e ih =>
    cases room with
    | zero =>
      refine iff_of_false (Nat.not_le_of_lt (levels_pos below e)) fun none => ?_
      obtain ⟨i⟩ := ‹Nonempty ι›
      exact Nat.not_le_of_lt (levels_pos (belows i) e) (none i)
    | succ room =>
      cases shape : e.isSource with
      | true =>
        rw [outerReferences_of_isSource shape] at each
        simp only [levels_of_isSource shape, Nat.succ_le_succ_iff]
        exact each e (List.mem_singleton_self e) room
      | false =>
        rw [outerReferences_eq shape] at each
        have below_child (child : Expr) (member : child ∈ e.children) :
            child.levels below ≤ room ↔ ∀ i, child.levels (belows i) ≤ room :=
          ih child member (fun node inside => each node (List.mem_flatMap.mpr
            ⟨child, member, inside⟩)) room
        simp only [levels_le_succ_iff shape]
        rw [forall₂_congr below_child]
        exact ⟨fun all i child member => all child member i,
          fun all child member i => all i child member⟩

/-- Levels depend on what is below the references of a tree only. -/
theorem levels_congr {below' : Expr → Nat}
    (same : ∀ node ∈ e.outerReferences, below node = below' node) :
    e.levels below = e.levels below' := by
  have bounds (room : Nat) : e.levels below ≤ room ↔ ∀ _ : Unit, e.levels below' ≤ room :=
    levels_le_iff_forall (fun node inside room => by simp [same node inside]) room
  exact Nat.le_antisymm ((bounds _).mpr fun _ => Nat.le_refl _) ((bounds _).mp (Nat.le_refl _) ())

theorem levels_of_free (below : Expr → Nat) (free : e.hasDataReference = false) :
    e.levels below = e.outerHeight := by
  apply levels_congr
  rw [outerReferences_of_free e free]
  exact fun node => nofun

/-- Levels do not depend on identities. -/
theorem outerHeight_erased (e : Expr) : e.erased.outerHeight = e.outerHeight := by
  have bounds (room : Nat) : e.erased.outerHeight ≤ room ↔ e.outerHeight ≤ room := by
    unfold outerHeight
    induction e using ofChildren generalizing room with
    | step e ih =>
      have shape' := e.isSource_erased
      cases shape : e.isSource with
      | true => rw [levels_of_isSource shape, levels_of_isSource (shape'.trans shape)]
      | false =>
        cases room with
        | zero =>
          exact iff_of_false (Nat.not_le_of_lt (levels_pos _ _)) (Nat.not_le_of_lt (levels_pos _ _))
        | succ room =>
          rw [levels_le_succ_iff shape, levels_le_succ_iff (shape'.trans shape), children_erased,
            List.forall_mem_map]
          exact forall₂_congr fun child member => ih child member room
  exact Nat.le_antisymm ((bounds _).mpr (Nat.le_refl _)) ((bounds _).mp (Nat.le_refl _))

end QueryRewriting.Expr
