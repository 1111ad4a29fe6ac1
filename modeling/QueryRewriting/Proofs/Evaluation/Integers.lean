import QueryRewriting.Proofs.Evaluation.Meaning
import QueryRewriting.Proofs.Evaluation.Sorting
import QueryRewriting.Proofs.Json.Rounding
import QueryRewriting.QuerySpec

/-!
Comparing and sorting by integers. Integers are compared through the doubles nearest to them, which
is the same as comparing the nearest integers of 53 binary digits. So two integers are compared as
integers exactly if they are equal or are told apart by rounding, as any two are that have at most
53 digits or lie farther than 2048 apart.
-/

namespace QueryRewriting

open Json Evaluation

/-- Whether a comparison relates two integers. -/
def Comparison.relates : Comparison → Int → Int → Prop
  | .eq, a, b => a = b
  | .ne, a, b => a ≠ b
  | .gt, a, b => b < a
  | .gte, a, b => b ≤ a
  | .lt, a, b => a < b
  | .lte, a, b => a ≤ b

instance (comparison : Comparison) (a b : Int) : Decidable (comparison.relates a b) :=
  match comparison with
  | .eq => inferInstanceAs (Decidable (a = b))
  | .ne => inferInstanceAs (Decidable (a ≠ b))
  | .gt => inferInstanceAs (Decidable (b < a))
  | .gte => inferInstanceAs (Decidable (b ≤ a))
  | .lt => inferInstanceAs (Decidable (a < b))
  | .lte => inferInstanceAs (Decidable (a ≤ b))

namespace Evaluation

/-- Whether rounding leaves two integers apart, unless they are one. -/
def ToldApart (a b : Int) : Prop := a = b ∨ Binary64.nearestInt a ≠ Binary64.nearestInt b

theorem ToldApart.of_short {a b : Int} (short : a.natAbs ≤ 1 <<< 53)
    (short' : b.natAbs ≤ 1 <<< 53) : ToldApart a b := by
  unfold ToldApart
  rw [Binary64.nearestInt_of_natAbs_le short, Binary64.nearestInt_of_natAbs_le short']
  exact Decidable.em (a = b)

theorem ToldApart.of_distant {a b : Int} (small : a.natAbs < 1 <<< 64)
    (small' : b.natAbs < 1 <<< 64) (distant : 2048 < (a - b).natAbs) : ToldApart a b := by
  right
  rcases Int.lt_or_gt_of_ne (show a ≠ b by rintro rfl; simp at distant) with below | above
  · exact (Binary64.nearestInt_lt small small' (by omega)).ne
  · exact (Binary64.nearestInt_lt small' small (by omega)).ne'

/-- Integers that are told apart are in the order of their roundings. -/
theorem ToldApart.le_of_nearest {a b : Int} (apart : ToldApart a b)
    (below : Binary64.nearestInt a ≤ Binary64.nearestInt b) : a ≤ b := by
  by_contra above
  have reverse := Binary64.nearestInt_mono (show b ≤ a by omega)
  rcases apart with same | different <;> omega

theorem ToldApart.symm {a b : Int} (apart : ToldApart a b) : ToldApart b a :=
  apart.imp Eq.symm Ne.symm

/-- Rounding keeps what all comparisons make of two integers exactly if it tells them apart. -/
theorem relates_nearest_iff (a b : Int) :
    (∀ comparison : Comparison,
      comparison.relates (Binary64.nearestInt a) (Binary64.nearestInt b) ↔ comparison.relates a b) ↔
        ToldApart a b := by
  constructor
  · intro kept
    have equal := kept .eq
    by_cases same : Binary64.nearestInt a = Binary64.nearestInt b
    · exact .inl (equal.mp same)
    · exact .inr same
  · intro apart comparison
    have below : Binary64.nearestInt a ≤ Binary64.nearestInt b ↔ a ≤ b :=
      ⟨apart.le_of_nearest, Binary64.nearestInt_mono⟩
    have above : Binary64.nearestInt b ≤ Binary64.nearestInt a ↔ b ≤ a :=
      ⟨apart.symm.le_of_nearest, Binary64.nearestInt_mono⟩
    cases comparison <;> simp only [Comparison.relates] <;> omega

theorem sameValue_eq (a b : Binary64) : a.sameValue b = (Binary64.compareValues a b == .eq) := by
  unfold Binary64.sameValue Binary64.compareValues
  by_cases same : a.rank = b.rank
  · rw [same, compare_eq_iff_eq.mpr rfl]
    simp
  · simp [same]

variable {a b : Int}

theorem natAbs_lt_of_fits (fits : -(UInt64.size / 2 : Int) ≤ a ∧ a < UInt64.size) :
    a.natAbs < 1 <<< 64 := by
  have size : (UInt64.size : Int) = 1 <<< 64 := rfl
  omega

theorem compareNumbers_integers (fits fits') :
    compareNumbers (.integer a fits) (.integer b fits') =
      compare (Binary64.nearestInt a) (Binary64.nearestInt b) :=
  Binary64.compareValues_ofInt (natAbs_lt_of_fits fits).le (natAbs_lt_of_fits fits').le

/-- A comparison of two integers is one of their roundings. -/
theorem compareBy_integers (comparison : Comparison) (fits fits') :
    compareBy comparison.op (.number (.integer a fits)) (.number (.integer b fits')) =
      decide (comparison.relates (Binary64.nearestInt a) (Binary64.nearestInt b)) := by
  have order := compareNumbers_integers fits fits'
  have same : equal (.number (.integer a fits)) (.number (.integer b fits')) =
      (compare (Binary64.nearestInt a) (Binary64.nearestInt b) == .eq) := by
    rw [← order]
    exact sameValue_eq _ _
  rw [Bool.eq_iff_iff, decide_eq_true_iff]
  rcases Int.lt_trichotomy (Binary64.nearestInt a) (Binary64.nearestInt b) with below | tie | above
  · rw [compare_lt_iff_lt.mpr below] at order same
    cases comparison <;>
      simp [compareBy, Comparison.op, Comparison.relates, rangeCompare?, order, same] <;> omega
  · rw [compare_eq_iff_eq.mpr tie] at order same
    cases comparison <;>
      simp [compareBy, Comparison.op, Comparison.relates, rangeCompare?, order, same, tie]
  · rw [compare_gt_iff_gt.mpr above] at order same
    cases comparison <;>
      simp [compareBy, Comparison.op, Comparison.relates, rangeCompare?, order, same] <;> omega

section Evaluated

variable {store : Store} {scope : Scope}

/-- A comparison of trees whose values are integers. -/
theorem eval_comparison {left right : Expr} {fits fits'} (stamp : Stamp) (comparison : Comparison)
    (first : eval store left scope = .ok (.number (.integer a fits)))
    (second : eval store right scope = .ok (.number (.integer b fits'))) :
    eval store (.binary stamp comparison.op left right) scope =
      .ok (.bool (decide (comparison.relates (Binary64.nearestInt a) (Binary64.nearestInt b)))) := by
  have proper : comparison.op ≠ .and ∧ comparison.op ≠ .or := by cases comparison <;> decide
  rw [eval_compared proper first second stamp, compareBy_integers]

/-- Rows in the order of their keys, which are integers, as far as rounding tells keys apart. -/
structure Ranked (before : Int → Int → Prop) (key : Value → Int) (rows sorted : List Value) :
    Prop where
  perm : sorted.Perm rows
  rounded : sorted.Pairwise fun x y =>
    before (Binary64.nearestInt (key x)) (Binary64.nearestInt (key y))
  exact : (∀ x ∈ rows, ∀ y ∈ rows, ToldApart (key x) (key y)) →
    sorted.Pairwise fun x y => before (key x) (key y)

variable {rows : List Value} {key : Value → Int}

theorem Ranked.of_sort {before : Int → Int → Prop} (cmp : Value → Value → Ordering)
    [Std.TransCmp cmp]
    (ordered : ∀ x ∈ rows, ∀ y ∈ rows, (cmp x y).isLE = true →
      before (Binary64.nearestInt (key x)) (Binary64.nearestInt (key y)))
    (kept : ∀ a b, ToldApart a b → before (Binary64.nearestInt a) (Binary64.nearestInt b) →
      before a b) : Ranked before key rows (stableSort cmp rows) := by
  have perm : (stableSort cmp rows).Perm rows := List.mergeSort_perm rows _
  have rounded : (stableSort cmp rows).Pairwise fun x y =>
      before (Binary64.nearestInt (key x)) (Binary64.nearestInt (key y)) :=
    (pairwise_stableSort rows).imp_of_mem fun first second below =>
      ordered _ (perm.mem_iff.mp first) _ (perm.mem_iff.mp second) below
  refine ⟨perm, rounded, fun apart => rounded.imp_of_mem fun first second below => ?_⟩
  exact kept _ _ (apart _ (perm.mem_iff.mp first) _ (perm.mem_iff.mp second)) below

/-- Whether the image of each row is the integer that is its key. -/
def Keyed (key : Value → Int) (image : Value → Value) (rows : List Value) : Prop :=
  ∀ row ∈ rows, ∃ fits, image row = .number (.integer (key row) fits)

variable {image : Value → Value}

theorem Keyed.compareValues (keyed : Keyed key image rows) {x y : Value} (first : x ∈ rows)
    (second : y ∈ rows) : Evaluation.compareValues (image x) (image y) =
      compare (Binary64.nearestInt (key x)) (Binary64.nearestInt (key y)) := by
  obtain ⟨fits, found⟩ := keyed x first
  obtain ⟨fits', found'⟩ := keyed y second
  rw [found, found']
  exact compareNumbers_integers fits fits'

theorem Keyed.ascending (keyed : Keyed key image rows) :
    Ranked (· ≤ ·) key rows (sortedBy Evaluation.compareValues rows (rows.map image)) := by
  rw [sortedBy_map]
  have lawful := transCmp_on Evaluation.compareValues image
  refine Ranked.of_sort _ (fun x first y second below => ?_) fun a b apart => apart.le_of_nearest
  rw [keyed.compareValues first second] at below
  exact Std.isLE_compare.mp below

theorem Keyed.descending (keyed : Keyed key image rows) :
    Ranked (· ≥ ·) key rows
      (sortedBy (fun a b => (Evaluation.compareValues a b).swap) rows (rows.map image)) := by
  rw [sortedBy_map]
  have lawful := transCmp_swap_on Evaluation.compareValues image
  refine Ranked.of_sort _ (fun x first y second below => ?_)
    fun a b apart => apart.symm.le_of_nearest
  rw [keyed.compareValues first second, Ordering.isLE_swap] at below
  exact Std.isGE_compare.mp below

theorem mapM_of_forall {α β : Type} {f : α → Option β} {g : α → β} {items : List α}
    (each : ∀ item ∈ items, f item = some (g item)) : items.mapM f = some (items.map g) := by
  induction items with
  | nil => rfl
  | cons item rest ih =>
    have others := ih fun other member => each other (List.mem_cons_of_mem _ member)
    rw [List.mapM_cons, each item List.mem_cons_self, others]
    rfl

variable {source selector : Expr}

/-- What a lambda makes of each row, where the images are integers. -/
theorem Keyed.of_apply
    (keyed : ∀ row ∈ rows, ∃ fits,
      apply store selector row scope = .ok (.number (.integer (key row) fits))) :
    ∃ image, Keyed key image rows ∧
      (rows.mapM fun row => image? store selector row scope) = some (rows.map image) := by
  have images : ∀ row ∈ rows, ∃ fits,
      image? store selector row scope = some (.number (.integer (key row) fits)) := by
    intro row listed
    obtain ⟨fits, found⟩ := keyed row listed
    exact ⟨fits, congrArg Except.toOption found⟩
  refine ⟨fun row => (image? store selector row scope).getD .null, fun row listed => ?_,
    mapM_of_forall fun row listed => ?_⟩
  · obtain ⟨fits, found⟩ := images row listed
    exact ⟨fits, congrArg (Option.getD · .null) found⟩
  · obtain ⟨fits, found⟩ := images row listed
    rw [found]
    rfl

/-- Sorting by a key that is an integer on each row. -/
theorem eval_ordering (stamp : Stamp) (rest : List Expr)
    (known : eval store source scope = .ok (.array rows))
    (keyed : ∀ row ∈ rows, ∃ fits,
      apply store selector row scope = .ok (.number (.integer (key row) fits))) :
    (∃ sorted, eval store (.call stamp .orderBy (source :: selector :: rest)) scope =
        .ok (.array sorted) ∧ Ranked (· ≤ ·) key rows sorted) ∧
      ∃ sorted, eval store (.call stamp .orderByDescending (source :: selector :: rest)) scope =
        .ok (.array sorted) ∧ Ranked (· ≥ ·) key rows sorted := by
  obtain ⟨image, integers, images⟩ := Keyed.of_apply keyed
  have listed : value? store source scope = some (.array rows) := congrArg Except.toOption known
  have outcome (method : Method) : value? store (.call stamp method (source :: selector :: rest))
      scope = operate? method rows (value? store selector scope) (some (rows.map image)) := by
    rw [value?_call, listed, ← images]
    rfl
  exact ⟨⟨_, eq_ok_of_toOption (outcome .orderBy), integers.ascending⟩,
    ⟨_, eq_ok_of_toOption (outcome .orderByDescending), integers.descending⟩⟩

end Evaluated

/-- Integers are compared and sorted by their roundings: as integers exactly if they are told apart,
as any two are that have at most 53 binary digits or lie farther than 2048 apart. -/
theorem integers_rounded (store : Store) (scope : Scope) :
    (∀ (left right : Expr) (a b : Int) (fits fits'),
      eval store left scope = .ok (.number (.integer a fits)) →
      eval store right scope = .ok (.number (.integer b fits')) →
      (∀ (stamp : Stamp) (comparison : Comparison),
        eval store (.binary stamp comparison.op left right) scope =
          .ok (.bool (decide (comparison.relates (Binary64.nearestInt a) (Binary64.nearestInt b))))) ∧
      ((∀ (stamp : Stamp) (comparison : Comparison),
        eval store (.binary stamp comparison.op left right) scope =
          .ok (.bool (decide (comparison.relates a b)))) ↔ ToldApart a b) ∧
      (a.natAbs ≤ 1 <<< 53 → b.natAbs ≤ 1 <<< 53 → ToldApart a b) ∧
      (2048 < (a - b).natAbs → ToldApart a b)) ∧
    ∀ (source selector : Expr) (rest : List Expr) (rows : List Value) (key : Value → Int),
      eval store source scope = .ok (.array rows) →
      (∀ row ∈ rows, ∃ fits,
        apply store selector row scope = .ok (.number (.integer (key row) fits))) →
      ∀ stamp : Stamp,
        (∃ sorted, eval store (.call stamp .orderBy (source :: selector :: rest)) scope =
          .ok (.array sorted) ∧ Ranked (· ≤ ·) key rows sorted) ∧
        ∃ sorted, eval store (.call stamp .orderByDescending (source :: selector :: rest)) scope =
          .ok (.array sorted) ∧ Ranked (· ≥ ·) key rows sorted := by
  constructor
  · intro left right a b fits fits' first second
    have outcome (stamp : Stamp) (comparison : Comparison) :=
      eval_comparison stamp comparison first second
    refine ⟨outcome, ?_, ToldApart.of_short,
      ToldApart.of_distant (natAbs_lt_of_fits fits) (natAbs_lt_of_fits fits')⟩
    rw [← relates_nearest_iff]
    constructor
    · intro exact comparison
      have same := (outcome default comparison).symm.trans (exact default comparison)
      simpa only [Except.ok.injEq, Value.bool.injEq, decide_eq_decide] using same
    · intro kept stamp comparison
      rw [outcome stamp comparison, decide_eq_decide.mpr (kept comparison)]
  · intro source selector rest rows key known keyed stamp
    exact eval_ordering stamp rest known keyed

theorem three_before_five :
    let three : Value := .number (.integer 3 (by decide))
    let five : Value := .number (.integer 5 (by decide))
    let rows : Expr := .value default (.array [five, three])
    let key : Value → Int := fun row => row.asNat?.getD 0
    let itself : Expr := .lambda default "n" (.parameter default "n")
    eval {} (.binary default .lt (.value default three) (.value default five)) [] =
        .ok (.bool true) ∧
      ∃ sorted, eval {} (.call default .orderBy [rows, itself]) [] = .ok (.array sorted) ∧
        sorted.Perm [five, three] ∧ sorted.Pairwise fun x y => key x ≤ key y := by
  intro three five rows key itself
  obtain ⟨compared, sorted⟩ := integers_rounded {} []
  obtain ⟨-, exact, short, -⟩ :=
    compared (.value default three) (.value default five) 3 5 (by decide) (by decide) rfl rfl
  obtain ⟨⟨sorted, evaluated, ranked⟩, -⟩ :=
    sorted rows itself [] [five, three] key rfl (by
      intro row listed
      rcases List.mem_pair.mp listed with rfl | rfl
      · exact ⟨by decide, rfl⟩
      · exact ⟨by decide, rfl⟩) default
  refine ⟨exact.mpr (short (by decide) (by decide)) default .lt, sorted, evaluated, ranked.perm, ?_⟩
  apply ranked.exact
  intro x first y second
  apply ToldApart.of_short
  · rcases List.mem_pair.mp first with rfl | rfl <;> decide
  · rcases List.mem_pair.mp second with rfl | rfl <;> decide

/-- Neighbouring integers of 54 binary digits are equal for the evaluator. -/
theorem neighbours_equal :
    let whole (n : Int) (fits) : Expr := .value default (.number (.integer n fits))
    let first := whole 9007199254740992 (by decide)
    let second := whole 9007199254740993 (by decide)
    evaluate {} (.binary default .eq first second) = .ok (.bool true) ∧
      ¬Comparison.eq.relates 9007199254740992 9007199254740993 := by
  have same : Comparison.eq.relates (Binary64.nearestInt 9007199254740992)
      (Binary64.nearestInt 9007199254740993) := by decide +kernel
  constructor
  · refine (eval_comparison default .eq rfl rfl).trans ?_
    rw [decide_eq_true same]
  · decide

end Evaluation

end QueryRewriting
