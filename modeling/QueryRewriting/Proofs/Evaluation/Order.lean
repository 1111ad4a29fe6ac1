import QueryRewriting.Proofs.Evaluation.Integers

/-! One order for sorting and for comparisons. It is a total preorder over the values of all kinds, and
where values can be compared it decides what each comparison comes to. -/
namespace QueryRewriting.Evaluation

open Json

/-- Two numbers or two strings. -/
inductive Comparable : Value → Value → Prop
  | numbers (a b : Number) : Comparable (.number a) (.number b)
  | strings (a b : String) : Comparable (.string a) (.string b)

theorem compareStrings_eq_iff {a b : String} : compareStrings a b = .eq ↔ a = b := by
  unfold compareStrings
  by_cases below : a < b
  · simp [below, String.ne_of_lt below]
  · by_cases same : a = b <;> simp [below, same]

/-- A range comparison is made between comparable values, and by the order for sorting. -/
theorem rangeCompare?_eq_some_iff {a b : Value} {order : Ordering} :
    rangeCompare? a b = some order ↔ Comparable a b ∧ compareValues a b = order := by
  constructor
  · intro compared
    unfold rangeCompare? at compared
    split at compared
    · exact ⟨.numbers _ _, Option.some.inj compared⟩
    · exact ⟨.strings _ _, Option.some.inj compared⟩
    · contradiction
  · rintro ⟨numbers | strings, rfl⟩ <;> rfl

/-- Comparable values are equal exactly if neither is before the other. -/
theorem Comparable.equal_eq {a b : Value} (comparable : Comparable a b) :
    equal a b = (compareValues a b == .eq) := by
  cases comparable with
  | numbers a b => exact sameValue_eq _ _
  | strings a b =>
    rw [Bool.eq_iff_iff, beq_iff_eq]
    exact beq_iff_eq.trans compareStrings_eq_iff.symm

theorem compareValues_of_equal {a b : Value} (same : equal a b = true) :
    compareValues a b = .eq := by
  cases a <;> cases b <;> try contradiction
  case null.null => rfl
  case bool.bool a b =>
    obtain rfl : a = b := beq_iff_eq.mp same
    exact compare_eq_iff_eq.mpr rfl
  case number.number a b =>
    rwa [(Comparable.numbers a b).equal_eq, beq_iff_eq] at same
  case string.string a b =>
    rwa [(Comparable.strings a b).equal_eq, beq_iff_eq] at same
  case array.array => rfl
  case object.object => rfl

/-- Rounding may let integers tie, but never turns them around. -/
theorem compareValues_integers_isLE {a b : Int} (fits fits') (below : a ≤ b) :
    (compareValues (.number (.integer a fits)) (.number (.integer b fits'))).isLE = true := by
  have order : compareValues (.number (.integer a fits)) (.number (.integer b fits')) =
    compare (Binary64.nearestInt a) (Binary64.nearestInt b) := compareNumbers_integers fits fits'
  rw [order]
  exact Std.isLE_compare.mpr (Binary64.nearestInt_mono below)

theorem Comparable.exactly_one {a b : Value} (comparable : Comparable a b) :
    ∃ op ∈ [BinaryOp.lt, .eq, .gt], ∀ other ∈ [BinaryOp.lt, .eq, .gt],
      compareBy other a b = decide (other = op) := by
  have same := comparable.equal_eq
  have range := rangeCompare?_eq_some_iff.mpr ⟨comparable, rfl⟩
  cases order : compareValues a b with
  | lt =>
    rw [order] at same range
    exact ⟨.lt, by simp, by simp [compareBy, same, range]⟩
  | eq =>
    rw [order] at same range
    exact ⟨.eq, by simp, by simp [compareBy, same, range]⟩
  | gt =>
    rw [order] at same range
    exact ⟨.gt, by simp, by simp [compareBy, same, range]⟩

/-- The order for sorting is a total preorder that agrees with the comparisons, equality included, and
with the order of integers. Of two numbers or two strings exactly one of `<`, `==` and `>` is true. -/
theorem order_consistent (store : Store) (scope : Scope) :
    (∀ a b, compareValues a b = (compareValues b a).swap) ∧
    (∀ a b c, (compareValues a b).isLE = true → (compareValues b c).isLE = true →
      (compareValues a c).isLE = true) ∧
    (∀ a b order, rangeCompare? a b = some order → compareValues a b = order) ∧
    (∀ a b, equal a b = true → compareValues a b = .eq) ∧
    (∀ (a b : Int) (fits fits'), a ≤ b →
      (compareValues (.number (.integer a fits)) (.number (.integer b fits'))).isLE = true) ∧
    ∀ (left right : Expr) (a b : Value), eval store left scope = .ok a →
      eval store right scope = .ok b → Comparable a b →
      ∃ op ∈ [BinaryOp.lt, .eq, .gt], ∀ other ∈ [BinaryOp.lt, .eq, .gt], ∀ stamp : Stamp,
        eval store (.binary stamp other left right) scope = .ok (.bool (decide (other = op))) := by
  refine ⟨fun a b => Std.OrientedCmp.eq_swap, fun a b c => Std.TransCmp.isLE_trans, ?_,
    fun a b => compareValues_of_equal, fun a b => compareValues_integers_isLE, ?_⟩
  · intro a b order compared
    exact (rangeCompare?_eq_some_iff.mp compared).2
  · intro left right a b first second comparable
    obtain ⟨op, listed, exact⟩ := comparable.exactly_one
    refine ⟨op, listed, fun other listed' stamp => ?_⟩
    have proper : other ≠ .and ∧ other ≠ .or := by
      constructor <;> rintro rfl <;> contradiction
    rw [eval_compared proper first second stamp, exact other listed']

/-- An integer ties with the double of its value, and stands between `null` and a string. -/
theorem mixed_values_ordered :
    let one : Value := .number (.integer 1 (by decide))
    let same : Value := .number (.double ⟨false, 1023 <<< 52, by decide⟩)
    let more : Value := .number (.double ⟨false, 1023 <<< 52 + 1 <<< 51, by decide⟩)
    (compareValues .null (.string "1")).isLE = true ∧ compareValues same one = .eq ∧
      compareValues one more = .lt ∧
      ∃ op, op ≠ .ne ∧ eval {} (.binary default op (.value default more) (.value default one)) [] =
        .ok (.bool true) := by
  intro one same more
  obtain ⟨reverse, trans, ranges, ties, -, decides⟩ := order_consistent {} []
  have first : (compareValues .null one).isLE = true := by decide
  have second : (compareValues one (.string "1")).isLE = true := by decide
  have equal : equal one same = true := by decide +kernel
  have less : rangeCompare? one more = some .lt := by decide +kernel
  refine ⟨trans .null one (.string "1") first second, ?_, ranges one more .lt less, ?_⟩
  · rw [reverse, ties one same equal]
    rfl
  · obtain ⟨op, listed, outcome⟩ :=
      decides (.value default more) (.value default one) more one rfl rfl (.numbers _ _)
    have holds := outcome op listed default
    rw [decide_eq_true rfl] at holds
    have proper : op ≠ .ne := by
      rintro rfl
      simp at listed
    exact ⟨op, proper, holds⟩

end QueryRewriting.Evaluation
