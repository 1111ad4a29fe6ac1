import QueryRewriting.Proofs.Entries
import QueryRewriting.Proofs.Evaluation.Meaning
import QueryRewriting.Proofs.Json.Equality

/-! What `==` and `!=` take for equal: an equivalence, by the values of numbers at the top and by their
kinds as well inside of arrays and objects. So it is a congruence only as far as numbers at one place
are of one kind. -/
namespace QueryRewriting.Evaluation

open Json

/-- What equality looks at: of a number the double nearest to it, of every other value all of it. -/
def comparand : Value → Value
  | .number value => .number (.double value.toBinary64.canonical)
  | value => value.canonical

theorem equal_iff_comparand {a b : Value} : equal a b = true ↔ comparand a = comparand b := by
  cases a with
  | number a =>
    cases b with
    | number b => simpa [equal, comparand] using Binary64.sameValue_iff
    | _ => simp [equal, comparand, Value.same, Value.canonical]
  | _ => cases b <;> simp [equal, comparand, Value.same_iff, Value.canonical]

/-- Whether two values, if both are numbers, are one number of one kind. -/
def Alike : Value → Value → Prop
  | .number a, .number b => a.same b = true
  | _, _ => True

theorem sameValue_of_same {a b : Number} (same : a.same b = true) :
    a.toBinary64.sameValue b.toBinary64 = true := by
  cases a with
  | integer a fits =>
    cases b with
    | integer b fits' =>
      obtain rfl : a = b := by simpa [Number.same] using same
      exact Binary64.sameValue_iff.mpr rfl
    | double b => contradiction
  | double a =>
    cases b with
    | integer b fits' => contradiction
    | double b => exact same

/-- Inside of arrays and objects numbers have to be of one kind besides. -/
theorem same_iff_equal {a b : Value} : a.same b = true ↔ equal a b = true ∧ Alike a b := by
  cases a with
  | number a =>
    cases b with
    | number b => exact ⟨fun same => ⟨sameValue_of_same same, same⟩, And.right⟩
    | _ => simp [equal, Alike]
  | _ => cases b <;> simp [equal, Alike]

theorem equal_arrays_iff {as bs : List Value} :
    equal (.array as) (.array bs) = true ↔
      List.Forall₂ (fun a b => equal a b = true ∧ Alike a b) as bs := by
  simp only [← same_iff_equal]
  exact Value.sameItems_iff_forall₂

theorem equal_objects_iff {as bs : Entries Value} (sorted : as.Sorted) (sorted' : bs.Sorted) :
    equal (.object as) (.object bs) = true ↔
      ∀ key, Option.Rel (fun a b => equal a b = true ∧ Alike a b) (as.find? key) (bs.find? key) := by
  rw [← Entries.forall₂_iff_find? sorted sorted']
  simp only [← same_iff_equal]
  exact Value.sameMembers_iff_forall₂

/-- What `==` takes for equal, and `!=` for different, is an equivalence. Arrays are equal if they are so
item by item and objects if they are so key by key, and if numbers at one place are of one kind. -/
theorem equality_structural (store : Store) (scope : Scope) :
    (∀ (left right : Expr) (a b : Value), eval store left scope = .ok a →
      eval store right scope = .ok b → ∀ stamp : Stamp,
      eval store (.binary stamp .eq left right) scope = .ok (.bool (equal a b)) ∧
      eval store (.binary stamp .ne left right) scope = .ok (.bool !equal a b)) ∧
    (∀ a, equal a a = true) ∧
    (∀ a b, equal a b = true → equal b a = true) ∧
    (∀ a b c, equal a b = true → equal b c = true → equal a c = true) ∧
    (∀ as bs, equal (.array as) (.array bs) = true ↔
      List.Forall₂ (fun a b => equal a b = true ∧ Alike a b) as bs) ∧
    ∀ as bs : Entries Value, as.Sorted → bs.Sorted →
      (equal (.object as) (.object bs) = true ↔ ∀ key,
        Option.Rel (fun a b => equal a b = true ∧ Alike a b) (as.find? key) (bs.find? key)) := by
  refine ⟨?_, ?_, ?_, ?_, fun as bs => equal_arrays_iff, fun as bs => equal_objects_iff⟩
  · intro left right a b first second stamp
    exact ⟨eval_compared (by decide) first second stamp, eval_compared (by decide) first second stamp⟩
  · intro a
    exact equal_iff_comparand.mpr rfl
  · intro a b same
    exact equal_iff_comparand.mpr (equal_iff_comparand.mp same).symm
  · intro a b c first second
    exact equal_iff_comparand.mpr
      ((equal_iff_comparand.mp first).trans (equal_iff_comparand.mp second))

/-- The integer zero and the two zeros among the doubles. -/
theorem zeros_equal :
    let zero : Value := .number (.integer 0 (by decide))
    let positive : Value := .number (.double ⟨false, 0, by decide⟩)
    let negative : Value := .number (.double ⟨true, 0, by decide⟩)
    let row (x : Value) : Expr := .value default (.object [("x", x), ("y", .null)])
    equal zero negative = true ∧ equal negative positive = true ∧
      eval {} (.binary default .eq (row positive) (row negative)) [] = .ok (.bool true) := by
  intro zero positive negative row
  obtain ⟨outcome, -, symm, trans, -, objects⟩ := equality_structural {} []
  have first : equal zero positive = true := by decide +kernel
  have second : equal positive negative = true := by decide +kernel
  have sorted (x : Value) : Entries.Sorted [("x", x), ("y", .null)] := by
    change List.Pairwise _ ["x", "y"]
    decide
  have same : equal (.object [("x", positive), ("y", .null)])
      (.object [("x", negative), ("y", .null)]) = true := by
    rw [objects _ _ (sorted _) (sorted _), ← Entries.forall₂_iff_find? (sorted _) (sorted _)]
    exact .cons ⟨rfl, second, rfl⟩ (.cons ⟨rfl, rfl, trivial⟩ .nil)
  refine ⟨trans zero positive negative first second, symm positive negative second, ?_⟩
  rw [(outcome (row positive) (row negative) _ _ rfl rfl default).1, same]

/-- The integer one equals the double one, but an array of the one does not equal an array of the
other. -/
theorem ones_in_arrays_differ :
    let one : Value := .number (.integer 1 (by decide))
    let double : Value := .number (.double ⟨false, 1023 <<< 52, by decide⟩)
    let compared (a b : Value) := evaluate {} (.binary default .eq (.value default a) (.value default b))
    compared one double = .ok (.bool true) ∧
      compared (.array [one]) (.array [double]) = .ok (.bool false) ∧
      ¬∀ as bs, equal (.array as) (.array bs) = true ↔
        List.Forall₂ (fun a b => equal a b = true) as bs := by
  intro one double compared
  have same : equal one double = true := by decide +kernel
  have different : equal (.array [one]) (.array [double]) = false := by decide +kernel
  have outcome (a b : Value) : compared a b = .ok (.bool (equal a b)) :=
    eval_compared (show BinaryOp.eq ≠ .and ∧ BinaryOp.eq ≠ .or by decide) rfl rfl default
  refine ⟨?_, ?_, ?_⟩
  · rw [outcome, same]
  · rw [outcome, different]
  · intro structural
    have alike := (structural [one] [double]).mpr (.cons same .nil)
    exact Bool.false_ne_true (different.symm.trans alike)

end QueryRewriting.Evaluation
