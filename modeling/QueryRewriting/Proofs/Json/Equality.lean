import Mathlib.Data.List.Forall2
import QueryRewriting.Json.Value

/-! Equality of values as identity of canonical values. A canonical value has no zero with a sign, the
only thing in which equal values may differ. -/
namespace QueryRewriting.Json

/-- The double of the same value with the sign of the value, which a zero has not. -/
def Binary64.canonical (d : Binary64) : Binary64 := { d with negative := decide (d.rank < 0) }

theorem Binary64.natAbs_rank (d : Binary64) : d.rank.natAbs = d.magnitude := by
  unfold rank
  split <;> simp

theorem Binary64.sameValue_iff {a b : Binary64} :
    a.sameValue b = true ↔ a.canonical = b.canonical := by
  have first := a.natAbs_rank
  have second := b.natAbs_rank
  simp only [sameValue, canonical, beq_iff_eq, mk.injEq, decide_eq_decide]
  omega

/-- The number of the same kind and value whose zero has no sign. -/
def Number.canonical : Number → Number
  | .integer value fits => .integer value fits
  | .double value => .double value.canonical

theorem Number.same_iff {a b : Number} : a.same b = true ↔ a.canonical = b.canonical := by
  cases a with
  | integer a fits =>
    cases b with
    | integer b fits' => simp [same, canonical]
    | double b => simp [same, canonical]
  | double a =>
    cases b with
    | integer b fits' => simp [same, canonical]
    | double b => simpa [same, canonical] using Binary64.sameValue_iff

namespace Value

mutual

/-- The value with no sign on a zero, at any depth. -/
def canonical : Value → Value
  | .number value => .number value.canonical
  | .array items => .array (canonicalItems items)
  | .object members => .object (canonicalMembers members)
  | value => value

/-- The items of an array, with no sign on a zero. -/
def canonicalItems : List Value → List Value
  | [] => []
  | value :: rest => canonical value :: canonicalItems rest

/-- The members of an object, with no sign on a zero. -/
def canonicalMembers : List (String × Value) → List (String × Value)
  | [] => []
  | (key, value) :: rest => (key, canonical value) :: canonicalMembers rest

end

mutual

theorem same_iff : (a b : Value) → (same a b = true ↔ canonical a = canonical b)
  | .array a, .array b => by simp [same, canonical, sameItems_iff a b]
  | .object a, .object b => by simp [same, canonical, sameMembers_iff a b]
  | .number a, b => by cases b <;> simp [same, canonical, Number.same_iff]
  | .null, b => by cases b <;> simp [same, canonical]
  | .bool _, b => by cases b <;> simp [same, canonical]
  | .string _, b => by cases b <;> simp [same, canonical]
  | .array _, .null | .array _, .bool _ | .array _, .number _ | .array _, .string _
  | .array _, .object _ => by simp [same, canonical]
  | .object _, .null | .object _, .bool _ | .object _, .number _ | .object _, .string _
  | .object _, .array _ => by simp [same, canonical]

theorem sameItems_iff : (a b : List Value) →
    (sameItems a b = true ↔ canonicalItems a = canonicalItems b)
  | [], b => by cases b <;> simp [sameItems, canonicalItems]
  | _ :: _, [] => by simp [sameItems, canonicalItems]
  | a :: as, b :: bs => by simp [sameItems, canonicalItems, same_iff a b, sameItems_iff as bs]

theorem sameMembers_iff : (a b : List (String × Value)) →
    (sameMembers a b = true ↔ canonicalMembers a = canonicalMembers b)
  | [], b => by cases b <;> simp [sameMembers, canonicalMembers]
  | _ :: _, [] => by simp [sameMembers, canonicalMembers]
  | (k, a) :: as, (l, b) :: bs => by
    simp [sameMembers, canonicalMembers, same_iff a b, sameMembers_iff as bs]

end

theorem sameItems_iff_forall₂ {as bs : List Value} :
    sameItems as bs = true ↔ List.Forall₂ (fun a b => same a b = true) as bs := by
  induction as generalizing bs with
  | nil => cases bs <;> simp [sameItems]
  | cons a as ih => cases bs <;> simp [sameItems, ih]

theorem sameMembers_iff_forall₂ {as bs : List (String × Value)} :
    sameMembers as bs = true ↔
      List.Forall₂ (fun a b => a.1 = b.1 ∧ same a.2 b.2 = true) as bs := by
  induction as generalizing bs with
  | nil => cases bs <;> simp [sameMembers]
  | cons a as ih => cases bs <;> simp [sameMembers, ih, and_assoc]

end Value

end QueryRewriting.Json
