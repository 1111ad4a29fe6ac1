import QueryRewriting.Json.Value

/-!
Comparing values. Equality takes numbers by value and everything else as it is. A range comparison
holds between two numbers or two strings only. The order for sorting is total: kinds come one
after the other, and two arrays or two objects rank equal.
-/

namespace QueryRewriting.Evaluation

open Json

/-- Whether a value is the truth value true. Nothing else counts as true. -/
def isTrue : Value → Bool
  | .bool true => true
  | _ => false

/-- The order of numbers by the doubles nearest to them. -/
def compareNumbers (a b : Number) : Ordering :=
  Binary64.compareValues a.toBinary64 b.toBinary64

/-- The order of strings by their characters. -/
def compareStrings (a b : String) : Ordering :=
  if a < b then .lt else if a = b then .eq else .gt

/-- Equality of values. -/
def equal : Value → Value → Bool
  | .number a, .number b => a.toBinary64.sameValue b.toBinary64
  | a, b => a.same b

/-- The outcome of a range comparison, if the values can be compared. -/
def rangeCompare? : Value → Value → Option Ordering
  | .number a, .number b => some (compareNumbers a b)
  | .string a, .string b => some (compareStrings a b)
  | _, _ => none

/-- The place of a value's kind in the order for sorting. -/
def kindRank : Value → Nat
  | .null => 0
  | .bool _ => 1
  | .number _ => 2
  | .string _ => 3
  | .array _ => 4
  | .object _ => 5

/-- The order for sorting. -/
def compareValues : Value → Value → Ordering
  | .bool a, .bool b => compare a.toNat b.toNat
  | .number a, .number b => compareNumbers a b
  | .string a, .string b => compareStrings a b
  | a, b => compare (kindRank a) (kindRank b)

end QueryRewriting.Evaluation
