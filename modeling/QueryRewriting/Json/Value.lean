import QueryRewriting.Entries
import QueryRewriting.Json.Number

/-!
JSON values. The members of an object are a map, so their order and repetition in a text do not
matter.
-/

namespace QueryRewriting.Json

/-- A JSON value; the members of an object are in increasing order of their keys. -/
inductive Value where
  | null
  | bool (value : Bool)
  | number (value : Number)
  | string (value : String)
  | array (items : List Value)
  | object (members : List (String × Value))
  deriving Inhabited

namespace Value

/-- The object with these members; of two members with one key the later counts. -/
def ofMembers (members : List (String × Value)) : Value :=
  .object (Entries.ofList members)

/-- A count as a value. -/
def ofUInt64 (n : UInt64) : Value := .number (.ofUInt64 n)

/-- The string, or `null`. -/
def ofString? : Option String → Value
  | some text => .string text
  | none => .null

/-- The string that a value is. -/
def asString? : Value → Option String
  | .string text => some text
  | _ => none

/-- The truth value that a value is. -/
def asBool? : Value → Option Bool
  | .bool value => some value
  | _ => none

/-- The count that a value is. -/
def asNat? : Value → Option Nat
  | .number n => n.toNat?
  | _ => none

/-- The items of an array; what is no array has none. -/
def itemsOf : Value → List Value
  | .array items => items
  | _ => []

/-- The members of an object; what is no object has none. -/
def membersOf : Value → List (String × Value)
  | .object members => members
  | _ => []

/-- The value of a member; `none` for what is not an object and for an absent key. -/
def member? (value : Value) (key : String) : Option Value :=
  match value with
  | .object members => Entries.find? members key
  | _ => none

mutual

/-- Equality of values. Numbers are equal within their kind only, so `1` and `1.0` differ, at any
depth. -/
def same : Value → Value → Bool
  | .null, .null => true
  | .bool a, .bool b => a == b
  | .number a, .number b => a.same b
  | .string a, .string b => a == b
  | .array a, .array b => sameItems a b
  | .object a, .object b => sameMembers a b
  | _, _ => false

/-- Whether two arrays have equal items. -/
def sameItems : List Value → List Value → Bool
  | [], [] => true
  | a :: as, b :: bs => same a b && sameItems as bs
  | _, _ => false

/-- Whether two objects have the same keys with equal values. -/
def sameMembers : List (String × Value) → List (String × Value) → Bool
  | [], [] => true
  | (k, a) :: as, (l, b) :: bs => k == l && same a b && sameMembers as bs
  | _, _ => false

end

mutual

/-- Whether two values are one and the same value, the sign of a zero included. -/
def identical : Value → Value → Bool
  | .null, .null => true
  | .bool a, .bool b => a == b
  | .number a, .number b => a == b
  | .string a, .string b => a == b
  | .array a, .array b => identicalItems a b
  | .object a, .object b => identicalMembers a b
  | _, _ => false

/-- Whether two arrays are one and the same. -/
def identicalItems : List Value → List Value → Bool
  | [], [] => true
  | a :: as, b :: bs => identical a b && identicalItems as bs
  | _, _ => false

/-- Whether two objects are one and the same. -/
def identicalMembers : List (String × Value) → List (String × Value) → Bool
  | [], [] => true
  | (k, a) :: as, (l, b) :: bs => k == l && identical a b && identicalMembers as bs
  | _, _ => false

end

mutual

theorem identical_iff : (a b : Value) → (identical a b = true ↔ a = b)
  | .array a, .array b => by simp [identical, identicalItems_iff a b]
  | .object a, .object b => by simp [identical, identicalMembers_iff a b]
  | .null, b => by cases b <;> simp [identical]
  | .bool _, b => by cases b <;> simp [identical]
  | .number _, b => by cases b <;> simp [identical]
  | .string _, b => by cases b <;> simp [identical]
  | .array _, .null | .array _, .bool _ | .array _, .number _ | .array _, .string _
  | .array _, .object _ => by simp [identical]
  | .object _, .null | .object _, .bool _ | .object _, .number _ | .object _, .string _
  | .object _, .array _ => by simp [identical]

theorem identicalItems_iff : (a b : List Value) → (identicalItems a b = true ↔ a = b)
  | [], b => by cases b <;> simp [identicalItems]
  | a :: as, [] => by simp [identicalItems]
  | a :: as, b :: bs => by simp [identicalItems, identical_iff a b, identicalItems_iff as bs]

theorem identicalMembers_iff :
    (a b : List (String × Value)) → (identicalMembers a b = true ↔ a = b)
  | [], b => by cases b <;> simp [identicalMembers]
  | (k, a) :: as, [] => by simp [identicalMembers]
  | (k, a) :: as, (l, b) :: bs => by
    simp [identicalMembers, identical_iff a b, identicalMembers_iff as bs]

end

instance : DecidableEq Value := fun a b =>
  decidable_of_iff (identical a b = true) (identical_iff a b)

end Value

end QueryRewriting.Json
