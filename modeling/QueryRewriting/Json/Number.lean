import QueryRewriting.Json.Shortest

/-!
Numbers: integers of 64 bits, and finite doubles. The two are different numbers even where their
values agree, and stay apart in text: a double always shows a point or an exponent. A literal
says which of the two it is, and is read here.
-/

namespace QueryRewriting.Json

/-- An integer that fits 64 bits with or without a sign, or a finite double. -/
inductive Number where
  | integer (value : Int) (fits : -(UInt64.size / 2) ≤ value ∧ value < UInt64.size)
  | double (value : Binary64)
  deriving DecidableEq

namespace Number

/-- The integer as a number, if it fits. -/
def ofInt? (value : Int) : Option Number :=
  if fits : -(UInt64.size / 2) ≤ value ∧ value < UInt64.size then some (.integer value fits) else none

/-- A 64-bit count as a number. -/
def ofUInt64 (value : UInt64) : Number :=
  .integer value.toNat (by have := value.toNat_lt_size; omega)

/-- The count that a number is, if it is an integer and not negative. -/
def toNat? : Number → Option Nat
  | .integer value _ => if 0 ≤ value then some value.toNat else none
  | .double _ => none

/-- The double nearest to a number. -/
def toBinary64 : Number → Binary64
  | .integer value _ => Binary64.ofInt value
  | .double value => value

/-- Equality of numbers of one kind; an integer never equals a double. -/
def same : Number → Number → Bool
  | .integer a _, .integer b _ => a == b
  | .double a, .double b => a.sameValue b
  | _, _ => false

/-- The text of a number. -/
def text : Number → List Char
  | .integer value _ => (toString value).toList
  | .double value => value.text

end Number

/-- The parts of a number literal, as decimal digits. -/
structure NumberLiteral where
  negative : Bool
  whole : List Nat
  fraction : Option (List Nat)
  exponent : Option Int

namespace NumberLiteral

/-- Appends digits to a significand while it stays within 64 bits. Also tells how many digits were
appended and how many were left. -/
def gather : Nat → List Nat → Nat × Nat × Nat
  | significand, [] => (significand, 0, 0)
  | significand, digit :: rest =>
    if significand * 10 + digit < UInt64.size then
      let (total, taken, left) := gather (significand * 10 + digit) rest
      (total, taken + 1, left)
    else (significand, 0, rest.length + 1)

/-- The largest power of ten that is a finite double. -/
def largestPower : Nat := 308

/-- Divides by the largest power of ten until the exponent is within its range or nothing is
left of the magnitude. The number of steps is bounded by the first argument. -/
def scaleDown : Nat → Nat → Nat → Nat
  | 0, magnitude, exponent =>
    Binary64.quotientMagnitude magnitude (Binary64.wholeMagnitude (Nat.pow 10 exponent))
  | steps + 1, magnitude, exponent =>
    if exponent ≤ largestPower then
      Binary64.quotientMagnitude magnitude (Binary64.wholeMagnitude (Nat.pow 10 exponent))
    else if magnitude = 0 then 0
    else
      scaleDown steps
        (Binary64.quotientMagnitude magnitude (Binary64.wholeMagnitude (Nat.pow 10 largestPower)))
        (exponent - largestPower)

/-- The magnitude of `significand * 10^exponent`: the significand is rounded first, then scaled by
one rounded multiplication or division by a power of ten. `none` if it is not finite. -/
def scaled (significand : Nat) (exponent : Int) : Option Nat :=
  let magnitude := Binary64.wholeMagnitude significand
  if magnitude = 0 then some 0
  else if exponent < 0 then
    some (scaleDown ((-exponent).toNat / largestPower) magnitude (-exponent).toNat)
  else if largestPower < exponent then none
  else
    let product := Binary64.productMagnitude magnitude
      (Binary64.wholeMagnitude (Nat.pow 10 exponent.toNat))
    if product < Binary64.infinity then some product else none

/-- The number that a literal denotes. Without point and exponent it is an integer if it fits,
except that minus zero is a double. Otherwise it is a double: digits are gathered into a 64-bit
significand, and a digit of the whole part that no longer fits counts as a power of ten, while the
rest of a fraction is dropped from the first digit that does not fit. `none` if the double would
not be finite. -/
def toNumber? (literal : NumberLiteral) : Option Number :=
  let (whole, _, left) := gather 0 literal.whole
  let double (significand : Nat) (exponent : Int) : Option Number := do
    let magnitude ← scaled significand exponent
    .double <$> Binary64.ofMagnitude? literal.negative magnitude
  match literal.fraction, literal.exponent with
  | none, none =>
    if left ≠ 0 then double whole left
    else if literal.negative then
      if whole = 0 then double 0 0
      else match Number.ofInt? (-(whole : Int)) with
        | some number => some number
        | none => double whole 0
    else Number.ofInt? whole
  | fraction, exponent =>
    let (significand, taken, _) := gather whole (fraction.getD [])
    double significand ((left : Int) - taken + exponent.getD 0)

end NumberLiteral

end QueryRewriting.Json
