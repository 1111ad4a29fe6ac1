/-!
Finite binary64 numbers, without machine arithmetic. Every one of them is a whole number of
`units`, the unit being 2^-1074, so exact values are natural numbers and rounding is one
division. Magnitudes are numbered upwards from zero: the number of a magnitude is its bit
pattern, and comparing numbers compares values.
-/

namespace QueryRewriting.Json

/-- A finite double: a sign, and the number of its magnitude counted upwards from zero. -/
structure Binary64 where
  negative : Bool
  magnitude : Nat
  finite : magnitude < 2047 <<< 52
  deriving DecidableEq

namespace Binary64

/-- The number that the magnitude after the largest finite one would have. -/
def infinity : Nat := 2047 <<< 52

/-- How often the unit of a magnitude's last place is doubled. The two lowest exponents, the
subnormal one included, share the smallest unit. -/
def doublings (magnitude : Nat) : Nat := magnitude >>> 52 - 1

/-- The value of a magnitude in units. -/
def units (magnitude : Nat) : Nat :=
  (magnitude - doublings magnitude <<< 52) <<< doublings magnitude

/-- The integer nearest to a quotient; a tie goes to the even one. -/
def nearest (num den : Nat) : Nat :=
  let quotient := num / den
  let twice := 2 * (num % den)
  if twice < den then quotient
  else if den < twice then quotient + 1
  else quotient + quotient % 2

/-- The magnitude nearest to `num / den` units; a tie goes to the even one. It is at least
`infinity` where the nearest magnitude is not finite. -/
def rounded (num den : Nat) : Nat :=
  let doublings := (num / den).log2 - 52
  doublings <<< 52 + nearest num (den <<< doublings)

/-- The number of units in one. -/
def unitsInOne : Nat := 1 <<< 1074

/-- The magnitude nearest to a whole number. -/
def wholeMagnitude (n : Nat) : Nat := rounded (n * unitsInOne) 1

/-- The rounded product of two magnitudes. -/
def productMagnitude (a b : Nat) : Nat := rounded (units a * units b) unitsInOne

/-- The rounded quotient of two magnitudes, the second not zero. -/
def quotientMagnitude (a b : Nat) : Nat := rounded (units a * unitsInOne) (units b)

/-- The double with this sign and magnitude, unless the magnitude is infinite. -/
def ofMagnitude? (negative : Bool) (magnitude : Nat) : Option Binary64 :=
  if finite : magnitude < 2047 <<< 52 then some ⟨negative, magnitude, finite⟩ else none

/-- The double nearest to an integer. Integers too large for that become the largest double;
none that a number can hold is so large. -/
def ofInt (n : Int) : Binary64 :=
  ⟨decide (n < 0), min (wholeMagnitude n.natAbs) (infinity - 1), by unfold infinity; omega⟩

/-- An integer that orders doubles by value. Both zeros have rank zero. -/
def rank (d : Binary64) : Int :=
  if d.negative then -(d.magnitude : Int) else d.magnitude

/-- Equality of values: the two zeros are equal. -/
def sameValue (a b : Binary64) : Bool := a.rank == b.rank

/-- The order of values. -/
def compareValues (a b : Binary64) : Ordering := compare a.rank b.rank

end Binary64

end QueryRewriting.Json
