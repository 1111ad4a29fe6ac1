import QueryRewriting.Json.Binary64

/-!
The decimal text of a double: the fewest digits that read back as the same double, and of those
digits the ones nearest to its value. Positional notation is used while the number is neither
very small nor very large and always shows a fractional digit.
-/

namespace QueryRewriting.Json

/-- The decimal number `digits * 10^exponent`. -/
structure Decimal where
  digits : Nat
  exponent : Int
  deriving DecidableEq

namespace Decimal

/-- The interval of reals that round to a magnitude, in halves of a unit. The ends belong to it
when the magnitude is even, since ties go to the even neighbour. -/
structure Basin where
  low : Nat
  value : Nat
  high : Nat
  closed : Bool

/-- The basin of a magnitude above zero. -/
def Basin.of (magnitude : Nat) : Basin where
  low := Binary64.units (magnitude - 1) + Binary64.units magnitude
  value := 2 * Binary64.units magnitude
  high := Binary64.units magnitude + Binary64.units (magnitude + 1)
  closed := magnitude % 2 == 0

/-- Whether `num / den` halves of a unit lie in the basin. -/
def Basin.holds (basin : Basin) (num den : Nat) : Bool :=
  if basin.closed then basin.low * den ≤ num && num ≤ basin.high * den
  else basin.low * den < num && num < basin.high * den

/-- A power of ten as a numerator and a denominator. -/
def powerOfTen (exponent : Int) : Nat × Nat :=
  (Nat.pow 10 exponent.toNat, Nat.pow 10 (-exponent).toNat)

/-- The multiple of `10^exponent` that lies in the basin and is nearest to its value, if there is
one. Only the two neighbours of the value can be it; of two equally near the even one counts. -/
def onGrid? (basin : Basin) (exponent : Int) : Option Nat :=
  let (num, den) := powerOfTen exponent
  let step := num * (2 * Binary64.unitsInOne)
  let value := basin.value * den
  let below := value / step
  let above := below + 1
  match basin.holds (below * step) den, basin.holds (above * step) den with
  | false, false => none
  | true, false => some below
  | false, true => some above
  | true, true =>
    let toBelow := value - below * step
    let toAbove := above * step - value
    some (if toBelow < toAbove then below else if toAbove < toBelow then above
      else if below % 2 == 0 then below else above)

/-- Tries finer and finer grids; the first one with a point in the basin gives the digits. -/
def coarsest (basin : Basin) : Nat → Int → Decimal
  | 0, exponent => ⟨0, exponent⟩
  | tries + 1, exponent =>
    match onGrid? basin exponent with
    | some digits => ⟨digits, exponent⟩
    | none => coarsest basin tries (exponent - 1)

/-- An exponent of ten not below that of the magnitude's first decimal digit. -/
def leadingExponent (magnitude : Nat) : Int :=
  (((Binary64.units magnitude).log2 : Int) - 1073) * 30103 / 100000 + 1

/-- The shortest decimal of a magnitude. The finest grid tried is finer than the spacing of the
smallest doubles, so one of the grids has a point. -/
def shortest (magnitude : Nat) : Decimal :=
  if magnitude = 0 then ⟨0, 0⟩
  else
    let start := leadingExponent magnitude
    coarsest (Basin.of magnitude) (start + 325).toNat start

/-- The digits of a number in base ten. -/
def digitChars (n : Nat) : List Char := Nat.toDigits 10 n

/-- Positional text with the point after `whole` digits, padded with zeros on either side so that
at least one digit stands before and after the point. -/
def positional (digits : List Char) (whole : Int) : List Char :=
  if whole ≤ 0 then '0' :: '.' :: (List.replicate (-whole).toNat '0' ++ digits)
  else
    let count := whole.toNat
    let before := digits.take count ++ List.replicate (count - digits.length) '0'
    match digits.drop count with
    | [] => before ++ ['.', '0']
    | after => before ++ '.' :: after

/-- Scientific text: one digit before the point, the sign of the exponent always written. -/
def scientific (digits : List Char) (exponent : Int) : List Char :=
  let mantissa := match digits with
    | [] => []
    | [digit] => [digit]
    | digit :: more => digit :: '.' :: more
  let sign := if exponent < 0 then '-' else '+'
  mantissa ++ 'e' :: sign :: digitChars exponent.natAbs

/-- The text of a decimal: positional while its first digit counts at least `10^-5` and at most
`10^15`. -/
def text (decimal : Decimal) : List Char :=
  let digits := digitChars decimal.digits
  let leading := decimal.exponent + digits.length - 1
  if -5 ≤ leading ∧ leading ≤ 15 then positional digits (leading + 1)
  else scientific digits leading

end Decimal

/-- The text of a double. -/
def Binary64.text (d : Binary64) : List Char :=
  let magnitude := (Decimal.shortest d.magnitude).text
  if d.negative then '-' :: magnitude else magnitude

end QueryRewriting.Json
