/-
# RecordQuery.Number.Shortest -- the fewest decimal digits that identify a number

The magnitude of rank `r` owns the interval of values that round to it: from the
midpoint with the rank below to the midpoint with the rank above, the ends
included when the rank is even.  `shortestDigits r` is the shortest decimal in
that interval, and of the shortest ones the nearest to the magnitude itself.

For every digit count from one up, the two decimals of that many digits next to
the magnitude are tried; if any decimal of that count lies in the interval, one of
these two does.  Seventeen digits always suffice.
-/
import RecordQuery.Number.Binary64

namespace RecordQuery

set_option autoImplicit false

/-- The value `digits · 10 ^ exponent`. -/
structure ScaledDecimal where
  digits : Nat
  exponent : Int
deriving DecidableEq

namespace Binary64

/-- Clears the fraction of `digits · 10 ^ exponent`: numerator and denominator. -/
def ratioOf (d : ScaledDecimal) : Nat × Nat :=
  if 0 ≤ d.exponent then (d.digits * Nat.pow 10 d.exponent.toNat, 1)
  else (d.digits, Nat.pow 10 (-d.exponent).toNat)

/-- Whether the decimal rounds to the magnitude of the rank. -/
def owns (rank : Nat) (d : ScaledDecimal) : Bool :=
  let (num, den) := ratioOf d
  let twice := 2 * num * stepsPerUnit
  let low := (unitsAt (rank - 1) + unitsAt rank) * den
  let high := (unitsAt rank + unitsAt (rank + 1)) * den
  if rank % 2 = 0 then low ≤ twice && twice ≤ high else low < twice && twice < high

/-- The exponent of the leading decimal digit of a magnitude that is not zero. -/
def leadingExponent (rank : Nat) : Int :=
  let scaled := unitsAt rank * Nat.pow 10 400 / stepsPerUnit
  (Nat.toDigits 10 scaled).length - 401

/-- The decimal just below or at the magnitude among those whose last digit has the exponent. -/
def floorDecimal (rank : Nat) (exponent : Int) : ScaledDecimal :=
  let digits :=
    if 0 ≤ exponent then unitsAt rank / (Nat.pow 10 exponent.toNat * stepsPerUnit)
    else unitsAt rank * Nat.pow 10 (-exponent).toNat / stepsPerUnit
  ⟨digits, exponent⟩

/-- Whether the magnitude is nearer to the upper of two neighbouring decimals, of which `lower`
is given; the even one is nearer when neither is. -/
def nearerUpper (rank : Nat) (lower : ScaledDecimal) : Bool :=
  let (num, den) := ratioOf ⟨2 * lower.digits + 1, lower.exponent⟩
  let middle := num * stepsPerUnit
  let twice := 2 * unitsAt rank * den
  middle < twice || (middle == twice && lower.digits % 2 == 1)

/-- The better of the two neighbouring decimals whose last digit has the exponent, if one of
them rounds to the magnitude. -/
def neighbour? (rank : Nat) (exponent : Int) : Option ScaledDecimal :=
  let lower := floorDecimal rank exponent
  let upper := { lower with digits := lower.digits + 1 }
  match owns rank lower, owns rank upper with
  | true, true => some (if nearerUpper rank lower then upper else lower)
  | true, false => some lower
  | false, true => some upper
  | false, false => none

/-- The shortest decimal that rounds to a magnitude that is not zero. -/
def shortestDecimal (rank : Nat) : ScaledDecimal :=
  let leading := leadingExponent rank
  ((List.range 17).findSome? fun (more : Nat) => neighbour? rank (leading - more)).getD
    (floorDecimal rank (leading - 16))

/-- The significant digits, without trailing zeros, and how many of them stand before the point:
the magnitude is `0.digits · 10 ^ point`. -/
def shortestDigits (rank : Nat) : List Char × Int :=
  let d := shortestDecimal rank
  let digits := Nat.toDigits 10 d.digits
  ((digits.reverse.dropWhile (· == '0')).reverse, d.exponent + digits.length)

end Binary64

end RecordQuery
