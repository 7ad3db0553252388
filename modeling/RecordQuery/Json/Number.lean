/-
# RecordQuery.Json.Number -- the numbers that JSON texts spell

A literal without point and exponent is a whole number if one of 64 bits holds it.
Every other literal is a floating point number, got by scaling: as many leading
digits as fit into 64 bits make a whole number, which is rounded, and one power of
ten of at most three hundred and eight multiplies or divides it, with one more
rounding.  The result can therefore be a step away from the number nearest to the
literal.  A literal past the largest finite number is out of range.
-/
import RecordQuery.Number.Basic

namespace RecordQuery

set_option autoImplicit false

/-- The parts of a JSON number: digits before the point, digits after it and the exponent, the
last two where present. -/
structure JsonNumber where
  negative : Bool
  whole : List Char
  fraction : Option (List Char)
  exponent : Option Int

namespace JsonNumber

/-- Appends digits to a number while it stays below 2⁶⁴; the rest is what no longer fits. -/
def appendDigits (n : Nat) : List Char → Nat × List Char
  | [] => (n, [])
  | c :: rest =>
    let next := 10 * n + (c.toNat - '0'.toNat)
    if next < UInt64.size then appendDigits next rest else (n, c :: rest)

/-- The greatest power of ten that scales in one step. -/
def largestPower : Nat := 308

/-- The rank of a power of ten. -/
def powerRank (power : Nat) : Nat :=
  Binary64.nearestRank (Nat.pow 10 power * Binary64.stepsPerUnit) 1

/-- Divides a magnitude by a power of ten, in steps of at most the largest one. -/
def scaleDown (rank power : Nat) : Nat :=
  if power ≤ largestPower then Binary64.quotientRank rank (powerRank power)
  else if rank = 0 then 0
  else scaleDown (Binary64.quotientRank rank (powerRank largestPower)) (power - largestPower)
termination_by power
decreasing_by simp only [largestPower] at *; omega

/-- A whole number scaled by a power of ten, as a rank; none if it is past the finite ones. -/
def scale? (significand : Nat) (exponent : Int) : Option Nat :=
  let rank := Binary64.nearestRank (significand * Binary64.stepsPerUnit) 1
  if exponent < 0 then some (scaleDown rank (-exponent).toNat)
  else if exponent ≤ largestPower then
    let product := Binary64.productRank rank (powerRank exponent.toNat)
    if product < rankCount then some product else none
  else if rank = 0 then some 0
  else none

/-- A whole number with a sign.  Minus zero has only a floating point form. -/
def ofWhole (negative : Bool) (n : Nat) : Number :=
  if negative then
    if n = 0 ∨ -n < Int64.minValue.toInt then .binary (Binary64.ofInt n).neg
    else .signed (Int64.ofInt (-n))
  else if n ≤ Int64.maxValue.toInt then .signed (Int64.ofInt n)
  else .unsigned (UInt64.ofNat n)

/-- The number spelled, unless it is out of range. -/
def value? (literal : JsonNumber) : Option Number :=
  let (whole, dropped) := appendDigits 0 literal.whole
  match literal.fraction, literal.exponent, dropped with
  | none, none, [] => some (ofWhole literal.negative whole)
  | _, _, _ =>
    let fraction := literal.fraction.getD []
    let (significand, unused) := appendDigits whole fraction
    let exponent : Int := dropped.length - (fraction.length - unused.length : Nat)
    (scale? significand (exponent + literal.exponent.getD 0)).map fun rank =>
      .binary (.ofRank literal.negative rank)

end JsonNumber

end RecordQuery
