/-
# RecordQuery.Number.Binary64 -- binary floating point numbers of 64 bits

The finite magnitudes of the format, in increasing order, are numbered from zero:
`unitsAt rank` is the magnitude of that rank as a multiple of 2⁻¹⁰⁷⁴, the smallest
step of the format.  The rank is also the magnitude's bit pattern, and the rank
after the last finite one stands for infinity.

`nearestRank` rounds any fraction to the nearest magnitude, ties to even; integers,
decimal texts, products and quotients are all exact values so rounded.  `order?`
compares exact values.
-/
import RecordQuery.Number.Rounding

namespace RecordQuery

set_option autoImplicit false

/-- The magnitudes of one scale, all the same step apart. -/
def scaleSize : Nat := 1 <<< 52

/-- Ranks of finite magnitudes lie below this one: 2047 scales of 2⁵² magnitudes. -/
def rankCount : Nat := 2047 * scaleSize

inductive Binary64 where
  | nan
  | infinite (negative : Bool)
  | finite (negative : Bool) (rank : Fin rankCount)
deriving DecidableEq

namespace Binary64

/-- The denominator of the smallest step, 2⁻¹⁰⁷⁴. -/
def stepsPerUnit : Nat := 1 <<< 1074

/-- The magnitude of a rank, counted in steps of 2⁻¹⁰⁷⁴. -/
def unitsAt (rank : Nat) : Nat :=
  if rank < scaleSize then rank
  else (scaleSize + rank % scaleSize) <<< (rank / scaleSize - 1)

/-- The rank of the magnitude nearest to `num / den` steps, ties to even.  The quotient keeps
its 53 leading bits. -/
def nearestRank (num den : Nat) : Nat :=
  let shift := (num / den).log2 - 52
  nearestQuotient num (den <<< shift) + shift * scaleSize

/-- The magnitude of a rank, with the sign given; any rank past the finite ones is infinite. -/
def ofRank (negative : Bool) (rank : Nat) : Binary64 :=
  if inside : rank < rankCount then .finite negative ⟨rank, inside⟩ else .infinite negative

/-- The number nearest to `num / den`, with the sign given. -/
def ofRatio (negative : Bool) (num den : Nat) : Binary64 :=
  ofRank negative (nearestRank (num * stepsPerUnit) den)

def ofInt (n : Int) : Binary64 :=
  ofRatio (decide (n < 0)) n.natAbs 1

def neg : Binary64 → Binary64
  | .nan => .nan
  | .infinite negative => .infinite !negative
  | .finite negative rank => .finite (!negative) rank

def isFinite : Binary64 → Bool
  | .finite _ _ => true
  | .nan | .infinite _ => false

/-- A rank with a sign, as a position on the line of exact values in steps. -/
def signedUnits (negative : Bool) (rank : Nat) : Int :=
  if negative then -(unitsAt rank : Int) else unitsAt rank

/-- The exact value in steps of 2⁻¹⁰⁷⁴, infinity beyond every finite value; none for NaN. -/
def position? : Binary64 → Option Int
  | .nan => none
  | .infinite negative => some (signedUnits negative rankCount)
  | .finite negative rank => some (signedUnits negative rank)

/-- How two numbers compare by value; NaN compares with nothing. -/
def order? (x y : Binary64) : Option Ordering :=
  match x.position?, y.position? with
  | some a, some b => some (compare a b)
  | _, _ => none

/-- Everything but NaN has a position. -/
theorem position?_eq_none_iff {x : Binary64} : x.position? = none ↔ x = .nan := by
  cases x <;> simp [position?]

theorem order?_eq_none_iff {x y : Binary64} : x.order? y = none ↔ x = .nan ∨ y = .nan := by
  rw [← position?_eq_none_iff, ← position?_eq_none_iff, order?]
  cases x.position? <;> cases y.position? <;> simp

theorem ofRank_ne_nan (negative : Bool) (rank : Nat) : ofRank negative rank ≠ .nan := by
  unfold ofRank
  split <;> simp

theorem ofInt_ne_nan (n : Int) : ofInt n ≠ .nan :=
  ofRank_ne_nan _ _

/-! ## Products and quotients of magnitudes -/

/-- The rank nearest to the product of two magnitudes. -/
def productRank (left right : Nat) : Nat :=
  nearestRank (unitsAt left * unitsAt right) stepsPerUnit

/-- The rank nearest to the quotient of two magnitudes. -/
def quotientRank (left right : Nat) : Nat :=
  nearestRank (unitsAt left * stepsPerUnit) (unitsAt right)

/-! ## Bit patterns -/

/-- The number that a pattern of 64 bits stands for. -/
def ofBits (bits : UInt64) : Binary64 :=
  let negative := decide (1 <<< 63 ≤ bits.toNat)
  let rank := bits.toNat % (1 <<< 63)
  if rank ≤ rankCount then ofRank negative rank else .nan

/-- The pattern of 64 bits of a number; NaN has one pattern, the quiet one with no payload. -/
def toBits : Binary64 → UInt64
  | .nan => 0x7FF8000000000000
  | .infinite negative => pattern negative rankCount
  | .finite negative rank => pattern negative rank
where
  pattern (negative : Bool) (rank : Nat) : UInt64 :=
    UInt64.ofNat (rank + if negative then 1 <<< 63 else 0)

/-- The number that a pattern of 32 bits stands for.  Every such number is one of 64 bits. -/
def ofBits32 (bits : UInt32) : Binary64 :=
  let scale : Nat := 1 <<< 23
  let negative := decide (1 <<< 31 ≤ bits.toNat)
  let rank := bits.toNat % (1 <<< 31)
  let units := if rank < scale then rank else (scale + rank % scale) <<< (rank / scale - 1)
  if rank < 255 * scale then ofRatio negative units (1 <<< 149)
  else if rank = 255 * scale then .infinite negative
  else .nan

end Binary64

end RecordQuery
