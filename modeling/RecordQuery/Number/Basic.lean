/-
# RecordQuery.Number.Basic -- numbers of three forms and how they compare

A number is a signed or an unsigned whole number of 64 bits or a binary floating
point number.  Two whole numbers compare by their exact values; as soon as one of
the two is a floating point number, the other is rounded to one first.
-/
import RecordQuery.Number.Binary64

namespace RecordQuery

set_option autoImplicit false

inductive Number where
  | signed (value : Int64)
  | unsigned (value : UInt64)
  | binary (value : Binary64)
deriving DecidableEq

namespace Number

/-- The exact value of a whole number. -/
def integer? : Number → Option Int
  | .signed n => some n.toInt
  | .unsigned n => some n.toNat
  | .binary _ => none

/-- The nearest floating point number. -/
def toBinary64 : Number → Binary64
  | .signed n => .ofInt n.toInt
  | .unsigned n => .ofInt n.toNat
  | .binary x => x

/-- How two numbers compare: exactly if both are whole, else as floating point numbers.  NaN
compares with nothing. -/
def order? (a b : Number) : Option Ordering :=
  match a.integer?, b.integer? with
  | some m, some n => some (compare m n)
  | _, _ => a.toBinary64.order? b.toBinary64

theorem toBinary64_eq_nan_iff {a : Number} : a.toBinary64 = .nan ↔ a = .binary .nan := by
  cases a with
  | signed n => simp [toBinary64, Binary64.ofInt_ne_nan]
  | unsigned n => simp [toBinary64, Binary64.ofInt_ne_nan]
  | binary x => simp [toBinary64]

/-- NaN is the only number that does not compare. -/
theorem order?_eq_none_iff {a b : Number} :
    a.order? b = none ↔ a = .binary .nan ∨ b = .binary .nan := by
  rw [← toBinary64_eq_nan_iff, ← toBinary64_eq_nan_iff, ← Binary64.order?_eq_none_iff]
  -- Two whole numbers always compare, and neither is NaN when rounded.
  cases a <;> cases b <;>
    simp [order?, integer?, toBinary64, Binary64.order?_eq_none_iff, Binary64.ofInt_ne_nan]

/-- The two numbers have one form and equal values of it. -/
def sameForm : Number → Number → Bool
  | .signed m, .signed n => m == n
  | .unsigned m, .unsigned n => m == n
  | .binary x, .binary y => x.order? y == some .eq
  | _, _ => false

/-- A whole number in the first form that holds it, if one does. -/
def ofInt? (n : Int) : Option Number :=
  if Int64.minValue.toInt ≤ n ∧ n ≤ Int64.maxValue.toInt then some (.signed (Int64.ofInt n))
  else if Int64.maxValue.toInt < n ∧ n < UInt64.size then some (.unsigned (UInt64.ofNat n.toNat))
  else none

end Number

end RecordQuery
