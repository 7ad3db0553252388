/-
# RecordQuery.Instant.Basic -- points in time, in whole milliseconds

An instant is a signed count of milliseconds since the start of 1970 in UTC, kept
in 64 bits.  Finer times are floored or cut to milliseconds, as each conversion
says, and counts too large are clamped to the nearest one that fits.
-/

namespace RecordQuery

set_option autoImplicit false

structure Instant where
  millis : Int64
deriving DecidableEq

namespace Instant

instance : Ord Instant where
  compare a b := compare a.millis b.millis

/-- The nearest integer that 64 bits hold. -/
def clamp (n : Int) : Int64 :=
  if n < Int64.minValue.toInt then Int64.minValue
  else if Int64.maxValue.toInt < n then Int64.maxValue
  else Int64.ofInt n

theorem toInt_clamp (n : Int) :
    (clamp n).toInt = max Int64.minValue.toInt (min n Int64.maxValue.toInt) := by
  have least : Int64.minValue.toInt = -2 ^ 63 := rfl
  have greatest : Int64.maxValue.toInt = 2 ^ 63 - 1 := rfl
  unfold clamp
  split
  · omega
  · split
    · omega
    · rw [Int64.toInt_ofInt_of_le] <;> omega

/-- Whole seconds since the start of 1970, clamped. -/
def ofSeconds (seconds : Int64) : Instant :=
  ⟨clamp (seconds.toInt * 1000)⟩

/-- The seconds begun and completed since the start of 1970, rounded towards the past. -/
def seconds (t : Instant) : Int64 :=
  Int64.ofInt (t.millis.toInt / 1000)

/-- A duration before or after the start of 1970, cut to whole milliseconds.  Both directions
clamp at the same distance. -/
def ofDuration (before : Bool) (seconds : UInt64) (nanos : Nat) : Instant :=
  let whole := seconds.toNat * 1000 + nanos / 1000000
  let distance : Int64 := clamp whole
  ⟨if before then -distance else distance⟩

/-- The distance is not negative and at most the greatest number of 64 bits, so it can be
reversed. -/
theorem toInt_ofDuration (before : Bool) (seconds : UInt64) (nanos : Nat) :
    (ofDuration before seconds nanos).millis.toInt =
      (if before then -1 else 1) *
        min ((seconds.toNat * 1000 + nanos / 1000000 : Nat) : Int) Int64.maxValue.toInt := by
  have least : Int64.minValue.toInt = -2 ^ 63 := rfl
  have greatest : Int64.maxValue.toInt = 2 ^ 63 - 1 := rfl
  have distance := toInt_clamp ((seconds.toNat * 1000 + nanos / 1000000 : Nat) : Int)
  unfold ofDuration
  cases before with
  | false =>
      simp only [Bool.false_eq_true, if_false]
      omega
  | true =>
      simp only [if_true]
      rw [Int64.toInt_neg, Int.bmod_eq_of_le] <;> omega

/-- Seconds since the start of 1970 in UTC and the nanoseconds into that second; a leap second
has up to two thousand million of them.  The result is floored to milliseconds. -/
def ofUtc (seconds : Int) (nanos : Nat) : Instant :=
  ⟨clamp (seconds * 1000 + (nanos / 1000000 : Nat))⟩

end Instant

end RecordQuery
