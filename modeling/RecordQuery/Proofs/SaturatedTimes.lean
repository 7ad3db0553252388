/-
# RecordQuery.Proofs.SaturatedTimes -- instants at the ends of what 64 bits hold

Two conversions make a count of milliseconds that can be too large and clamp it: that of a time
told by a clock, as a distance from the start of 1970 and a side of it (`ClockTime`), and that
of a number of seconds.

A clock's time clamps its distance, which is not negative, before it is put on its side.  So
both sides reach equally far, the least number of 64 bits is on neither, and reversing a
distance cannot overflow; what rounds and clamps is one monotone function of the distance, odd
about 1970, so that no two times change their order (`toInstant_saturates`).

Seconds clamp a product on both sides, and going back divides downwards.  The two are adjoint
below the greatest instant, `ofSeconds s ≤ t` where `s ≤ t.seconds`, and going there and back
keeps the seconds whose product fits and one number more: the second that the least instant
falls into (`ofSeconds_adjoint_seconds`).
-/
import RecordQuery.Instant.Basic
import Mathlib.Algebra.Ring.Nat

namespace RecordQuery

set_option autoImplicit false

namespace Instant

theorem isLE_compare_iff {t u : Instant} :
    (compare t u).isLE ↔ t.millis.toInt ≤ u.millis.toInt := by
  have same : compare t u = compare t.millis u.millis := rfl
  rw [same, Std.isLE_compare, Int64.le_iff_toInt_le]

end Instant

/-! ## Clocks -/

/-- A time as a clock tells it: how far it is from the start of 1970, and on which side. -/
structure ClockTime where
  before : Bool
  seconds : UInt64
  nanos : Nat
  nanos_lt : nanos < 1000000000

namespace ClockTime

variable (t : ClockTime)

/-- The nanoseconds between the start of 1970 and the time. -/
def apart : Nat :=
  t.seconds.toNat * 1000000000 + t.nanos

/-- The nanoseconds since the start of 1970, negative before it. -/
def sinceStart : Int :=
  if t.before then -t.apart else t.apart

instance : LE ClockTime :=
  ⟨fun t u => t.sinceStart ≤ u.sinceStart⟩

instance (t u : ClockTime) : Decidable (t ≤ u) :=
  inferInstanceAs (Decidable (_ ≤ u.sinceStart))

def wholeMillis : Nat :=
  t.apart / 1000000

/-- The whole milliseconds in between, as many as 64 bits hold. -/
def distance : Int64 :=
  Instant.clamp t.wholeMillis

def toInstant : Instant :=
  Instant.ofDuration t.before t.seconds t.nanos

theorem wholeMillis_eq : t.wholeMillis = t.seconds.toNat * 1000 + t.nanos / 1000000 := by
  unfold wholeMillis apart
  omega

theorem wholeMillis_lt : t.wholeMillis < 2 ^ 128 := by
  have seconds : t.seconds.toNat < 2 ^ 64 := t.seconds.toNat_lt
  have nanos := t.nanos_lt
  rw [wholeMillis_eq]
  omega

theorem toInstant_eq : t.toInstant = ⟨if t.before then -t.distance else t.distance⟩ := by
  rw [distance, wholeMillis_eq]
  rfl

theorem toInt_toInstant :
    t.toInstant.millis.toInt =
      (if t.before then -1 else 1) * min (t.wholeMillis : Int) Int64.maxValue.toInt := by
  rw [toInstant, Instant.toInt_ofDuration, wholeMillis_eq]

theorem negOverflow_distance : t.distance.toBitVec.negOverflow = false := by
  have least := Int64.toInt_minValue
  have greatest := Int64.toInt_maxValue
  have clamped : t.distance.toInt = _ := Instant.toInt_clamp t.wholeMillis
  rw [BitVec.negOverflow, beq_eq_false_iff_ne]
  show t.distance.toInt ≠ -2 ^ 63
  omega

theorem toInstant_ne_minValue : t.toInstant.millis ≠ Int64.minValue := by
  have least := Int64.toInt_minValue
  have greatest := Int64.toInt_maxValue
  have value := t.toInt_toInstant
  rw [ne_eq, ← Int64.toInt_inj]
  split at value <;> omega

/-- Later times are not earlier instants. -/
theorem toInstant_le {t u : ClockTime} (order : t ≤ u) :
    (compare t.toInstant u.toInstant).isLE := by
  have greatest := Int64.toInt_maxValue
  have order : t.sinceStart ≤ u.sinceStart := order
  rw [Instant.isLE_compare_iff, toInt_toInstant, toInt_toInstant, greatest]
  unfold sinceStart at order
  unfold wholeMillis
  -- On either side the distance decides; across 1970 the signs do.
  cases sideT : t.before <;> cases sideU : u.before <;>
    simp only [sideT, sideU, Bool.false_eq_true, if_true, if_false] at order ⊢ <;> omega

/-- **The instant of a clock's time is its distance in whole milliseconds, clamped, on its side**,
and later times have no earlier instants.  The count of milliseconds fits 128 bits, reversing the
clamped distance never overflows, and the least number of 64 bits is no result. -/
theorem toInstant_saturates :
    (∀ t : ClockTime, t.wholeMillis < 2 ^ 128 ∧
      t.toInstant = ⟨if t.before then -t.distance else t.distance⟩ ∧
      t.distance.toBitVec.negOverflow = false ∧
      t.toInstant.millis.toInt =
        (if t.before then -1 else 1) * min (t.wholeMillis : Int) Int64.maxValue.toInt ∧
      t.toInstant.millis ≠ Int64.minValue) ∧
    ∀ t u : ClockTime, t ≤ u → (compare t.toInstant u.toInstant).isLE :=
  ⟨fun t => ⟨t.wholeMillis_lt, t.toInstant_eq, t.negOverflow_distance, t.toInt_toInstant,
    t.toInstant_ne_minValue⟩, fun _ _ => toInstant_le⟩

/-- The furthest time on one side of 1970. -/
def furthest (before : Bool) : ClockTime where
  before
  seconds := 18446744073709551615
  nanos := 999999999
  nanos_lt := by decide

/-- Both ends are clamped, at the same distance from 1970. -/
theorem toInstant_saturates_furthest :
    furthest true ≤ furthest false ∧
      (compare (furthest true).toInstant (furthest false).toInstant).isLE ∧
      (furthest true).toInstant.millis.toInt = -9223372036854775807 ∧
      (furthest false).toInstant.millis.toInt = 9223372036854775807 := by
  obtain ⟨each, inOrder⟩ := toInstant_saturates
  have order : furthest true ≤ furthest false := by decide
  obtain ⟨-, -, -, past, -⟩ := each (furthest true)
  obtain ⟨-, -, -, future, -⟩ := each (furthest false)
  exact ⟨order, inOrder _ _ order, past, future⟩

end ClockTime

/-! ## Seconds -/

namespace Instant

variable {s : Int64} {t : Instant}

theorem toInt_ofSeconds (s : Int64) : (ofSeconds s).millis.toInt =
    max Int64.minValue.toInt (min (s.toInt * 1000) Int64.maxValue.toInt) :=
  toInt_clamp _

/-- A quotient is nearer to zero than the instant, so it fits. -/
theorem toInt_seconds (t : Instant) : t.seconds.toInt = t.millis.toInt / 1000 := by
  have low := t.millis.le_toInt
  have high := t.millis.toInt_lt
  rw [seconds, Int64.toInt_ofInt_of_le] <;> omega

theorem ofSeconds_le_iff (below : t.millis < Int64.maxValue) :
    (compare (ofSeconds s) t).isLE ↔ s ≤ t.seconds := by
  have low := t.millis.le_toInt
  have least := Int64.toInt_minValue
  have greatest := Int64.toInt_maxValue
  rw [Int64.lt_iff_toInt_lt] at below
  rw [isLE_compare_iff, Int64.le_iff_toInt_le, toInt_ofSeconds, toInt_seconds]
  omega

theorem seconds_ofSeconds_iff : (ofSeconds s).seconds = s ↔
    Int64.minValue.toInt ≤ s.toInt * 1000 ∧ s.toInt * 1000 ≤ Int64.maxValue.toInt ∨
      s = -9223372036854776 := by
  have least := Int64.toInt_minValue
  have greatest := Int64.toInt_maxValue
  have begun : (-9223372036854776 : Int64).toInt = -9223372036854776 := rfl
  rw [← Int64.toInt_inj, ← Int64.toInt_inj, toInt_seconds, toInt_ofSeconds, begun]
  omega

/-- **Seconds and instants are adjoint below the greatest instant**, and exactly the seconds whose
product fits 64 bits come back from there, with the one that the least instant falls into. -/
theorem ofSeconds_adjoint_seconds :
    (∀ (s : Int64) (t : Instant), t.millis < Int64.maxValue →
      ((compare (ofSeconds s) t).isLE ↔ s ≤ t.seconds)) ∧
    ∀ s : Int64, (ofSeconds s).seconds = s ↔
      Int64.minValue.toInt ≤ s.toInt * 1000 ∧ s.toInt * 1000 ≤ Int64.maxValue.toInt ∨
        s = -9223372036854776 :=
  ⟨fun _ _ => ofSeconds_le_iff, fun _ => seconds_ofSeconds_iff⟩

/-- The second that the least instant falls into begins before that instant. -/
theorem ofSeconds_adjoint_seconds_least :
    Int64.minValue < Int64.maxValue ∧ (compare (ofSeconds (-9223372036854776)) ⟨Int64.minValue⟩).isLE ∧
      (ofSeconds (-9223372036854776)).seconds = -9223372036854776 := by
  obtain ⟨adjoint, back⟩ := ofSeconds_adjoint_seconds
  have below : Int64.minValue < Int64.maxValue := by decide
  exact ⟨below, (adjoint _ ⟨Int64.minValue⟩ below).mpr (by decide), (back _).mpr (.inr rfl)⟩

end Instant

end RecordQuery
