/-
# RecordQuery.Proofs.ClockTimes -- one time, told by a clock and by a calendar

A time is a number of nanoseconds since the start of 1970, negative before it.  A clock
tells it as a duration and a direction (`ofClock`), and a calendar as a second of UTC and
the nanoseconds into it (`ofCalendar`).  An instant keeps the milliseconds: of the duration
the whole ones, which rounds a time before 1970 up, and of the second those that have
passed, which rounds every time down.

So the two agree on the times from 1970 on and on whole milliseconds, and nowhere else:
`ofClock_eq_ofCalendar_iff` says so of the instants, and `clock_and_calendar_agree_iff` of
all queries that can be built from them, written or answered.
`clock_before_1970_apart` is the nanosecond before 1970.
-/
import RecordQuery.Proofs.Chain
import Mathlib.Algebra.Ring.Nat

namespace RecordQuery

set_option autoImplicit false

namespace Instant

/-- The instant of a time that is told as a duration from the start of 1970. -/
def ofClock (nanos : Int) : Instant :=
  ofDuration (nanos < 0) (UInt64.ofNat (nanos.natAbs / 1000000000)) (nanos.natAbs % 1000000000)

/-- The instant of a time that is told as a second of UTC and the nanoseconds into it. -/
def ofCalendar (nanos : Int) : Instant :=
  ofUtc (nanos / 1000000000) (nanos % 1000000000).toNat

/-- The milliseconds of the time are few enough for 64 bits, in either direction. -/
def InReach (nanos : Int) : Prop :=
  (nanos / 1000000).natAbs < 2 ^ 63

instance (nanos : Int) : Decidable (InReach nanos) :=
  inferInstanceAs (Decidable (_ < _))

variable {nanos : Int}

theorem toInt_ofCalendar (near : InReach nanos) :
    (ofCalendar nanos).millis.toInt = nanos / 1000000 := by
  have least : Int64.minValue.toInt = -2 ^ 63 := rfl
  have greatest : Int64.maxValue.toInt = 2 ^ 63 - 1 := rfl
  have count : nanos / 1000000000 * 1000 + ((nanos % 1000000000).toNat / 1000000 : Nat) =
      nanos / 1000000 := by omega
  unfold InReach at near
  rw [ofCalendar, ofUtc, toInt_clamp, count]
  omega

theorem toInt_ofClock (near : InReach nanos) :
    (ofClock nanos).millis.toInt = if nanos < 0 then -(-nanos / 1000000) else nanos / 1000000 := by
  have greatest : Int64.maxValue.toInt = 2 ^ 63 - 1 := rfl
  unfold InReach at near
  have seconds : (UInt64.ofNat (nanos.natAbs / 1000000000)).toNat = nanos.natAbs / 1000000000 :=
    UInt64.toNat_ofNat_of_lt' (by simp only [UInt64.size]; omega)
  have count : nanos.natAbs / 1000000000 * 1000 + nanos.natAbs % 1000000000 / 1000000 =
      nanos.natAbs / 1000000 := by omega
  rw [ofClock, toInt_ofDuration, seconds, count]
  by_cases before : nanos < 0
  · simp only [before, decide_true, if_true]
    omega
  · simp only [before, decide_false, Bool.false_eq_true, if_false]
    omega

/-- The two instants are one exactly if no part of a millisecond is left before 1970. -/
theorem ofClock_eq_ofCalendar_iff (near : InReach nanos) :
    ofClock nanos = ofCalendar nanos ↔ 0 ≤ nanos ∨ 1000000 ∣ nanos := by
  rw [Instant.mk.injEq, ← Int64.toInt_inj, toInt_ofClock near, toInt_ofCalendar near]
  split <;> omega

theorem toInt_ofClock_of_apart (near : InReach nanos) (apart : ¬ (0 ≤ nanos ∨ 1000000 ∣ nanos)) :
    (ofClock nanos).millis.toInt = (ofCalendar nanos).millis.toInt + 1 := by
  rw [toInt_ofClock near, toInt_ofCalendar near]
  split <;> omega

end Instant

namespace Query

/-- What a query answers for a record, if it makes a filter. -/
def answer (q : Query) (fields : Lookup) : Except QueryError Bool := do
  let f ← Filter.ofQuery q
  f.accepts fields

/-- One comparison of a field with a literal for equality. -/
def equality (v : Literal) : Query :=
  ⟨[⟨none, "at", .compare .equal, .one v⟩]⟩

theorem render_equality (v : Literal) : (equality v).render = "at:" ++ v.render := rfl

theorem answer_equality_instant (t u : Instant) :
    (equality (.instant t)).answer (fun _ => some (.instant u)) = .ok (Ord.compare u t == .eq) :=
  rfl

end Query

namespace Literal

theorem render_instant_inj {t u : Instant} :
    (Literal.instant t).render = (Literal.instant u).render ↔ t = u := by
  constructor
  · intro same
    have digits := congrArg (fun s => Text.integer? s.toList) same
    simp only [render, Text.integer?_ofInt, Option.some.injEq, Int64.toInt_inj] at digits
    exact congrArg Instant.mk digits
  · rintro rfl
    rfl

end Literal

namespace Instant

theorem compare_eq_eq_iff {t u : Instant} : compare t u = .eq ↔ t = u := by
  have same : compare t u = compare t.millis u.millis := rfl
  rw [same, Std.compare_eq_iff_eq]
  exact ⟨congrArg Instant.mk, congrArg Instant.millis⟩

/-- **A clock and a calendar agree on times from 1970 on and on whole milliseconds, and on no
others.**  Of those times alone are all queries that can be built from the instants written as one
text, and of those alone do they give one answer.  Any other time a clock tells a millisecond later
than a calendar. -/
theorem clock_and_calendar_agree_iff {nanos : Int} (near : InReach nanos) :
    (ofClock nanos = ofCalendar nanos ↔ 0 ≤ nanos ∨ 1000000 ∣ nanos) ∧
    ((∀ build : Literal → Query, (build (.instant (ofClock nanos))).render =
        (build (.instant (ofCalendar nanos))).render) ↔ 0 ≤ nanos ∨ 1000000 ∣ nanos) ∧
    ((∀ (build : Literal → Query) (fields : Lookup),
        (build (.instant (ofClock nanos))).answer fields =
          (build (.instant (ofCalendar nanos))).answer fields) ↔ 0 ≤ nanos ∨ 1000000 ∣ nanos) ∧
    (¬ (0 ≤ nanos ∨ 1000000 ∣ nanos) →
      (ofClock nanos).millis.toInt = (ofCalendar nanos).millis.toInt + 1) := by
  refine ⟨ofClock_eq_ofCalendar_iff near, ?_, ?_, toInt_ofClock_of_apart near⟩
  · rw [← ofClock_eq_ofCalendar_iff near]
    refine ⟨fun same => ?_, fun same build => by rw [same]⟩
    have texts := same Query.equality
    rw [Query.render_equality, Query.render_equality] at texts
    exact Literal.render_instant_inj.mp ((String.append_right_inj _).mp texts)
  · rw [← ofClock_eq_ofCalendar_iff near]
    refine ⟨fun same => ?_, fun same build fields => by rw [same]⟩
    -- A record that holds the calendar's instant is told from one that holds the clock's.
    have answers := same Query.equality fun _ => some (.instant (ofCalendar nanos))
    simp only [Query.answer_equality_instant, Except.ok.injEq] at answers
    have reflexive : (compare (ofCalendar nanos) (ofCalendar nanos) == .eq) = true := by
      rw [beq_iff_eq, compare_eq_eq_iff]
    rw [reflexive, beq_iff_eq, compare_eq_eq_iff] at answers
    exact answers.symm

/-- A whole millisecond and a microsecond, both before 1970. -/
theorem clock_and_calendar_agree_iff_microsecond :
    InReach (-1000000) ∧ ofClock (-1000000) = ofCalendar (-1000000) ∧
      InReach (-1000) ∧
        (ofClock (-1000)).millis.toInt = (ofCalendar (-1000)).millis.toInt + 1 := by
  have whole : InReach (-1000000) := by decide
  have part : InReach (-1000) := by decide
  have same := (clock_and_calendar_agree_iff whole).1.mpr (.inr (by decide))
  have apart := (clock_and_calendar_agree_iff part).2.2.2 (by decide)
  exact ⟨whole, same, part, apart⟩

/-- The field is the instant that a calendar tells, and is not the one that a clock tells. -/
def toldApart (nanos : Int) : Query :=
  ⟨[⟨none, "at", .compare .equal, .one (.instant (ofCalendar nanos))⟩,
    ⟨some .and, "at", .compare .distinct, .one (.instant (ofClock nanos))⟩]⟩

/-- **The last nanosecond before 1970 is two instants**: written as 0 by a clock and as -1 by a
calendar, and told apart by a query that asks for both. -/
theorem clock_before_1970_apart :
    ofClock (-1) = ⟨0⟩ ∧ ofCalendar (-1) = ⟨-1⟩ ∧
      (Literal.instant (ofClock (-1))).render = "0" ∧
      (Literal.instant (ofCalendar (-1))).render = "-1" ∧
      (toldApart (-1)).answer (fun _ => some (.instant (ofCalendar (-1)))) = .ok true := by
  exact ⟨by decide, by decide, by decide +kernel, by decide +kernel, by decide +kernel⟩

end Instant

end RecordQuery
