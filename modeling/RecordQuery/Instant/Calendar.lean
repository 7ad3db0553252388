/-
# RecordQuery.Instant.Calendar -- days of the proleptic Gregorian calendar

A date is a year, a month and a day of it.  `Date.dayNumber` counts days from the
start of 1970 with the leap rule applied to every year, past or future; `Date.isValid`
says which triples are dates.
-/

namespace RecordQuery

set_option autoImplicit false

/-- A year, a month from 1 and a day from 1. -/
structure Date where
  year : Nat
  month : Nat
  day : Nat
deriving DecidableEq

namespace Date

/-- Every fourth year is a leap year, of the full centuries every fourth. -/
def isLeapYear (year : Nat) : Bool :=
  year % 4 == 0 && (year % 100 != 0 || year % 400 == 0)

def daysInMonth (year month : Nat) : Nat :=
  match month with
  | 2 => if isLeapYear year then 29 else 28
  | 4 | 6 | 9 | 11 => 30
  | _ => 31

/-- The triple names a day of the calendar. -/
def isValid (d : Date) : Bool :=
  1 ≤ d.month && d.month ≤ 12 && 1 ≤ d.day && d.day ≤ daysInMonth d.year d.month

def daysInYear (year : Nat) : Nat :=
  if isLeapYear year then 366 else 365

/-- Days of the years from 0 up to, but not including, the given one. -/
def daysBeforeYear (year : Nat) : Nat :=
  365 * year + (year + 3) / 4 - (year + 99) / 100 + (year + 399) / 400

/-- Days of the months of a year before the given one. -/
def daysBeforeMonth (year month : Nat) : Nat :=
  (List.range (month - 1)).foldl (fun days i => days + daysInMonth year (i + 1)) 0

/-- Days from the start of 1970 to the start of the date. -/
def dayNumber (d : Date) : Int :=
  (daysBeforeYear d.year + daysBeforeMonth d.year d.month + (d.day - 1) : Nat)
    - (daysBeforeYear 1970 : Nat)

/-- A year's days lie between its start and the next year's. -/
theorem daysBeforeYear_succ (year : Nat) :
    daysBeforeYear (year + 1) = daysBeforeYear year + daysInYear year := by
  have fourth : (year + 1 + 3) / 4 = (year + 3) / 4 + if year % 4 = 0 then 1 else 0 := by
    split <;> omega
  have century : (year + 1 + 99) / 100 = (year + 99) / 100 + if year % 100 = 0 then 1 else 0 := by
    split <;> omega
  have fourHundredth :
      (year + 1 + 399) / 400 = (year + 399) / 400 + if year % 400 = 0 then 1 else 0 := by
    split <;> omega
  have centuryOfFourHundredth : year % 400 = 0 → year % 100 = 0 := by omega
  have fourthOfCentury : year % 100 = 0 → year % 4 = 0 := by omega
  have enough : (year + 99) / 100 ≤ 365 * year := by omega
  unfold daysBeforeYear daysInYear isLeapYear
  rw [fourth, century, fourHundredth]
  generalize (year + 3) / 4 = a, (year + 99) / 100 = b, (year + 399) / 400 = c at *
  by_cases four : year % 4 = 0
  · by_cases hundred : year % 100 = 0
    · by_cases fourHundred : year % 400 = 0
      · simp [four, hundred, fourHundred]; omega
      · simp [four, hundred, fourHundred]; omega
    · have : year % 400 ≠ 0 := fun h => hundred (centuryOfFourHundredth h)
      simp [four, hundred, this]; omega
  · have noCentury : year % 100 ≠ 0 := fun h => four (fourthOfCentury h)
    have : year % 400 ≠ 0 := fun h => noCentury (centuryOfFourHundredth h)
    simp [four, noCentury, this]; omega

end Date

end RecordQuery
