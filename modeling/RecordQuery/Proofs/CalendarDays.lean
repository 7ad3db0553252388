/-
# RecordQuery.Proofs.CalendarDays -- the number of a day, counted day by day

`Date.dayNumber` computes how many days lie between the start of 1970 and a date, from
sums over whole years and months.  Here the days are counted instead: `Date.next` turns
over one leaf of the calendar, and `IsDay d n` says that `n` leaves, forwards or backwards,
lead from the first of January 1970 to `d`.  `isDay_iff` says that this leads to every date
of the calendar and to nothing else, and that the number computed is the number counted.

One leaf adds one to the number (`dayNumber_next`): at the end of a month by the length of
the month, at the end of a year by that of its twelve months.  All dates are leaves behind
the first of January of the year 0 (`valid_induction`), so no date is left out.
-/
import RecordQuery.Instant.Calendar
import Mathlib.Data.Int.Basic

namespace RecordQuery.Date

set_option autoImplicit false

theorem isValid_iff {d : Date} : d.isValid = true ↔
    1 ≤ d.month ∧ d.month ≤ 12 ∧ 1 ≤ d.day ∧ d.day ≤ daysInMonth d.year d.month := by
  simp [isValid, and_assoc]

/-- The day after. -/
def next (d : Date) : Date :=
  if d.day < daysInMonth d.year d.month then { d with day := d.day + 1 }
  else if d.month < 12 then ⟨d.year, d.month + 1, 1⟩
  else ⟨d.year + 1, 1, 1⟩

/-- The date lies so many days after the first of January 1970, or before it if the number is
negative. -/
inductive IsDay : Date → Int → Prop
  | epoch : IsDay ⟨1970, 1, 1⟩ 0
  | next {d : Date} {n : Int} (counted : IsDay d n) : IsDay d.next (n + 1)
  | previous {d : Date} {n : Int} (valid : d.isValid = true) (counted : IsDay d.next n) :
      IsDay d (n - 1)

/-! ## Months and years -/

theorem daysInMonth_bounds (year month : Nat) :
    28 ≤ daysInMonth year month ∧ daysInMonth year month ≤ 31 := by
  unfold daysInMonth
  split
  · split <;> decide
  all_goals decide

theorem one_le_daysInMonth (year month : Nat) : 1 ≤ daysInMonth year month :=
  Nat.le_trans (by decide) (daysInMonth_bounds year month).1

theorem daysBeforeMonth_one (year : Nat) : daysBeforeMonth year 1 = 0 := rfl

theorem daysBeforeMonth_succ (year : Nat) {month : Nat} (positive : 1 ≤ month) :
    daysBeforeMonth year (month + 1) = daysBeforeMonth year month + daysInMonth year month := by
  obtain ⟨m, rfl⟩ := Nat.exists_eq_add_of_le' positive
  simp [daysBeforeMonth, List.range_succ]

theorem daysBeforeMonth_le (year month : Nat) : daysBeforeMonth year (month + 1) ≤ 31 * month := by
  induction month with
  | zero => exact Nat.le_refl 0
  | succ month ih =>
      have last := (daysInMonth_bounds year (month + 1)).2
      rw [daysBeforeMonth_succ year (Nat.le_add_left 1 month)]
      omega

/-- The twelve months make up the year. -/
theorem daysBeforeMonth_december (year : Nat) :
    daysBeforeMonth year 12 + 31 = daysInYear year := by
  by_cases leap : isLeapYear year = true <;>
    simp [daysBeforeMonth, daysInYear, daysInMonth, List.range_succ, leap]

/-! ## One leaf -/

theorem isValid_next {d : Date} (valid : d.isValid = true) : d.next.isValid = true := by
  obtain ⟨monthPos, monthLe, dayPos, dayLe⟩ := isValid_iff.mp valid
  unfold next
  split
  · exact isValid_iff.mpr ⟨monthPos, monthLe, by simp, by simpa⟩
  · split
    · rename_i inYear
      exact isValid_iff.mpr ⟨Nat.le_add_left 1 _, inYear, le_refl 1, one_le_daysInMonth _ _⟩
    · exact isValid_iff.mpr ⟨le_refl 1, by simp, le_refl 1, one_le_daysInMonth _ _⟩

/-- Days since the first of January of the year 0. -/
def daysSinceYearZero (d : Date) : Nat :=
  daysBeforeYear d.year + daysBeforeMonth d.year d.month + (d.day - 1)

theorem dayNumber_eq (d : Date) :
    d.dayNumber = (d.daysSinceYearZero : Int) - (daysBeforeYear 1970 : Nat) := rfl

theorem daysSinceYearZero_next {d : Date} (valid : d.isValid = true) :
    d.next.daysSinceYearZero = d.daysSinceYearZero + 1 := by
  obtain ⟨year, month, day⟩ := d
  obtain ⟨monthPos, monthLe, dayPos, dayLe⟩ := isValid_iff.mp valid
  simp only at monthPos monthLe dayPos dayLe
  unfold next daysSinceYearZero
  split
  · simp only
    omega
  · rename_i last
    -- The last day of a month: its number in the month is the month's length.
    simp only at last
    split
    · simp only [daysBeforeMonth_succ year monthPos]
      omega
    · rename_i yearEnds
      simp only at yearEnds
      obtain rfl : month = 12 := by omega
      have december : daysInMonth year 12 = 31 := rfl
      have months := daysBeforeMonth_december year
      simp only [daysBeforeMonth_one, daysBeforeYear_succ]
      omega

/-- A year has fewer days than 366, and so has what is left of the last one. -/
theorem daysSinceYearZero_lt {d : Date} (valid : d.isValid = true) :
    d.daysSinceYearZero < 366 * (d.year + 2) := by
  obtain ⟨monthPos, monthLe, dayPos, dayLe⟩ := isValid_iff.mp valid
  obtain ⟨m, month⟩ := Nat.exists_eq_add_of_le' monthPos
  have months := daysBeforeMonth_le d.year m
  have days := (daysInMonth_bounds d.year d.month).2
  rw [← month] at months
  unfold daysSinceYearZero daysBeforeYear
  omega

theorem dayNumber_next {d : Date} (valid : d.isValid = true) :
    d.next.dayNumber = d.dayNumber + 1 := by
  rw [dayNumber_eq, dayNumber_eq, daysSinceYearZero_next valid]
  omega

/-! ## All leaves -/

/-- Every date but the first of the year 0 has a day before it. -/
theorem exists_previous {d : Date} (valid : d.isValid = true) (later : d ≠ ⟨0, 1, 1⟩) :
    ∃ e : Date, e.isValid = true ∧ e.next = d := by
  obtain ⟨year, month, day⟩ := d
  obtain ⟨monthPos, monthLe, dayPos, dayLe⟩ := isValid_iff.mp valid
  simp only at monthPos monthLe dayPos dayLe
  by_cases inMonth : 1 < day
  · refine ⟨⟨year, month, day - 1⟩, isValid_iff.mpr ⟨monthPos, monthLe, ?_, ?_⟩, ?_⟩
    · simp only
      omega
    · simp only
      omega
    · have before : day - 1 < daysInMonth year month := by omega
      simp only [next, before, if_true]
      congr
      omega
  · obtain rfl : day = 1 := by omega
    by_cases inYear : 1 < month
    · refine ⟨⟨year, month - 1, daysInMonth year (month - 1)⟩,
        isValid_iff.mpr ⟨?_, ?_, one_le_daysInMonth _ _, le_refl _⟩, ?_⟩
      · simp only
        omega
      · simp only
        omega
      · have before : month - 1 < 12 := by omega
        have after : month - 1 + 1 = month := by omega
        simp [next, before, after]
    · obtain rfl : month = 1 := by omega
      have laterYear : year ≠ 0 := by
        rintro rfl
        exact later rfl
      obtain ⟨before, rfl⟩ := Nat.exists_eq_succ_of_ne_zero laterYear
      exact ⟨⟨before, 12, 31⟩, isValid_iff.mpr ⟨by simp, by simp, by simp, le_refl 31⟩, rfl⟩

/-- What holds of the first day of the year 0, and of the day after any date of which it holds,
holds of every date. -/
theorem valid_induction {P : Date → Prop} (first : P ⟨0, 1, 1⟩)
    (step : ∀ d : Date, d.isValid = true → P d → P d.next) {d : Date} (valid : d.isValid = true) :
    P d := by
  -- On the number of days since then, by which the date before any other is one less.
  induction count : d.daysSinceYearZero generalizing d with
  | zero =>
      by_cases same : d = ⟨0, 1, 1⟩
      · rw [same]
        exact first
      · obtain ⟨e, validBefore, rfl⟩ := exists_previous valid same
        rw [daysSinceYearZero_next validBefore] at count
        omega
  | succ n ih =>
      by_cases same : d = ⟨0, 1, 1⟩
      · rw [same]
        exact first
      · obtain ⟨e, validBefore, rfl⟩ := exists_previous valid same
        rw [daysSinceYearZero_next validBefore] at count
        exact step e validBefore (ih validBefore (by omega))

/-- What is counted is a date of the calendar, and its number is the one computed. -/
theorem IsDay.spec {d : Date} {n : Int} (counted : d.IsDay n) :
    d.isValid = true ∧ d.dayNumber = n := by
  induction counted with
  | epoch => exact ⟨rfl, by decide⟩
  | next _ ih => exact ⟨isValid_next ih.1, by rw [dayNumber_next ih.1, ih.2]⟩
  | previous valid _ ih =>
      refine ⟨valid, ?_⟩
      have after := ih.2
      rw [dayNumber_next valid] at after
      omega

/-- The count goes back from any date to the first day of the year 0. -/
theorem isDay_first : IsDay ⟨0, 1, 1⟩ (dayNumber ⟨0, 1, 1⟩) := by
  have back : ∀ d : Date, d.isValid = true → d.IsDay d.dayNumber →
      IsDay ⟨0, 1, 1⟩ (dayNumber ⟨0, 1, 1⟩) := by
    intro d valid
    refine valid_induction (P := fun d => d.IsDay d.dayNumber → _) id ?_ valid
    intro e validBefore earlier counted
    rw [dayNumber_next validBefore] at counted
    have before := IsDay.previous validBefore counted
    rw [Int.add_sub_cancel] at before
    exact earlier before
  exact back ⟨1970, 1, 1⟩ rfl .epoch

theorem isDay_dayNumber {d : Date} (valid : d.isValid = true) : d.IsDay d.dayNumber := by
  refine valid_induction (P := fun d => d.IsDay d.dayNumber) isDay_first ?_ valid
  intro e validBefore counted
  rw [dayNumber_next validBefore]
  exact .next counted

/-- **The number of a day is the one that counting gives.** -/
theorem isDay_iff {d : Date} {n : Int} : d.IsDay n ↔ d.isValid = true ∧ d.dayNumber = n := by
  constructor
  · exact IsDay.spec
  · rintro ⟨valid, rfl⟩
    exact isDay_dayNumber valid

end RecordQuery.Date
