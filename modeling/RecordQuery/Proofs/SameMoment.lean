/-
# RecordQuery.Proofs.SameMoment -- spellings of one moment answer alike

A date field can hold a date and time as text, with any offset, letter case and number of
digits, or a count of milliseconds.  `Spelling.moment` is the exact point in time that a
text spells, as a rational number of milliseconds since the start of 1970 in UTC: the day
is counted leaf by leaf (`Date.IsDay`), and nothing is rounded.  `JsonValue.Dates v x` says
that a value stands for the moment `x`.

`toInstant_parts` compares the moment with what is read: the reader cuts the digits of a
fraction off after the ninth and the nanoseconds off after the third, and what is left is
the moment rounded down.  No clamping comes in, for the years have four digits
(`floor_moment_bounds`), and a count in the same bounds is read as itself
(`ofWhole_eq_signed`).  So the values of one moment are one field (`toField_eq_of_dates`),
and no filter can tell them apart (`accepts_same_moment`).
-/
import RecordQuery.Record
import RecordQuery.Proofs.CalendarDays
import RecordQuery.Proofs.DateText
import Mathlib.Data.Rat.Floor

namespace RecordQuery

set_option autoImplicit false

/-! ## Moments -/

namespace Rfc3339.Spelling

variable {s : Spelling} {day : Int}

/-- Milliseconds since the start of 1970 in UTC, the date being so many days later. -/
def moment (s : Spelling) (day : Int) : ℚ :=
  ((day * 24 + value s.hour) * 60 + value s.minute - s.zone.minutesAhead) * 60000 +
    value s.second * 1000 + value s.fraction * 1000 / 10 ^ s.fraction.length

/-- Whole milliseconds of a second's digits are those of its nanoseconds. -/
theorem nanoseconds_div (digits : List Char) :
    nanoseconds digits / 1000000 = value digits * 1000 / 10 ^ digits.length := by
  have scaled : value digits * 10 ^ 9 = value digits * 1000 * 1000000 := by
    rw [Nat.mul_assoc]
    rfl
  rw [nanoseconds, scaled, Nat.div_div_eq_div_mul, Nat.mul_div_mul_right _ _ (by decide)]

theorem floor_moment (s : Spelling) (day : Int) :
    ⌊s.moment day⌋ =
      ((day * 24 + value s.hour) * 60 + value s.minute - s.zone.minutesAhead) * 60000 +
        value s.second * 1000 + (nanoseconds s.fraction / 1000000 : Nat) := by
  have fraction : ⌊(value s.fraction * 1000 / 10 ^ s.fraction.length : ℚ)⌋ =
      (nanoseconds s.fraction / 1000000 : Nat) := by
    rw [nanoseconds_div]
    exact_mod_cast Rat.floor_natCast_div_natCast (value s.fraction * 1000) (10 ^ s.fraction.length)
  rw [← fraction, ← Int.floor_intCast_add]
  push_cast
  rfl

/-- The second numbered 60 has its whole second among the nanoseconds. -/
theorem second_millis (inMinute : value s.second ≤ 60) :
    min (value s.second) 59 * 1000 + s.parts.secondNanos / 1000000 =
      value s.second * 1000 + nanoseconds s.fraction / 1000000 := by
  unfold secondNanos
  split
  · rename_i leap
    replace leap : value s.second = 60 := leap
    show _ + (nanoseconds s.fraction + 1000000000) / 1000000 = _
    omega
  · rename_i usual
    replace usual : value s.second ≠ 60 := usual
    show _ + (nanoseconds s.fraction + 0) / 1000000 = _
    omega

/-- A moment of a year of four digits has a count of 64 bits. -/
theorem floor_moment_bounds (wellFormed : s.WellFormed) (counted : s.date.IsDay day) :
    -2 ^ 63 ≤ ⌊s.moment day⌋ ∧ ⌊s.moment day⌋ < 2 ^ 63 := by
  obtain ⟨valid, number⟩ := counted.spec
  have year : value s.year < 10 ^ 4 := by
    have digits := value_lt wellFormed.year.2
    rwa [wellFormed.year.1] at digits
  have days : s.date.daysSinceYearZero < 366 * (value s.year + 2) := Date.daysSinceYearZero_lt valid
  have since := Date.dayNumber_eq s.date
  have epoch : Date.daysBeforeYear 1970 = 719528 := rfl
  have inDay := wellFormed.inDay
  have inHour := wellFormed.inHour
  have inMinute := wellFormed.inMinute
  have near : s.zone.minutesAhead.natAbs < 1440 := wellFormed.near
  have inSecond : nanoseconds s.fraction / 1000000 < 1000 := by
    rw [nanoseconds_div, Nat.div_lt_iff_lt_mul (Nat.pow_pos (by decide)), Nat.mul_comm]
    exact Nat.mul_lt_mul_of_pos_left (value_lt wellFormed.fraction) (by decide)
  rw [floor_moment]
  omega

/-- **What is read is the moment spelled, rounded down to milliseconds.** -/
theorem toInstant_parts (wellFormed : s.WellFormed) (counted : s.date.IsDay day) :
    s.parts.toInstant = ⟨Int64.ofInt ⌊s.moment day⌋⟩ := by
  obtain ⟨least, most⟩ := floor_moment_bounds wellFormed counted
  have number : s.date.dayNumber = day := counted.spec.2
  have second := second_millis wellFormed.inMinute
  have same : s.parts.utcSeconds * 1000 + (s.parts.secondNanos / 1000000 : Nat) =
      ⌊s.moment day⌋ := by
    have seconds : s.parts.utcSeconds = day * 86400 + value s.hour * 3600 + value s.minute * 60 +
        (min (value s.second) 59 : Nat) - s.zone.minutesAhead * 60 := by
      rw [← number]
      rfl
    rw [floor_moment, seconds]
    omega
  have lower : Int64.minValue.toInt = -2 ^ 63 := rfl
  have upper : Int64.maxValue.toInt = 2 ^ 63 - 1 := rfl
  rw [toInstant, Instant.ofUtc, same, Instant.clamp, if_neg (by omega), if_neg (by omega)]

end Rfc3339.Spelling

/-! ## Values that stand for a moment -/

namespace JsonValue

/-- The value stands for a point in time, given in milliseconds since the start of 1970: it is a
date and time that spells it, or the number that a whole literal which counts them is read as. -/
inductive Dates : JsonValue → ℚ → Prop
  | text {s : Rfc3339.Spelling} {day : Int} (wellFormed : s.WellFormed)
      (counted : s.date.IsDay day) : Dates (.text (String.ofList s.text)) (s.moment day)
  | count (m : Int) : Dates (.number (JsonNumber.ofWhole (decide (m < 0)) m.natAbs)) m

/-- The texts that stand for a moment are those that are read as a date and time, and the instant
read is the moment rounded down. -/
theorem exists_read_iff {text : String} {m : Int64} :
    (∃ t, Rfc3339.read text.toList = .ok t ∧ t.toInstant = ⟨m⟩) ↔
      ∃ x, (JsonValue.text text).Dates x ∧ ⌊x⌋ = m.toInt := by
  constructor
  · rintro ⟨t, read, instant⟩
    obtain ⟨s, wellFormed, spelled, rfl⟩ := Rfc3339.read_eq_ok_iff.mp read
    have counted := Date.isDay_dayNumber wellFormed.isDate
    obtain ⟨least, most⟩ := Rfc3339.Spelling.floor_moment_bounds wellFormed counted
    rw [Rfc3339.Spelling.toInstant_parts wellFormed counted, Instant.mk.injEq] at instant
    rw [← String.ofList_toList (s := text), ← spelled, ← instant]
    exact ⟨_, .text wellFormed counted, (Int64.toInt_ofInt_of_le least most).symm⟩
  · rintro ⟨x, dates, floor⟩
    cases dates with
    | text wellFormed counted =>
        refine ⟨_, Rfc3339.read_eq_ok_iff.mpr ⟨_, wellFormed, (String.toList_ofList).symm, rfl⟩, ?_⟩
        rw [Rfc3339.Spelling.toInstant_parts wellFormed counted, floor, Int64.ofInt_toInt]

/-- A count of 64 bits is read as itself. -/
theorem ofWhole_eq_signed {m : Int} (least : -2 ^ 63 ≤ m) (most : m < 2 ^ 63) :
    JsonNumber.ofWhole (decide (m < 0)) m.natAbs = .signed (Int64.ofInt m) := by
  have lower : Int64.minValue.toInt = -2 ^ 63 := rfl
  have upper : Int64.maxValue.toInt = 2 ^ 63 - 1 := rfl
  unfold JsonNumber.ofWhole
  by_cases negative : m < 0
  · rw [decide_eq_true negative, if_pos rfl, if_neg (by omega)]
    congr
    omega
  · rw [decide_eq_false negative, if_neg Bool.false_ne_true, if_pos (by omega)]
    congr
    omega

theorem dates_toField {v : JsonValue} {x : ℚ} (dates : v.Dates x) (least : -2 ^ 63 ≤ ⌊x⌋)
    (most : ⌊x⌋ < 2 ^ 63) : v.toField true = .instant ⟨Int64.ofInt ⌊x⌋⟩ := by
  cases dates with
  | text wellFormed counted =>
      have read := Rfc3339.read_eq_ok_iff.mpr ⟨_, wellFormed, (String.toList_ofList).symm, rfl⟩
      rw [toField, if_pos rfl, dateText, read]
      exact congrArg Field.instant (Rfc3339.Spelling.toInstant_parts wellFormed counted)
  | count m =>
      rw [Int.floor_intCast] at least most ⊢
      rw [ofWhole_eq_signed least most]
      rfl

/-- The values that stand for one moment are read as one field. -/
theorem toField_eq_of_dates {v w : JsonValue} {x : ℚ} (first : v.Dates x) (second : w.Dates x) :
    v.toField true = w.toField true := by
  by_cases bounds : -2 ^ 63 ≤ ⌊x⌋ ∧ ⌊x⌋ < 2 ^ 63
  · rw [dates_toField first bounds.1 bounds.2, dates_toField second bounds.1 bounds.2]
  · -- Past 64 bits there is no text, and only one count.
    cases first with
    | text wellFormed counted =>
        exact absurd (Rfc3339.Spelling.floor_moment_bounds wellFormed counted) bounds
    | count m =>
        generalize moment : (m : ℚ) = x at second bounds
        cases second with
        | text wellFormed counted =>
            exact absurd (Rfc3339.Spelling.floor_moment_bounds wellFormed counted) bounds
        | count n => rw [Int.cast_injective moment]

end JsonValue

/-! ## Records with one value replaced -/

namespace JsonObject

variable {object : JsonObject} {key : String}

theorem lookup_insertEntry {options : FieldOptions} {v w : JsonValue}
    (held : object.get? key = some v)
    (same : v.toField (options.dateFields.contains key) =
      w.toField (options.dateFields.contains key)) :
    (object.insertEntry key w).lookup options = object.lookup options := by
  funext name
  rw [lookup, lookup, get?_insertEntry]
  by_cases replaced : name = key
  · rw [if_pos replaced, replaced, held]
    simp only [same]
  · rw [if_neg replaced]

end JsonObject

namespace Filter

/-- **All spellings of one moment are interchangeable.**  A text in a date field is an instant
exactly if it spells a moment, and then it is the moment rounded down to milliseconds.  Whatever
stands there for a moment, a filter answers the same of the record that has another text or the
count of the same moment in its place. -/
theorem accepts_same_moment (f : Filter) (options : FieldOptions) (object : JsonObject) :
    (∀ (text : String) (m : Int64), (∃ t, Rfc3339.read text.toList = .ok t ∧ t.toInstant = ⟨m⟩) ↔
      ∃ x, (JsonValue.text text).Dates x ∧ ⌊x⌋ = m.toInt) ∧
    ∀ key ∈ options.dateFields, ∀ v w x, object.get? key = some v → v.Dates x → w.Dates x →
      f.accepts ((object.insertEntry key w).lookup options) =
        f.accepts (object.lookup options) := by
  refine ⟨fun text m => JsonValue.exists_read_iff, ?_⟩
  intro key isDate v w x held first second
  have dated : options.dateFields.contains key = true := List.contains_iff_mem.mpr isDate
  have same : v.toField (options.dateFields.contains key) =
      w.toField (options.dateFields.contains key) := by
    rw [dated]
    exact JsonValue.toField_eq_of_dates first second
  rw [JsonObject.lookup_insertEntry held same]

/-- Half past eleven and half a second in the evening before the first day, an hour behind UTC. -/
def evening : Rfc3339.Spelling :=
  ⟨['1', '9', '6', '9'], ['1', '2'], ['3', '1'], 'T', ['2', '3'], ['3', '0'], ['0', '0'], ['5'],
    .offset '-' ['0', '1'] ['0', '0']⟩

def atEvening : JsonObject := [("at", .text (String.ofList evening.text))]

def atCount : JsonValue := .number (JsonNumber.ofWhole false 1800500)

def searchCount : Filter := ⟨[(.and, ⟨"at", .compare .equal (.integer 1800500)⟩)]⟩

/-- The offset crosses into the year 1970, and the count of that moment is found in the text. -/
theorem accepts_same_moment_across_midnight :
    JsonValue.Dates (.text (String.ofList evening.text)) 1800500 ∧ atCount.Dates 1800500 ∧
      searchCount.accepts (atEvening.lookup ⟨["at"], false⟩) = .ok true := by
  have wellFormed : evening.WellFormed :=
    { year := ⟨rfl, List.all_eq_true.mp rfl⟩
      month := ⟨rfl, List.all_eq_true.mp rfl⟩
      day := ⟨rfl, List.all_eq_true.mp rfl⟩
      separator := .inl rfl
      hour := ⟨rfl, List.all_eq_true.mp rfl⟩
      minute := ⟨rfl, List.all_eq_true.mp rfl⟩
      second := ⟨rfl, List.all_eq_true.mp rfl⟩
      fraction := List.all_eq_true.mp rfl
      zone := ⟨.inr (.inl rfl), ⟨rfl, List.all_eq_true.mp rfl⟩, ⟨rfl, List.all_eq_true.mp rfl⟩, by decide⟩
      isDate := rfl
      inDay := by decide
      inHour := by decide
      inMinute := by decide
      near := by decide }
  have counted : evening.date.IsDay (0 - 1) := .previous rfl .epoch
  have moment : evening.moment (0 - 1) = 1800500 := by
    have ahead : evening.zone.minutesAhead = -60 := rfl
    have hour : Rfc3339.value evening.hour = 23 := rfl
    have minute : Rfc3339.value evening.minute = 30 := rfl
    have second : Rfc3339.value evening.second = 0 := rfl
    have fraction : Rfc3339.value evening.fraction = 5 := rfl
    have length : evening.fraction.length = 1 := rfl
    rw [Rfc3339.Spelling.moment, ahead, hour, minute, second, fraction, length]
    norm_num
  have text : JsonValue.Dates (.text (String.ofList evening.text)) 1800500 := by
    rw [← moment]
    exact .text wellFormed counted
  have count : atCount.Dates 1800500 := JsonValue.Dates.count 1800500
  refine ⟨text, count, ?_⟩
  have same := (accepts_same_moment searchCount ⟨["at"], false⟩ atEvening).2 "at" (by simp) _
    atCount 1800500 rfl text count
  rw [← same]
  decide +kernel

end Filter

end RecordQuery
