/-
# RecordQuery.Proofs.DateFields -- what declaring a field a date does to its numbers

A whole number in a date field is an instant, and elsewhere it is a number.  Fewer literals
can stand for an instant than for a number, but those that can are read as the same whole
number both times and compare with the same outcome (`order_instant`).  So whatever a test
says of the instant it says of the number too, and all that a date field adds is a refusal
of the kind `instant` (`judge_instant`).  In a list, this holds wherever the search ends.

`accepts_dating` is the same of a whole filter and a record, for any field that is no text:
a text can be a date, and then it answers otherwise.
-/
import RecordQuery.Record
import RecordQuery.Proofs.Refusal
import RecordQuery.Proofs.Selection
import RecordQuery.Proofs.SpelledLiteral

namespace RecordQuery

set_option autoImplicit false

/-! ## Records -/

namespace FieldOptions

/-- The options with the field among the dates. -/
def dating (options : FieldOptions) (key : String) : FieldOptions :=
  { options with dateFields := key :: options.dateFields }

/-- The options with the field not among the dates. -/
def undating (options : FieldOptions) (key : String) : FieldOptions :=
  { options with dateFields := options.dateFields.filter (· != key) }

end FieldOptions

namespace JsonObject

variable {object : JsonObject} {options : FieldOptions} {key : String}

theorem lookup_dating_of_ne {name : String} (other : name ≠ key) :
    object.lookup (options.dating key) name = object.lookup (options.undating key) name := by
  have same : (options.dating key).dateFields.contains name =
      (options.undating key).dateFields.contains name := by
    rw [Bool.eq_iff_iff]
    simp [FieldOptions.dating, FieldOptions.undating, other]
  rw [lookup, lookup, same]
  rfl

/-- Only a whole number in the field itself is read in two ways. -/
theorem lookup_dating (notText : ∀ s, object.get? key ≠ some (.text s)) :
    object.lookup (options.dating key) key = object.lookup (options.undating key) key ∨
      ∃ n, object.lookup (options.dating key) key = some (.instant ⟨n⟩) ∧
        object.lookup (options.undating key) key = some (.number (.signed n)) := by
  have isDate : (options.dating key).dateFields.contains key = true := by
    simp [FieldOptions.dating]
  have noDate : (options.undating key).dateFields.contains key = false := by
    simp [FieldOptions.undating]
  simp only [lookup, isDate, noDate]
  cases held : object.get? key with
  | none => exact .inl rfl
  | some v =>
      cases v with
      | text s => exact absurd held (notText s)
      | number m =>
          cases m with
          | signed n => exact .inr ⟨n, rfl, rfl⟩
          | unsigned n | binary x => exact .inl rfl
      | null | bool b | array items | object entries => exact .inl rfl

end JsonObject

/-! ## Whole numbers as instants -/

/-- What is read as an instant is read as a number of the same value. -/
theorem Literal.as?_number_of_instant {v : Literal} {other : Field}
    (read : v.as? .instant = some other) :
    ∃ n, other = .instant ⟨n⟩ ∧ v.as? .number = some (.number (.signed n)) := by
  cases v with
  | text s =>
      obtain ⟨n, decimal, rfl⟩ := Option.map_eq_some_iff.mp read
      exact ⟨n, rfl, by rw [as?, Number.ofText?_of_integer64? decimal]; rfl⟩
  | integer n =>
      cases read
      exact ⟨n, rfl, rfl⟩
  | instant t =>
      cases read
      exact ⟨t.millis, rfl, rfl⟩

theorem Field.order?_instant (m n : Int64) :
    (Field.instant ⟨m⟩).order? (.instant ⟨n⟩) =
      (Field.number (.signed m)).order? (.number (.signed n)) := by
  have same : compare m n = compare m.toInt n.toInt := by
    simp only [compare, compareOfLessAndEq, Int64.lt_iff_toInt_lt, Int64.toInt_inj]
  exact congrArg some same

namespace Test

/-- The error is the one with which the test refuses an instant. -/
def RefusesInstant (t : Test) (e : QueryError) : Prop :=
  e = .unsupported t.key t.operator .instant

variable (t : Test) (n : Int64)

theorem refusesInstant : t.RefusesInstant (t.unsupported (.instant ⟨n⟩)) := rfl

theorem order_instant (v : Literal) :
    Stricter t.RefusesInstant (t.order (.instant ⟨n⟩) v) (t.order (.number (.signed n)) v) := by
  cases read : v.as? .instant with
  | none =>
      have refused : t.order (.instant ⟨n⟩) v = .error (t.unsupported (.instant ⟨n⟩)) :=
        order_eq_error_iff.mpr ⟨rfl, Literal.as?_eq_none_iff.mp read⟩
      rw [refused]
      exact .fails (t.refusesInstant n) _
  | some other =>
      obtain ⟨m, rfl, number⟩ := Literal.as?_number_of_instant read
      have same : t.order (.instant ⟨n⟩) v = t.order (.number (.signed n)) v := by
        simp only [order, Field.kind, read, number, Field.order?_instant]
      rw [same]
      exact .same _

theorem equalsAny_instant (vs : List Literal) :
    Stricter t.RefusesInstant (t.equalsAny (.instant ⟨n⟩) vs)
      (t.equalsAny (.number (.signed n)) vs) := by
  induction vs with
  | nil => exact .same _
  | cons v vs ih =>
      simp only [equalsAny]
      refine (order_instant t n v).bind fun o => ?_
      split
      · exact .same _
      · exact ih

/-- **A test says of a number what it says of the instant**, unless it refuses the instant. -/
theorem judge_instant :
    Stricter t.RefusesInstant (t.judge (some (.instant ⟨n⟩)))
      (t.judge (some (.number (.signed n)))) := by
  obtain ⟨key, requirement⟩ := t
  cases requirement with
  | isNull => exact .same _
  | like pattern => exact .fails (refusesInstant _ n) _
  | oneOf vs => exact equalsAny_instant _ n vs
  | compare relation v =>
      -- Neither kind is without an order, so the literal decides.
      simp only [judge, judgePresent, Field.kind, reduceCtorEq, and_false, if_false]
      exact (order_instant _ n v).bind fun o => .same _

end Test

namespace Filter

/-- **Declaring a field a date changes no answer on anything but texts.**  What a filter answers for
a record with the field among the dates, it answers with the field not among them; where the two
runs differ, the first has been refused by one of the filter's tests of this field, for being an
instant. -/
theorem accepts_dating (f : Filter) (object : JsonObject) (options : FieldOptions) {key : String}
    (notText : ∀ s, object.get? key ≠ some (.text s)) :
    (∀ b, f.accepts (object.lookup (options.dating key)) = .ok b →
      f.accepts (object.lookup (options.undating key)) = .ok b) ∧
    (f.accepts (object.lookup (options.dating key)) ≠
        f.accepts (object.lookup (options.undating key)) →
      ∃ t ∈ f.tests, t.key = key ∧ f.accepts (object.lookup (options.dating key)) =
        .error (.unsupported key t.operator .instant)) := by
  have answers : Stricter
      (fun e => ∃ t ∈ f.tests, t.key = key ∧ e = .unsupported key t.operator .instant)
      (f.accepts (object.lookup (options.dating key)))
      (f.accepts (object.lookup (options.undating key))) := by
    refine accepts_stricter fun t isTest => ?_
    by_cases same : t.key = key
    · rw [same]
      rcases JsonObject.lookup_dating notText with equal | ⟨n, instant, number⟩
      · rw [equal]
        exact .same _
      · rw [instant, number]
        refine (t.judge_instant n).imp fun e refused => ⟨t, isTest, same, ?_⟩
        rw [refused, same]
    · rw [JsonObject.lookup_dating_of_ne same]
      exact .same _
  refine ⟨fun b given => answers.eq_ok given, fun differ => ?_⟩
  obtain ⟨e, ⟨t, isTest, same, rfl⟩, failed⟩ := answers.exists_error differ
  exact ⟨t, isTest, same, failed⟩

/-- A list in which a fraction stands in front of a whole number. -/
def fractionFirst : Filter :=
  ⟨[(.and, ⟨"at", .oneOf [.text "4.5", .text "5"]⟩)]⟩

def atFive : JsonObject := [("at", .number (.signed 5))]

/-- The number 5 is found behind the fraction; an instant cannot be compared with the fraction. -/
theorem accepts_dating_fraction :
    (∀ s, atFive.get? "at" ≠ some (.text s)) ∧
      fractionFirst.accepts (atFive.lookup (FieldOptions.undating ⟨[], false⟩ "at")) = .ok true ∧
      fractionFirst.accepts (atFive.lookup (FieldOptions.dating ⟨[], false⟩ "at")) =
        .error (.unsupported "at" .oneOf .instant) := by
  have notText : ∀ s, atFive.get? "at" ≠ some (.text s) := by
    intro s held
    cases held
  have number : fractionFirst.accepts (atFive.lookup (FieldOptions.undating ⟨[], false⟩ "at")) =
      .ok true := by decide +kernel
  have differ : fractionFirst.accepts (atFive.lookup (FieldOptions.dating ⟨[], false⟩ "at")) ≠
      fractionFirst.accepts (atFive.lookup (FieldOptions.undating ⟨[], false⟩ "at")) := by
    rw [number]
    decide +kernel
  obtain ⟨t, isTest, -, refused⟩ := (accepts_dating fractionFirst atFive _ notText).2 differ
  obtain rfl : t = ⟨"at", .oneOf [.text "4.5", .text "5"]⟩ := by
    simpa [fractionFirst, tests] using isTest
  exact ⟨notText, number, refused⟩

end Filter

end RecordQuery
