/-
# RecordQuery.Proofs.MissingFields -- fields that a record lacks, as unknown or as null

A name that a JSON object lacks is unknown, and no test can judge it; with the option for
that it is null instead, and every test can.  Names that the object has are not affected.
So a test that reads missing fields as null answers as one that does not, except where the
latter fails for an unknown field (`judge_missing_null`), and it never fails for one itself
(`judge_some_ne_unknownField`).

A filter stops at its first error.  `accepts_missing_null` says that the option nevertheless
changes nothing but that one error: a refusal in front of a missing field stays, and so
does every answer and every selection.
-/
import RecordQuery.Record
import RecordQuery.Proofs.Refusal
import RecordQuery.Proofs.Selection

namespace RecordQuery

set_option autoImplicit false

/-- The error of a field that the record does not have. -/
def QueryError.IsUnknownField (e : QueryError) : Prop :=
  ∃ key, e = .unknownField key

namespace JsonObject

variable (object : JsonObject) (dateFields : List String) (key : String)

/-- Only a missing name is looked up in two ways. -/
theorem lookup_missing_null :
    object.lookup ⟨dateFields, true⟩ key = object.lookup ⟨dateFields, false⟩ key ∨
      object.lookup ⟨dateFields, false⟩ key = none := by
  cases held : object.get? key with
  | some v => exact .inl (by simp only [lookup, held])
  | none => exact .inr (by simp [lookup, held])

theorem exists_lookup_missing_null :
    ∃ field, object.lookup ⟨dateFields, true⟩ key = some field := by
  cases held : object.get? key with
  | some v => exact ⟨v.toField (dateFields.contains key), by simp only [lookup, held]⟩
  | none => exact ⟨.null, by simp [lookup, held]⟩

end JsonObject

namespace Test

/-- A field that is there is never unknown, whether it is null or refused. -/
theorem judge_some_ne_unknownField (t : Test) (field : Field) (key : String) :
    t.judge (some field) ≠ .error (.unknownField key) := by
  intro failed
  by_cases null : field = .null
  · subst null
    cases failed
  · rw [judge_some_of_ne_null null] at failed
    have named := (judgePresent_eq_error_iff.mp failed).1
    cases named

theorem judge_missing_null (t : Test) (object : JsonObject) (dateFields : List String) :
    Stricter QueryError.IsUnknownField (t.judge (object.lookup ⟨dateFields, false⟩ t.key))
      (t.judge (object.lookup ⟨dateFields, true⟩ t.key)) := by
  rcases object.lookup_missing_null dateFields t.key with same | missing
  · rw [same]
    exact .same _
  · rw [missing]
    exact .fails ⟨t.key, rfl⟩ _

end Test

namespace Filter

section Records

variable (f : Filter) (dateFields : List String)

theorem accepts_ne_unknownField (object : JsonObject) (key : String) :
    f.accepts (object.lookup ⟨dateFields, true⟩) ≠ .error (.unknownField key) := by
  intro failed
  obtain ⟨t, -, cause⟩ := exists_test_of_accepts_error failed
  obtain ⟨field, known⟩ := object.exists_lookup_missing_null dateFields t.key
  rw [known] at cause
  exact t.judge_some_ne_unknownField field key cause

theorem accepts_stricter_missing_null (object : JsonObject) :
    Stricter QueryError.IsUnknownField (f.accepts (object.lookup ⟨dateFields, false⟩))
      (f.accepts (object.lookup ⟨dateFields, true⟩)) :=
  accepts_stricter fun t _ => t.judge_missing_null object dateFields

end Records

/-- **Reading missing fields as null answers what was unknown and changes nothing else.**  With the
option, no record fails for an unknown field.  Where a record does not fail for one without the
option, its answer or its error is the same with it.  And where all of a list of records can be
judged without the option, the same ones are selected with it. -/
theorem accepts_missing_null (f : Filter) (dateFields : List String) :
    (∀ (object : JsonObject) (key : String),
      f.accepts (object.lookup ⟨dateFields, true⟩) ≠ .error (.unknownField key)) ∧
    (∀ object : JsonObject,
      (∀ key, f.accepts (object.lookup ⟨dateFields, false⟩) ≠ .error (.unknownField key)) →
      f.accepts (object.lookup ⟨dateFields, true⟩) =
        f.accepts (object.lookup ⟨dateFields, false⟩)) ∧
    ∀ records hits : List JsonObject,
      f.select (fun r => r.lookup ⟨dateFields, false⟩) records = .ok hits →
      f.select (fun r => r.lookup ⟨dateFields, true⟩) records = .ok hits := by
  refine ⟨f.accepts_ne_unknownField dateFields, fun object known => ?_,
    fun records hits selected => ?_⟩
  · by_contra differ
    obtain ⟨e, ⟨key, rfl⟩, failed⟩ :=
      (f.accepts_stricter_missing_null dateFields object).exists_error (Ne.symm differ)
    exact known key failed
  · have selections : Stricter QueryError.IsUnknownField
        (f.select (fun r => r.lookup ⟨dateFields, false⟩) records)
        (f.select (fun r => r.lookup ⟨dateFields, true⟩) records) :=
      select_stricter fun r _ => f.accepts_stricter_missing_null dateFields r
    exact selections.eq_ok selected

/-- A pattern for a field that may be a number, and a test of a field that may be missing. -/
def patternThenNull : Filter :=
  ⟨[(.and, ⟨"a", .like (.holding ['x'])⟩), (.and, ⟨"b", .isNull⟩)]⟩

def numbered : JsonObject := [("a", .number (.signed 1))]

def worded : JsonObject := [("a", .text "xy"), ("b", .null)]

/-- The refusal of the number hides the missing field behind it, with the option and without. -/
theorem accepts_missing_null_refused :
    patternThenNull.accepts (numbered.lookup ⟨[], false⟩) =
        .error (.unsupported "a" .like .number) ∧
      patternThenNull.accepts (numbered.lookup ⟨[], true⟩) =
        .error (.unsupported "a" .like .number) ∧
      patternThenNull.select (fun r => r.lookup ⟨[], true⟩) [worded] = .ok [worded] := by
  have refused : patternThenNull.accepts (numbered.lookup ⟨[], false⟩) =
      .error (.unsupported "a" .like .number) := rfl
  have known : ∀ key, patternThenNull.accepts (numbered.lookup ⟨[], false⟩) ≠
      .error (.unknownField key) := by
    intro key failed
    rw [refused] at failed
    cases failed
  have selected : patternThenNull.select (fun r => r.lookup ⟨[], false⟩) [worded] =
      .ok [worded] := rfl
  have answers := accepts_missing_null patternThenNull []
  refine ⟨refused, ?_, answers.2.2 _ _ selected⟩
  rw [answers.2.1 numbered known, refused]

end Filter

end RecordQuery
