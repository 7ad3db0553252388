/-
# RecordQuery.Proofs.Comparison -- how the four relations answer together

The four relations put one question to a field: how it compares with the literal, read
as the field's kind.  So where the literal can be read, their verdicts are tied: a field
equals the literal if it is at most and at least it, and is distinct if it is one of
the two only (`Relation.verdicts_cohere`).  NaN alone compares with nothing, and no
literal is ever NaN, so a field that is neither at most nor at least the literal is NaN
itself.  `comparisons_cohere` says this for every literal and field, with the two ways
in which the relations can refuse: all of them where the literal cannot be read, and
the two that need an order where the field is a flag.
-/
import RecordQuery.Proofs.Refusal

namespace RecordQuery

set_option autoImplicit false

/-- The verdicts of the relations on one comparison; without an outcome, none of them holds. -/
theorem Relation.verdicts_cohere (outcome : Option Ordering) :
    outcome.any equal.holds = (outcome.any atMost.holds && outcome.any atLeast.holds) ∧
      outcome.any distinct.holds = (outcome.any atMost.holds ^^ outcome.any atLeast.holds) ∧
      (outcome.any atMost.holds = false ∧ outcome.any atLeast.holds = false ↔ outcome = none) := by
  rcases outcome with _ | _ | _ | _ <;> decide

namespace Literal

theorem kind_of_as? {v : Literal} {kind : FieldKind} {other : Field}
    (read : v.as? kind = some other) : other.kind = kind := by
  -- A kind has one constructor of fields, whichever literal is read.
  cases kind <;> cases v <;> grind [as?, Field.kind, Option.map_eq_some_iff]

/-- No literal stands for NaN. -/
theorem as?_ne_nan {v : Literal} {kind : FieldKind} :
    v.as? kind ≠ some (.number (.binary .nan)) := by
  intro read
  obtain rfl : .number = kind := kind_of_as? read
  cases v with
  | text s =>
      obtain ⟨n, spelled, isNan⟩ := Option.map_eq_some_iff.mp read
      cases isNan
      exact Number.ofText?_ne_nan _ spelled
  | integer n | instant t => cases read

end Literal

namespace Test

/-- A comparison with one literal. -/
def comparison (key : String) (relation : Relation) (v : Literal) : Test :=
  ⟨key, .compare relation v⟩

section Comparison

variable {relation : Relation} {v : Literal} {field : Field} (present : field ≠ .null)

include present

theorem judge_comparison_of_refused {key : String}
    (refused : relation.needsOrder = true ∧ field.kind = .flag ∨ ¬ v.CoercesTo field.kind) :
    (comparison key relation v).judge (some field) =
      .error (.unsupported key (.compare relation) field.kind) := by
  rw [judge_some_of_ne_null present]
  exact judgePresent_eq_error_iff.mpr ⟨rfl, refused⟩

/-- A literal that can be read is compared once for all relations, and only NaN has no outcome. -/
theorem exists_outcome (key : String) (fits : v.CoercesTo field.kind) :
    ∃ outcome : Option Ordering, (outcome = none ↔ field = .number (.binary .nan)) ∧
      ∀ relation : Relation, (relation.needsOrder = true → field.kind ≠ .flag) →
        (comparison key relation v).judge (some field) = .ok (outcome.any relation.holds) := by
  obtain ⟨other, read⟩ := Literal.coercesTo_iff.mp fits
  have notNan : other ≠ .number (.binary .nan) := by
    rintro rfl
    exact Literal.as?_ne_nan read
  refine ⟨field.order? other, ?_, fun relation ordered => ?_⟩
  · rw [Field.order?_eq_none_iff present (Literal.kind_of_as? read).symm]
    exact or_iff_left notNan
  · have suits : ¬ (relation.needsOrder = true ∧ field.kind = .flag) := by
      rintro ⟨needs, isFlag⟩
      exact ordered needs isFlag
    rw [judge_some_of_ne_null present]
    simp only [judgePresent, comparison, if_neg suits, order, read]
    rfl

end Comparison

/-- **The comparisons cohere**, for every literal and field.  A null field passes none of them.  A
text, a number or an instant is refused by all four, or has a verdict from all: it equals the
literal if it is at most and at least it, is distinct if it is exactly one of the two, and is
neither only if it is NaN, which then passes none.  A flag has no order, so it is refused by two at
least; the other two are then both refused, or one is the negation of the other. -/
theorem comparisons_cohere (key : String) (v : Literal) (field : Field) :
    (∀ connective relation,
      ofCondition ⟨connective, key, .compare relation, .one v⟩ = .ok (comparison key relation v)) ∧
    (field = .null → ∀ relation, (comparison key relation v).judge (some field) = .ok false) ∧
    (field.kind = .text ∨ field.kind = .number ∨ field.kind = .instant →
      (∀ relation, (comparison key relation v).judge (some field) =
        .error (.unsupported key (.compare relation) field.kind)) ∨
      ∃ verdict : Relation → Bool,
        (∀ relation, (comparison key relation v).judge (some field) = .ok (verdict relation)) ∧
        verdict .equal = (verdict .atMost && verdict .atLeast) ∧
        verdict .distinct = (verdict .atMost ^^ verdict .atLeast) ∧
        (verdict .atMost = false ∧ verdict .atLeast = false ↔ field = .number (.binary .nan))) ∧
    (field.kind = .flag →
      (comparison key .atMost v).judge (some field) =
        .error (.unsupported key (.compare .atMost) field.kind) ∧
      (comparison key .atLeast v).judge (some field) =
        .error (.unsupported key (.compare .atLeast) field.kind) ∧
      ((∀ relation, (comparison key relation v).judge (some field) =
        .error (.unsupported key (.compare relation) field.kind)) ∨
      ∃ same, (comparison key .equal v).judge (some field) = .ok same ∧
        (comparison key .distinct v).judge (some field) = .ok !same)) := by
  refine ⟨fun _ _ => rfl, ?_, ?_, ?_⟩
  · rintro rfl relation
    rfl
  · intro ordered
    have present : field ≠ .null := by
      rintro rfl
      simp [Field.kind] at ordered
    have notFlag : field.kind ≠ .flag := by
      intro isFlag
      simp [isFlag] at ordered
    by_cases fits : v.CoercesTo field.kind
    · obtain ⟨outcome, onlyNan, judged⟩ := exists_outcome present key fits
      obtain ⟨equal, distinct, neither⟩ := Relation.verdicts_cohere outcome
      exact .inr ⟨fun relation => outcome.any relation.holds,
        fun relation => judged relation fun _ => notFlag, equal, distinct, neither.trans onlyNan⟩
    · exact .inl fun relation => judge_comparison_of_refused present (.inr fits)
  · intro isFlag
    have present : field ≠ .null := by
      rintro rfl
      cases isFlag
    refine ⟨judge_comparison_of_refused present (.inl ⟨rfl, isFlag⟩),
      judge_comparison_of_refused present (.inl ⟨rfl, isFlag⟩), ?_⟩
    by_cases fits : v.CoercesTo field.kind
    · obtain ⟨outcome, onlyNan, judged⟩ := exists_outcome present key fits
      have compared : outcome ≠ none := by
        intro noOutcome
        rw [onlyNan.mp noOutcome] at isFlag
        cases isFlag
      obtain ⟨o, rfl⟩ := Option.ne_none_iff_exists'.mp compared
      exact .inr ⟨_, judged .equal (by simp [Relation.needsOrder]),
        judged .distinct (by simp [Relation.needsOrder])⟩
    · exact .inl fun relation => judge_comparison_of_refused present (.inr fits)

/-- NaN is not even distinct from a number. -/
example : (comparison "x" .distinct (.text "1")).judge (some (.number (.binary .nan))) =
    .ok false := rfl

end Test

end RecordQuery
