/-
# RecordQuery.Proofs.TestMaking -- which conditions make which tests

A test keeps the key and the operator of its condition and takes over its operand in
the shape that the operator needs; `Requirement.Takes` says which operand that is.
`ofCondition_eq_ok_iff` says that a condition makes a test exactly if the test fits it
in these three ways, so later proofs ask what a test is made of and never how it was
made.
-/
import RecordQuery.Filter
import RecordQuery.Proofs.Traversal

namespace RecordQuery

set_option autoImplicit false

/-- The requirement has been made from the operand.  A test for null takes any. -/
def Requirement.Takes : Requirement → Operand → Prop
  | .compare _ v, operand => operand = .one v
  | .isNull, _ => True
  | .like pattern, operand => ∃ v, operand = .one v ∧ Pattern.ofText? v.render = some pattern
  | .oneOf vs, operand => operand = .many vs

namespace Test

theorem single_eq_ok_iff {c : Condition} {v : Literal} :
    single c = .ok v ↔ c.operand = .one v := by
  cases shape : c.operand <;> simp [single, shape]

theorem ofCondition_eq_ok {c : Condition} {t : Test} (made : ofCondition c = .ok t) :
    t.key = c.key ∧ t.operator = c.operator ∧ t.requirement.Takes c.operand := by
  cases operator : c.operator with
  | isNull =>
      simp only [ofCondition, operator] at made
      cases made
      exact ⟨rfl, rfl, trivial⟩
  | oneOf =>
      simp only [ofCondition, operator] at made
      split at made
      · rename_i vs shape
        cases made
        exact ⟨rfl, rfl, shape⟩
      · cases made
  | like =>
      simp only [ofCondition, operator, bind_eq_ok_iff, single_eq_ok_iff] at made
      obtain ⟨v, shape, read⟩ := made
      split at read
      · rename_i pattern compiled
        cases read
        exact ⟨rfl, rfl, v, shape, compiled⟩
      · cases read
  | compare relation =>
      simp only [ofCondition, operator, bind_eq_ok_iff, single_eq_ok_iff] at made
      obtain ⟨v, shape, read⟩ := made
      cases read
      exact ⟨rfl, rfl, shape⟩

/-- **A condition makes the test that has its key, its operator and its operand, and no other.** -/
theorem ofCondition_eq_ok_iff {c : Condition} {t : Test} :
    ofCondition c = .ok t ↔
      t.key = c.key ∧ t.operator = c.operator ∧ t.requirement.Takes c.operand := by
  refine ⟨ofCondition_eq_ok, ?_⟩
  obtain ⟨key, requirement⟩ := t
  rintro ⟨rfl, operator, takes⟩
  unfold ofCondition
  rw [← operator]
  cases requirement with
  | isNull => rfl
  | oneOf vs =>
      have shape : c.operand = .many vs := takes
      simp only [Test.operator, Requirement.operator, shape]
  | like pattern =>
      obtain ⟨v, shape, compiled⟩ := takes
      exact bind_eq_ok_iff.mpr ⟨v, single_eq_ok_iff.mpr shape, by rw [compiled]⟩
  | compare relation v =>
      exact bind_eq_ok_iff.mpr ⟨v, single_eq_ok_iff.mpr takes, rfl⟩

end Test

namespace Filter

theorem stepOf_eq_ok_iff {c : Condition} {step : Connective × Test} :
    stepOf c = .ok step ↔ step.1 = c.connective.getD .and ∧ Test.ofCondition c = .ok step.2 := by
  rw [stepOf, bind_eq_ok_iff]
  constructor
  · rintro ⟨t, made, result⟩
    cases result
    exact ⟨rfl, made⟩
  · rintro ⟨connective, made⟩
    exact ⟨step.2, made, by rw [← connective]; rfl⟩

/-- A filter has one step for every condition of its query, in order. -/
theorem ofQuery_eq_ok_iff {q : Query} {f : Filter} :
    ofQuery q = .ok f ↔ List.Forall₂ (fun c (step : Connective × Test) =>
      step.1 = c.connective.getD .and ∧ Test.ofCondition c = .ok step.2) q.conditions f.steps := by
  simp only [ofQuery, bind_eq_ok_iff, mapM_eq_ok_iff, stepOf_eq_ok_iff]
  constructor
  · rintro ⟨steps, fits, result⟩
    cases result
    exact fits
  · exact fun fits => ⟨f.steps, fits, rfl⟩

theorem exists_stepOf_iff {c : Condition} :
    (∃ step, stepOf c = .ok step) ↔ ∃ t, Test.ofCondition c = .ok t := by
  constructor
  · rintro ⟨step, made⟩
    exact ⟨step.2, (stepOf_eq_ok_iff.mp made).2⟩
  · rintro ⟨t, made⟩
    exact ⟨(_, t), stepOf_eq_ok_iff.mpr ⟨rfl, made⟩⟩

/-- A query makes a filter if each of its conditions makes a test. -/
theorem exists_ofQuery_iff {q : Query} :
    (∃ f, ofQuery q = .ok f) ↔ ∀ c ∈ q.conditions, ∃ t, Test.ofCondition c = .ok t := by
  simp only [← exists_stepOf_iff, ← exists_mapM_eq_ok_iff, ofQuery, bind_eq_ok_iff]
  constructor
  · rintro ⟨f, steps, made, -⟩
    exact ⟨steps, made⟩
  · rintro ⟨steps, made⟩
    exact ⟨⟨steps⟩, steps, made, rfl⟩

end Filter

end RecordQuery
