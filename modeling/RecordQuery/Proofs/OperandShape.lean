/-
# RecordQuery.Proofs.OperandShape -- which conditions make no test

A condition may hold any operand, so whether it makes a test is found out only when the
test is made.  There are two ways in which it makes none: its operator works on the other
shape of operand (`Operator.needs`), or it looks for a pattern that is too large.
`ofCondition_eq_error_iff` says that there is no third, and which error names which.
The filter of a query then fails as the first of its conditions that does.
-/
import RecordQuery.Proofs.TestMaking

namespace RecordQuery

set_option autoImplicit false

theorem Shape.demand_eq_list_iff {needed : Shape} :
    needed.demand = "needs a list value" ↔ needed = .many := by
  cases needed <;> simp [demand]

theorem Shape.demand_eq_single_iff {needed : Shape} :
    needed.demand = "needs a single value" ↔ needed = .one := by
  cases needed <;> simp [demand]

/-- The shape of operand that an operator works on.  A test for null ignores its operand. -/
def Operator.needs : Operator → Option Shape
  | .compare _ | .like => some .one
  | .isNull => none
  | .oneOf => some .many

theorem Operator.needs_eq_many_iff {op : Operator} : op.needs = some .many ↔ op = .oneOf := by
  cases op <;> simp [needs]

namespace Operand

theorem shape_ne_one_iff {operand : Operand} : operand.shape ≠ .one ↔ operand.shape = .many := by
  cases operand <;> simp [shape]

theorem shape_eq_many_iff {operand : Operand} :
    operand.shape = .many ↔ ∃ vs, operand = .many vs := by
  cases operand <;> simp [shape]

end Operand

namespace Condition

/-- The operand has not the shape that the operator works on. -/
def Misshapen (c : Condition) (needed : Shape) : Prop :=
  c.operator.needs = some needed ∧ c.operand.shape ≠ needed

/-- A membership test of a single literal, or a list where any other operator reads its operand. -/
theorem misshapen_iff {c : Condition} {needed : Shape} :
    c.Misshapen needed ↔
      c.operator = .oneOf ∧ (∃ v, c.operand = .one v) ∧ needed = .many ∨
        (c.operator = .like ∨ ∃ relation, c.operator = .compare relation) ∧
          (∃ vs, c.operand = .many vs) ∧ needed = .one := by
  obtain ⟨connective, key, operator, operand⟩ := c
  cases operator <;> cases operand <;> cases needed <;>
    simp [Misshapen, Operator.needs, Operand.shape]

/-- The condition looks for a pattern that is too large. -/
def Overlong (c : Condition) : Prop :=
  c.operator = .like ∧ ∃ v, c.operand = .one v ∧ Pattern.ofText? v.render = none

end Condition

namespace Test

theorem single_eq_error_iff {c : Condition} {e : QueryError} :
    single c = .error e ↔ c.operand.shape ≠ .one ∧ e = .wrongShape c.key c.operator .one := by
  cases shape : c.operand <;> simp [single, shape, Operand.shape, eq_comm]

/-- **A condition makes no test for one of two reasons**: the shape of its operand, or the size of
its pattern. -/
theorem ofCondition_eq_error_iff {c : Condition} {e : QueryError} :
    ofCondition c = .error e ↔
      (∃ needed, c.Misshapen needed ∧ e = .wrongShape c.key c.operator needed) ∨
        c.Overlong ∧ e = .patternTooLarge := by
  unfold Condition.Misshapen Condition.Overlong
  cases operator : c.operator with
  | isNull => simp [ofCondition, operator, Operator.needs]
  | oneOf =>
      cases shape : c.operand <;>
        simp [ofCondition, operator, shape, Operator.needs, Operand.shape, eq_comm]
  | like =>
      simp only [ofCondition, operator, bind_eq_error_iff, single_eq_error_iff, single_eq_ok_iff]
      constructor
      · rintro (⟨shape, rfl⟩ | ⟨v, shape, read⟩)
        · exact .inl ⟨.one, ⟨rfl, shape⟩, rfl⟩
        · split at read
          · cases read
          · rename_i unread
            cases read
            exact .inr ⟨⟨trivial, v, shape, unread⟩, rfl⟩
      · rintro (⟨needed, ⟨works, shape⟩, rfl⟩ | ⟨⟨-, v, shape, unread⟩, rfl⟩)
        · cases works
          exact .inl ⟨shape, rfl⟩
        · exact .inr ⟨v, shape, by rw [unread]⟩
  | compare relation =>
      simp only [ofCondition, operator, bind_eq_error_iff, single_eq_error_iff, single_eq_ok_iff]
      simp [Operator.needs]

end Test

namespace Filter

theorem stepOf_eq_error_iff {c : Condition} {e : QueryError} :
    stepOf c = .error e ↔ Test.ofCondition c = .error e :=
  bind_pure_eq_error_iff

/-- A query makes no filter exactly as the first of its conditions that makes no test. -/
theorem ofQuery_eq_error_iff {q : Query} {e : QueryError} :
    ofQuery q = .error e ↔ FirstError Test.ofCondition q.conditions e := by
  rw [ofQuery, bind_pure_eq_error_iff, mapM_eq_error_iff]
  exact firstError_congr fun _ _ _ => stepOf_eq_error_iff

end Filter

end RecordQuery
