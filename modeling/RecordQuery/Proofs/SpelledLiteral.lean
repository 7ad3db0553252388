/-
# RecordQuery.Proofs.SpelledLiteral -- literals and the texts they are written as

A whole number or an instant is written in decimal, and its digits read back as the
same field of every kind; so a literal and its text stand for the same field
(`as?_spelled`), and a test cannot tell whether its literals were spelled out
(`judge_spelled`).
-/
import RecordQuery.Test.Basic

namespace RecordQuery

set_option autoImplicit false

/-! ## Decimals -/

theorem Literal.integer64?_ofInt (n : Int64) :
    integer64? (Text.ofInt n.toInt) = some n := by
  rw [integer64?, Text.integer?_ofInt, Option.bind_some, if_pos ⟨n.minValue_le_toInt, n.toInt_le⟩,
    Int64.ofInt_toInt]

/-- A text that spells a signed whole number of 64 bits spells that number. -/
theorem Number.ofText?_of_integer64? {s : String} {n : Int64}
    (read : Literal.integer64? s = some n) : ofText? s.toList = some (.signed n) := by
  obtain ⟨v, decimal, held⟩ := Option.bind_eq_some_iff.mp read
  obtain ⟨fits, same⟩ := Option.ite_none_right_eq_some.mp held
  rw [ofText?, decimal, Option.bind_some, ofInt?, if_pos fits, ← Option.some.inj same,
    Option.some_or]

theorem Number.ofText?_ofInt (n : Int64) :
    Number.ofText? (Text.ofInt n.toInt).toList = some (.signed n) :=
  ofText?_of_integer64? (Literal.integer64?_ofInt n)

namespace Literal

/-- The words for flags are no decimals. -/
theorem ofInt_ne_of_integer?_eq_none {word : String} (unread : Text.integer? word.toList = none)
    (n : Int) : Text.ofInt n ≠ word := by
  rintro rfl
  rw [Text.integer?_ofInt] at unread
  cases unread

theorem as?_flag_ofInt (n : Int) : (Literal.text (Text.ofInt n)).as? .flag = none := by
  have notTrue : Text.ofInt n ≠ "true" := ofInt_ne_of_integer?_eq_none rfl n
  have notFalse : Text.ofInt n ≠ "false" := ofInt_ne_of_integer?_eq_none rfl n
  simp [as?, notTrue, notFalse]

/-! ## Spelled literals -/

/-- The literal as the text it is written as. -/
def spelled (v : Literal) : Literal :=
  .text v.render

@[simp] theorem render_spelled (v : Literal) : v.spelled.render = v.render := rfl

/-- **A literal and its text stand for the same field of every kind.** -/
theorem as?_spelled (v : Literal) (kind : FieldKind) : v.spelled.as? kind = v.as? kind := by
  cases v with
  | text s => rfl
  | integer n =>
      cases kind with
      | text | null => rfl
      | number => simp [spelled, render, as?, Number.ofText?_ofInt]
      | instant => simp [spelled, render, as?, integer64?_ofInt]
      | flag => exact as?_flag_ofInt n.toInt
  | instant t =>
      cases kind with
      | text | null => rfl
      | number => simp [spelled, render, as?, Number.ofText?_ofInt]
      | instant => simp [spelled, render, as?, integer64?_ofInt]
      | flag => exact as?_flag_ofInt t.millis.toInt

end Literal

/-! ## Spelled tests -/

def Requirement.spelled : Requirement → Requirement
  | .compare relation v => .compare relation v.spelled
  | .isNull => .isNull
  | .like pattern => .like pattern
  | .oneOf vs => .oneOf (vs.map Literal.spelled)

@[simp] theorem Requirement.operator_spelled (r : Requirement) :
    r.spelled.operator = r.operator := by
  cases r <;> rfl

namespace Test

/-- The test with every literal as the text it is written as. -/
def spelled (t : Test) : Test :=
  ⟨t.key, t.requirement.spelled⟩

@[simp] theorem key_spelled (t : Test) : t.spelled.key = t.key := rfl

@[simp] theorem operator_spelled (t : Test) : t.spelled.operator = t.operator :=
  t.requirement.operator_spelled

theorem unsupported_spelled (t : Test) (field : Field) :
    t.spelled.unsupported field = t.unsupported field := by
  simp [unsupported]

theorem order_spelled (t : Test) (field : Field) (v : Literal) :
    t.spelled.order field v.spelled = t.order field v := by
  simp only [order, Literal.as?_spelled, unsupported_spelled]

theorem equalsAny_spelled (t : Test) (field : Field) (vs : List Literal) :
    t.spelled.equalsAny field (vs.map Literal.spelled) = t.equalsAny field vs := by
  induction vs with
  | nil => rfl
  | cons v vs ih => simp only [List.map_cons, equalsAny, order_spelled, ih]

theorem judgePresent_spelled (t : Test) (field : Field) :
    t.spelled.judgePresent field = t.judgePresent field := by
  obtain ⟨key, requirement⟩ := t
  cases requirement with
  | isNull => rfl
  | like pattern => cases field <;> rfl
  | compare relation v =>
      have order := order_spelled ⟨key, .compare relation v⟩ field v
      have unsupported := unsupported_spelled ⟨key, .compare relation v⟩ field
      simp only [spelled, Requirement.spelled] at order unsupported
      simp only [judgePresent, spelled, Requirement.spelled, order, unsupported]
  | oneOf vs => exact equalsAny_spelled ⟨key, .oneOf vs⟩ field vs

/-- **No field tells whether a test's literals were spelled out**, by a verdict or by an error. -/
theorem judge_spelled (t : Test) (field : Option Field) : t.spelled.judge field = t.judge field := by
  cases field with
  | none => rfl
  | some f =>
      cases f with
      | null => simp [judge]
      | _ => simp only [judge, judgePresent_spelled]

end Test

end RecordQuery
