/-
# RecordQuery.Proofs.DecimalForms -- a whole number, an instant and their digits

A whole number of 64 bits can stand in a condition as a number, as the instant of as many
milliseconds, or as its decimal text.  A test reads each of its literals as a field of the
kind that it judges, and the three forms are written alike, so no field tells one from
another: not by a verdict and not by an error (`forms_interchangeable`).  In a list any
literal may be replaced by another form of it.
-/
import RecordQuery.Proofs.SpelledLiteral
import RecordQuery.Proofs.TestMaking
import RecordQuery.Proofs.Wildcards

namespace RecordQuery

set_option autoImplicit false

namespace Literal

/-- The literals that stand for a whole number. -/
def forms (n : Int64) : List Literal :=
  [.integer n, .instant ⟨n⟩, .text (Text.ofInt n.toInt)]

theorem render_of_mem_forms {n : Int64} {v : Literal} (form : v ∈ forms n) :
    v.render = Text.ofInt n.toInt := by
  simp only [forms, List.mem_cons, List.not_mem_nil, or_false] at form
  rcases form with rfl | rfl | rfl <;> rfl

/-- The literals are one, or two forms of one number. -/
def Alike (v w : Literal) : Prop :=
  v = w ∨ ∃ n, v ∈ forms n ∧ w ∈ forms n

theorem Alike.render_eq {v w : Literal} (alike : v.Alike w) : v.render = w.render := by
  rcases alike with rfl | ⟨n, left, right⟩
  · rfl
  · rw [render_of_mem_forms left, render_of_mem_forms right]

theorem Alike.spelled_eq {v w : Literal} (alike : v.Alike w) : v.spelled = w.spelled :=
  congrArg text alike.render_eq

end Literal

/-! ## Patterns -/

theorem Text.wildcard_not_mem_digitsOfInt (n : Int) : Pattern.wildcard ∉ digitsOfInt n := by
  have digits : ∀ m : Nat, Pattern.wildcard ∉ Nat.toDigits 10 m := by
    intro m member
    exact absurd (Nat.isDigit_of_mem_toDigits (by decide) (by decide) member) (by decide)
  unfold digitsOfInt
  split
  · rintro (_ | ⟨_, member⟩)
    exact digits _ member
  · exact digits _

/-- The digits of a number are a pattern without wildcards. -/
theorem Pattern.ofText?_ofInt (n : Int) :
    ofText? (Text.ofInt n) = some (.holding (Text.digitsOfInt n)) := by
  have free : wildcard ∉ (Text.ofInt n).toList := by
    simpa [Text.ofInt] using Text.wildcard_not_mem_digitsOfInt n
  rw [ofText?_of_not_mem free, Text.ofInt, String.toList_ofList]

/-! ## Conditions -/

/-- The operands have one shape and alike literals in it. -/
inductive Operand.Alike : Operand → Operand → Prop
  | one {v w : Literal} (literals : v.Alike w) : Alike (.one v) (.one w)
  | many {vs ws : List Literal} (literals : List.Forall₂ Literal.Alike vs ws) :
      Alike (.many vs) (.many ws)

theorem Literal.map_spelled_of_alike {vs ws : List Literal}
    (alike : List.Forall₂ Literal.Alike vs ws) : vs.map spelled = ws.map spelled := by
  rw [← List.forall₂_eq_eq_eq, List.forall₂_map_left_iff, List.forall₂_map_right_iff]
  exact alike.imp fun _ _ => Alike.spelled_eq

/-- What is made of one of two alike operands is made of the other, up to the spelling. -/
theorem Requirement.exists_of_alike {r : Requirement} {p q : Operand} (takes : r.Takes p)
    (alike : p.Alike q) : ∃ s : Requirement, s.Takes q ∧ s.spelled = r.spelled := by
  cases r with
  | isNull => exact ⟨.isNull, trivial, rfl⟩
  | compare relation v =>
      have shape : p = .one v := takes
      subst shape
      cases alike with
      | one literals =>
          exact ⟨.compare relation _, rfl, by rw [spelled, spelled, literals.spelled_eq]⟩
  | like pattern =>
      obtain ⟨v, rfl, compiled⟩ := takes
      cases alike with
      | one literals =>
          exact ⟨.like pattern, ⟨_, rfl, by rw [← literals.render_eq, compiled]⟩, rfl⟩
  | oneOf vs =>
      have shape : p = .many vs := takes
      subst shape
      cases alike with
      | many literals =>
          exact ⟨.oneOf _, rfl, by rw [spelled, spelled, Literal.map_spelled_of_alike literals]⟩

namespace Test

/-- Tests that are one test once their literals are spelled out judge alike. -/
theorem judge_eq_of_spelled_eq {t u : Test} (same : t.spelled = u.spelled)
    (field : Option Field) : t.judge field = u.judge field := by
  rw [← judge_spelled t, same, judge_spelled]

/-- **Conditions with alike operands make tests that judge alike.** -/
theorem exists_test_of_alike {connective : Option Connective} {key : String} {op : Operator}
    {p q : Operand} (alike : p.Alike q) {t : Test}
    (made : ofCondition ⟨connective, key, op, p⟩ = .ok t) :
    ∃ u, ofCondition ⟨connective, key, op, q⟩ = .ok u ∧
      ∀ field, t.judge field = u.judge field := by
  obtain ⟨rfl, rfl, takes⟩ := ofCondition_eq_ok made
  obtain ⟨s, takesToo, same⟩ := Requirement.exists_of_alike takes alike
  have operator : s.operator = t.operator := by
    rw [← s.operator_spelled, same, t.requirement.operator_spelled, Test.operator]
  have spelledOut : t.spelled = Test.spelled ⟨t.key, s⟩ := by rw [spelled, spelled, same]
  exact ⟨⟨t.key, s⟩, ofCondition_eq_ok_iff.mpr ⟨rfl, operator, takesToo⟩,
    judge_eq_of_spelled_eq spelledOut⟩

theorem exists_test_of_form (connective : Option Connective) (key : String) {op : Operator}
    (takesOne : op = .like ∨ ∃ relation, op = .compare relation) {n : Int64} {v : Literal}
    (form : v ∈ Literal.forms n) : ∃ t, ofCondition ⟨connective, key, op, .one v⟩ = .ok t := by
  rcases takesOne with rfl | ⟨relation, rfl⟩
  · have compiled : Pattern.ofText? v.render = some (.holding (Text.digitsOfInt n.toInt)) := by
      rw [Literal.render_of_mem_forms form, Pattern.ofText?_ofInt]
    exact ⟨⟨key, .like _⟩, ofCondition_eq_ok_iff.mpr ⟨rfl, rfl, v, rfl, compiled⟩⟩
  · exact ⟨⟨key, .compare relation v⟩, ofCondition_eq_ok_iff.mpr ⟨rfl, rfl, rfl⟩⟩

/-- **The forms of a number are interchangeable.**  Every comparison, and every search for a
pattern, makes a test of each form of a whole number of 64 bits, and no field that a record holds
or lacks tells these tests apart.  Nor does it tell two membership tests apart, whose lists differ
in nothing but the forms of their numbers. -/
theorem forms_interchangeable (connective : Option Connective) (key : String) :
    (∀ (n : Int64) (op : Operator), op = .like ∨ (∃ relation, op = .compare relation) →
      ∀ v ∈ Literal.forms n, ∀ w ∈ Literal.forms n,
        ∃ t u, ofCondition ⟨connective, key, op, .one v⟩ = .ok t ∧
          ofCondition ⟨connective, key, op, .one w⟩ = .ok u ∧
          ∀ field, t.judge field = u.judge field) ∧
    ∀ vs ws, List.Forall₂ Literal.Alike vs ws →
      ∃ t u, ofCondition ⟨connective, key, .oneOf, .many vs⟩ = .ok t ∧
        ofCondition ⟨connective, key, .oneOf, .many ws⟩ = .ok u ∧
        ∀ field, t.judge field = u.judge field := by
  constructor
  · intro n op takesOne v formV w formW
    obtain ⟨t, made⟩ := exists_test_of_form connective key takesOne formV
    obtain ⟨u, madeToo, same⟩ := exists_test_of_alike (.one (.inr ⟨n, formV, formW⟩)) made
    exact ⟨t, u, made, madeToo, same⟩
  · intro vs ws alike
    have made : ofCondition ⟨connective, key, .oneOf, .many vs⟩ = .ok ⟨key, .oneOf vs⟩ := rfl
    obtain ⟨u, madeToo, same⟩ := exists_test_of_alike (.many alike) made
    exact ⟨_, u, made, madeToo, same⟩

/-- Digits with a sign in front spell the number as well, but as another text. -/
example : judge ⟨"id", .compare .equal (.integer 5)⟩ (some (.text "+5")) = .ok false := rfl

end Test

end RecordQuery
