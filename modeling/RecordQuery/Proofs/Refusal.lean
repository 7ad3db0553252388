/-
# RecordQuery.Proofs.Refusal -- which fields a test refuses to judge

A test judges a field or refuses to, with an error that names the key, the operator and
the kind of the field.  `Requirement.Refuses` says when, in terms of the field's kind and
of what the literals stand for; only a list asks for more than the kind, because its
search ends at the first literal equal to the field and what is behind that literal is
never read.

`judge_of_condition` is the same of a condition that makes a test, and says what becomes
of fields that are missing or null.
-/
import RecordQuery.Proofs.Coercion
import RecordQuery.Proofs.TestMaking

namespace RecordQuery

set_option autoImplicit false

namespace Literal

/-- The literal, read as a field of the field's kind, is equal to it. -/
def Equals (v : Literal) (field : Field) : Prop :=
  ∃ other, v.as? field.kind = some other ∧ field.order? other = some .eq

/-- Some literal cannot stand for a field of this kind, and none before it is equal to the
field. -/
def Blocks (field : Field) (vs : List Literal) : Prop :=
  ∃ front v back, vs = front ++ v :: back ∧ (∀ u ∈ front, ¬ u.Equals field) ∧
    ¬ v.CoercesTo field.kind

theorem not_blocks_nil {field : Field} : ¬ Blocks field [] :=
  not_exists_split_nil

theorem blocks_cons {field : Field} {v : Literal} {vs : List Literal} :
    Blocks field (v :: vs) ↔
      ¬ v.CoercesTo field.kind ∨ ¬ v.Equals field ∧ Blocks field vs :=
  exists_split_cons

end Literal

/-- The requirement cannot be put to a field that is not null. -/
def Requirement.Refuses : Requirement → Field → Prop
  | .compare relation v, field =>
    (relation.needsOrder = true ∧ field.kind = .flag) ∨ ¬ v.CoercesTo field.kind
  | .isNull, _ => False
  | .like _, field => field.kind ≠ .text
  | .oneOf vs, field => Literal.Blocks field vs

namespace Test

theorem order_eq_error_iff {t : Test} {field : Field} {v : Literal} {e : QueryError} :
    t.order field v = .error e ↔ e = t.unsupported field ∧ ¬ v.CoercesTo field.kind := by
  rw [← Literal.as?_eq_none_iff, order]
  cases v.as? field.kind with
  | none => simp [eq_comm]
  | some other => simp

theorem order_eq_ok_eq_iff {t : Test} {field : Field} {v : Literal} :
    t.order field v = .ok (some .eq) ↔ v.Equals field := by
  rw [order, Literal.Equals]
  cases v.as? field.kind <;> simp

/-- What has been compared can stand for a field of the kind. -/
theorem coercesTo_of_order {t : Test} {field : Field} {v : Literal} {o : Option Ordering}
    (compared : t.order field v = .ok o) : v.CoercesTo field.kind := by
  by_contra misfit
  rw [order_eq_error_iff.mpr ⟨rfl, misfit⟩] at compared
  cases compared

/-- The search through a list fails exactly at a literal that it reaches and cannot read. -/
theorem equalsAny_eq_error_iff {t : Test} {field : Field} {vs : List Literal} {e : QueryError} :
    t.equalsAny field vs = .error e ↔ e = t.unsupported field ∧ Literal.Blocks field vs := by
  induction vs with
  | nil => simp [equalsAny, Literal.not_blocks_nil]
  | cons v vs ih =>
      rw [equalsAny, bind_eq_error_iff, order_eq_error_iff, Literal.blocks_cons,
        ← order_eq_ok_eq_iff (t := t)]
      -- The order of a literal fails exactly if it is a misfit, so the first alternative is settled
      -- by the outcome; the second one asks whether the search goes on.
      cases outcome : t.order field v with
      | error e' =>
          obtain ⟨-, misfit⟩ := order_eq_error_iff.mp outcome
          simp [misfit]
      | ok o =>
          have fits : v.CoercesTo field.kind := coercesTo_of_order outcome
          by_cases equal : o = some .eq
          · simp [equal, fits]
          · simp [equal, fits, ih]

/-- **A field that is not null is refused exactly as the requirement says.** -/
theorem judgePresent_eq_error_iff {t : Test} {field : Field} {e : QueryError} :
    t.judgePresent field = .error e ↔ e = t.unsupported field ∧ t.requirement.Refuses field := by
  unfold judgePresent
  cases requirement : t.requirement with
  | isNull => simp [Requirement.Refuses]
  | like pattern => cases field <;> simp [Requirement.Refuses, Field.kind, eq_comm]
  | oneOf vs => exact equalsAny_eq_error_iff
  | compare relation v =>
      simp only [Requirement.Refuses]
      by_cases unordered : relation.needsOrder = true ∧ field.kind = .flag
      · simp [unordered, eq_comm]
      · rw [if_neg unordered, bind_eq_error_iff, order_eq_error_iff]
        simp [unordered]

/-- A field that is there and not null. -/
theorem judge_some_of_ne_null {t : Test} {field : Field} (present : field ≠ .null) :
    t.judge (some field) = t.judgePresent field := by
  cases field with
  | null => exact absurd rfl present
  | _ => rfl

/-- The ways in which a requirement can refuse a field, in terms of the condition behind it. -/
theorem refuses_iff_of_condition {c : Condition} {t : Test} (made : ofCondition c = .ok t)
    (field : Field) :
    t.requirement.Refuses field ↔
      (c.operator = .like ∧ field.kind ≠ .text) ∨
      ((c.operator = .compare .atMost ∨ c.operator = .compare .atLeast) ∧ field.kind = .flag) ∨
      (∃ relation v, c.operator = .compare relation ∧ c.operand = .one v ∧
        ¬ v.CoercesTo field.kind) ∨
      (c.operator = .oneOf ∧ ∃ front v back, c.operand = .many (front ++ v :: back) ∧
        (∀ u ∈ front, ¬ u.Equals field) ∧ ¬ v.CoercesTo field.kind) := by
  obtain ⟨-, operator, takes⟩ := ofCondition_eq_ok made
  rw [← operator]
  obtain ⟨key, requirement⟩ := t
  cases requirement with
  | isNull => simp [Requirement.Refuses, Test.operator, Requirement.operator]
  | like pattern => simp [Requirement.Refuses, Test.operator, Requirement.operator]
  | oneOf vs =>
      have shape : c.operand = .many vs := takes
      simp [Requirement.Refuses, Literal.Blocks, Test.operator, Requirement.operator, shape]
  | compare relation v =>
      have shape : c.operand = .one v := takes
      cases relation <;>
        simp [Requirement.Refuses, Relation.needsOrder, Test.operator, Requirement.operator, shape]

/-- **What a condition's test answers.**  A missing field is unknown; a null one passes the test
for null and no other; and any other field is judged, unless the operator wants a text and it is
none, or wants an order and it is a flag, or the literal to compare it with, or one of the list
that the search reaches, cannot stand for a field of its kind.  The error then names the key, the
operator and that kind. -/
theorem judge_of_condition {c : Condition} {t : Test} (made : ofCondition c = .ok t) :
    t.judge none = .error (.unknownField c.key) ∧
    t.judge (some .null) = .ok (c.operator = .isNull) ∧
    ∀ field, field ≠ .null →
      ((∃ e, t.judge (some field) = .error e) ↔
        (c.operator = .like ∧ field.kind ≠ .text) ∨
        ((c.operator = .compare .atMost ∨ c.operator = .compare .atLeast) ∧ field.kind = .flag) ∨
        (∃ relation v, c.operator = .compare relation ∧ c.operand = .one v ∧
          ¬ v.CoercesTo field.kind) ∨
        (c.operator = .oneOf ∧ ∃ front v back, c.operand = .many (front ++ v :: back) ∧
          (∀ u ∈ front, ¬ u.Equals field) ∧ ¬ v.CoercesTo field.kind)) ∧
      ∀ e, t.judge (some field) = .error e → e = .unsupported c.key c.operator field.kind := by
  obtain ⟨key, operator, -⟩ := ofCondition_eq_ok made
  refine ⟨by rw [judge, key], by rw [judge, operator], fun field present => ?_⟩
  rw [← refuses_iff_of_condition made]
  simp only [judge_some_of_ne_null present, judgePresent_eq_error_iff]
  refine ⟨⟨?_, ?_⟩, ?_⟩
  · rintro ⟨e, -, refused⟩
    exact refused
  · exact fun refused => ⟨_, rfl, refused⟩
  · rintro e ⟨rfl, -⟩
    rw [unsupported, key, operator]

/-- A list in which a word stands behind a number. -/
def numberThenWord : Condition :=
  ⟨some .and, "id", .oneOf, .many [.text "1", .text "abc"]⟩

/-- The search for another number comes to the word. -/
theorem judge_of_condition_list :
    ofCondition numberThenWord = .ok ⟨"id", .oneOf [.text "1", .text "abc"]⟩ ∧
      Field.number (.signed 2) ≠ .null ∧
      (⟨"id", .oneOf [.text "1", .text "abc"]⟩ : Test).judge (some (.number (.signed 2))) =
        .error (.unsupported "id" .oneOf .number) := by
  have made : ofCondition numberThenWord = .ok ⟨"id", .oneOf [.text "1", .text "abc"]⟩ := rfl
  have present : Field.number (.signed 2) ≠ .null := by decide
  have misfit : ¬ (Literal.text "abc").CoercesTo .number := Literal.as?_eq_none_iff.mp rfl
  have before : ∀ u ∈ [Literal.text "1"], ¬ u.Equals (.number (.signed 2)) := by
    simp only [List.mem_singleton, forall_eq]
    rintro ⟨other, read, equal⟩
    cases read
    exact absurd equal (by decide)
  obtain ⟨refused, names⟩ := (judge_of_condition made).2.2 _ present
  obtain ⟨e, failed⟩ := refused.mpr (.inr (.inr (.inr ⟨rfl, _, _, _, rfl, before, misfit⟩)))
  exact ⟨made, present, by rw [failed, names e failed]; rfl⟩

end Test

end RecordQuery
