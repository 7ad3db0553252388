/-
# RecordQuery.Proofs.Membership -- a list and the alternatives that it stands for

A test for membership asks whether a field equals one of some literals, and so does a
chain of comparisons joined by `or`.  The chain puts every literal to the field, and the
list stops at the first that is equal.  Where the chain has a verdict, all literals can be
read as the field's kind, and the list has the same verdict; a field that is missing or
null is alike to both.  Where the chain fails at a literal that cannot be read, the list
fails with it, unless it has found the field in front of the first such literal
(`Literal.Finds`).  `membership_of_alternatives` puts this together.
-/
import RecordQuery.Proofs.Chain
import RecordQuery.Proofs.FieldKinds

namespace RecordQuery

set_option autoImplicit false

/-! ## The search through a list -/

namespace Literal

/-- A literal of the list equals the field, and those before it can stand for a field of its
kind. -/
def Finds (field : Field) (vs : List Literal) : Prop :=
  ∃ front u back, vs = front ++ u :: back ∧ (∀ w ∈ front, w.CoercesTo field.kind) ∧ u.Equals field

theorem not_finds_nil {field : Field} : ¬ Finds field [] :=
  not_exists_split_nil

theorem finds_cons {field : Field} {v : Literal} {vs : List Literal} :
    Finds field (v :: vs) ↔ v.Equals field ∨ v.CoercesTo field.kind ∧ Finds field vs :=
  exists_split_cons

theorem EndsEarly.finds {field : Field} {vs : List Literal} (early : EndsEarly field vs) :
    Finds field vs := by
  obtain ⟨front, u, back, shape, fits, equal, -⟩ := early
  exact ⟨front, u, back, shape, fits, equal⟩

/-- Where every literal can stand for a field of the kind, finding is being equal to one. -/
theorem finds_iff_of_coercesTo {field : Field} {vs : List Literal}
    (all : ∀ v ∈ vs, v.CoercesTo field.kind) : Finds field vs ↔ ∃ v ∈ vs, v.Equals field := by
  constructor
  · rintro ⟨front, u, back, rfl, -, equal⟩
    exact ⟨u, by simp, equal⟩
  · rintro ⟨u, member, equal⟩
    obtain ⟨front, back, rfl⟩ := List.append_of_mem member
    exact ⟨front, u, back, rfl, fun w before => all w (by simp [before]), equal⟩

end Literal

namespace Test

theorem equalsAny_eq_true_iff {t : Test} {field : Field} {vs : List Literal} :
    t.equalsAny field vs = .ok true ↔ Literal.Finds field vs := by
  induction vs with
  | nil => simp [equalsAny, Literal.not_finds_nil]
  | cons v vs ih =>
      rw [equalsAny, Literal.finds_cons, ← order_eq_ok_eq_iff (t := t)]
      cases outcome : t.order field v with
      | error e =>
          obtain ⟨-, misfit⟩ := order_eq_error_iff.mp outcome
          simp [bind, Except.bind, misfit]
      | ok o =>
          have fits : v.CoercesTo field.kind := coercesTo_of_order outcome
          by_cases equal : o = some .eq
          · simp [bind, Except.bind, equal]
          · simp [bind, Except.bind, equal, fits, ih]

/-- Whether a field equals one literal. -/
def equality (key : String) (v : Literal) : Test :=
  ⟨key, .compare .equal v⟩

section Equality

variable {key : String} {v : Literal} {field : Field} (present : field ≠ .null)

include present

theorem judge_equality_eq_ok_iff {b : Bool} :
    (equality key v).judge (some field) = .ok b ↔
      v.CoercesTo field.kind ∧ (b = true ↔ v.Equals field) := by
  rw [judge_some_of_ne_null present, ← order_eq_ok_eq_iff (t := equality key v)]
  simp only [judgePresent, equality, Relation.needsOrder, Bool.false_eq_true, false_and, if_false]
  cases outcome : order ⟨key, .compare .equal v⟩ field v with
  | error e =>
      obtain ⟨-, misfit⟩ := order_eq_error_iff.mp outcome
      simp [bind, Except.bind, misfit]
  | ok o =>
      have fits : v.CoercesTo field.kind := coercesTo_of_order outcome
      cases o with
      | none => simp [bind, Except.bind, fits, eq_comm]
      | some o => cases o <;> simp [bind, Except.bind, fits, Relation.holds, eq_comm]

theorem judge_equality_eq_error_iff {e : QueryError} :
    (equality key v).judge (some field) = .error e ↔
      ¬ v.CoercesTo field.kind ∧ e = .unsupported key (.compare .equal) field.kind := by
  rw [judge_some_of_ne_null present, judgePresent_eq_error_iff, and_comm]
  simp [Requirement.Refuses, Relation.needsOrder, unsupported, Test.operator,
    Requirement.operator, equality]

end Equality

end Test

/-! ## The alternatives -/

/-- A comparison with every literal, joined by `or`. -/
def Query.alternatives (key : String) (v : Literal) (vs : List Literal) : Query :=
  vs.foldl (fun q u => q.compare .or .equal key u) (Query.empty.compare .and .equal key v)

namespace Condition

def equality (key : String) (connective : Connective) (v : Literal) : Condition :=
  ⟨some connective, key, .compare .equal, .one v⟩

@[simp] theorem getD_connective_equality (key : String) (connective : Connective) (v : Literal) :
    (equality key connective v).connective.getD .and = connective := rfl

/-- The verdict on one of the alternatives, however it is joined to the others. -/
@[simp] theorem verdict_equality (key : String) (connective : Connective) (v : Literal)
    (fields : Lookup) :
    (equality key connective v).verdict fields = (Test.equality key v).judge (fields key) :=
  verdict_of_made rfl fields

end Condition

theorem Query.conditions_foldl_compare (key : String) (vs : List Literal) (q : Query) :
    (vs.foldl (fun q u => q.compare .or .equal key u) q).conditions =
      q.conditions ++ vs.map (Condition.equality key .or) := by
  induction vs generalizing q with
  | nil => simp
  | cons v vs ih =>
      rw [List.foldl_cons, ih]
      simp [Query.compare, Query.push, Condition.equality]

theorem Query.conditions_alternatives (key : String) (v : Literal) (vs : List Literal) :
    (alternatives key v vs).conditions =
      Condition.equality key .and v :: vs.map (Condition.equality key .or) :=
  conditions_foldl_compare key vs _

namespace Filter

/-- Verdicts joined by `or` leave no trace of their order. -/
theorem foldl_combineNext_or {α : Type} (holds : α → Bool) (xs : List α) (soFar : Bool) :
    (xs.map fun x => (Connective.or, holds x)).foldl combineNext soFar =
      (soFar || xs.any holds) := by
  induction xs generalizing soFar with
  | nil => simp
  | cons x xs ih => simp [combineNext, ih, Bool.or_assoc]

def alternatives (key : String) (v : Literal) (vs : List Literal) : Filter :=
  ⟨(.and, Test.equality key v) :: vs.map fun u => (.or, Test.equality key u)⟩

section Alternatives

variable {key : String} {v : Literal} {vs : List Literal} {fields : Lookup}

theorem ofQuery_alternatives :
    ofQuery (Query.alternatives key v vs) = .ok (alternatives key v vs) := by
  rw [ofQuery_eq_ok_iff, Query.conditions_alternatives]
  refine .cons ⟨rfl, rfl⟩ ?_
  rw [List.forall₂_map_left_iff, List.forall₂_map_right_iff, List.forall₂_same]
  exact fun u _ => ⟨rfl, rfl⟩

/-- The alternatives have a verdict if all of them do, and then one that holds is enough. -/
theorem accepts_alternatives
    (judged : ∀ u ∈ v :: vs, ∃ b, (Test.equality key u).judge (fields key) = .ok b) :
    ∃ b, (alternatives key v vs).accepts fields = .ok b ∧
      (b = true ↔ ∃ u ∈ v :: vs, (Test.equality key u).judge (fields key) = .ok true) := by
  have verdicts : ∀ c ∈ (Query.alternatives key v vs).conditions,
      ∃ b, c.verdict fields = .ok b := by
    simpa [Query.conditions_alternatives] using judged
  refine ⟨_, accepts_of_judged ofQuery_alternatives verdicts, ?_⟩
  rw [Query.conditions_alternatives, List.map_cons, List.map_map, combine]
  simp only [Function.comp_def, Condition.getD_connective_equality, foldl_combineNext_or]
  simp [Condition.holds_eq_true_iff]

/-- The alternatives fail if one of them does, where all that fail do so with one error. -/
theorem accepts_alternatives_error {e : QueryError}
    (only : ∀ u e', (Test.equality key u).judge (fields key) = .error e' → e' = e)
    (fails : ∃ u ∈ v :: vs, ∃ e, (Test.equality key u).judge (fields key) = .error e) :
    (alternatives key v vs).accepts fields = .error e := by
  have someFails : ∃ c ∈ (Query.alternatives key v vs).conditions,
      ∃ e, c.verdict fields = .error e := by
    simpa [Query.conditions_alternatives] using fails
  obtain ⟨e', first⟩ := exists_firstError someFails
  have failed := accepts_of_firstError ofQuery_alternatives first
  obtain ⟨front, c, back, shape, -, cause⟩ := first
  have member : c ∈ (Query.alternatives key v vs).conditions := by simp [shape]
  -- Whichever of the alternatives is the first to fail, its error is the one given.
  have isEquality : ∃ connective u, c = Condition.equality key connective u := by
    rw [Query.conditions_alternatives] at member
    rcases List.mem_cons.mp member with rfl | inRest
    · exact ⟨_, _, rfl⟩
    · obtain ⟨u, -, rfl⟩ := List.mem_map.mp inRest
      exact ⟨_, _, rfl⟩
  obtain ⟨connective, u, rfl⟩ := isEquality
  rw [Condition.verdict_equality] at cause
  rw [failed, only u e' cause]

end Alternatives

/-! ## The list and the alternatives -/

def membership (key : String) (vs : List Literal) : Filter :=
  ⟨[(.and, ⟨key, .oneOf vs⟩)]⟩

theorem accepts_membership (key : String) (vs : List Literal) (fields : Lookup) :
    (membership key vs).accepts fields = Test.judge ⟨key, .oneOf vs⟩ (fields key) := by
  rw [membership, accepts_cons]
  cases Test.judge ⟨key, .oneOf vs⟩ (fields key) <;> rfl

section Outcomes

variable {key : String} (v : Literal) (vs : List Literal) {fields : Lookup}

theorem accepts_of_missing (missing : fields key = none) :
    (alternatives key v vs).accepts fields = .error (.unknownField key) ∧
      (membership key (v :: vs)).accepts fields = .error (.unknownField key) := by
  constructor
  · refine accepts_alternatives_error ?_ ⟨v, by simp, _, by rw [missing, Test.judge]⟩
    intro u e' cause
    rw [missing] at cause
    cases cause
    rfl
  · rw [accepts_membership, missing]
    rfl

theorem accepts_of_null (null : fields key = some .null) :
    (alternatives key v vs).accepts fields = .ok false ∧
      (membership key (v :: vs)).accepts fields = .ok false := by
  have fails : ∀ u, (Test.equality key u).judge (fields key) = .ok false := by
    intro u
    rw [null]
    rfl
  constructor
  · have judged : ∀ u ∈ v :: vs, ∃ b, (Test.equality key u).judge (fields key) = .ok b :=
      fun u _ => ⟨false, fails u⟩
    obtain ⟨b, accepted, holds⟩ := accepts_alternatives judged
    have refused : b = false := by
      by_contra isTrue
      obtain ⟨u, -, passed⟩ := holds.mp (by simpa using isTrue)
      rw [fails u] at passed
      cases passed
    rw [accepted, refused]
  · rw [accepts_membership, null]
    rfl

section Present

variable {field : Field} (present : field ≠ .null) (known : fields key = some field)

include present known

theorem accepts_membership_of_present :
    (membership key vs).accepts fields = Test.equalsAny ⟨key, .oneOf vs⟩ field vs := by
  rw [accepts_membership, known, Test.judge_some_of_ne_null present]
  rfl

/-- Where every literal can stand for a field of this kind, the list and the alternatives have a
verdict, and it is the same. -/
theorem accepts_of_coercesTo (all : ∀ u ∈ v :: vs, u.CoercesTo field.kind) :
    ∃ b, (alternatives key v vs).accepts fields = .ok b ∧
      (membership key (v :: vs)).accepts fields = .ok b := by
  have passes : ∀ u ∈ v :: vs, ((Test.equality key u).judge (fields key) = .ok true ↔
      u.Equals field) := by
    intro u member
    rw [known, Test.judge_equality_eq_ok_iff present]
    simp [all u member]
  have judged : ∀ u ∈ v :: vs, ∃ b, (Test.equality key u).judge (fields key) = .ok b := by
    intro u member
    by_cases equal : u.Equals field
    · exact ⟨true, (passes u member).mpr equal⟩
    · rw [known]
      exact ⟨false, (Test.judge_equality_eq_ok_iff present).mpr ⟨all u member, by simp [equal]⟩⟩
  obtain ⟨b, accepted, holds⟩ := accepts_alternatives judged
  have found : b = true ↔ Literal.Finds field (v :: vs) := by
    rw [holds, Literal.finds_iff_of_coercesTo all]
    exact exists_congr fun u => and_congr_right (passes u)
  refine ⟨b, accepted, ?_⟩
  rw [accepts_membership_of_present _ present known]
  -- The search fails at a misfit only, of which there is none.
  cases outcome : Test.equalsAny ⟨key, .oneOf (v :: vs)⟩ field (v :: vs) with
  | error e =>
      obtain ⟨-, blocked⟩ := Test.equalsAny_eq_error_iff.mp outcome
      obtain ⟨⟨u, member, misfit⟩, -⟩ := Literal.blocks_iff.mp blocked
      exact absurd (all u member) misfit
  | ok b' =>
      have same : b' = b := by
        rw [Bool.eq_iff_iff, found, ← Test.equalsAny_eq_true_iff, outcome, Except.ok.injEq]
      rw [same]

/-- Where some literal cannot, the alternatives fail at it; the list fails as well, unless it finds
the field first. -/
theorem accepts_of_misfit (misfit : ∃ u ∈ v :: vs, ¬ u.CoercesTo field.kind) :
    (alternatives key v vs).accepts fields =
        .error (.unsupported key (.compare .equal) field.kind) ∧
      ((membership key (v :: vs)).accepts fields = .ok true ∨
        (membership key (v :: vs)).accepts fields =
          .error (.unsupported key .oneOf field.kind)) ∧
      ((membership key (v :: vs)).accepts fields = .ok true ↔ Literal.Finds field (v :: vs)) := by
  rw [accepts_membership_of_present _ present known]
  refine ⟨?_, ?_, Test.equalsAny_eq_true_iff⟩
  · obtain ⟨u, member, misfit⟩ := misfit
    have fails : (Test.equality key u).judge (fields key) =
        .error (.unsupported key (.compare .equal) field.kind) := by
      rw [known]
      exact (Test.judge_equality_eq_error_iff present).mpr ⟨misfit, rfl⟩
    refine accepts_alternatives_error ?_ ⟨u, member, _, fails⟩
    intro w e' cause
    rw [known] at cause
    exact ((Test.judge_equality_eq_error_iff present).mp cause).2
  · by_cases found : Literal.Finds field (v :: vs)
    · exact .inl (Test.equalsAny_eq_true_iff.mpr found)
    · have blocked : Literal.Blocks field (v :: vs) :=
        Literal.blocks_iff.mpr ⟨misfit, fun early => found early.finds⟩
      exact .inr (Test.equalsAny_eq_error_iff.mpr ⟨rfl, blocked⟩)

end Present

end Outcomes

/-- **A list answers for its alternatives.**  Of every record, a test for membership in a list has
the verdict that the comparisons with its literals have, joined by `or`, wherever they have one.  A
field that is missing is unknown to both.  Where the comparisons do not apply to the field, the
membership test does not either, and names the same field and kind, unless some literal equals the
field and all before it can stand for a field of its kind: then it holds. -/
theorem membership_of_alternatives (key : String) (v : Literal) (vs : List Literal) :
    ∃ list chain, ofQuery (Query.empty.oneOf .and key (v :: vs)) = .ok list ∧
      ofQuery (Query.alternatives key v vs) = .ok chain ∧ ∀ fields : Lookup,
        (∀ b, chain.accepts fields = .ok b → list.accepts fields = .ok b) ∧
        (∀ name, chain.accepts fields = .error (.unknownField name) →
          list.accepts fields = .error (.unknownField name)) ∧
        ∀ name operator kind, chain.accepts fields = .error (.unsupported name operator kind) →
          (list.accepts fields = .ok true ∨
            list.accepts fields = .error (.unsupported name .oneOf kind)) ∧
          ∃ field, fields key = some field ∧ field.kind = kind ∧
            (list.accepts fields = .ok true ↔ ∃ front u back, v :: vs = front ++ u :: back ∧
              (∀ w ∈ front, w.CoercesTo field.kind) ∧ u.Equals field) := by
  refine ⟨membership key (v :: vs), alternatives key v vs, rfl, ofQuery_alternatives,
    fun fields => ?_⟩
  -- The four outcomes of the alternatives, by what the record holds under the key.
  cases known : fields key with
  | none =>
      obtain ⟨chain, list⟩ := accepts_of_missing v vs known
      simp [chain, list]
  | some field =>
      by_cases null : field = .null
      · subst null
        obtain ⟨chain, list⟩ := accepts_of_null v vs known
        simp [chain, list]
      · by_cases all : ∀ u ∈ v :: vs, u.CoercesTo field.kind
        · obtain ⟨b, chain, list⟩ := accepts_of_coercesTo v vs null known all
          simp [chain, list]
        · have misfit : ∃ u ∈ v :: vs, ¬ u.CoercesTo field.kind := by
            push Not at all
            exact all
          obtain ⟨chain, list, found⟩ := accepts_of_misfit v vs null known misfit
          rw [chain]
          refine ⟨by simp, by simp, fun name operator kind same => ?_⟩
          cases same
          exact ⟨list, field, rfl, rfl, found⟩

/-- A number that is found in front of a word: the list does not come to the word, and the
alternatives do. -/
example : (membership "id" [.text "1", .text "abc"]).accepts (fun _ => some (.number (.signed 1))) =
      .ok true ∧
    (alternatives "id" (.text "1") [.text "abc"]).accepts (fun _ => some (.number (.signed 1))) =
      .error (.unsupported "id" (.compare .equal) .number) :=
  ⟨rfl, rfl⟩

end Filter

end RecordQuery
