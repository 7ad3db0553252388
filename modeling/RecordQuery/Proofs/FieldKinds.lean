/-
# RecordQuery.Proofs.FieldKinds -- errors follow the kinds of the fields

Whether a test refuses a field is a matter of the field's kind, with one exception: the
search through a list ends at a literal equal to the field, and a literal behind it
that cannot stand for a field of this kind goes unnoticed (`Requirement.Obscures`).
`refuses_iff` splits a refusal into these two parts.

So two records that are alike in the kinds of the fields that a filter reads give the
same error, or both give none, as long as no list is cut short on either of them
(`accepts_error_iff_of_alike`).  The condition is needed: `alike_but_one_refused` has two
records that differ in nothing but a number, of which one is accepted and the other
refused.
-/
import RecordQuery.Proofs.Refusal

namespace RecordQuery

set_option autoImplicit false

theorem FieldKind.name_injective : Function.Injective FieldKind.name := by
  intro a b same
  cases a <;> cases b <;> first | rfl | exact absurd same (by decide)

/-- Both records know a field under each of these names or neither does, and what they hold there
is called by the same kind. -/
def Lookup.Alike (keys : List String) (a b : Lookup) : Prop :=
  ∀ key ∈ keys, (a key).map (fun field => field.kind.name) =
    (b key).map fun field => field.kind.name

/-! ## Lists cut short -/

namespace Literal

theorem Equals.coercesTo {v : Literal} {field : Field} (equal : v.Equals field) :
    v.CoercesTo field.kind := by
  obtain ⟨other, read, -⟩ := equal
  exact coercesTo_iff.mpr ⟨other, read⟩

/-- The search through the literals ends at one that is equal to the field, in front of one that
cannot stand for a field of this kind. -/
def EndsEarly (field : Field) (vs : List Literal) : Prop :=
  ∃ front u back, vs = front ++ u :: back ∧ (∀ w ∈ front, w.CoercesTo field.kind) ∧
    u.Equals field ∧ ∃ v ∈ back, ¬ v.CoercesTo field.kind

theorem not_endsEarly_nil {field : Field} : ¬ EndsEarly field [] :=
  not_exists_split_nil

theorem endsEarly_cons {field : Field} {v : Literal} {vs : List Literal} :
    EndsEarly field (v :: vs) ↔
      (v.Equals field ∧ ∃ w ∈ vs, ¬ w.CoercesTo field.kind) ∨
        v.CoercesTo field.kind ∧ EndsEarly field vs :=
  exists_split_cons

/-- A misfit blocks the search unless the search ends early. -/
theorem blocks_iff {field : Field} {vs : List Literal} :
    Blocks field vs ↔ (∃ v ∈ vs, ¬ v.CoercesTo field.kind) ∧ ¬ EndsEarly field vs := by
  induction vs with
  | nil => simp [not_blocks_nil]
  | cons v vs ih =>
      rw [blocks_cons, endsEarly_cons, ih, List.exists_mem_cons_iff]
      have fits : v.Equals field → v.CoercesTo field.kind := Equals.coercesTo
      -- That there is a misfit behind the first literal is one fact, whichever literal it is.
      generalize (∃ w ∈ vs, ¬ w.CoercesTo field.kind) = misfit
      tauto

end Literal

/-! ## Refusals by kind -/

namespace Requirement

/-- The requirement is at odds with some field of this kind. -/
def RefusesKind : Requirement → FieldKind → Prop
  | .compare relation v, kind => (relation.needsOrder = true ∧ kind = .flag) ∨ ¬ v.CoercesTo kind
  | .isNull, _ => False
  | .like _, kind => kind ≠ .text
  | .oneOf vs, kind => ∃ v ∈ vs, ¬ v.CoercesTo kind

/-- The field is found in a list before the search comes to a literal that would be refused. -/
def Obscures : Requirement → Field → Prop
  | .oneOf vs, field => Literal.EndsEarly field vs
  | _, _ => False

/-- **A refusal is a matter of the kind alone, but for lists that are cut short.** -/
theorem refuses_iff {r : Requirement} {field : Field} :
    r.Refuses field ↔ r.RefusesKind field.kind ∧ ¬ r.Obscures field := by
  cases r with
  | oneOf vs => exact Literal.blocks_iff
  | compare | isNull | like => simp [Refuses, RefusesKind, Obscures]

end Requirement

/-! ## Tests and filters -/

namespace Test

/-- The field is missing, or no list is cut short on it. -/
def Clear (t : Test) (field? : Option Field) : Prop :=
  ∀ field ∈ field?, ¬ t.requirement.Obscures field

theorem judge_some_error_iff {t : Test} {field : Field} (clear : t.Clear (some field))
    {e : QueryError} :
    t.judge (some field) = .error e ↔ field.kind ≠ .null ∧
      e = .unsupported t.key t.operator field.kind ∧ t.requirement.RefusesKind field.kind := by
  by_cases null : field = .null
  · subst null
    simp [judge, Field.kind]
  · have kind : field.kind ≠ .null := by
      cases field <;> simp_all [Field.kind]
    rw [judge_some_of_ne_null null, judgePresent_eq_error_iff, Requirement.refuses_iff]
    simp [kind, clear field rfl, unsupported]

/-- A test fails alike on two fields of one kind. -/
theorem judge_error_iff_of_kinds {t : Test} {a b : Option Field}
    (same : a.map Field.kind = b.map Field.kind) (clearA : t.Clear a) (clearB : t.Clear b)
    (e : QueryError) : t.judge a = .error e ↔ t.judge b = .error e := by
  match a, b, same with
  | none, none, _ => rfl
  | some x, some y, same =>
      have kinds : x.kind = y.kind := Option.some.inj same
      rw [judge_some_error_iff clearA, judge_some_error_iff clearB, kinds]

end Test

namespace Filter

/-- **Errors do not depend on what records hold**, beyond the kinds of the fields that the filter
reads, where no list of the filter is cut short on either record. -/
theorem accepts_error_iff_of_alike {f : Filter} {a b : Lookup}
    (alike : Lookup.Alike (f.tests.map Test.key) a b)
    (clear : ∀ t ∈ f.tests, t.Clear (a t.key) ∧ t.Clear (b t.key)) (e : QueryError) :
    f.accepts a = .error e ↔ f.accepts b = .error e := by
  -- The verdicts may differ between the records: of each test, only the error is the same.
  have each : ∀ step ∈ f.steps,
      Agree (fun _ _ => True) (step.2.judge (a step.2.key)) (step.2.judge (b step.2.key)) := by
    intro step member
    have isTest : step.2 ∈ f.tests := List.mem_map_of_mem member
    have names := alike _ (List.mem_map_of_mem isTest)
    have kinds : (a step.2.key).map Field.kind = (b step.2.key).map Field.kind := by
      refine Option.map_injective FieldKind.name_injective ?_
      simpa [Function.comp_def] using names
    obtain ⟨clearA, clearB⟩ := clear _ isTest
    exact .of_error_iff (Test.judge_error_iff_of_kinds kinds clearA clearB)
  have verdicts : Agree (List.Forall₂ fun _ _ => True) (f.verdicts a) (f.verdicts b) :=
    Agree.mapM fun step member => (each step member).bind fun _ _ _ => .ok trivial
  exact (verdicts.bind fun _ _ _ => Agree.ok (R := fun _ _ => True) trivial).error_iff e

/-- A list in which a word stands behind a number. -/
def listFilter : Filter :=
  ⟨[(.and, ⟨"id", .oneOf [.text "1", .text "abc"]⟩)]⟩

/-- Every field is this number. -/
def holding (n : Int64) : Lookup := fun _ => some (.number (.signed n))

theorem alike_holding (keys : List String) (m n : Int64) :
    Lookup.Alike keys (holding m) (holding n) := fun _ _ => rfl

/-- A number that is not in the list is not found early. -/
theorem clear_holding {n : Int64} (apart : compare n.toInt 1 ≠ .eq) :
    Test.Clear ⟨"id", .oneOf [.text "1", .text "abc"]⟩ (holding n "id") := by
  rintro field same early
  cases same
  rcases Literal.endsEarly_cons.mp early with ⟨⟨other, read, equal⟩, -⟩ | ⟨-, later⟩
  · cases read
    exact apart (Option.some.inj equal)
  · rcases Literal.endsEarly_cons.mp later with ⟨-, w, member, -⟩ | ⟨-, last⟩
    · simp at member
    · exact Literal.not_endsEarly_nil last

/-- Two numbers that are not in the list meet the word behind them. -/
theorem accepts_error_iff_of_alike_list :
    Lookup.Alike (listFilter.tests.map Test.key) (holding 2) (holding 7) ∧
      (∀ t ∈ listFilter.tests, t.Clear (holding 2 t.key) ∧ t.Clear (holding 7 t.key)) ∧
      listFilter.accepts (holding 7) = .error (.unsupported "id" .oneOf .number) := by
  have alike := alike_holding (listFilter.tests.map Test.key) 2 7
  have clear : ∀ t ∈ listFilter.tests, t.Clear (holding 2 t.key) ∧ t.Clear (holding 7 t.key) := by
    intro t member
    obtain rfl : t = ⟨"id", .oneOf [.text "1", .text "abc"]⟩ := by
      simpa [listFilter, tests] using member
    exact ⟨clear_holding (by decide), clear_holding (by decide)⟩
  exact ⟨alike, clear, (accepts_error_iff_of_alike alike clear _).mp rfl⟩

/-- **Errors depend on what records hold** where a list is cut short: a record whose number is in
front of the word is accepted, and one with another number is refused. -/
theorem alike_but_one_refused :
    ofQuery ⟨[Test.numberThenWord]⟩ = .ok listFilter ∧
      Lookup.Alike (listFilter.tests.map Test.key) (holding 1) (holding 2) ∧
      listFilter.accepts (holding 1) = .ok true ∧
      listFilter.accepts (holding 2) = .error (.unsupported "id" .oneOf .number) :=
  ⟨rfl, alike_holding _ 1 2, rfl, rfl⟩

end Filter

end RecordQuery
