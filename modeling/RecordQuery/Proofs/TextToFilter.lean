/-
# RecordQuery.Proofs.TextToFilter -- what can still go wrong with a query that was read

Reading a query settles the shape of its operands and the characters of its literals,
each by itself: membership always has a list, any other operator has one only if its
value holds a comma, and no literal holds a wildcard.  So of the errors that making a
filter knows, one is left (`Canonical.ofCondition_eq_error_iff`): a comma where the
operator works on a single value, which text can say and no test can do.

`ofQuery_of_parse` says so of the fragments of the text, each read with the longest key;
the first one with such a comma is the one in the error.
-/
import RecordQuery.Proofs.OperandShape
import RecordQuery.Proofs.QueryText
import RecordQuery.Proofs.Wildcards

namespace RecordQuery

set_option autoImplicit false

/-! ## The fragments of a text -/

namespace Fragment

/-- Of all the fragments that the text can be taken apart into, this one has the longest key. -/
def ReadFrom (f : Fragment) (text : String) : Prop :=
  ∃ connective, f.Spells connective text ∧
    ∀ connective' g, Fragment.Spells g connective' text → g = f ∨ g.key.length < f.key.length

/-- The value is a list, and the operator works on a single literal. -/
def Overfull (f : Fragment) : Prop :=
  f.operator.needs = some .one ∧ Operand.separator ∈ f.value

/-- A text that comes apart in two ways has one mark, and the same text behind it. -/
theorem Spells.text_eq {f g : Fragment} {a b : Connective} {text : String}
    (spellsF : f.Spells a text) (spellsG : g.Spells b text) : g.text = f.text := by
  have sides : (b, g.text) = (a, f.text) := by
    rw [← splitMark_text spellsG.wellFormed, ← spellsG.parts, spellsF.parts,
      splitMark_text spellsF.wellFormed]
  exact congrArg Prod.snd sides

theorem Spells.readFrom {f : Fragment} {connective : Connective} {text : String}
    (spells : f.Spells connective text) (greedy : f.Greedy) : f.ReadFrom text := by
  refine ⟨connective, spells, fun connective' g spellsG => ?_⟩
  have same : g.text = f.text := spells.text_eq spellsG
  exact key_length_lt_of_greedy spells.wellFormed greedy spellsG.wellFormed same

end Fragment

theorem Condition.readFrom_of_parse {text : String} {c : Condition}
    (read : Condition.parse text = .ok c) : c.fragment.ReadFrom text := by
  obtain ⟨connective, f, spells, greedy, rfl⟩ := Condition.parse_eq_ok_iff.mp read
  rw [Fragment.fragment_toCondition]
  exact spells.readFrom greedy

namespace Query

/-- Clearing the first connective leaves the fragments as they are. -/
theorem map_fragment_clearFirst (cs : List Condition) :
    (clearFirst cs).map Condition.fragment = cs.map Condition.fragment := by
  cases cs <;> rfl

/-- The conditions that are read have the fragments of the segments, in order. -/
theorem readFrom_of_parse {text : String} {q : Query} (read : parse text = .ok q) :
    List.Forall₂ (fun segment f => Fragment.ReadFrom f segment) (segments text)
      (q.conditions.map Condition.fragment) := by
  obtain ⟨cs, parsed, result⟩ := bind_eq_ok_iff.mp read
  cases result
  rw [map_fragment_clearFirst, List.forall₂_map_right_iff]
  refine (mapM_eq_ok_iff.mp parsed).imp ?_
  intro segment c readSegment
  exact Condition.readFrom_of_parse (parseSegment_eq_ok_iff_parse.mp readSegment).2

end Query

/-! ## Conditions that were read -/

namespace Condition

theorem operator_fragment (c : Condition) : c.fragment.operator = c.operator := rfl

theorem wildcard_not_mem_word {w : List Char} (isWord : Text.isWord w = true) :
    Pattern.wildcard ∉ w := by
  intro member
  exact absurd ((Text.isWord_iff.mp isWord).2 _ member) (by decide)

theorem Canonical.not_overlong {c : Condition} (canonical : c.Canonical) : ¬ c.Overlong := by
  rintro ⟨-, v, shape, tooLarge⟩
  obtain ⟨s, rfl, isWord⟩ := canonical.literals v (by simp [shape, Operand.literals])
  rw [Literal.render, Pattern.ofText?_of_not_mem (wildcard_not_mem_word isWord)] at tooLarge
  cases tooLarge

theorem Canonical.shape_eq_many_iff {c : Condition} (canonical : c.Canonical) :
    c.operand.shape = .many ↔ c.operator = .oneOf ∨ Operand.separator ∈ c.fragment.value := by
  rw [← canonical.operand_eq, Fragment.operand_eq canonical.wellFormed, operator_fragment]
  split
  · rename_i isList
    simp [Operand.shape, isList]
  · rename_i single
    simp [Operand.shape, single]

/-- **A condition that was read makes a test** unless its value holds a comma that its operator has
no use for. -/
theorem Canonical.ofCondition_eq_error_iff {c : Condition} (canonical : c.Canonical)
    {e : QueryError} :
    Test.ofCondition c = .error e ↔
      c.fragment.Overfull ∧ e = .wrongShape c.key c.operator .one := by
  have isList := canonical.shape_eq_many_iff
  have takesList : c.operator = .oneOf → c.operand.shape = .many := fun isOneOf =>
    isList.mpr (.inl isOneOf)
  rw [Test.ofCondition_eq_error_iff, Fragment.Overfull, operator_fragment]
  constructor
  · rintro (⟨needed, ⟨works, shape⟩, rfl⟩ | ⟨overlong, -⟩)
    · cases needed with
      | one =>
          have isMany : c.operand.shape = .many := Operand.shape_ne_one_iff.mp shape
          have notOneOf : c.operator ≠ .oneOf := by
            intro isOneOf
            simp [isOneOf, Operator.needs] at works
          exact ⟨⟨works, (isList.mp isMany).resolve_left notOneOf⟩, rfl⟩
      | many => exact absurd (takesList (Operator.needs_eq_many_iff.mp works)) shape
    · exact absurd overlong canonical.not_overlong
  · rintro ⟨⟨works, comma⟩, rfl⟩
    refine .inl ⟨.one, ⟨works, ?_⟩, rfl⟩
    exact Operand.shape_ne_one_iff.mpr (isList.mpr (.inr comma))

theorem Canonical.exists_test_iff {c : Condition} (canonical : c.Canonical) :
    (∃ t, Test.ofCondition c = .ok t) ↔ ¬ c.fragment.Overfull := by
  have refused := canonical.ofCondition_eq_error_iff (e := .wrongShape c.key c.operator .one)
  constructor
  · rintro ⟨t, made⟩ overfull
    rw [refused.mpr ⟨overfull, rfl⟩] at made
    cases made
  · intro fits
    cases outcome : Test.ofCondition c with
    | ok t => exact ⟨t, rfl⟩
    | error e => exact absurd (canonical.ofCondition_eq_error_iff.mp outcome).1 fits

end Condition

/-! ## Filters of queries that were read -/

theorem QueryError.message_single (key : String) (operator : Operator) :
    (wrongShape key operator .one).message =
      "operation '" ++ operator.name ++ "' on field '" ++ key ++ "' needs a single value" := by
  change s!"operation '{operator.name}' on field '{key}' {Shape.one.demand}" = _
  rw [← String.toList_inj]
  simp [Shape.demand, toString]

namespace Filter

/-- The tests of a filter ask for the fields of its query's conditions, by their operators. -/
theorem tests_of_ofQuery {q : Query} {f : Filter} (made : ofQuery q = .ok f) :
    f.tests.map (fun t => (t.key, t.operator)) =
      q.conditions.map fun c => (c.key, c.operator) := by
  rw [tests, List.map_map, ← List.forall₂_eq_eq_eq, List.forall₂_map_left_iff,
    List.forall₂_map_right_iff]
  refine (ofQuery_eq_ok_iff.mp made).flip.imp ?_
  rintro step c ⟨-, test⟩
  obtain ⟨key, operator, -⟩ := Test.ofCondition_eq_ok test
  exact Prod.ext key operator

/-- The first condition whose value is overfull is the one in the error. -/
theorem ofQuery_error_iff_of_canonical {q : Query} (canonical : q.Canonical) {e : QueryError} :
    ofQuery q = .error e ↔ ∃ front c back, q.conditions = front ++ c :: back ∧
      (∀ d ∈ front, ¬ d.fragment.Overfull) ∧ c.fragment.Overfull ∧
      e = .wrongShape c.key c.operator .one := by
  have each := canonical.conditions
  rw [ofQuery_eq_error_iff, FirstError]
  constructor
  · rintro ⟨front, c, back, shape, before, failed⟩
    rw [shape] at each
    have isFirst := (each c (by simp)).ofCondition_eq_error_iff.mp failed
    refine ⟨front, c, back, shape, fun d member => ?_, isFirst⟩
    exact (each d (by simp [member])).exists_test_iff.mp (before d member)
  · rintro ⟨front, c, back, shape, before, isFirst⟩
    rw [shape] at each
    refine ⟨front, c, back, shape, fun d member => ?_, ?_⟩
    · exact (each d (by simp [member])).exists_test_iff.mpr (before d member)
    · exact (each c (by simp)).ofCondition_eq_error_iff.mpr isFirst

theorem exists_ofQuery_error_iff {q : Query} (canonical : q.Canonical) :
    (∃ e, ofQuery q = .error e) ↔ ∃ c ∈ q.conditions, c.fragment.Overfull := by
  constructor
  · rintro ⟨e, failed⟩
    obtain ⟨front, c, back, shape, -, overfull, -⟩ :=
      (ofQuery_error_iff_of_canonical canonical).mp failed
    exact ⟨c, by simp [shape], overfull⟩
  · rintro ⟨c, member, overfull⟩
    have failed := (canonical.conditions c member).ofCondition_eq_error_iff.mpr ⟨overfull, rfl⟩
    obtain ⟨e, first⟩ := exists_firstError ⟨c, member, _, failed⟩
    exact ⟨e, ofQuery_eq_error_iff.mpr first⟩

/-- **Which texts make filters.**  A text is read as one fragment for each of its segments, the one
with the longest key.  Its query makes no filter exactly if in some fragment a comma stands in the
value of an operator that works on a single literal; the first such fragment is the one in the
error.  No list is ever missing, and no pattern is ever too large.  A filter that is made tests the
keys of the fragments by their operators, in order. -/
theorem ofQuery_of_parse {text : String} {q : Query} (read : Query.parse text = .ok q) :
    ∃ fs : List Fragment,
      List.Forall₂ (fun segment f => Fragment.ReadFrom f segment)
        ((text.toList.splitOn ';').map String.ofList) fs ∧
      ((∃ e, ofQuery q = .error e) ↔ ∃ f ∈ fs, f.Overfull) ∧
      (∀ e, ofQuery q = .error e → ∃ front f back, fs = front ++ f :: back ∧
        (∀ g ∈ front, ¬ g.Overfull) ∧ f.Overfull ∧
        e = .wrongShape (String.ofList f.key) f.operator .one ∧
        e.message = "operation '" ++ f.operator.name ++ "' on field '" ++ String.ofList f.key ++
          "' needs a single value") ∧
      (∀ key operator, ofQuery q ≠ .error (.wrongShape key operator .many)) ∧
      ofQuery q ≠ .error .patternTooLarge ∧
      ∀ f, ofQuery q = .ok f → f.tests.map (fun t => (t.key, t.operator)) =
        fs.map fun fragment => (String.ofList fragment.key, fragment.operator) := by
  obtain ⟨canonical, -⟩ := Query.parse_eq_ok_iff_canonical.mp read
  have cause := fun e => (ofQuery_error_iff_of_canonical canonical (e := e)).mp
  refine ⟨q.conditions.map Condition.fragment, Query.readFrom_of_parse read, ?_, ?_, ?_, ?_, ?_⟩
  · rw [exists_ofQuery_error_iff canonical]
    simp
  · intro e failed
    obtain ⟨front, c, back, shape, before, overfull, rfl⟩ := cause e failed
    refine ⟨front.map Condition.fragment, c.fragment, back.map Condition.fragment, ?_, ?_,
      overfull, ?_, ?_⟩
    · rw [shape, List.map_append, List.map_cons]
    · simpa using before
    · simp [Condition.fragment]
    · rw [QueryError.message_single, Condition.fragment, String.ofList_toList]
  · intro key operator failed
    obtain ⟨_, _, _, _, _, _, impossible⟩ := cause _ failed
    cases impossible
  · intro failed
    obtain ⟨_, _, _, _, _, _, impossible⟩ := cause _ failed
    cases impossible
  · intro f made
    rw [tests_of_ofQuery made, List.map_map]
    simp [Condition.fragment]

/-- A list that its operator takes, and two that theirs do not. -/
def threeLists : Query :=
  ⟨[⟨none, "id", .oneOf, .many [.text "1", .text "2"]⟩,
    ⟨some .or, "c", .like, .many [.text "x", .text "y"]⟩,
    ⟨some .and, "d", .compare .equal, .many [.text "z", .text "w"]⟩]⟩

theorem ofQuery_of_parse_lists :
    Query.parse "id_1,2;|c~x,y;d:z,w" = .ok threeLists ∧
      ∃ fs, List.Forall₂ (fun segment f => Fragment.ReadFrom f segment)
          (("id_1,2;|c~x,y;d:z,w".toList.splitOn ';').map String.ofList) fs ∧
        ∃ front f back, fs = front ++ f :: back ∧ (∀ g ∈ front, ¬ g.Overfull) ∧ f.Overfull ∧
          ofQuery threeLists = .error (.wrongShape (String.ofList f.key) f.operator .one) ∧
          f.operator = .like := by
  have read : Query.parse "id_1,2;|c~x,y;d:z,w" = .ok threeLists := rfl
  have failed : ofQuery threeLists = .error (.wrongShape "c" .like .one) := rfl
  obtain ⟨fs, fragments, -, cause, -⟩ := ofQuery_of_parse read
  obtain ⟨front, f, back, shape, before, overfull, same, -⟩ := cause _ failed
  have isLike : f.operator = .like := by
    injection same with _ operator
    exact operator.symm
  exact ⟨read, fs, fragments, front, f, back, shape, before, overfull, by rw [failed, same], isLike⟩

end Filter

end RecordQuery
