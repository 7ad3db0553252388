/-
# RecordQuery.Proofs.Transmission -- a query means the same where its text is read

Written and read, a query has texts for its numbers and instants, `and` for unset
connectives, and a single literal where a test for null held a list of one.  None of
this changes what it means: the query that is read (`received`) fails to make a
filter exactly if the query that was written does, with the same error, and otherwise
the two filters answer alike on every record, errors included
(`meaning_survives_transmission`).

`Transmissible` is what a query has to satisfy to be read at all with its conditions
where they were; `Agree` carries the comparison of outcomes through the filter.
-/
import RecordQuery.Filter
import RecordQuery.Proofs.Chain
import RecordQuery.Proofs.QueryText
import RecordQuery.Proofs.SpelledLiteral

namespace RecordQuery

set_option autoImplicit false

/-! ## One condition -/

namespace Condition

/-- The condition that is read where this one was written. -/
def received (c : Condition) : Condition :=
  c.fragment.toCondition (c.connective.getD .and)

theorem texts_fragment_spelled (c : Condition) :
    c.fragment.texts = c.operand.literals.map Literal.spelled := by
  simp [Fragment.texts, fragment, Literal.spelled, Function.comp_def]

theorem Transmissible.canonical_received {c : Condition} (transmissible : c.Transmissible) :
    c.received.Canonical :=
  c.fragment.canonical_toCondition transmissible.wellFormed transmissible.greedy _

theorem render_received (c : Condition) : c.received.render = c.render := by
  rw [← String.toList_inj, render_toList, render_toList, received, Fragment.fragment_toCondition]
  rfl

theorem key_received (c : Condition) : c.received.key = c.key := by
  simp [received, Fragment.toCondition, fragment]

theorem operator_received (c : Condition) : c.received.operator = c.operator := rfl

theorem operand_received_one {c : Condition} {v : Literal} (other : c.operator ≠ .oneOf)
    (shape : c.operand = .one v) : c.received.operand = .one v.spelled := by
  have single : c.fragment.words = [v.render.toList] := by
    simp [fragment, shape, Operand.literals]
  have read := Fragment.operand_of_one other single
  rwa [String.ofList_toList] at read

theorem operand_received_many {c : Condition} {vs : List Literal} (shape : c.operand = .many vs)
    (isList : c.operator = .oneOf ∨ 2 ≤ vs.length) :
    c.received.operand = .many (vs.map Literal.spelled) := by
  have literals : c.operand.literals = vs := by rw [shape, Operand.literals]
  rw [← literals, ← texts_fragment_spelled]
  rcases isList with membership | several
  · exact Fragment.operand_of_oneOf membership
  · exact Fragment.operand_of_many (by simpa [fragment, literals] using several)

end Condition

/-! ## One test -/

namespace Test

/-- An operand that is not a single literal is still none where it is received. -/
theorem single_received {c : Condition} (other : c.operator ≠ .oneOf)
    (shape : (∃ v, c.operand = .one v) ∨ ∃ vs, c.operand = .many vs ∧ 2 ≤ vs.length) :
    Agree (fun received sent => received = sent.spelled) (single c.received) (single c) := by
  rcases shape with ⟨v, shape⟩ | ⟨vs, shape, several⟩
  · simp only [single, shape, Condition.operand_received_one other shape]
    exact .ok rfl
  · simp only [single, shape, Condition.operand_received_many shape (.inr several),
      Condition.key_received, Condition.operator_received]
    exact .error _

theorem ofCondition_received {c : Condition} (transmissible : c.Transmissible) :
    Agree (fun received sent => received = sent.spelled) (ofCondition c.received)
      (ofCondition c) := by
  have shape := transmissible.other
  have single := @single_received c
  cases operator : c.operator with
  | isNull =>
      simp only [ofCondition, Condition.operator_received, operator, Condition.key_received]
      exact .ok rfl
  | oneOf =>
      obtain ⟨v, vs, operand, -⟩ := transmissible.oneOf operator
      simp only [ofCondition, Condition.operator_received, operator, operand,
        Condition.key_received, Condition.operand_received_many operand (.inl operator)]
      exact .ok rfl
  | like =>
      simp only [ofCondition, Condition.operator_received, operator, Condition.key_received]
      refine (single (by simp [operator]) (shape (by simp [operator]) (by simp [operator]))).bind ?_
      rintro received sent rfl
      rw [Literal.render_spelled]
      cases Pattern.ofText? sent.render with
      | none => exact .error _
      | some pattern => exact .ok rfl
  | compare relation =>
      simp only [ofCondition, Condition.operator_received, operator, Condition.key_received]
      refine (single (by simp [operator]) (shape (by simp [operator]) (by simp [operator]))).bind ?_
      rintro received sent rfl
      exact .ok rfl

end Test

/-! ## Filters -/

namespace Filter

/-- The filter with every literal as the text it is written as. -/
def spelled (f : Filter) : Filter :=
  ⟨f.steps.map fun (connective, t) => (connective, t.spelled)⟩

theorem verdicts_spelled (f : Filter) (fields : Lookup) :
    f.spelled.verdicts fields = f.verdicts fields := by
  simp only [verdicts, spelled, List.mapM_map, Function.comp_def, Test.judge_spelled,
    Test.key_spelled]

theorem stepOf_received {c : Condition} (transmissible : c.Transmissible) :
    Agree (fun received sent => received = (sent.1, sent.2.spelled)) (stepOf c.received)
      (stepOf c) := by
  refine (Test.ofCondition_received transmissible).bind ?_
  rintro received sent rfl
  exact .ok rfl

/-- The connective of the first condition is lost, but not its test. -/
theorem stepOf_received_first {c : Condition} (transmissible : c.Transmissible) :
    Agree (fun received sent => received.2 = sent.2.spelled)
      (stepOf { c.received with connective := none }) (stepOf c) := by
  have same : Test.ofCondition { c.received with connective := none } =
      Test.ofCondition c.received := rfl
  rw [stepOf, same]
  refine (Test.ofCondition_received transmissible).bind ?_
  rintro received sent rfl
  exact .ok rfl

end Filter

namespace Query

/-- A query that can be read where it is written. -/
structure Transmissible (q : Query) : Prop where
  nonempty : q.conditions ≠ []
  conditions : ∀ c ∈ q.conditions, c.Transmissible

/-- The query that is read where this one was written. -/
def received (q : Query) : Query :=
  ⟨clearFirst (q.conditions.map Condition.received)⟩

theorem Transmissible.parse_render {q : Query} (transmissible : q.Transmissible) :
    parse q.render = .ok q.received := by
  obtain ⟨conditions⟩ := q
  obtain ⟨nonempty, each⟩ := transmissible
  have canonical : Canonical (received ⟨conditions⟩) := by
    refine canonical_clearFirst (by simpa using nonempty) fun c member => ?_
    obtain ⟨sent, inQuery, rfl⟩ := List.mem_map.mp member
    exact ⟨(each sent inQuery).canonical_received, by
      simp [Condition.received, Fragment.toCondition]⟩
  have written : (received ⟨conditions⟩).render = render ⟨conditions⟩ := by
    obtain ⟨first, rest, rfl⟩ := List.exists_cons_of_ne_nil nonempty
    rw [received, render_clearFirst, ← String.toList_inj, List.map_cons, render_cons_toList,
      render_cons_toList, Condition.received, Fragment.fragment_toCondition, List.map_map]
    simp only [Function.comp_def, Condition.render_received]
  rw [← written]
  exact (parse_render_iff_canonical _).mpr canonical

/-- The filter that is made where a query is received answers like the one that is made where it
was sent, and neither is made if the other is not. -/
theorem Transmissible.ofQuery_received {q : Query} (transmissible : q.Transmissible) :
    Agree (fun received sent : Filter => ∀ fields, received.accepts fields = sent.accepts fields)
      (Filter.ofQuery q.received) (Filter.ofQuery q) := by
  obtain ⟨conditions⟩ := q
  obtain ⟨nonempty, each⟩ := transmissible
  obtain ⟨first, rest, rfl⟩ := List.exists_cons_of_ne_nil nonempty
  obtain ⟨isFirst, others⟩ := List.forall_mem_cons.mp each
  simp only [Filter.ofQuery, received, List.map_cons, clearFirst, List.mapM_cons, bind_assoc,
    pure_bind]
  refine (Filter.stepOf_received_first isFirst).bind fun s t head => ?_
  refine (Agree.mapM_map fun c member => Filter.stepOf_received (others c member)).bind ?_
  rintro - more rfl
  refine .ok fun fields => ?_
  obtain ⟨connective, received⟩ := s
  obtain ⟨connective', sent⟩ := t
  obtain rfl : received = sent.spelled := head
  have tail := Filter.verdicts_spelled ⟨more⟩ fields
  rw [Filter.spelled] at tail
  rw [Filter.accepts_cons, Filter.accepts_cons, Test.judge_spelled, Test.key_spelled, tail]

/-- **A query means the same where its text is read.**  It is read as a query of the same size;
that query makes no filter exactly if the one that was written makes none, for the same reason;
and the two filters have the same answer for every record, be it a verdict or an error. -/
theorem meaning_survives_transmission {q : Query} (transmissible : q.Transmissible) :
    ∃ r, parse q.render = .ok r ∧ r.size = q.size ∧
      (∀ e, Filter.ofQuery r = .error e ↔ Filter.ofQuery q = .error e) ∧
      ∀ f g, Filter.ofQuery q = .ok f → Filter.ofQuery r = .ok g →
        ∀ fields : Lookup, g.accepts fields = f.accepts fields := by
  refine ⟨q.received, transmissible.parse_render, ?_, transmissible.ofQuery_received.error_iff, ?_⟩
  · obtain ⟨first, rest, shape⟩ := List.exists_cons_of_ne_nil transmissible.nonempty
    simp [size, received, shape, clearFirst]
  · intro f g sent received
    have agree := transmissible.ofQuery_received
    rw [sent, received] at agree
    cases agree with
    | ok same => exact same

/-- Numbers and instants, an underscore at the end of a word, a null test with a list of one, and
every state of the connective. -/
def mixed : Query :=
  ⟨[⟨some .or, "n", .compare .atMost, .one (.integer 42)⟩,
    ⟨none, "id", .oneOf, .many [.instant ⟨5⟩, .text "a_", .integer 7]⟩,
    ⟨some .or, "x", .isNull, .many [.text "null"]⟩]⟩

example : mixed.render = "n<42;id_5,a_,7;|x@null" := rfl

theorem mixed_transmissible : mixed.Transmissible := by
  refine ⟨by simp [mixed], ?_⟩
  simp only [mixed, List.forall_mem_cons]
  refine ⟨?_, ?_, ?_, by simp⟩
  · exact ⟨rfl, by simp [Operand.literals]; rfl, by simp, by simp, fun _ _ => .inl ⟨_, rfl⟩⟩
  · refine ⟨rfl, ?_, fun _ => ⟨_, _, rfl, by decide⟩, by simp, by simp⟩
    simp only [Operand.literals, List.forall_mem_cons]
    exact ⟨rfl, rfl, rfl, by simp⟩
  · exact ⟨rfl, by simp [Operand.literals]; rfl, by simp, by simp [Operand.literals], by simp⟩

theorem meaning_survives_transmission_mixed :
    mixed.Transmissible ∧
      ∃ r, parse mixed.render = .ok r ∧ r.size = mixed.size ∧
        (∀ e, Filter.ofQuery r = .error e ↔ Filter.ofQuery mixed = .error e) ∧
        ∀ f g, Filter.ofQuery mixed = .ok f → Filter.ofQuery r = .ok g →
          ∀ fields : Lookup, g.accepts fields = f.accepts fields :=
  ⟨mixed_transmissible, meaning_survives_transmission mixed_transmissible⟩

end Query

end RecordQuery
