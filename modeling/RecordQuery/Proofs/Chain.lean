/-
# RecordQuery.Proofs.Chain -- verdicts joined from left to right, in closed form

A filter judges a record by every test and folds the verdicts from the left.  Here the
fold goes: a chain holds exactly if one of its verdicts holds that starts the chain or
is joined by `or`, and every later verdict that is not joined by `or` holds as well
(`combine_eq_true_iff`).  Errors come before that, the first one being the answer.
`accepts_chain` says both of the conditions of a query, each with the verdict of the
test that it stands for (`Condition.verdict`); what it says does not mention the first
connective, and tells an unset one from `and` nowhere.
-/
import RecordQuery.Proofs.TestMaking

namespace RecordQuery

set_option autoImplicit false

/-! ## Verdicts -/

namespace Filter

/-- Every verdict that has to hold as well as those before it does. -/
def Unbroken (verdicts : List (Connective × Bool)) : Prop :=
  ∀ v ∈ verdicts, v.1 = .and → v.2 = true

theorem unbroken_cons {v : Connective × Bool} {rest : List (Connective × Bool)} :
    Unbroken (v :: rest) ↔ (v.1 = .and → v.2 = true) ∧ Unbroken rest := by
  simp only [Unbroken, List.forall_mem_cons]

/-- An alternative among the verdicts carries the chain to its end. -/
def Resumed (verdicts : List (Connective × Bool)) : Prop :=
  ∃ back, (.or, true) :: back <:+ verdicts ∧ Unbroken back

theorem resumed_cons {v : Connective × Bool} {rest : List (Connective × Bool)} :
    Resumed (v :: rest) ↔ (v = (.or, true) ∧ Unbroken rest) ∨ Resumed rest := by
  simp only [Resumed, List.suffix_cons_iff, List.cons.injEq, or_and_right, exists_or]
  refine or_congr_left ⟨?_, ?_⟩
  · rintro ⟨back, ⟨same, rfl⟩, unbroken⟩
    exact ⟨same.symm, unbroken⟩
  · rintro ⟨rfl, unbroken⟩
    exact ⟨rest, ⟨rfl, rfl⟩, unbroken⟩

/-- What has been decided so far lasts to the end, or an alternative makes up for it. -/
theorem foldl_combineNext_iff {soFar : Bool} {rest : List (Connective × Bool)} :
    rest.foldl combineNext soFar = true ↔ (soFar = true ∧ Unbroken rest) ∨ Resumed rest := by
  -- For any verdict so far: each step turns it into another.
  induction rest generalizing soFar with
  | nil => simp [Unbroken, Resumed]
  | cons v rest ih =>
      obtain ⟨connective, verdict⟩ := v
      rw [List.foldl_cons, ih, unbroken_cons, resumed_cons]
      cases connective with
      | and =>
          simp only [combineNext, Bool.and_eq_true, Prod.mk.injEq, reduceCtorEq]
          tauto
      | or =>
          simp only [combineNext, Bool.or_eq_true, Prod.mk.injEq, reduceCtorEq]
          tauto

/-- **The fold in closed form.** -/
theorem combine_eq_true_iff {verdicts : List (Connective × Bool)} (nonempty : verdicts ≠ []) :
    combine verdicts = true ↔ ∃ front v back, verdicts = front ++ v :: back ∧ v.2 = true ∧
      (front = [] ∨ v.1 = .or) ∧ Unbroken back := by
  obtain ⟨first, rest, rfl⟩ := List.exists_cons_of_ne_nil nonempty
  obtain ⟨connective, verdict⟩ := first
  rw [combine, foldl_combineNext_iff]
  constructor
  · rintro (⟨holds, unbroken⟩ | ⟨back, ⟨front, rfl⟩, unbroken⟩)
    · exact ⟨[], _, rest, rfl, holds, .inl rfl, unbroken⟩
    · exact ⟨_ :: front, _, back, rfl, rfl, .inr rfl, unbroken⟩
  · rintro ⟨front, v, back, shape, holds, start, unbroken⟩
    -- The first verdict counts whatever joins it; only a later one has to be an alternative.
    cases front with
    | nil =>
        cases shape
        exact .inl ⟨holds, unbroken⟩
    | cons w front =>
        cases shape
        obtain rfl : v = (.or, true) := Prod.ext (start.resolve_left (by simp)) holds
        exact .inr ⟨back, ⟨front, rfl⟩, unbroken⟩

end Filter

/-! ## Conditions -/

namespace Condition

/-- The verdict on a record of the test that the condition stands for. -/
def verdict (fields : Lookup) (c : Condition) : Except QueryError Bool := do
  let t ← Test.ofCondition c
  t.judge (fields c.key)

/-- The verdict with the connective in front of it. -/
def connectedVerdict (fields : Lookup) (c : Condition) : Except QueryError (Connective × Bool) := do
  let verdict ← c.verdict fields
  return (c.connective.getD .and, verdict)

/-- The condition with `and` written out where no connective is set. -/
def explicit (c : Condition) : Condition :=
  { c with connective := some (c.connective.getD .and) }

theorem ofCondition_explicit (c : Condition) : Test.ofCondition c.explicit = Test.ofCondition c :=
  rfl

theorem verdict_of_made {c : Condition} {t : Test} (made : Test.ofCondition c = .ok t)
    (fields : Lookup) : c.verdict fields = t.judge (fields t.key) := by
  rw [verdict, made, (Test.ofCondition_eq_ok made).1]
  rfl

/-- The condition's test passes the record; it does not if it cannot judge it. -/
def holds (fields : Lookup) (c : Condition) : Bool :=
  c.verdict fields matches .ok true

theorem holds_eq_true_iff {fields : Lookup} {c : Condition} :
    c.holds fields = true ↔ c.verdict fields = .ok true := by
  unfold holds
  split <;> simp_all

theorem connectedVerdict_eq_ok {fields : Lookup} {c : Condition}
    (judged : ∃ b, c.verdict fields = .ok b) :
    c.connectedVerdict fields = .ok (c.connective.getD .and, c.holds fields) := by
  obtain ⟨b, verdict⟩ := judged
  rw [connectedVerdict, holds, verdict]
  cases b <;> rfl

theorem connectedVerdict_error_iff {fields : Lookup} {c : Condition} (e : QueryError) :
    c.connectedVerdict fields = .error e ↔ c.verdict fields = .error e :=
  bind_pure_eq_error_iff

end Condition

/-! ## Queries -/

namespace Filter

theorem ofQuery_explicit {q r : Query}
    (same : r.conditions.map Condition.explicit = q.conditions.map Condition.explicit) :
    ofQuery r = ofQuery q := by
  have step : stepOf ∘ Condition.explicit = stepOf := by
    funext c
    rw [Function.comp_apply, stepOf, Condition.ofCondition_explicit]
    rfl
  have steps := congrArg (List.mapM stepOf) same
  rw [List.mapM_map, List.mapM_map, step] at steps
  rw [ofQuery, ofQuery, steps]

/-- A filter answers by the verdicts of its query's conditions. -/
theorem accepts_of_ofQuery {q : Query} {f : Filter} (made : ofQuery q = .ok f) (fields : Lookup) :
    f.accepts fields = (do
      let verdicts ← q.conditions.mapM (Condition.connectedVerdict fields)
      return combine verdicts) := by
  have steps : f.verdicts fields = q.conditions.mapM (Condition.connectedVerdict fields) := by
    refine (mapM_eq_mapM_of_forall₂ ((ofQuery_eq_ok_iff.mp made).imp ?_)).symm
    rintro c ⟨connective, t⟩ ⟨rfl, madeTest⟩
    rw [Condition.connectedVerdict, Condition.verdict_of_made madeTest]
  rw [accepts, steps]

/-- The first verdict starts the chain, whatever its connective. -/
theorem accepts_cons (connective : Connective) (t : Test) (more : List (Connective × Test))
    (fields : Lookup) :
    accepts ⟨(connective, t) :: more⟩ fields = (do
      let first ← t.judge (fields t.key)
      let rest ← verdicts ⟨more⟩ fields
      return rest.foldl combineNext first) := by
  simp [accepts, verdicts, combine]

/-- The filter of a query whose first condition is connected in another way. -/
theorem exists_ofQuery_reconnect {first : Condition} {rest : List Condition} {f : Filter}
    (made : ofQuery ⟨first :: rest⟩ = .ok f) (connective : Option Connective) :
    ∃ g, ofQuery ⟨{ first with connective } :: rest⟩ = .ok g ∧
      ∀ fields, g.accepts fields = f.accepts fields := by
  obtain ⟨steps⟩ := f
  obtain ⟨⟨old, t⟩, more, ⟨-, test⟩, others, rfl⟩ :=
    List.forall₂_cons_left_iff.mp (ofQuery_eq_ok_iff.mp made)
  refine ⟨⟨(connective.getD .and, t) :: more⟩, ?_, fun fields => ?_⟩
  · exact ofQuery_eq_ok_iff.mpr (.cons ⟨rfl, test⟩ others)
  · rw [accepts_cons, accepts_cons]

theorem accepts_of_firstError {q : Query} {f : Filter} (made : ofQuery q = .ok f)
    {fields : Lookup} {e : QueryError}
    (first : FirstError (Condition.verdict fields) q.conditions e) :
    f.accepts fields = .error e := by
  have connected : FirstError (Condition.connectedVerdict fields) q.conditions e :=
    (firstError_congr fun c _ => Condition.connectedVerdict_error_iff).mpr first
  rw [accepts_of_ofQuery made, mapM_eq_error_iff.mpr connected]
  rfl

/-- The connectives and verdicts in closed form, over the conditions that they come from. -/
theorem combine_map_eq_true_iff {conditions : List Condition} (nonempty : conditions ≠ [])
    (fields : Lookup) :
    combine (conditions.map fun c => (c.connective.getD .and, c.holds fields)) = true ↔
      ∃ front c back, conditions = front ++ c :: back ∧ c.verdict fields = .ok true ∧
        (front = [] ∨ c.connective = some .or) ∧
        ∀ d ∈ back, d.connective ≠ some .or → d.verdict fields = .ok true := by
  have isOr : ∀ c : Condition, c.connective.getD .and = .or ↔ c.connective = some .or := by
    intro c
    rcases c.connective with _ | _ | _ <;> simp
  have isAnd : ∀ c : Condition, c.connective.getD .and = .and ↔ c.connective ≠ some .or := by
    intro c
    rcases c.connective with _ | _ | _ <;> simp
  rw [combine_eq_true_iff (by simpa using nonempty)]
  constructor
  · rintro ⟨front', v, back', shape, holds, start, unbroken⟩
    obtain ⟨front, rest, rfl, rfl, more⟩ := List.map_eq_append_iff.mp shape
    obtain ⟨c, back, rfl, rfl, rfl⟩ := List.map_eq_cons_iff.mp more
    refine ⟨front, c, back, rfl, Condition.holds_eq_true_iff.mp holds, ?_, fun d later joined => ?_⟩
    · simpa [isOr] using start
    · exact Condition.holds_eq_true_iff.mp
        (unbroken _ (List.mem_map_of_mem later) ((isAnd d).mpr joined))
  · rintro ⟨front, c, back, rfl, passes, start, unbroken⟩
    refine ⟨_, _, _, by rw [List.map_append, List.map_cons],
      Condition.holds_eq_true_iff.mpr passes, by simpa [isOr] using start, ?_⟩
    intro v member joined
    obtain ⟨d, later, rfl⟩ := List.mem_map.mp member
    exact Condition.holds_eq_true_iff.mpr (unbroken d later ((isAnd d).mp joined))

theorem accepts_of_judged {q : Query} {f : Filter} (made : ofQuery q = .ok f) {fields : Lookup}
    (judged : ∀ c ∈ q.conditions, ∃ b, c.verdict fields = .ok b) :
    f.accepts fields =
      .ok (combine (q.conditions.map fun c => (c.connective.getD .and, c.holds fields))) := by
  rw [accepts_of_ofQuery made,
    mapM_eq_ok_map fun c member => Condition.connectedVerdict_eq_ok (judged c member)]
  rfl

theorem forall₂_verdict {q : Query} {f : Filter} (made : ofQuery q = .ok f) (fields : Lookup) :
    List.Forall₂ (fun c t => Test.ofCondition c = .ok t ∧
      c.verdict fields = t.judge (fields t.key)) q.conditions f.tests := by
  rw [tests, List.forall₂_map_right_iff]
  refine (ofQuery_eq_ok_iff.mp made).imp ?_
  rintro c ⟨connective, t⟩ ⟨-, test⟩
  exact ⟨test, Condition.verdict_of_made test fields⟩

/-- **How a filter answers, by the verdicts of its query's conditions.**  These are the verdicts of
the filter's own tests, in order.  Without conditions, every record is accepted.  If some verdict
is an error, the first one that is, is the answer.  Otherwise the record is accepted exactly if a
condition holds that is the first or joined by `or`, and so does every later one that is not joined
by `or`.  The first connective does not matter, and an unset one is `and`. -/
theorem accepts_chain {q : Query} {f : Filter} (made : ofQuery q = .ok f) (fields : Lookup) :
    List.Forall₂ (fun c t => Test.ofCondition c = .ok t ∧
      c.verdict fields = t.judge (fields t.key)) q.conditions f.tests ∧
    (q.conditions = [] → f.accepts fields = .ok true) ∧
    ((∃ c ∈ q.conditions, ∃ e, c.verdict fields = .error e) →
      ∃ e, FirstError (Condition.verdict fields) q.conditions e ∧ f.accepts fields = .error e) ∧
    ((∀ c ∈ q.conditions, ∃ b, c.verdict fields = .ok b) → q.conditions ≠ [] →
      ∃ b, f.accepts fields = .ok b ∧ (b = true ↔
        ∃ front c back, q.conditions = front ++ c :: back ∧ c.verdict fields = .ok true ∧
          (front = [] ∨ c.connective = some .or) ∧
          ∀ d ∈ back, d.connective ≠ some .or → d.verdict fields = .ok true)) ∧
    (∀ first rest connective, q.conditions = first :: rest →
      ∃ g, ofQuery ⟨{ first with connective } :: rest⟩ = .ok g ∧
        ∀ fields, g.accepts fields = f.accepts fields) ∧
    ∀ r : Query, r.conditions.map Condition.explicit = q.conditions.map Condition.explicit →
      ofQuery r = .ok f := by
  refine ⟨forall₂_verdict made fields, ?_, ?_, ?_, ?_, ?_⟩
  · intro empty
    rw [accepts_of_ofQuery made, empty]
    rfl
  · intro fails
    obtain ⟨e, first⟩ := exists_firstError fails
    exact ⟨e, first, accepts_of_firstError made first⟩
  · intro judged nonempty
    exact ⟨_, accepts_of_judged made judged, combine_map_eq_true_iff nonempty fields⟩
  · intro first rest connective shape
    obtain ⟨conditions⟩ := q
    subst shape
    exact exists_ofQuery_reconnect made connective
  · intro r same
    rw [ofQuery_explicit same, made]

/-- `(a or b) and c`, as it is grouped from the left. -/
def grouped : Query :=
  ⟨[⟨some .or, "a", .compare .equal, .one (.text "true")⟩,
    ⟨some .or, "b", .compare .equal, .one (.text "true")⟩,
    ⟨none, "c", .compare .equal, .one (.text "true")⟩]⟩

def groupedTests : Filter :=
  ⟨[(.or, ⟨"a", .compare .equal (.text "true")⟩), (.or, ⟨"b", .compare .equal (.text "true")⟩),
    (.and, ⟨"c", .compare .equal (.text "true")⟩)]⟩

/-- The first field is true and the other two are false. -/
def firstFlag : Lookup := fun key => some (.flag (key == "a"))

example : groupedTests.accepts firstFlag = .ok false := rfl

/-- One record is judged, and one without fields is not. -/
theorem accepts_chain_grouped :
    ofQuery grouped = .ok groupedTests ∧
    (∃ b, groupedTests.accepts firstFlag = .ok b ∧ (b = true ↔
      ∃ front c back, grouped.conditions = front ++ c :: back ∧ c.verdict firstFlag = .ok true ∧
        (front = [] ∨ c.connective = some .or) ∧
        ∀ d ∈ back, d.connective ≠ some .or → d.verdict firstFlag = .ok true)) ∧
    ∃ e, FirstError (Condition.verdict fun _ => none) grouped.conditions e ∧
      groupedTests.accepts (fun _ => none) = .error e := by
  have made : ofQuery grouped = .ok groupedTests := rfl
  have judged : ∀ c ∈ grouped.conditions, ∃ b, c.verdict firstFlag = .ok b := by
    simp only [grouped, List.forall_mem_cons]
    exact ⟨⟨_, rfl⟩, ⟨_, rfl⟩, ⟨_, rfl⟩, by simp⟩
  refine ⟨made, (accepts_chain made firstFlag).2.2.2.1 judged (by simp [grouped]), ?_⟩
  exact (accepts_chain made fun _ => none).2.2.1 ⟨_, .head _, _, rfl⟩

end Filter

end RecordQuery
