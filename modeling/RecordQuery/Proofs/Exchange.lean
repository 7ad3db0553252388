/-
# RecordQuery.Proofs.Exchange -- neighbouring conditions that may change places

Verdicts are combined from left to right and no connective binds tighter, so conditions
cannot be moved about at will: in `a or b and c`, the conditions `b` and `c` may not be
exchanged.  Two neighbours may if they are connected in one way, and so may the first
two conditions of a query, since nothing depends on the first connective
(`combine_exchange`).  What changes places is what the conditions ask; the connectives
stay where they are.

Every condition is judged in any case, so the exchange does not make a filter fail or
keep it from failing; only the error may be another one.  `accepts_exchange` puts this
together.
-/
import RecordQuery.Proofs.Chain

namespace RecordQuery

set_option autoImplicit false

namespace Condition

/-- What the condition asks, connected as the other condition is. -/
def inPlaceOf (c other : Condition) : Condition :=
  { c with connective := other.connective }

theorem connective_inPlaceOf (c other : Condition) :
    (c.inPlaceOf other).connective = other.connective := rfl

theorem ofCondition_inPlaceOf (c other : Condition) :
    Test.ofCondition (c.inPlaceOf other) = Test.ofCondition c := rfl

theorem verdict_inPlaceOf (c other : Condition) (fields : Lookup) :
    (c.inPlaceOf other).verdict fields = c.verdict fields := rfl

theorem holds_inPlaceOf (c other : Condition) (fields : Lookup) :
    (c.inPlaceOf other).holds fields = c.holds fields := rfl

end Condition

namespace Filter

/-! ## Verdicts -/

/-- Two verdicts that are connected in one way count in either order. -/
theorem combineNext_right_comm (soFar : Bool) (connective : Connective) (x y : Bool) :
    combineNext (combineNext soFar (connective, x)) (connective, y) =
      combineNext (combineNext soFar (connective, y)) (connective, x) := by
  cases connective with
  | and => exact Bool.and_right_comm soFar x y
  | or => exact Bool.or_right_comm soFar x y

/-- The first verdict and the one connected to it count in either order. -/
theorem combineNext_comm (connective : Connective) (x y : Bool) :
    combineNext x (connective, y) = combineNext y (connective, x) := by
  cases connective with
  | and => exact Bool.and_comm x y
  | or => exact Bool.or_comm x y

theorem combine_exchange {front back : List (Connective × Bool)} {j k : Connective}
    (agree : front = [] ∨ j = k) (x y : Bool) :
    combine (front ++ (j, x) :: (k, y) :: back) = combine (front ++ (j, y) :: (k, x) :: back) := by
  cases front with
  | nil =>
      simp only [List.nil_append, combine, List.foldl_cons]
      rw [combineNext_comm]
  | cons first rest =>
      obtain rfl : j = k := agree.resolve_left (by simp)
      simp only [List.cons_append, combine, List.foldl_append, List.foldl_cons]
      rw [combineNext_right_comm]

/-! ## Filters -/

/-- A filter fails if one of its query's conditions cannot be judged. -/
theorem exists_accepts_error_iff {q : Query} {f : Filter} (made : ofQuery q = .ok f)
    (fields : Lookup) :
    (∃ e, f.accepts fields = .error e) ↔ ∃ c ∈ q.conditions, ∃ e, c.verdict fields = .error e := by
  constructor
  · rintro ⟨e, failed⟩
    rcases forall_ok_or_firstError (Condition.verdict fields) q.conditions with judged | ⟨e', first⟩
    · rw [accepts_of_judged made judged] at failed
      cases failed
    · obtain ⟨front, c, back, shape, -, cause⟩ := first
      exact ⟨c, by simp [shape], e', cause⟩
  · intro fails
    obtain ⟨e, first⟩ := exists_firstError fails
    exact ⟨e, accepts_of_firstError made first⟩

theorem accepts_of_no_error {q : Query} {f : Filter} (made : ofQuery q = .ok f) {fields : Lookup}
    (succeeds : ¬ ∃ e, f.accepts fields = .error e) :
    f.accepts fields =
      .ok (combine (q.conditions.map fun c => (c.connective.getD .and, c.holds fields))) := by
  refine accepts_of_judged made fun c member => ?_
  cases outcome : c.verdict fields with
  | ok b => exact ⟨b, rfl⟩
  | error e =>
      exact absurd ((exists_accepts_error_iff made fields).mpr ⟨c, member, e, outcome⟩) succeeds

section Exchange

variable {front back : List Condition} {a b : Condition}

theorem exists_ofQuery_exchange {f : Filter} (made : ofQuery ⟨front ++ a :: b :: back⟩ = .ok f) :
    ∃ g, ofQuery ⟨front ++ b.inPlaceOf a :: a.inPlaceOf b :: back⟩ = .ok g := by
  have tests := exists_ofQuery_iff.mp ⟨f, made⟩
  refine exists_ofQuery_iff.mpr fun c member => ?_
  simp only [List.mem_append, List.mem_cons] at member
  rcases member with inFront | rfl | rfl | inBack
  · exact tests c (by simp [inFront])
  · rw [Condition.ofCondition_inPlaceOf]
    exact tests b (by simp)
  · rw [Condition.ofCondition_inPlaceOf]
    exact tests a (by simp)
  · exact tests c (by simp [inBack])

/-- The exchange leaves the same verdicts to fail. -/
theorem exists_verdict_error_exchange (fields : Lookup) :
    (∃ c ∈ front ++ b.inPlaceOf a :: a.inPlaceOf b :: back, ∃ e, c.verdict fields = .error e) ↔
      ∃ c ∈ front ++ a :: b :: back, ∃ e, c.verdict fields = .error e := by
  simp only [List.mem_append, List.mem_cons, or_and_right, exists_or, exists_eq_left,
    Condition.verdict_inPlaceOf]
  exact or_congr_right or_left_comm

theorem combine_map_exchange
    (agree : front = [] ∨ a.connective.getD .and = b.connective.getD .and) (fields : Lookup) :
    combine ((front ++ b.inPlaceOf a :: a.inPlaceOf b :: back).map
        fun c => (c.connective.getD .and, c.holds fields)) =
      combine ((front ++ a :: b :: back).map
        fun c => (c.connective.getD .and, c.holds fields)) := by
  simp only [List.map_append, List.map_cons, Condition.connective_inPlaceOf,
    Condition.holds_inPlaceOf]
  exact (combine_exchange (by simpa using agree) _ _).symm

end Exchange

/-- **Neighbours that are connected in one way may change places**, and so may the first two
conditions of a query.  The query that results makes a filter as well, which fails on the same
records, with one error or another, and has the same verdict on all others. -/
theorem accepts_exchange {q : Query} {f : Filter} (made : ofQuery q = .ok f)
    {front back : List Condition} {a b : Condition} (shape : q.conditions = front ++ a :: b :: back)
    (agree : front = [] ∨ a.connective.getD .and = b.connective.getD .and) :
    ∃ g, ofQuery ⟨front ++ b.inPlaceOf a :: a.inPlaceOf b :: back⟩ = .ok g ∧
      ∀ fields, ((∃ e, g.accepts fields = .error e) ↔ ∃ e, f.accepts fields = .error e) ∧
        ∀ verdict, g.accepts fields = .ok verdict ↔ f.accepts fields = .ok verdict := by
  obtain ⟨conditions⟩ := q
  subst shape
  obtain ⟨g, madeG⟩ := exists_ofQuery_exchange made
  refine ⟨g, madeG, fun fields => ?_⟩
  have fails : (∃ e, g.accepts fields = .error e) ↔ ∃ e, f.accepts fields = .error e := by
    rw [exists_accepts_error_iff made, exists_accepts_error_iff madeG]
    exact exists_verdict_error_exchange fields
  refine ⟨fails, fun verdict => ?_⟩
  by_cases failed : ∃ e, f.accepts fields = .error e
  · -- Both fail, though not always with one error, so neither has a verdict.
    obtain ⟨e', failedG⟩ := fails.mpr failed
    obtain ⟨e, failedF⟩ := failed
    simp [failedF, failedG]
  · rw [accepts_of_no_error made failed, accepts_of_no_error madeG (fails.not.mpr failed),
      combine_map_exchange agree]

/-- Two conditions behind a first one, the last without a connective. -/
def threeFlags : Query :=
  ⟨[⟨some .or, "a", .compare .equal, .one (.text "true")⟩,
    ⟨some .and, "b", .compare .equal, .one (.text "true")⟩,
    ⟨none, "c", .compare .equal, .one (.text "true")⟩]⟩

def threeFlagTests : Filter :=
  ⟨[(.or, ⟨"a", .compare .equal (.text "true")⟩), (.and, ⟨"b", .compare .equal (.text "true")⟩),
    (.and, ⟨"c", .compare .equal (.text "true")⟩)]⟩

/-- An unset connective agrees with `and`.  A record without fields is refused before and after. -/
theorem accepts_exchange_unset :
    ofQuery threeFlags = .ok threeFlagTests ∧
      ∃ g, ofQuery ⟨[⟨some .or, "a", .compare .equal, .one (.text "true")⟩,
          ⟨some .and, "c", .compare .equal, .one (.text "true")⟩,
          ⟨none, "b", .compare .equal, .one (.text "true")⟩]⟩ = .ok g ∧
        (∃ e, g.accepts (fun _ => none) = .error e) ∧ g.accepts firstFlag = .ok false := by
  have made : ofQuery threeFlags = .ok threeFlagTests := rfl
  have shape : threeFlags.conditions =
      [⟨some .or, "a", .compare .equal, .one (.text "true")⟩] ++
        ⟨some .and, "b", .compare .equal, .one (.text "true")⟩ ::
          ⟨none, "c", .compare .equal, .one (.text "true")⟩ :: [] := rfl
  obtain ⟨g, madeG, answers⟩ := accepts_exchange made shape (.inr rfl)
  exact ⟨made, g, madeG, (answers fun _ => none).1.mpr ⟨_, rfl⟩, ((answers firstFlag).2 _).mpr rfl⟩

/-- `(a or b) and c` is not `(a or c) and b`: here `a` and `b` are true and `c` is false. -/
example :
    let flags : Lookup := fun key => some (.flag (key != "c"))
    groupedTests.accepts flags = .ok false ∧
      accepts ⟨[(.or, ⟨"a", .compare .equal (.text "true")⟩),
        (.or, ⟨"c", .compare .equal (.text "true")⟩),
        (.and, ⟨"b", .compare .equal (.text "true")⟩)]⟩ flags = .ok true :=
  ⟨rfl, rfl⟩

end Filter

end RecordQuery
