/-
# RecordQuery.Proofs.Construction -- every way to come by a query

A client makes conditions and queries, reads them from text or JSON, changes them and
puts them together, in any order.  Its calls are data here: a call gives one more
condition (`ConditionCall`) or one more query (`QueryCall`), from what is held already,
and `Held.run` is what is held in the end.

Only `Condition.make` looks at the operand of a membership test.  Still every call keeps
the invariant that it holds a list (`Condition.Listed`, `Held.Listed.step`), except for
the two that put another operator or operand into a condition.  With those, every
condition can be reached (`exists_run_holding`), and which of them make no test is what
`ofCondition_eq_error_iff` says of all conditions.
-/
import RecordQuery.Json.Query
import RecordQuery.Proofs.OperandShape
import RecordQuery.Proofs.QueryText

namespace RecordQuery

set_option autoImplicit false

/-! ## Calls -/

/-- Adds a condition to a query, by the builder named for its operator. -/
inductive Addition where
  | compare (connective : Connective) (relation : Relation) (key : String) (value : Literal)
  | like (connective : Connective) (key : String) (value : Literal)
  | isNull (connective : Connective) (key : String)
  | oneOf (connective : Connective) (key : String) (values : List Literal)

def Query.add (q : Query) : Addition → Query
  | .compare connective relation key value => q.compare connective relation key value
  | .like connective key value => q.like connective key value
  | .isNull connective key => q.isNull connective key
  | .oneOf connective key values => q.oneOf connective key values

/-- Gives a condition: a new one, a copy out of a query, or a changed copy of one that is held. -/
inductive ConditionCall where
  | make (connective : Option Connective) (key : String) (operator : Operator) (operand : Operand)
  | parse (text : String)
  | decode (json : JsonValue)
  | takeFrom (query index : Nat)
  | setConnective (index : Nat) (connective : Option Connective)
  | setKey (index : Nat) (key : String)
  | setOperator (index : Nat) (operator : Operator)
  | setOperand (index : Nat) (operand : Operand)

/-- Gives a query: a new one, one of conditions that are held, or one that is held with one condition
more. -/
inductive QueryCall where
  | empty
  | parse (text : String)
  | decode (json : JsonValue)
  | collect (indices : List Nat)
  | connect (query : Nat) (connective : Connective) (index : Nat)
  | push (query index : Nat)
  | add (query : Nat) (addition : Addition)

inductive Call where
  | condition (call : ConditionCall)
  | query (call : QueryCall)

/-- The conditions and queries that a client has come by, in order. -/
structure Held where
  conditions : List Condition
  queries : List Query

namespace Held

def nothing : Held := ⟨[], []⟩

/-- The condition that a call gives, if it is not refused and what it names is held. -/
def condition? (held : Held) : ConditionCall → Option Condition
  | .make connective key operator operand =>
    (Condition.make connective key operator operand).toOption
  | .parse text => (Condition.parse text).toOption
  | .decode json => (Condition.ofJson json).toOption
  | .takeFrom query index => held.queries[query]?.bind fun q => q.conditions[index]?
  | .setConnective index connective => held.conditions[index]?.map fun c => { c with connective }
  | .setKey index key => held.conditions[index]?.map fun c => { c with key }
  | .setOperator index operator => held.conditions[index]?.map fun c => { c with operator }
  | .setOperand index operand => held.conditions[index]?.map fun c => { c with operand }

/-- The query that a call gives, if it is not refused and what it names is held. -/
def query? (held : Held) : QueryCall → Option Query
  | .empty => some .empty
  | .parse text => (Query.parse text).toOption
  | .decode json => (Query.ofJson json).toOption
  | .collect indices => some ⟨indices.filterMap fun index => held.conditions[index]?⟩
  | .connect query connective index => do
    let q ← held.queries[query]?
    let c ← held.conditions[index]?
    return q.connect connective c
  | .push query index => do
    let q ← held.queries[query]?
    let c ← held.conditions[index]?
    return q.push c
  | .add query addition => held.queries[query]?.map fun q => q.add addition

/-- A call adds what it gives; one that is refused adds nothing. -/
def step (held : Held) : Call → Held
  | .condition call =>
    { held with conditions := held.conditions ++ (held.condition? call).toList }
  | .query call => { held with queries := held.queries ++ (held.query? call).toList }

def run (held : Held) (calls : List Call) : Held := calls.foldl step held

end Held

/-- The call leaves operators and operands as they are. -/
def Call.Guarded : Call → Prop
  | .condition (.setOperator ..) | .condition (.setOperand ..) => False
  | _ => True

/-! ## The invariant -/

/-- A test for membership holds a list to be a member of. -/
def Condition.Listed (c : Condition) : Prop :=
  c.operator = .oneOf → ∃ vs, c.operand = .many vs

def Query.Listed (q : Query) : Prop :=
  ∀ c ∈ q.conditions, c.Listed

structure Held.Listed (held : Held) : Prop where
  conditions : ∀ c ∈ held.conditions, c.Listed
  queries : ∀ q ∈ held.queries, q.Listed

/-- What is decoded has been read from some text. -/
theorem DecodingError.exists_text_of_decodeText {α : Type} {read : String → Except QueryError α}
    {json : JsonValue} {a : α} (decoded : decodeText read json = .ok a) :
    ∃ text, read text = .ok a := by
  unfold decodeText at decoded
  split at decoded
  · rename_i text
    split at decoded
    · rename_i result read
      cases decoded
      exact ⟨text, read⟩
    · cases decoded
  · cases decoded

theorem toOption_eq_some_iff {ε α : Type} {x : Except ε α} {a : α} :
    x.toOption = some a ↔ x = .ok a := by
  cases x <;> simp [Except.toOption]

namespace Condition

theorem listed_of_make {connective : Option Connective} {key : String} {operator : Operator}
    {operand : Operand} {c : Condition} (made : make connective key operator operand = .ok c) :
    c.Listed := by
  unfold make at made
  split at made
  · cases made
  · rename_i guarded
    cases made
    intro membership
    have isMany : operand.shape = .many := by
      by_contra other
      exact guarded ⟨membership, other⟩
    exact Operand.shape_eq_many_iff.mp isMany

theorem Canonical.listed {c : Condition} (canonical : c.Canonical) : c.Listed := by
  intro membership
  obtain ⟨v, vs, shape, -⟩ := canonical.oneOf membership
  exact ⟨v :: vs, shape⟩

theorem listed_of_parse {text : String} {c : Condition} (read : parse text = .ok c) : c.Listed :=
  (parse_eq_ok_iff_canonical.mp read).1.1.listed

theorem listed_iff {c : Condition} : c.Listed ↔ ¬ c.Misshapen .many := by
  rw [Listed, Misshapen, Operator.needs_eq_many_iff, not_and, not_ne_iff,
    Operand.shape_eq_many_iff]

end Condition

namespace Query

theorem listed_of_parse {text : String} {q : Query} (read : parse text = .ok q) : q.Listed := by
  obtain ⟨canonical, -⟩ := parse_eq_ok_iff_canonical.mp read
  intro c member
  exact (canonical.conditions c member).listed

/-- What holds of all conditions of a query and of one more, holds of those of the longer query. -/
theorem forall_mem_push {q : Query} {c : Condition} {P : Condition → Prop}
    (before : ∀ d ∈ q.conditions, P d) (last : P c) : ∀ d ∈ (q.push c).conditions, P d := by
  intro d member
  rcases List.mem_append.mp member with inQuery | isLast
  · exact before d inQuery
  · rw [List.mem_singleton.mp isLast]
    exact last

/-- The builder named for an operator gives it an operand of the shape that it works on. -/
theorem exists_added (addition : Addition) :
    ∃ c : Condition, (∀ needed, ¬ c.Misshapen needed) ∧ ∀ q : Query, q.add addition = q.push c := by
  cases addition with
  | _ =>
      refine ⟨_, ?_, fun q => rfl⟩
      rintro needed ⟨works, shape⟩
      cases works <;> exact shape rfl

theorem not_misshapen_additions {additions : List Addition} {q : Query}
    (before : ∀ c ∈ q.conditions, ∀ needed, ¬ c.Misshapen needed) :
    ∀ c ∈ (additions.foldl add q).conditions, ∀ needed, ¬ c.Misshapen needed := by
  -- For any query to begin with: each builder turns it into another.
  induction additions generalizing q with
  | nil => exact before
  | cons addition additions ih =>
      obtain ⟨c, shaped, added⟩ := exists_added addition
      rw [List.foldl_cons, added]
      exact ih (forall_mem_push before shaped)

end Query

/-! ## Steps and runs -/

namespace Held

theorem Listed.condition? {held : Held} (listed : held.Listed) {call : ConditionCall}
    (guarded : (Call.condition call).Guarded) {c : Condition}
    (given : held.condition? call = some c) : c.Listed := by
  cases call with
  | make connective key operator operand =>
      exact Condition.listed_of_make (toOption_eq_some_iff.mp given)
  | parse text => exact Condition.listed_of_parse (toOption_eq_some_iff.mp given)
  | decode json =>
      obtain ⟨text, read⟩ :=
        DecodingError.exists_text_of_decodeText (toOption_eq_some_iff.mp given)
      exact Condition.listed_of_parse read
  | takeFrom query index =>
      obtain ⟨q, inHeld, inQuery⟩ := Option.bind_eq_some_iff.mp given
      exact listed.queries q (List.mem_of_getElem? inHeld) c (List.mem_of_getElem? inQuery)
  | setConnective index connective =>
      obtain ⟨d, inHeld, rfl⟩ := Option.map_eq_some_iff.mp given
      exact listed.conditions d (List.mem_of_getElem? inHeld)
  | setKey index key =>
      obtain ⟨d, inHeld, rfl⟩ := Option.map_eq_some_iff.mp given
      exact listed.conditions d (List.mem_of_getElem? inHeld)
  | setOperator index operator => exact guarded.elim
  | setOperand index operand => exact guarded.elim

/-- What is made of a query and a condition that are held, is made of listed ones. -/
theorem Listed.of_both {held : Held} (listed : held.Listed) {query index : Nat}
    {into : Query → Condition → Query} {q : Query}
    (given : (do
      let r ← held.queries[query]?
      let c ← held.conditions[index]?
      return into r c) = some q) : ∃ r c, r.Listed ∧ c.Listed ∧ into r c = q := by
  obtain ⟨r, inQueries, given⟩ := Option.bind_eq_some_iff.mp given
  obtain ⟨c, inConditions, given⟩ := Option.bind_eq_some_iff.mp given
  exact ⟨r, c, listed.queries r (List.mem_of_getElem? inQueries),
    listed.conditions c (List.mem_of_getElem? inConditions), Option.some.inj given⟩

theorem Listed.query? {held : Held} (listed : held.Listed) {call : QueryCall} {q : Query}
    (given : held.query? call = some q) : q.Listed := by
  cases call with
  | empty =>
      cases given
      simp [Query.Listed, Query.empty]
  | parse text => exact Query.listed_of_parse (toOption_eq_some_iff.mp given)
  | decode json =>
      obtain ⟨text, read⟩ :=
        DecodingError.exists_text_of_decodeText (toOption_eq_some_iff.mp given)
      exact Query.listed_of_parse read
  | collect indices =>
      cases given
      intro c member
      obtain ⟨index, -, inHeld⟩ := List.mem_filterMap.mp member
      exact listed.conditions c (List.mem_of_getElem? inHeld)
  | connect query connective index =>
      obtain ⟨r, c, fromQuery, fromCondition, rfl⟩ := listed.of_both given
      exact Query.forall_mem_push fromQuery fromCondition
  | push query index =>
      obtain ⟨r, c, fromQuery, fromCondition, rfl⟩ := listed.of_both given
      exact Query.forall_mem_push fromQuery fromCondition
  | add query addition =>
      obtain ⟨r, inQueries, rfl⟩ := Option.map_eq_some_iff.mp given
      obtain ⟨c, shaped, added⟩ := Query.exists_added addition
      rw [added]
      exact Query.forall_mem_push (listed.queries r (List.mem_of_getElem? inQueries))
        (Condition.listed_iff.mpr (shaped .many))

/-- **Every guarded call keeps membership tests listed.** -/
theorem Listed.step {held : Held} (listed : held.Listed) {call : Call} (guarded : call.Guarded) :
    (held.step call).Listed := by
  cases call with
  | condition call =>
      refine ⟨fun c member => ?_, listed.queries⟩
      rcases List.mem_append.mp member with inHeld | isGiven
      · exact listed.conditions c inHeld
      · exact listed.condition? guarded (Option.mem_toList.mp isGiven)
  | query call =>
      refine ⟨listed.conditions, fun q member => ?_⟩
      rcases List.mem_append.mp member with inHeld | isGiven
      · exact listed.queries q inHeld
      · exact listed.query? (Option.mem_toList.mp isGiven)

theorem Listed.run {held : Held} (listed : held.Listed) {calls : List Call}
    (guarded : ∀ call ∈ calls, call.Guarded) : (held.run calls).Listed := by
  induction calls generalizing held with
  | nil => exact listed
  | cons call calls ih =>
      obtain ⟨first, others⟩ := List.forall_mem_cons.mp guarded
      exact ih (listed.step first) others

theorem listed_nothing : nothing.Listed :=
  ⟨by simp [nothing], by simp [nothing]⟩

/-- With the calls that are not guarded, every condition can be reached. -/
theorem exists_run_holding (c : Condition) : ∃ calls, c ∈ (nothing.run calls).conditions := by
  refine ⟨[.condition (.make c.connective c.key .isNull c.operand),
    .condition (.setOperator 0 c.operator)], ?_⟩
  simp [run, step, condition?, nothing, Condition.make, Except.toOption]

end Held

/-! ## What can be wrong with what was made -/

namespace Filter

theorem ofQuery_error_cases {q : Query} {e : QueryError} (failed : ofQuery q = .error e) :
    (∃ c ∈ q.conditions, ∃ needed, c.Misshapen needed ∧ e = .wrongShape c.key c.operator needed) ∨
      e = .patternTooLarge := by
  obtain ⟨front, c, back, shape, -, cause⟩ := ofQuery_eq_error_iff.mp failed
  rcases Test.ofCondition_eq_error_iff.mp cause with ⟨needed, misshapen, rfl⟩ | ⟨-, rfl⟩
  · exact .inl ⟨c, by simp [shape], needed, misshapen, rfl⟩
  · exact .inr rfl

theorem ofQuery_ne_of_listed {q : Query} (listed : q.Listed) (key : String) (operator : Operator) :
    ofQuery q ≠ .error (.wrongShape key operator .many) := by
  intro failed
  rcases ofQuery_error_cases failed with ⟨c, member, needed, misshapen, same⟩ | impossible
  · cases same
    exact Condition.listed_iff.mp (listed c member) misshapen
  · cases impossible

theorem ofQuery_additions_error {additions : List Addition} {e : QueryError}
    (failed : ofQuery (additions.foldl Query.add .empty) = .error e) : e = .patternTooLarge := by
  rcases ofQuery_error_cases failed with ⟨c, member, needed, misshapen, -⟩ | tooLarge
  · have shaped := Query.not_misshapen_additions (q := .empty) (by simp [Query.empty]) c member
    exact absurd misshapen (shaped needed)
  · exact tooLarge

end Filter

/-- The error about the shape of an operand, exactly as the operator and the operand have it. -/
theorem Test.ofCondition_eq_wrongShape_iff {c : Condition} {key : String} {operator : Operator}
    {needed : Shape} :
    ofCondition c = .error (.wrongShape key operator needed) ↔
      key = c.key ∧ operator = c.operator ∧ c.Misshapen needed := by
  rw [ofCondition_eq_error_iff]
  constructor
  · rintro (⟨needed, misshapen, same⟩ | ⟨-, impossible⟩)
    · cases same
      exact ⟨rfl, rfl, misshapen⟩
    · cases impossible
  · rintro ⟨rfl, rfl, misshapen⟩
    exact .inl ⟨needed, misshapen, rfl⟩

/-- **What calls can and cannot bring about.**  Whatever is made by guarded calls, every membership
test holds a list, and no filter fails for want of one.  What is made by the builders alone makes a
filter unless a pattern is too large.  The other calls reach every condition there is, and one of
those fails for the shape of its operand exactly if it is a membership test of a single literal,
or a list that another operator would have to read; a test for null reads nothing. -/
theorem Held.run_keeps_lists :
    (∀ calls : List Call, (∀ call ∈ calls, call.Guarded) → ∀ q ∈ (nothing.run calls).queries,
      (∀ c ∈ q.conditions, c.operator = .oneOf → ∃ vs, c.operand = .many vs) ∧
      ∀ key operator, Filter.ofQuery q ≠ .error (.wrongShape key operator .many)) ∧
    (∀ (additions : List Addition) (e : QueryError),
      Filter.ofQuery (additions.foldl Query.add .empty) = .error e → e = .patternTooLarge) ∧
    ∀ c : Condition, (∃ calls, c ∈ (nothing.run calls).conditions) ∧
      ∀ key operator needed, Test.ofCondition c = .error (.wrongShape key operator needed) ↔
        key = c.key ∧ operator = c.operator ∧
          (c.operator = .oneOf ∧ (∃ v, c.operand = .one v) ∧
              needed.demand = "needs a list value" ∨
            (c.operator = .like ∨ ∃ relation, c.operator = .compare relation) ∧
              (∃ vs, c.operand = .many vs) ∧ needed.demand = "needs a single value") := by
  refine ⟨fun calls guarded q held => ?_, fun additions e failed => ?_, fun c => ⟨?_, ?_⟩⟩
  · have listed : q.Listed := (listed_nothing.run guarded).queries q held
    exact ⟨listed, Filter.ofQuery_ne_of_listed listed⟩
  · exact Filter.ofQuery_additions_error failed
  · exact exists_run_holding c
  · intro key operator needed
    rw [Test.ofCondition_eq_wrongShape_iff, Condition.misshapen_iff, Shape.demand_eq_list_iff,
      Shape.demand_eq_single_iff]

/-- A run that is not guarded comes to a membership test of one literal, which makes no test. -/
example : Test.ofCondition ⟨some .and, "id", .oneOf, .one (.text "1")⟩ =
    .error (.wrongShape "id" .oneOf .many) := rfl

end RecordQuery
