/-
# RecordQuery.Filter -- queries made ready to judge records

A filter is the tests of a query, each with its connective.  A record is anything
that can be asked for a field by name.  Every test judges the record, the first
error among them being the answer; otherwise the verdicts are combined from left to
right, neither connective binding tighter.  An empty filter accepts everything.

The functions on lists of records stop at the first record that is an error or
that settles the answer.
-/
import RecordQuery.Query
import RecordQuery.Test.Basic

namespace RecordQuery

set_option autoImplicit false

/-- Where a record's fields are looked up; none for a name the record does not know. -/
abbrev Lookup := String → Option Field

structure Filter where
  steps : List (Connective × Test)
deriving DecidableEq

namespace Filter

/-- A condition's test and its connective; one that is unset counts as `and`. -/
def stepOf (c : Condition) : Except QueryError (Connective × Test) := do
  let t ← Test.ofCondition c
  return (c.connective.getD .and, t)

/-- The filter of a query, unless one of its conditions makes no test. -/
def ofQuery (q : Query) : Except QueryError Filter := do
  let steps ← q.conditions.mapM stepOf
  return ⟨steps⟩

def tests (f : Filter) : List Test := f.steps.map Prod.snd

def isEmpty (f : Filter) : Bool := f.steps.isEmpty

/-! ## One record -/

/-- The verdicts of all tests with their connectives. -/
def verdicts (f : Filter) (fields : Lookup) : Except QueryError (List (Connective × Bool)) :=
  f.steps.mapM fun (connective, t) => do
    let verdict ← t.judge (fields t.key)
    return (connective, verdict)

/-- Adds one verdict to what has been decided so far. -/
def combineNext (soFar : Bool) : Connective × Bool → Bool
  | (.and, verdict) => soFar && verdict
  | (.or, verdict) => soFar || verdict

/-- The verdicts combined from left to right; the first connective has nothing to connect. -/
def combine : List (Connective × Bool) → Bool
  | [] => true
  | (_, first) :: rest => rest.foldl combineNext first

def accepts (f : Filter) (fields : Lookup) : Except QueryError Bool := do
  let verdicts ← f.verdicts fields
  return combine verdicts

/-! ## Lists of records -/

section Records

variable {α : Type}

/-- The accepted records, in order. -/
def select (f : Filter) (fields : α → Lookup) : List α → Except QueryError (List α)
  | [] => .ok []
  | r :: rs => do
    let accepted ← f.accepts (fields r)
    let more ← f.select fields rs
    return if accepted then r :: more else more

/-- Copies of the accepted records, in order. -/
def selectCopies (f : Filter) (fields : α → Lookup) (copy : α → α) (records : List α) :
    Except QueryError (List α) := do
  let hits ← f.select fields records
  return hits.map copy

/-- How many records are accepted. -/
def count (f : Filter) (fields : α → Lookup) : List α → Except QueryError Nat
  | [] => .ok 0
  | r :: rs => do
    let accepted ← f.accepts (fields r)
    let more ← f.count fields rs
    return if accepted then more + 1 else more

/-- The index of the first accepted record. -/
def position? (f : Filter) (fields : α → Lookup) : List α → Except QueryError (Option Nat)
  | [] => .ok none
  | r :: rs => do
    if ← f.accepts (fields r) then return some 0
    let later ← f.position? fields rs
    return later.map (· + 1)

/-- The first accepted record. -/
def find? (f : Filter) (fields : α → Lookup) : List α → Except QueryError (Option α)
  | [] => .ok none
  | r :: rs => do
    if ← f.accepts (fields r) then return some r
    f.find? fields rs

/-- Whether some record is accepted. -/
def any (f : Filter) (fields : α → Lookup) : List α → Except QueryError Bool
  | [] => .ok false
  | r :: rs => do
    if ← f.accepts (fields r) then return true
    f.any fields rs

/-- Whether every record is accepted. -/
def all (f : Filter) (fields : α → Lookup) : List α → Except QueryError Bool
  | [] => .ok true
  | r :: rs => do
    if ← f.accepts (fields r) then f.all fields rs else return false

end Records

end Filter

end RecordQuery
