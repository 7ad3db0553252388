/-
# RecordQuery.Test.Basic -- conditions made ready to judge fields

A test is a condition whose operand has been checked against its operator, so that
every test can judge every field.  A field that the record does not have is an
error; a null field passes only the test for null; any other field is compared
with the literals read as its own kind (`Literal.as?`), and a literal that cannot
be read so makes the comparison an error.
-/
import RecordQuery.Condition.Basic
import RecordQuery.Number.Literal
import RecordQuery.Test.Pattern

namespace RecordQuery

set_option autoImplicit false

namespace Literal

/-- A whole number of 64 bits from decimal text. -/
def integer64? (text : String) : Option Int64 :=
  (Text.integer? text.toList).bind fun n =>
    if Int64.minValue.toInt ≤ n ∧ n ≤ Int64.maxValue.toInt then some (Int64.ofInt n) else none

/-- The field of the given kind that the literal stands for, if it can stand for one. -/
def as? (v : Literal) : FieldKind → Option Field
  | .text => some (.text v.render)
  | .number =>
    match v with
    | .text s => (Number.ofText? s.toList).map .number
    | .integer n => some (.number (.signed n))
    | .instant t => some (.number (.signed t.millis))
  | .instant =>
    match v with
    | .text s => (integer64? s).map fun millis => .instant ⟨millis⟩
    | .integer n => some (.instant ⟨n⟩)
    | .instant t => some (.instant t)
  | .flag =>
    match v with
    | .text s => if s = "true" then some (.flag true) else if s = "false" then some (.flag false)
      else none
    | .integer _ | .instant _ => none
  | .null => none

end Literal

/-- What a test asks of a field, with an operand of the shape it needs. -/
inductive Requirement where
  | compare (relation : Relation) (value : Literal)
  | isNull
  | like (pattern : Pattern)
  | oneOf (values : List Literal)
deriving DecidableEq

namespace Requirement

def operator : Requirement → Operator
  | .compare relation _ => .compare relation
  | .isNull => .isNull
  | .like _ => .like
  | .oneOf _ => .oneOf

end Requirement

structure Test where
  key : String
  requirement : Requirement
deriving DecidableEq

namespace Test

def operator (t : Test) : Operator := t.requirement.operator

/-- The literal of an operand that has to be a single one. -/
def single (c : Condition) : Except QueryError Literal :=
  match c.operand with
  | .one v => .ok v
  | .many _ => .error (.wrongShape c.key c.operator .one)

/-- The test that a condition stands for.  The operand of a test for null is ignored. -/
def ofCondition (c : Condition) : Except QueryError Test :=
  match c.operator with
  | .isNull => .ok ⟨c.key, .isNull⟩
  | .oneOf =>
    match c.operand with
    | .many vs => .ok ⟨c.key, .oneOf vs⟩
    | .one _ => .error (.wrongShape c.key .oneOf .many)
  | .like => do
    let v ← single c
    match Pattern.ofText? v.render with
    | some pattern => .ok ⟨c.key, .like pattern⟩
    | none => .error .patternTooLarge
  | .compare relation => do
    let v ← single c
    .ok ⟨c.key, .compare relation v⟩

def unsupported (t : Test) (field : Field) : QueryError :=
  .unsupported t.key t.operator field.kind

/-- How the field compares with the literal read as the field's kind. -/
def order (t : Test) (field : Field) (v : Literal) : Except QueryError (Option Ordering) :=
  match v.as? field.kind with
  | some other => .ok (field.order? other)
  | none => .error (t.unsupported field)

/-- Whether the field equals one of the literals.  The first equal one ends the search, and so
does the first that cannot be compared, with an error. -/
def equalsAny (t : Test) (field : Field) : List Literal → Except QueryError Bool
  | [] => .ok false
  | v :: vs => do
    let o ← t.order field v
    if o = some .eq then .ok true else t.equalsAny field vs

/-- The verdict on a field that is not null. -/
def judgePresent (t : Test) (field : Field) : Except QueryError Bool :=
  match t.requirement with
  | .isNull => .ok false
  | .like pattern =>
    match field with
    | .text s => .ok (pattern.accepts s)
    | _ => .error (t.unsupported field)
  | .compare relation v => do
    if relation.needsOrder ∧ field.kind = .flag then .error (t.unsupported field)
    else
      let o ← t.order field v
      .ok (o.any relation.holds)
  | .oneOf vs => t.equalsAny field vs

/-- The verdict on a field, given as none if the record does not have it. -/
def judge (t : Test) : Option Field → Except QueryError Bool
  | none => .error (.unknownField t.key)
  | some .null => .ok (t.operator = .isNull)
  | some field => t.judgePresent field

end Test

end RecordQuery
