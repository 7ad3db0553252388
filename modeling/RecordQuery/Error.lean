/-
# RecordQuery.Error -- why a query is refused

Each error names its cause; `QueryError.message` is the one place where causes
become wording.
-/
import RecordQuery.Operator
import RecordQuery.Field
import RecordQuery.Text.Quoted

namespace RecordQuery

set_option autoImplicit false

/-- What is wrong with a piece of query text. -/
inductive TextFault where
  | emptyFragment
  | emptySegment
  | missingKey
  | missingOperator
  | missingValue
  | emptyListElement
  | unknownOperatorCode
  | invalidValueCharacter
  | unknownOperation
deriving DecidableEq

namespace TextFault

def reason : TextFault → String
  | .emptyFragment => "empty fragment"
  | .emptySegment => "empty segment"
  | .missingKey => "missing key"
  | .missingOperator => "missing operator"
  | .missingValue => "missing value"
  | .emptyListElement => "empty list element"
  | .unknownOperatorCode => "unknown operator code"
  | .invalidValueCharacter => "invalid character in value"
  | .unknownOperation => "unknown operation"

end TextFault

/-- The shape of operand that an operator works on. -/
inductive Shape where
  | one
  | many
deriving DecidableEq

namespace Shape

def demand : Shape → String
  | .one => "needs a single value"
  | .many => "needs a list value"

end Shape

inductive QueryError where
  /-- The text is not query text. -/
  | malformed (text : String) (fault : TextFault)
  /-- The operand of a condition has not the shape that its operator needs. -/
  | wrongShape (key : String) (operator : Operator) (needed : Shape)
  /-- The operator, or its operand, does not apply to fields of this kind. -/
  | unsupported (key : String) (operator : Operator) (kind : FieldKind)
  /-- The record has no field of this name. -/
  | unknownField (key : String)
  /-- The pattern has too many wildcards. -/
  | patternTooLarge
deriving DecidableEq

namespace QueryError

def message : QueryError → String
  | .malformed text fault => s!"invalid search fragment {Text.quoted text}: {fault.reason}"
  | .wrongShape key operator needed =>
    s!"operation '{operator.name}' on field '{key}' {needed.demand}"
  | .unsupported key operator kind =>
    s!"operation '{operator.name}' is not supported for {kind.name} field '{key}'"
  | .unknownField key => s!"unknown field '{key}'"
  | .patternTooLarge =>
    "invalid like pattern: Compiled regex exceeds size limit of 10485760 bytes."

end QueryError

namespace Operator

/-- The operator called by a name or a code. -/
def parse (text : String) : Except QueryError Operator :=
  match ofText? text with
  | some op => .ok op
  | none => .error (.malformed text .unknownOperation)

end Operator

end RecordQuery
