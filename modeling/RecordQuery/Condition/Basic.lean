/-
# RecordQuery.Condition.Basic -- one comparison of a field with an operand

A condition names a field, an operator and an operand, and says how it connects to
the condition before it.  `Condition.make` refuses a list operator without a list;
a condition may be changed afterwards in any way, so what a condition means is
settled only when it is made into a test.

`Condition.render` writes a condition as query text.
-/
import RecordQuery.Error
import RecordQuery.Text.Decimal

namespace RecordQuery

set_option autoImplicit false

/-- How a condition connects to the one before it. -/
inductive Connective where
  | and
  | or
deriving DecidableEq

namespace Connective

def name : Connective → String
  | .and => "and"
  | .or => "or"

end Connective

/-- A single value to compare with. -/
inductive Literal where
  | text (value : String)
  | integer (value : Int64)
  | instant (value : Instant)
deriving DecidableEq

namespace Literal

/-- Instants are written as their milliseconds. -/
def render : Literal → String
  | .text s => s
  | .integer n => Text.ofInt n.toInt
  | .instant t => Text.ofInt t.millis.toInt

end Literal

inductive Operand where
  | one (value : Literal)
  | many (values : List Literal)
deriving DecidableEq

namespace Operand

def shape : Operand → Shape
  | .one _ => .one
  | .many _ => .many

def isMany : Operand → Bool
  | .one _ => false
  | .many _ => true

/-- The separator of list elements. -/
def separator : Char := ','

def render : Operand → String
  | .one v => v.render
  | .many vs => separator.toString.intercalate (vs.map Literal.render)

end Operand

structure Condition where
  connective : Option Connective
  key : String
  operator : Operator
  operand : Operand
deriving DecidableEq

namespace Condition

/-- The mark in front of a condition connected by `or`. -/
def orMark : Char := '|'

/-- A condition; membership needs a list to be a member of. -/
def make (connective : Option Connective) (key : String) (operator : Operator)
    (operand : Operand) : Except QueryError Condition :=
  if operator = .oneOf ∧ operand.shape ≠ .many then .error (.wrongShape key operator .many)
  else .ok { connective, key, operator, operand }

def isOr (c : Condition) : Bool :=
  c.connective == some .or

/-- The text of a condition without its connective. -/
def renderBody (c : Condition) : String :=
  c.key ++ c.operator.code.toString ++ c.operand.render

def render (c : Condition) : String :=
  if c.isOr then orMark.toString ++ c.renderBody else c.renderBody

end Condition

end RecordQuery
