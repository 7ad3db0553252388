/-
# RecordQuery.Query -- conditions in order, and their text

A query is a list of conditions, read and evaluated from left to right.  Its text
is the conditions' fragments between semicolons; the first condition's connective
says nothing and is neither written nor kept when read.

The builders add one condition at the end.
-/
import RecordQuery.Condition.Fragment

namespace RecordQuery

set_option autoImplicit false

structure Query where
  conditions : List Condition
deriving DecidableEq

namespace Query

/-- The name under which a query travels as a parameter. -/
def parameterName : String := "search"

/-- The separator of fragments. -/
def separator : Char := ';'

def empty : Query := ⟨[]⟩

def size (q : Query) : Nat := q.conditions.length

/-! ## Builders -/

/-- Adds a condition with its own connective. -/
def push (q : Query) (c : Condition) : Query :=
  ⟨q.conditions ++ [c]⟩

/-- Adds a condition with the connective given. -/
def connect (q : Query) (connective : Connective) (c : Condition) : Query :=
  q.push { c with connective := some connective }

/-- Adds a comparison of a field with one literal. -/
def compare (q : Query) (connective : Connective) (relation : Relation) (key : String)
    (value : Literal) : Query :=
  q.push ⟨some connective, key, .compare relation, .one value⟩

/-- Adds a search for a pattern in a field. -/
def like (q : Query) (connective : Connective) (key : String) (value : Literal) : Query :=
  q.push ⟨some connective, key, .like, .one value⟩

/-- Adds a test for null.  Its operand is ignored, but text needs one to be written. -/
def isNull (q : Query) (connective : Connective) (key : String) : Query :=
  q.push ⟨some connective, key, .isNull, .one (.text "null")⟩

/-- Adds a test for membership in a list. -/
def oneOf (q : Query) (connective : Connective) (key : String) (values : List Literal) : Query :=
  q.push ⟨some connective, key, .oneOf, .many values⟩

/-! ## Text -/

/-- The fragments between semicolons, the first one without its mark. -/
def render (q : Query) : String :=
  match q.conditions with
  | [] => ""
  | first :: rest =>
    separator.toString.intercalate (first.renderBody :: rest.map Condition.render)

/-- The segments of a text between semicolons; there is always at least one. -/
def segments (text : String) : List String :=
  (text.toList.splitOn separator).map String.ofList

/-- Reads one segment of a text.  An empty one is a fault of the whole text. -/
def parseSegment (text segment : String) : Except QueryError Condition :=
  if segment = "" then .error (.malformed text .emptySegment) else Condition.parse segment

/-- Clears the connective of the first condition. -/
def clearFirst : List Condition → List Condition
  | [] => []
  | first :: rest => { first with connective := none } :: rest

/-- Reads a query, from left to right up to the first fault. -/
def parse (text : String) : Except QueryError Query := do
  let conditions ← (segments text).mapM (parseSegment text)
  return ⟨clearFirst conditions⟩

end Query

end RecordQuery
