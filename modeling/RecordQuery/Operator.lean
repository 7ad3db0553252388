/-
# RecordQuery.Operator -- the seven operators and their one-character codes

Four operators are relations decided by comparing a field with a literal; the
other three ask whether a field is null, contains a pattern, or is one of a
list.  Every operator has a one-character code, used in query text, and a name,
used in messages.  `ofCode?_eq_some_iff` says the codes are distinct and that no
other character is a code.
-/

namespace RecordQuery

set_option autoImplicit false

/-- A relation that the comparison of two values decides. -/
inductive Relation where
  | equal
  | distinct
  | atMost
  | atLeast
deriving DecidableEq

namespace Relation

/-- Whether the relation holds of a left and a right value that compare so. -/
def holds : Relation → Ordering → Bool
  | .equal, o => o == .eq
  | .distinct, o => o != .eq
  | .atMost, o => o != .gt
  | .atLeast, o => o != .lt

/-- Only an ordered type has the relation. -/
def needsOrder : Relation → Bool
  | .equal | .distinct => false
  | .atMost | .atLeast => true

end Relation

/-- What a condition asks of its field. -/
inductive Operator where
  | compare (relation : Relation)
  | isNull
  | like
  | oneOf
deriving DecidableEq

namespace Operator

/-- Every operator once, in the order of their codes in messages and tables. -/
def all : List Operator :=
  [.compare .equal, .compare .distinct, .isNull, .like, .compare .atMost, .compare .atLeast,
    .oneOf]

def code : Operator → Char
  | .compare .equal => ':'
  | .compare .distinct => '!'
  | .isNull => '@'
  | .like => '~'
  | .compare .atMost => '<'
  | .compare .atLeast => '>'
  | .oneOf => '_'

def ofCode? : Char → Option Operator
  | ':' => some (.compare .equal)
  | '!' => some (.compare .distinct)
  | '@' => some .isNull
  | '~' => some .like
  | '<' => some (.compare .atMost)
  | '>' => some (.compare .atLeast)
  | '_' => some .oneOf
  | _ => none

def name : Operator → String
  | .compare .equal => "equals"
  | .compare .distinct => "not_equals"
  | .isNull => "is_null"
  | .like => "like"
  | .compare .atMost => "less_than_or_equal"
  | .compare .atLeast => "greater_than_or_equal"
  | .oneOf => "in"

/-- An operator is called by its name or by its code. -/
def ofText? (text : String) : Option Operator :=
  all.find? fun op => text == op.name || text == op.code.toString

/-- The operator suits ordered or textual fields only. -/
def needsOrder : Operator → Bool
  | .compare relation => relation.needsOrder
  | .like => true
  | .isNull | .oneOf => false

/-- The verdict of the operator on two values that compare so, if comparing decides it. -/
def holds? : Operator → Ordering → Option Bool
  | .compare relation, o => some (relation.holds o)
  | .isNull, _ | .like, _ | .oneOf, _ => none

@[simp] theorem ofCode?_code (op : Operator) : ofCode? op.code = some op := by
  rcases op with (_ | _ | _ | _) | _ | _ | _ <;> rfl

theorem ofCode?_eq_some_iff {c : Char} {op : Operator} : ofCode? c = some op ↔ c = op.code := by
  constructor
  · intro found
    unfold ofCode? at found
    split at found <;> cases found <;> rfl
  · rintro rfl
    exact ofCode?_code op

end Operator

end RecordQuery
