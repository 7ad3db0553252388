/-
# RecordQuery.Field -- what a record holds under a key

A field is text, a number, an instant, a flag or null; its kind is which of these
it is.  Two fields of one kind compare in the order of that kind.
-/
import RecordQuery.Number.Basic
import RecordQuery.Instant.Basic

namespace RecordQuery

set_option autoImplicit false

inductive FieldKind where
  | text
  | number
  | instant
  | flag
  | null
deriving DecidableEq

namespace FieldKind

def name : FieldKind → String
  | .text => "text"
  | .number => "number"
  | .instant => "timestamp"
  | .flag => "boolean"
  | .null => "null"

end FieldKind

inductive Field where
  | text (value : String)
  | number (value : Number)
  | instant (value : Instant)
  | flag (value : Bool)
  | null
deriving DecidableEq

namespace Field

def kind : Field → FieldKind
  | .text _ => .text
  | .number _ => .number
  | .instant _ => .instant
  | .flag _ => .flag
  | .null => .null

def isNull : Field → Bool
  | .null => true
  | _ => false

def text? : Field → Option String
  | .text s => some s
  | _ => none

def number? : Field → Option Number
  | .number n => some n
  | _ => none

def instant? : Field → Option Instant
  | .instant t => some t
  | _ => none

def flag? : Field → Option Bool
  | .flag b => some b
  | _ => none

/-- How two fields of one kind compare: texts by code points, false before true.  Nothing else
compares, and neither do null fields or NaN. -/
def order? : Field → Field → Option Ordering
  | .text a, .text b => some (compare a b)
  | .number a, .number b => a.order? b
  | .instant a, .instant b => some (compare a b)
  | .flag a, .flag b => some (compare a b)
  | _, _ => none

/-- Fields of one kind compare, unless they are null or one of them is NaN. -/
theorem order?_eq_none_iff {a b : Field} (present : a ≠ .null) (kinds : a.kind = b.kind) :
    a.order? b = none ↔ a = .number (.binary .nan) ∨ b = .number (.binary .nan) := by
  cases a <;> cases b <;> simp_all [kind, order?, Number.order?_eq_none_iff]

end Field

end RecordQuery
