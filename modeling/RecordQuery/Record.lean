/-
# RecordQuery.Record -- JSON objects as records

A record is a JSON object.  `FieldOptions` say which fields are dates and whether a
field that the object lacks is null or unknown; `JsonObject.lookup` is what the
object then holds under a name.  Arrays and objects inside a record have no
comparable form and count as null.
-/
import RecordQuery.Filter
import RecordQuery.Instant.Rfc3339
import RecordQuery.Json.Printer
import RecordQuery.Json.Reader

namespace RecordQuery

set_option autoImplicit false

structure FieldOptions where
  dateFields : List String
  missingIsNull : Bool

namespace JsonValue

/-- A number in a date field: an instant if it is whole and has 64 bits and a sign. -/
def dateNumber : Number → Field
  | .signed n => .instant ⟨n⟩
  | n => .number n

/-- The text of a date field: an instant if it is written as one. -/
def dateText (text : String) : Field :=
  match Rfc3339.read text.toList with
  | .ok t => .instant t.toInstant
  | .error _ => .text text

/-- The field that a value is, in a date field or another. -/
def toField (isDate : Bool) : JsonValue → Field
  | .null | .array _ | .object _ => .null
  | .bool b => .flag b
  | .number n => if isDate then dateNumber n else .number n
  | .text s => if isDate then dateText s else .text s

end JsonValue

namespace JsonObject

def lookup (options : FieldOptions) (object : JsonObject) : Lookup := fun key =>
  match object.get? key with
  | some v => some (v.toField (options.dateFields.contains key))
  | none => if options.missingIsNull then some .null else none

end JsonObject

/-- Why a text does not hold records. -/
inductive InputError where
  | notJson (cause : JsonError)
  | notArray
  | notObject (index : Nat) (item : JsonValue)

namespace InputError

def message : InputError → String
  | .notJson _ => "input is not valid JSON"
  | .notArray => "input must be a JSON array of objects"
  | .notObject index item => s!"record {Text.ofInt index} is not an object: {item.compact}"

end InputError

namespace Record

/-- The objects of a list of values, of which the first has the index given. -/
def objects (index : Nat) : List JsonValue → Except InputError (List JsonObject)
  | [] => .ok []
  | .object entries :: rest => do
    let more ← objects (index + 1) rest
    return entries :: more
  | item :: _ => .error (.notObject index item)

/-- The records of an input text: the objects of one JSON array. -/
def readAll (input : String) : Except InputError (List JsonObject) :=
  match JsonValue.read input with
  | .error e => .error (.notJson e)
  | .ok (.array items) => objects 0 items
  | .ok _ => .error .notArray

end Record

end RecordQuery
