/-
# RecordQuery.Json.Query -- conditions and queries as JSON strings

In JSON a condition or a query is the string of its text, and any string that reads
as one is accepted.
-/
import RecordQuery.Query
import RecordQuery.Json.Printer
import RecordQuery.Json.Reader

namespace RecordQuery

set_option autoImplicit false

/-- Why a JSON value is no condition or no query. -/
inductive DecodingError where
  | notText (found : JsonValue)
  | refused (cause : QueryError)

namespace JsonValue

/-- What a value is, in the words of an error message. -/
def describe : JsonValue → String
  | .null => "null"
  | .bool b => "boolean `" ++ (JsonValue.bool b).compact ++ "`"
  | .number (.binary x) => "floating point `" ++ x.jsonText ++ "`"
  | .number n => "integer `" ++ n.jsonText ++ "`"
  | .text s => "string " ++ Text.quoted s
  | .array _ => "sequence"
  | .object _ => "map"

end JsonValue

namespace DecodingError

def message : DecodingError → String
  | .notText found => s!"invalid type: {found.describe}, expected a string"
  | .refused cause => cause.message

/-- Reads a JSON string by the reader given. -/
def decodeText {α : Type} (read : String → Except QueryError α) :
    JsonValue → Except DecodingError α
  | .text s =>
    match read s with
    | .ok a => .ok a
    | .error cause => .error (.refused cause)
  | other => .error (.notText other)

end DecodingError

namespace Condition

def ofJson : JsonValue → Except DecodingError Condition :=
  DecodingError.decodeText Condition.parse

def toJson (c : Condition) : JsonValue := .text c.render

end Condition

namespace Query

def ofJson : JsonValue → Except DecodingError Query :=
  DecodingError.decodeText Query.parse

def toJson (q : Query) : JsonValue := .text q.render

end Query

end RecordQuery
