/-
# RecordQuery.Command.Report -- what the two commands answer

`Command.check` writes a query in its canonical form or as a JSON list of its
conditions; `Command.filter` writes the records of a JSON array that a query
accepts.  A refused query, or a record it cannot be asked of, is reported in one
line.  Input that holds no records at all is an error of its own.
-/
import RecordQuery.Record

namespace RecordQuery

set_option autoImplicit false

inductive Outcome where
  | success
  | noMatch
  | invalid
deriving DecidableEq

namespace Outcome

/-- The exit code. -/
def code : Outcome → Nat
  | .success => 0
  | .noMatch => 1
  | .invalid => 2

end Outcome

/-- An outcome with the text for each of the two output streams. -/
structure Report where
  outcome : Outcome
  out : String
  errors : String
deriving DecidableEq

namespace Report

def errorLine (message : String) : String := s!"Error: {message}\n"

/-- Nothing but an error line. -/
def refuse (message : String) : Report := ⟨.invalid, "", errorLine message⟩

end Report

namespace Operand

def toJson : Operand → JsonValue
  | .one v => .text v.render
  | .many vs => .array (vs.map fun v => .text v.render)

end Operand

namespace Condition

/-- The parts of a condition by name. -/
def describe (c : Condition) : JsonValue :=
  .object [
    ("joiner", match c.connective with
      | some connective => .text connective.name
      | none => .null),
    ("key", .text c.key),
    ("operation", .text c.operator.name),
    ("code", .text c.operator.code.toString),
    ("value", c.operand.toJson)]

end Condition

namespace Command

/-- The canonical text of a query, or its conditions in JSON. -/
def check (search : String) (asJson : Bool) : Report :=
  match Query.parse search with
  | .error e => .refuse e.message
  | .ok q =>
    let text := if asJson then (JsonValue.array (q.conditions.map Condition.describe)).pretty
      else q.render
    ⟨.success, text ++ "\n", ""⟩

/-- The filter of a query given as text. -/
def compile (search : String) : Except QueryError Filter := do
  let q ← Query.parse search
  Filter.ofQuery q

/-- The JSON text of records. -/
def renderRecords (records : List JsonObject) : String :=
  (JsonValue.array (records.map .object)).pretty ++ "\n"

/-- The records of the input that the query accepts.  The query is looked at before the input. -/
def filter (search input : String) (options : FieldOptions) : Except InputError Report :=
  match compile search with
  | .error e => .ok (.refuse e.message)
  | .ok f =>
    match Record.readAll input with
    | .error e => .error e
    | .ok records =>
      match f.select (fun r => r.lookup options) records with
      | .error e => .ok (.refuse e.message)
      | .ok hits =>
        .ok ⟨if hits.isEmpty then .noMatch else .success, renderRecords hits, ""⟩

end Command

end RecordQuery
