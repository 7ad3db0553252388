/-
# RecordQuery.Command.Activity -- the log of a command

What the commands log about a search, a filter and the records, in the order in
which it happens and up to the point where an error ends it.  The log follows from
the arguments alone, and the commands' answers do not depend on it.
-/
import RecordQuery.Command.Log
import RecordQuery.Command.Report

namespace RecordQuery

set_option autoImplicit false

namespace Activity

def decimal (n : Nat) : String := Text.ofInt n

/-- The conditions read before the first fault, each with its segment of the text. -/
def readSegments (text : String) : List String → List (String × Condition)
  | [] => []
  | segment :: rest =>
    match Query.parseSegment text segment with
    | .ok c => (segment, c) :: readSegments text rest
    | .error _ => []

def fragmentLine (segment : String) (c : Condition) : LogLine :=
  ⟨.trace, "search_criteria::criterion",
    s!"parsed fragment {Text.quoted segment} as {c.operator.name} on '{c.key}'"⟩

/-- The log of reading a query. -/
def ofParse (text : String) : List LogLine :=
  let fragments := (readSegments text (Query.segments text)).map fun (s, c) => fragmentLine s c
  match Query.parse text with
  | .error _ => fragments
  | .ok q =>
    fragments ++ [⟨.debug, "search_criteria::sequence",
      s!"parsed {decimal q.size} criteria from {Text.quoted text}"⟩]

/-- The log of making a query into a filter. -/
def ofCompile (text : String) : List LogLine :=
  match Command.compile text with
  | .error _ => []
  | .ok f =>
    [⟨.debug, "search_criteria::filter",
      s!"compiled filter with {decimal f.steps.length} predicates"⟩]

/-- The keys that the tests ask a record for, in order, up to the first error. -/
def keysRead (fields : Lookup) : List Test → List String
  | [] => []
  | t :: rest =>
    match t.judge (fields t.key) with
    | .ok _ => t.key :: keysRead fields rest
    | .error _ => [t.key]

/-- The line for a text in a date field that is no date. -/
def dateLine? (options : FieldOptions) (record : JsonObject) (key : String) : Option LogLine :=
  match options.dateFields.contains key, record.get? key with
  | true, some (.text s) =>
    match Rfc3339.read s.toList with
    | .ok _ => none
    | .error fault =>
      some ⟨.debug, "searchq::record",
        s!"date field value {Text.quoted s} is not RFC 3339: {fault.message}"⟩
  | _, _ => none

/-- The log of judging records, up to the first that is an error. -/
def ofRecords (f : Filter) (options : FieldOptions) : List JsonObject → List LogLine
  | [] => []
  | r :: rest =>
    let fields := r.lookup options
    let lines := (keysRead fields f.tests).filterMap (dateLine? options r)
    match f.accepts fields with
    | .ok _ => lines ++ ofRecords f options rest
    | .error _ => lines

/-- The log of selecting records. -/
def ofSelect (f : Filter) (options : FieldOptions) (records : List JsonObject) : List LogLine :=
  let lines := ofRecords f options records
  match f.select (fun r => r.lookup options) records with
  | .error _ => lines
  | .ok hits =>
    let kept := decimal hits.length
    let total := decimal records.length
    lines ++ [
      ⟨.debug, "search_criteria::filter", s!"filter kept {kept} of {total} records"⟩,
      ⟨.info, "searchq::commands", s!"{kept} of {total} records matched"⟩]

/-- The log of `Command.check`. -/
def ofCheck (search : String) : List LogLine := ofParse search

/-- The log of `Command.filter`. -/
def ofFilter (search input : String) (options : FieldOptions) : List LogLine :=
  ofParse search ++ ofCompile search ++
    match Command.compile search, Record.readAll input with
    | .ok f, .ok records => ofSelect f options records
    | _, _ => []

end Activity

end RecordQuery
