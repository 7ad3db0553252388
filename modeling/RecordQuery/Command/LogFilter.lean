/-
# RecordQuery.Command.LogFilter -- which log lines are shown

A filter is written as directives between commas, such as `debug` or
`searchq::record=trace`, and after a slash a regular expression for the text of the
lines.  Of the directives whose target begins the line's, the longest decides which
levels are shown.  What makes no sense in a filter is left out with a warning.
-/
import RecordQuery.Command.Log
import RecordQuery.Regex.Reader

namespace RecordQuery

set_option autoImplicit false

/-- Shows the lines whose target begins with this one up to a verbosity; zero shows none.  A
directive without a target is for all lines. -/
structure LogDirective where
  target : Option (List Char)
  verbosity : Nat
deriving DecidableEq

namespace LogDirective

/-- The verbosity called by a name, in upper or lower case. -/
def verbosity? (name : List Char) : Option Nat :=
  match String.ofList (name.map Char.toLower) with
  | "off" => some 0
  | "error" => some LogLevel.error.verbosity
  | "warn" => some LogLevel.warn.verbosity
  | "info" => some LogLevel.info.verbosity
  | "debug" => some LogLevel.debug.verbosity
  | "trace" => some LogLevel.trace.verbosity
  | _ => none

/-- The directive is for lines of this target. -/
def concerns (d : LogDirective) (line : LogLine) : Bool :=
  d.target.all fun t => t.isPrefixOf line.target.toList

def targetLength (d : LogDirective) : Nat := (d.target.getD []).length

/-- One directive: a level for every target, a target at every level, or both.  Text that is no
directive is given back as far as it is to blame. -/
def ofText (t : List Char) : Except (List Char) LogDirective :=
  let everything := LogLevel.trace.verbosity
  match t.splitOn '=' with
  | [only] =>
    match verbosity? only with
    | some v => .ok ⟨none, v⟩
    | none => .ok ⟨some only, everything⟩
  | [target, level] =>
    let level := Text.trim level
    match level, verbosity? level with
    | [], _ => .ok ⟨some target, everything⟩
    | _, some v => .ok ⟨some target, v⟩
    | _, none => .error level
  | _ => .error t

end LogDirective

/-- Why part of a filter is left out. -/
inductive LogFilterFault where
  | tooManySlashes (filter : String)
  | directive (t : List Char)
  | expression (pattern : List Char) (refusal : Regex.Refusal)
deriving DecidableEq

namespace LogFilterFault

def message : LogFilterFault → String
  | .tooManySlashes filter => s!"invalid logging spec '{filter}' (too many '/'s)"
  | .directive t => s!"invalid logging spec '{String.ofList t}'"
  | .expression pattern refusal => s!"invalid regex filter - {refusal.message pattern}"

/-- The line that warns of the fault. -/
def warning (fault : LogFilterFault) : String := s!"warning: {fault.message}, ignoring it\n"

end LogFilterFault

/-- Directives with different targets, and an expression that has to occur in the text. -/
structure LogFilter where
  directives : List LogDirective
  pattern : Option Regex
deriving DecidableEq

namespace LogFilter

/-- Adds a directive; one with the same target gives its place to it. -/
def insert (ds : List LogDirective) (d : LogDirective) : List LogDirective :=
  if ds.any fun other => other.target = d.target then
    ds.map fun other => if other.target = d.target then d else other
  else ds ++ [d]

/-- The directives between commas, or what stands in the place of one. -/
def readDirectives (t : List Char) : List (Except (List Char) LogDirective) :=
  (((t.splitOn ',').map Text.trim).filter (· ≠ [])).map LogDirective.ofText

def ofDirectives (t : List Char) : List LogDirective :=
  ((readDirectives t).filterMap Except.toOption).foldl insert []

def directiveFaults (t : List Char) : List LogFilterFault :=
  (readDirectives t).filterMap fun
    | .ok _ => none
    | .error blamed => some (.directive blamed)

/-- The filter and what was left out of it. -/
def ofText (text : String) : LogFilter × List LogFilterFault :=
  match text.toList.splitOn '/' with
  | [directives] => (⟨ofDirectives directives, none⟩, directiveFaults directives)
  | [directives, pattern] =>
    let faults := directiveFaults directives
    match Regex.read pattern with
    | .ok r => (⟨ofDirectives directives, some r⟩, faults)
    | .error refusal => (⟨ofDirectives directives, none⟩, faults ++ [.expression pattern refusal])
  | _ => (⟨[], none⟩, [.tooManySlashes text])

/-- The directives in force.  With none at all, only errors are shown. -/
def inForce (filter : LogFilter) : List LogDirective :=
  if filter.directives = [] then [⟨none, LogLevel.error.verbosity⟩] else filter.directives

/-- The directive that decides about a line: the longest target wins, and of two as long the later
directive. -/
def deciding? (filter : LogFilter) (line : LogLine) : Option LogDirective :=
  let concerned := filter.inForce.filter fun d => d.concerns line
  (concerned.mergeSort fun a b => a.targetLength ≤ b.targetLength).getLast?

def shows (filter : LogFilter) (line : LogLine) : Bool :=
  (filter.deciding? line).any (fun d => line.level.verbosity ≤ d.verbosity) &&
    filter.pattern.all fun r => r.occursIn line.text

/-- The text of the lines that are shown. -/
def render (filter : LogFilter) (lines : List LogLine) : String :=
  "".intercalate ((lines.filter filter.shows).map LogLine.render)

end LogFilter

end RecordQuery
