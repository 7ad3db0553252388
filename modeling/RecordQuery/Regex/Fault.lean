/-
# RecordQuery.Regex.Fault -- what is wrong with the text of a regular expression

A fault is a problem and the stretch of the pattern that it concerns, counted in
characters.  `Fault.render` shows the pattern with carets below that stretch and the
problem in words; the lines of a pattern of several lines are numbered.
-/
import RecordQuery.Text.Decimal

namespace RecordQuery.Regex

set_option autoImplicit false

/-- The characters of a pattern from one place up to another. -/
structure Span where
  start : Nat
  stop : Nat
deriving DecidableEq

inductive Problem where
  | backreference
  | emptyGroupName
  | emptyHexadecimal
  | endInEscape
  | endInFlags
  | endInGroupName
  | endInWordEdge
  | flagDangling
  | flagNegatedTwice
  | flagTwice
  | flagUnknown
  | groupNameCharacter
  | groupNameTwice
  | hexadecimalDigit
  | invalidBytes
  | lookAround
  | missingCount
  | nothingToRepeat
  | nestedTooDeep
  | numberTooLarge
  | propertyUnknown
  | propertyValueUnknown
  | rangeBackwards
  | rangeOfClasses
  | repetitionBackwards
  | unclosedClass
  | unclosedCount
  | unclosedGroup
  | unclosedWordEdge
  | unicodeNotAllowed
  | unknownEscape
  | unknownWordEdge
  | unopenedGroup
  | unsuitableInClass
  | unsuitableProperty
  | noCharacter
deriving DecidableEq

/-- Groups, brackets and what else has parts may not be nested deeper than this. -/
def nestingLimit : Nat := 250

namespace Problem

def message : Problem → String
  | .backreference => "backreferences are not supported"
  | .emptyGroupName => "empty capture group name"
  | .emptyHexadecimal => "hexadecimal literal empty"
  | .endInEscape => "incomplete escape sequence, reached end of pattern prematurely"
  | .endInFlags => "expected flag but got end of regex"
  | .endInGroupName => "unclosed capture group name"
  | .endInWordEdge =>
    "found either the beginning of a special word boundary or a bounded repetition on a \\b " ++
      "with an opening brace, but no closing brace"
  | .flagDangling => "dangling flag negation operator"
  | .flagNegatedTwice => "flag negation operator repeated"
  | .flagTwice => "duplicate flag"
  | .flagUnknown => "unrecognized flag"
  | .groupNameCharacter => "invalid capture group character"
  | .groupNameTwice => "duplicate capture group name"
  | .hexadecimalDigit => "invalid hexadecimal digit"
  | .invalidBytes => "pattern can match invalid UTF-8"
  | .lookAround => "look-around, including look-ahead and look-behind, is not supported"
  | .missingCount => "repetition quantifier expects a valid decimal"
  | .nothingToRepeat => "repetition operator missing expression"
  | .nestedTooDeep =>
    s!"exceed the maximum number of nested parentheses/brackets ({Text.ofInt nestingLimit})"
  | .numberTooLarge => "decimal literal invalid"
  | .propertyUnknown => "Unicode property not found"
  | .propertyValueUnknown => "Unicode property value not found"
  | .rangeBackwards => "invalid character class range, the start must be <= the end"
  | .rangeOfClasses => "invalid range boundary, must be a literal"
  | .repetitionBackwards => "invalid repetition count range, the start must be <= the end"
  | .unclosedClass => "unclosed character class"
  | .unclosedCount => "unclosed counted repetition"
  | .unclosedGroup => "unclosed group"
  | .unclosedWordEdge =>
    "special word boundary assertion is either unclosed or contains an invalid character"
  | .unicodeNotAllowed => "Unicode not allowed here"
  | .unknownEscape => "unrecognized escape sequence"
  | .unknownWordEdge =>
    "unrecognized special word boundary assertion, valid choices are: start, end, start-half " ++
      "or end-half"
  | .unopenedGroup => "unopened group"
  | .unsuitableInClass => "invalid escape sequence found in character class"
  | .unsuitableProperty => "invalid Unicode character class"
  | .noCharacter => "hexadecimal literal is not a Unicode scalar value"

end Problem

/-- A problem, where it is, and where what it clashes with is. -/
structure Fault where
  problem : Problem
  span : Span
  other : Option Span
deriving DecidableEq

namespace Fault

/-- The line of a place and its column there, both from zero. -/
def lineAndColumn (pattern : List Char) (place : Nat) : Nat × Nat :=
  let front := pattern.take place
  (front.count '\n', (front.reverse.takeWhile (· != '\n')).length)

/-- The lines without their ends.  A line feed at the very end begins no line to be shown. -/
def shownLines (pattern : List Char) : List (List Char) :=
  let pieces := pattern.splitOn '\n'
  let ended := pieces.dropLast.map fun t => if t.getLast? = some '\r' then t.dropLast else t
  ended ++ (pieces.getLast?.toList.filter (· ≠ []))

/-- The spans in the order of their beginnings. -/
def spans (fault : Fault) : List Span :=
  match fault.other with
  | none => [fault.span]
  | some other => if fault.span.start ≤ other.start then [fault.span, other] else [other, fault.span]

/-- Carets below columns from the first up to the second of each pair, and at least one each. -/
def carets (column : Nat) : List (Nat × Nat) → List Char
  | [] => []
  | (start, stop) :: rest =>
    let length := max 1 (stop - start)
    List.replicate (start - column) ' ' ++ List.replicate length '^' ++
      carets (max column start + length) rest

/-- The columns of the spans that lie on one line. -/
def columnsOn (pattern : List Char) (fault : Fault) (line : Nat) : List (Nat × Nat) :=
  fault.spans.filterMap fun s =>
    let (startLine, start) := lineAndColumn pattern s.start
    let (stopLine, stop) := lineAndColumn pattern s.stop
    if startLine = line ∧ stopLine = line then some (start, stop) else none

def decimal (n : Nat) : String := Text.ofInt n

/-- What stands before a line: its number if there are several, else an indentation. -/
def margin (lineCount line : Nat) : String :=
  if lineCount ≤ 1 then "    "
  else
    let width := (decimal lineCount).length
    let number := decimal (line + 1)
    String.ofList (List.replicate (width - number.length) ' ') ++ number ++ ": "

/-- What stands before the carets of a line. -/
def caretMargin (lineCount : Nat) : String :=
  if lineCount ≤ 1 then "    "
  else String.ofList (List.replicate (2 + (decimal lineCount).length) ' ')

/-- The lines of the pattern, each with the carets that belong below it. -/
def picture (pattern : List Char) (fault : Fault) : String :=
  let lineCount := (pattern.splitOn '\n').length
  "".intercalate ((shownLines pattern).zipIdx.map fun (text, line) =>
    let shown := margin lineCount line ++ String.ofList text ++ "\n"
    match columnsOn pattern fault line with
    | [] => shown
    | columns => shown ++ caretMargin lineCount ++ String.ofList (carets 0 columns) ++ "\n")

/-- Where the spans over several lines begin and end. -/
def longSpans (pattern : List Char) (fault : Fault) : String :=
  let notes := fault.spans.filterMap fun s =>
    let (startLine, start) := lineAndColumn pattern s.start
    let (stopLine, stop) := lineAndColumn pattern s.stop
    if startLine = stopLine then none
    else some (s!"on line {decimal (startLine + 1)} (column {decimal (start + 1)}) " ++
      s!"through line {decimal (stopLine + 1)} (column {decimal stop})")
  if notes = [] then "" else "\n".intercalate notes ++ "\n"

def render (pattern : List Char) (fault : Fault) : String :=
  let problem := s!"error: {fault.problem.message}"
  if pattern.contains '\n' then
    let divider := String.ofList (List.replicate 79 '~') ++ "\n"
    "regex parse error:\n" ++ divider ++ picture pattern fault ++ divider ++
      longSpans pattern fault ++ problem
  else
    "regex parse error:\n" ++ picture pattern fault ++ problem

end Fault

end RecordQuery.Regex
