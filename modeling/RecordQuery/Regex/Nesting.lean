/-
# RecordQuery.Regex.Nesting -- how the parts of a pattern are nested

A group, a repetition, a set in brackets and whatever else has parts is one level
deeper than what it stands in.  `Nesting.tooDeep?` finds the first part that lies
deeper than there is room for; it goes no deeper than that itself.
-/
import RecordQuery.Regex.Fault

namespace RecordQuery.Regex

set_option autoImplicit false

/-- A part of a pattern: where it stands and the parts that it has.  A leaf takes no level. -/
inductive Nesting where
  | leaf (span : Span)
  | node (span : Span) (parts : List Nesting)

namespace Nesting

def span : Nesting → Span
  | .leaf s => s
  | .node s _ => s

/-- Several parts side by side have a level of their own; one part alone has not. -/
def sideBySide (span : Span) : List Nesting → Nesting
  | [] => .leaf span
  | [part] => part
  | parts => .node span parts

/-- The stretch from the first part to the last, or another if there are no parts. -/
def stretch (other : Span) (parts : List Nesting) : Span :=
  match parts.head?, parts.getLast? with
  | some first, some last => ⟨first.span.start, last.span.stop⟩
  | _, _ => other

mutual

/-- The first part, from the outside in and from left to right, for which no room is left. -/
def tooDeep? (room : Nat) : Nesting → Option Span
  | .leaf _ => none
  | .node s parts =>
    match room with
    | 0 => some s
    | room + 1 => tooDeepAmong? room parts

/-- The first such part in some parts side by side. -/
def tooDeepAmong? (room : Nat) : List Nesting → Option Span
  | [] => none
  | part :: rest =>
    match tooDeep? room part with
    | some s => some s
    | none => tooDeepAmong? room rest

end

end Nesting

end RecordQuery.Regex
