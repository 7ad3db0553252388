/-
# RecordQuery.Regex.Bracket -- sets of characters in square brackets

Between brackets stand characters, ranges, escapes, named ASCII sets and further
brackets, and what stands side by side is united.  `&&`, `--` and `~~` take the
intersection, the difference and the symmetric difference of what stands to their
left and right; none binds closer than another.  `Reading.bracket` reads a set with
all the brackets inside it.
-/
import RecordQuery.Regex.Escape
import RecordQuery.Regex.Nesting

namespace RecordQuery.Regex

set_option autoImplicit false

inductive SetOperation where
  | inter
  | diff
  | symmDiff
deriving DecidableEq

namespace SetOperation

def apply : SetOperation → CharSet → CharSet → CharSet
  | .inter, a, b => a.inter b
  | .diff, a, b => a.diff b
  | .symmDiff, a, b => a.symmDiff b

/-- The operation whose sign stands in front. -/
def ofSign? : List Char → Option SetOperation
  | '&' :: '&' :: _ => some .inter
  | '-' :: '-' :: _ => some .diff
  | '~' :: '~' :: _ => some .symmDiff
  | _ => none

end SetOperation

/-- An operation whose right side is being read, with its left side. -/
structure WaitingOperation where
  operation : SetOperation
  left : CharSet
  leftNesting : Nesting

/-- An open bracket: the operation that waits for its right side, the place where the parts read
last begin, those parts, the last first, and the union of their sets. -/
structure OpenBracket where
  opening : Span
  negated : Bool
  waiting : Option WaitingOperation
  begin : Nat
  parts : List Nesting
  united : CharSet

namespace OpenBracket

/-- Adds a part with its set. -/
def add (b : OpenBracket) (part : Nesting × CharSet) : OpenBracket :=
  { b with parts := part.1 :: b.parts, united := part.2.union b.united }

/-- The set so far.  Without regard to case both sides of an operation are completed first. -/
def settled (b : OpenBracket) (caseless : Bool) : CharSet :=
  match b.waiting with
  | none => b.united
  | some w =>
    if caseless then w.operation.apply w.left.anyCase b.united.anyCase
    else w.operation.apply w.left b.united

/-- How the parts so far are nested. -/
def nesting (b : OpenBracket) : Nesting :=
  let parts := b.parts.reverse
  let right := Nesting.sideBySide (Nesting.stretch ⟨b.begin, b.begin⟩ parts) parts
  match b.waiting with
  | none => right
  | some w => .node ⟨w.leftNesting.span.start, right.span.stop⟩ [w.leftNesting, right]

/-- What has been read becomes the left side of an operation, whose right side begins at a place. -/
def await (b : OpenBracket) (operation : SetOperation) (caseless : Bool) (place : Nat) :
    OpenBracket :=
  { b with
    waiting := some ⟨operation, b.settled caseless, b.nesting⟩
    begin := place
    parts := []
    united := .none }

/-- The set of a bracket that is closed. -/
def closed (b : OpenBracket) (caseless : Bool) : CharSet :=
  let s := b.settled caseless
  .complIf b.negated (if caseless then s.anyCase else s)

end OpenBracket

/-- A named ASCII set at the beginning of a text, with its name and whether its complement is
meant: a name between `[:` and `:]`. -/
def namedSet? : List Char → Option (CharSet × Bool × Nat)
  | '[' :: ':' :: rest =>
    let negated := rest.head? == some '^'
    let name := (if negated then rest.drop 1 else rest).takeWhile (· != ':')
    let front := if negated then 3 else 2
    if [':', ']'].isPrefixOf (rest.drop (front - 2 + name.length)) then
      (CharSet.ofName? (String.ofList name)).map fun s => (s, negated, front + name.length + 2)
    else none
  | _ => none

namespace Reading

/-- The set of one character. -/
def single (c : Char) (asByte : Bool) (span : Span) : Reading CharSet := do
  unless (← has .unicode) || c.toNat < 0x80 do
    failLater (if asByte then .invalidBytes else .unicodeNotAllowed) span
  return .single c

/-- Literal characters of a bracket at some places. -/
def literals (c : Char) (places : List Nat) : List (Nesting × CharSet) :=
  places.map fun p => (.leaf ⟨p, p + 1⟩, .single c)

/-- The places of literal hyphens at the beginning of a bracket. -/
def leadingHyphens (start : Nat) : Nat → Reading (List Nat)
  | 0 => return []
  | fuel + 1 => do
    if (← peek) = some '-' then
      let here ← place
      next
      if (← peek).isNone then fail .unclosedClass start start
      return here :: (← leadingHyphens start fuel)
    else return []

/-- The beginning of a bracket: its complement sign, and hyphens or a closing bracket that mean
themselves. -/
def openBracket : Reading OpenBracket := do
  let start ← place
  next
  let negated := (← peek) == some '^'
  if negated then next
  if (← peek).isNone then fail .unclosedClass start (← place)
  let begin ← place
  let hyphens ← leadingHyphens start (← get).rest.length
  let bracketPlace ← place
  let bracketFirst := hyphens.isEmpty && (← peek) == some ']'
  if bracketFirst then
    next
    if (← peek).isNone then fail .unclosedClass start (← place)
  let opened : OpenBracket := ⟨⟨start, ← place⟩, negated, none, begin, [], .none⟩
  let first := literals '-' hyphens ++ literals ']' (if bracketFirst then [bracketPlace] else [])
  return first.foldl OpenBracket.add opened

/-- One character or escape in a bracket, with the place behind it. -/
def bracketPart : Reading (Part × Span) := do
  let start ← place
  match ← peek with
  | some '\\' => do
    let part ← escape
    return (part, ⟨start, ← place⟩)
  | some c => do
    skip 1
    return (.character c false, ⟨start, start + 1⟩)
  | none => fail .unclosedClass start start

/-- The end of a range has to be one character. -/
def rangeEnd (part : Part × Span) : Reading Char :=
  match part.1 with
  | .character c _ => return c
  | _ => fail .rangeOfClasses part.2.start part.2.stop

/-- The set of a part that stands on its own. -/
def partSet (part : Part × Span) : Reading CharSet :=
  match part.1 with
  | .character c asByte => single c asByte part.2
  | .set s => return s
  | .look _ => fail .unsuitableInClass part.2.start part.2.stop

/-- A part that stands on its own, with its set. -/
def partAlone (part : Part × Span) : Reading (Nesting × CharSet) := do
  return (.leaf part.2, ← partSet part)

/-- A range, or a part on its own.  A hyphen before a closing bracket or a second hyphen begins no
range. -/
def rangeOrPart (opening : Span) : Reading (Nesting × CharSet) := do
  let left ← bracketPart
  skipBlanks
  match ← peek with
  | none => fail .unclosedClass opening.start opening.stop
  | some '-' =>
    let after ← peekAfterNext
    if after = some ']' ∨ after = some '-' then partAlone left
    else
      next
      if (← peek).isNone then fail .unclosedClass opening.start opening.stop
      let right ← bracketPart
      let first ← rangeEnd left
      let last ← rangeEnd right
      let span : Span := ⟨left.2.start, right.2.stop⟩
      if last < first then fail .rangeBackwards span.start span.stop
      let _ ← partSet left
      let _ ← partSet right
      return (.leaf span, .ofRanges [(first.toNat, last.toNat)])
  | some _ => partAlone left

/-- The set of a bracket whose end has just been read. -/
def closeBracket (b : OpenBracket) : Reading (Nesting × CharSet) := do
  let unicode ← has .unicode
  let span : Span := ⟨b.opening.start, ← place⟩
  if b.negated && !unicode then failLater .invalidBytes span
  let s := b.closed (← has .caseless)
  return (.node span [b.nesting], if unicode then s else s.inter .ascii)

/-- A named ASCII set of so many characters. -/
def namedSet (s : CharSet) (negated : Bool) (length : Nat) : Reading (Nesting × CharSet) := do
  let start ← place
  skip length
  let span : Span := ⟨start, ← place⟩
  if negated && !(← has .unicode) then failLater .invalidBytes span
  return (.leaf span, .complIf negated (if ← has .caseless then s.anyCase else s))

/-- The rest of the innermost bracket `b`, which stands within the others. -/
def bracketRest : Nat → OpenBracket → List OpenBracket → Reading (Nesting × CharSet)
  | 0, b, _ => fail .unclosedClass b.opening.start b.opening.stop
  | fuel + 1, b, outer => do
    skipBlanks
    let text := (← get).rest
    match SetOperation.ofSign? text, text with
    | some operation, _ => do
      skip 2
      bracketRest fuel (b.await operation (← has .caseless) (← place)) outer
    | none, [] => fail .unclosedClass b.opening.start b.opening.stop
    | none, '[' :: _ =>
      match namedSet? text with
      | some (s, negated, length) => do
        bracketRest fuel (b.add (← namedSet s negated length)) outer
      | none => do
        bracketRest fuel (← openBracket) (b :: outer)
    | none, ']' :: _ => do
      skip 1
      let s ← closeBracket b
      match outer with
      | [] => return s
      | parent :: rest => bracketRest fuel (parent.add s) rest
    | none, _ :: _ => do
      bracketRest fuel (b.add (← rangeOrPart b.opening)) outer

/-- A set in brackets, from the opening bracket on. -/
def bracket : Reading (Nesting × CharSet) := do
  let b ← openBracket
  bracketRest ((← get).rest.length + 1) b []

end Reading

end RecordQuery.Regex
