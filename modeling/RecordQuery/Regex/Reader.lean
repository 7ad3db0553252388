/-
# RecordQuery.Regex.Reader -- regular expressions from text

`Regex.read` goes through a pattern once, from left to right.  Groups that are still
open stand on a stack, each with the alternatives finished in it and the parts of the
one being read.  Flags set inside a group hold to its end.  A pattern with a fault is
refused with the first one met, then one that is nested too deep, and last one that
would take too much room when compiled.
-/
import RecordQuery.Regex.Bracket
import RecordQuery.Regex.Size

namespace RecordQuery.Regex

set_option autoImplicit false

open Property (listed)

/-- A part of an expression with its nesting; a part that only sets flags has no expression. -/
structure ReadPart where
  regex : Option Regex
  nesting : Nesting

/-- A group being read: the alternatives finished in it and the parts of the one that begins at
`begin`, in each case the last first. -/
structure OpenGroup where
  opening : Span
  captures : Bool
  flagsOutside : Flags
  inside : Nat
  finished : List (Regex × Nesting)
  begin : Nat
  parts : List ReadPart

namespace OpenGroup

/-- A group whose first alternative begins at the place `inside`. -/
def ofOpening (opening : Span) (captures : Bool) (flagsOutside : Flags) (inside : Nat) : OpenGroup :=
  ⟨opening, captures, flagsOutside, inside, [], inside, []⟩

def add (g : OpenGroup) (r : Regex) (nesting : Nesting) : OpenGroup :=
  { g with parts := ⟨some r, nesting⟩ :: g.parts }

/-- A change of the flags. -/
def addFlags (g : OpenGroup) (span : Span) : OpenGroup :=
  { g with parts := ⟨none, .leaf span⟩ :: g.parts }

/-- The alternative being read, which ends at a place. -/
def current (g : OpenGroup) (stop : Nat) : Regex × Nesting :=
  let parts := g.parts.reverse
  (.concat (parts.filterMap ReadPart.regex),
    .sideBySide ⟨g.begin, stop⟩ (parts.map ReadPart.nesting))

/-- Begins a further alternative behind the bar at a place. -/
def nextAlternative (g : OpenGroup) (bar : Nat) : OpenGroup :=
  { g with finished := g.current bar :: g.finished, begin := bar + 1, parts := [] }

/-- What stands in the group, which ends at a place. -/
def contents (g : OpenGroup) (stop : Nat) : Regex × Nesting :=
  let alternatives := (g.current stop :: g.finished).reverse
  (.anyOf (alternatives.map Prod.fst), .sideBySide ⟨g.inside, stop⟩ (alternatives.map Prod.snd))

end OpenGroup

namespace Reading

/-- The expression of a part under the flags in force. -/
def partRegex (part : Part) (span : Span) : Reading Regex := do
  match part with
  | .set s => return .chars s
  | .look l => return .look l
  | .character c asByte =>
    let unicode ← has .unicode
    if asByte && !unicode && 0x80 ≤ c.toNat then failLater .invalidBytes span
    let s := CharSet.single c
    if ← has .caseless then
      return .chars (if unicode || 0x80 ≤ c.toNat then s.anyCase else s.anyCase.inter .ascii)
    else return .chars s

/-- The set of a dot. -/
def dot : Reading CharSet := do
  let start ← place
  unless ← has .unicode do failLater .invalidBytes ⟨start, start + 1⟩
  if ← has .dotAll then return .all
  else if ← has .crlf then return .notLineEnd
  else return .notLineFeed

def lineStart : Reading Look := do
  if ← has .multiLine then return if ← has .crlf then .lineStartCrlf else .lineStart
  else return .textStart

def lineEnd : Reading Look := do
  if ← has .multiLine then return if ← has .crlf then .lineEndCrlf else .lineEnd
  else return .textEnd

/-- A single character, a dot, an escape or a line edge. -/
def primitive (c : Char) : Reading Regex := do
  let start ← place
  match c with
  | '\\' =>
    let part ← escape
    partRegex part ⟨start, ← place⟩
  | '.' =>
    let s ← dot
    skip 1
    return .chars s
  | '^' =>
    let l ← lineStart
    skip 1
    return .look l
  | '$' =>
    let l ← lineEnd
    skip 1
    return .look l
  | _ =>
    skip 1
    partRegex (.character c false) ⟨start, start + 1⟩

/-! ## Repetition -/

/-- The part that a repetition sign refers to, and the group without it. -/
def repeatable (g : OpenGroup) : Reading (Regex × Nesting × OpenGroup) :=
  match g.parts with
  | ⟨some r, nesting⟩ :: rest => return (r, nesting, { g with parts := rest })
  | _ => do fail .nothingToRepeat (← place) (← place)

/-- Adds a repetition that has just been read to the end. -/
def addRepetition (g : OpenGroup) (r : Regex) (nesting : Nesting) (atLeast : Nat)
    (atMost : Option Nat) : Reading OpenGroup := do
  return g.add (.repeated r atLeast atMost) (.node ⟨nesting.span.start, ← place⟩ [nesting])

/-- A question mark behind a repetition changes which match is preferred, not whether there is
one. -/
def skipPreference : Reading Unit := do
  if (← peek) = some '?' then skip 1

/-- The signs `?`, `*` and `+`. -/
def simpleRepetition (g : OpenGroup) (atLeast : Nat) (atMost : Option Nat) : Reading OpenGroup := do
  let (r, nesting, g) ← repeatable g
  skip 1
  skipPreference
  addRepetition g r nesting atLeast atMost

/-- Numbers above this are not read. -/
def countLimit : Nat := 4294967295

/-- The decimal number of a repetition with the blanks around it, if there are digits. -/
def count : Reading (Except Fault Nat) := do
  skip ((← get).rest.takeWhile Text.isBlank).length
  let start ← place
  let digits ← takeAllSpaced Char.isDigit
  let span : Span := ⟨start, ← place⟩
  let _ ← takeAllSpaced Text.isBlank
  if digits = [] then return .error ⟨.missingCount, span, none⟩
  else
    let n := Nat.ofDigitChars 10 digits 0
    return if n ≤ countLimit then .ok n else .error ⟨.numberTooLarge, span, none⟩

/-- The bounds of a repetition behind its opening brace.  A missing first number is reported only
where no brace is missing. -/
def bounds (opening : Nat) : Reading (Nat × Option Nat) := do
  let first ← count
  match ← peek with
  | none => fail .unclosedCount opening (← place)
  | some ',' =>
    next
    match ← peek with
    | none => fail .unclosedCount opening (← place)
    | some '\x7d' => return (← first, none)
    | some _ =>
      let atLeast ← first
      let atMost ← count
      return (atLeast, some (← atMost))
  | some _ =>
    let n ← first
    return (n, some n)

/-- A repetition with bounds in braces. -/
def countedRepetition (g : OpenGroup) : Reading OpenGroup := do
  let opening ← place
  let (r, nesting, g) ← repeatable g
  next
  if (← peek).isNone then fail .unclosedCount opening (← place)
  let (atLeast, atMost) ← bounds opening
  if (← peek) ≠ some '\x7d' then fail .unclosedCount opening (← place)
  next
  skipPreference
  if atMost.any (· < atLeast) then fail .repetitionBackwards opening (← place)
  addRepetition g r nesting atLeast atMost

/-! ## Groups -/

/-- Marks that count as letters. -/
def letterMark : CharSet := (listed "otheralphabetic").union (.ofText Text.laterAlphabetic)

/-- The letters that names are made of are those of the newest version of the Unicode standard. -/
def isNameStart (c : Char) : Bool :=
  c == '_' || letterMark.contains c ||
    [.lu, .ll, .lt, .lm, .lo, .nl].contains (Text.generalCategory c)

def isNameChar (c : Char) : Bool :=
  isNameStart c || c == '.' || c == '[' || c == ']' ||
    [.nd, .no].contains (Text.generalCategory c)

/-- The characters of a group's name up to its closing bracket. -/
def groupNameChars (first : Bool) : Nat → Reading (List Char)
  | 0 => return []
  | fuel + 1 => do
    match ← peek with
    | none => return []
    | some '>' => return []
    | some c =>
      if (if first then isNameStart c else isNameChar c) then
        skip 1
        return c :: (← groupNameChars false fuel)
      else failHere .groupNameCharacter

/-- Reads the name of a group, which no other group may have. -/
def groupName : Reading Unit := do
  let start ← place
  let name ← groupNameChars true (← get).rest.length
  let span : Span := ⟨start, ← place⟩
  if (← peek).isNone then fail .endInGroupName span.stop span.stop
  skip 1
  if name = [] then fail .emptyGroupName start start
  match (← get).names.lookup name with
  | some other => throw ⟨.groupNameTwice, span, some other⟩
  | none => modify fun s => { s with names := (name, span) :: s.names }

/-- What was met among the flags of a group: a flag, or the sign that negates those behind it. -/
abbrev FlagSign := Option Flag

/-- Reads flags up to a colon or a closing parenthesis, all of them different. -/
def flagSigns (met : List (FlagSign × Span)) : Nat → Reading (List (FlagSign × Span))
  | 0 => return met
  | fuel + 1 => do
    let start ← place
    let span : Span := ⟨start, start + 1⟩
    match ← peek with
    | none => fail .endInFlags start start
    | some ':' | some ')' => return met
    | some c =>
      let sign ← match c, Flag.ofLetter? c with
        | '-', _ => pure none
        | _, some flag => pure (some flag)
        | _, none => failHere .flagUnknown
      match met.lookup sign, sign with
      | some other, none => throw ⟨.flagNegatedTwice, span, some other⟩
      | some other, some _ => throw ⟨.flagTwice, span, some other⟩
      | none, _ =>
        skip 1
        flagSigns (met ++ [(sign, span)]) fuel

/-- The changes that signs make: on before the negation, off behind it. -/
def flagChanges (signs : List FlagSign) : List (Flag × Bool) :=
  let on := signs.takeWhile Option.isSome
  let off := signs.dropWhile Option.isSome
  (on.filterMap id).map (·, true) ++ (off.filterMap id).map (·, false)

/-- Reads the flags of a group; a negation has to negate something. -/
def groupFlags : Reading (List (Flag × Bool)) := do
  let signs ← flagSigns [] ((← get).rest.length + 1)
  match signs.getLast? with
  | some (none, span) => fail .flagDangling span.start span.stop
  | _ => return flagChanges (signs.map Prod.fst)

/-- The beginnings of conditions on the text around a place, which are not supported. -/
def lookAroundSigns : List String := ["?=", "?!", "?<=", "?<!"]

/-- Goes over any of the signs that comes next; the result says whether one did. -/
def skipAny : List String → Reading Bool
  | [] => return false
  | t :: rest => do
    if ← skipText t then return true else skipAny rest

/-- What an opening parenthesis begins: a group, or a change of the flags to the end of the group
around it. -/
def openGroup (g : OpenGroup) (outer : List OpenGroup) : Reading (OpenGroup × List OpenGroup) := do
  let start ← place
  let opening : Span := ⟨start, start + 1⟩
  let flags := (← get).flags
  next
  if ← skipAny lookAroundSigns then fail .lookAround start (← place)
  let inner ← place
  if ← skipAny ["?P<", "?<"] then
    groupName
    return (.ofOpening opening true flags (← place), g :: outer)
  else if ← skipText "?" then
    if (← peek).isNone then fail .unclosedGroup opening.start opening.stop
    let changes ← groupFlags
    let closing ← peek
    skip 1
    if closing = some ')' ∧ changes = [] then fail .nothingToRepeat inner inner
    modify fun s => { s with flags := changes.foldl Flags.put s.flags }
    if closing = some ')' then return (g.addFlags ⟨start, ← place⟩, outer)
    else return (.ofOpening opening false flags (← place), g :: outer)
  else return (.ofOpening opening true flags inner, g :: outer)

/-- Closes a group, whose flags end with it. -/
def closeGroup (g : OpenGroup) (outer : List OpenGroup) :
    Reading (OpenGroup × List OpenGroup) := do
  match outer with
  | [] => failHere .unopenedGroup
  | parent :: rest =>
    let (r, nesting) := g.contents (← place)
    skip 1
    modify fun s => { s with flags := g.flagsOutside }
    let capturedAt := if g.captures then some g.opening.start else none
    return (parent.add (.group r capturedAt) (.node ⟨g.opening.start, ← place⟩ [nesting]), rest)

/-! ## Patterns -/

/-- The next part of the group `g`, which stands within the others. -/
def part (c : Char) (g : OpenGroup) (outer : List OpenGroup) :
    Reading (OpenGroup × List OpenGroup) := do
  match c with
  | '(' => openGroup g outer
  | ')' => closeGroup g outer
  | '|' =>
    let bar ← place
    skip 1
    return (g.nextAlternative bar, outer)
  | '[' =>
    let (nesting, s) ← bracket
    return (g.add (.chars s) nesting, outer)
  | '?' => return (← simpleRepetition g 0 (some 1), outer)
  | '*' => return (← simpleRepetition g 0 none, outer)
  | '+' => return (← simpleRepetition g 1 none, outer)
  | '\x7b' => return (← countedRepetition g, outer)
  | _ =>
    let start ← place
    let r ← primitive c
    return (g.add r (.leaf ⟨start, ← place⟩), outer)

/-- The rest of a pattern. -/
def parts : Nat → OpenGroup → List OpenGroup → Reading (Regex × Nesting)
  | 0, g, _ => return g.contents (← place)
  | fuel + 1, g, outer => do
    skipBlanks
    match ← peek with
    | some c =>
      let (g, outer) ← part c g outer
      parts fuel g outer
    | none =>
      match outer with
      | [] => return g.contents (← place)
      | _ :: _ => fail .unclosedGroup g.opening.start g.opening.stop

end Reading

/-- Why a pattern is refused. -/
inductive Refusal where
  | faulty (fault : Fault)
  | tooLarge
deriving DecidableEq

namespace Refusal

def message (pattern : List Char) : Refusal → String
  | .faulty fault => fault.render pattern
  | .tooLarge => s!"Compiled regex exceeds size limit of {Text.ofInt sizeLimit} bytes."

end Refusal

def read (pattern : List Char) : Except Refusal Regex :=
  let whole := Reading.parts (pattern.length + 1) (.ofOpening ⟨0, 0⟩ false .standard 0) []
  match whole.run ⟨pattern, 0, .standard, [], none⟩ with
  | .error fault => .error (.faulty fault)
  | .ok ((r, nesting), final) =>
    match nesting.tooDeep? nestingLimit, final.later with
    | some span, _ => .error (.faulty ⟨.nestedTooDeep, span, none⟩)
    | none, some fault => .error (.faulty fault)
    | none, none => if r.isTooLarge then .error .tooLarge else .ok r

end RecordQuery.Regex
