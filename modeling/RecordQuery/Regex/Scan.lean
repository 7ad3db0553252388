/-
# RecordQuery.Regex.Scan -- going through the text of a regular expression

The state of reading a pattern: what is left of it, how far reading has come, the
flags in force and the names given to groups.  Some faults are found only once the
whole pattern has been read; the first of these waits in `later`.  With the flag
`spaced` blanks and comments may stand between the parts of an expression.
-/
import RecordQuery.Regex.CharSet
import RecordQuery.Regex.Fault

namespace RecordQuery.Regex

set_option autoImplicit false

inductive Flag where
  | caseless
  | multiLine
  | dotAll
  | lazyFirst
  | unicode
  | crlf
  | spaced
deriving DecidableEq

namespace Flag

def ofLetter? : Char → Option Flag
  | 'i' => some .caseless
  | 'm' => some .multiLine
  | 's' => some .dotAll
  | 'U' => some .lazyFirst
  | 'u' => some .unicode
  | 'R' => some .crlf
  | 'x' => some .spaced
  | _ => none

end Flag

/-- The flags in force. -/
abbrev Flags := List Flag

namespace Flags

def standard : Flags := [.unicode]

/-- Puts a flag in force or out of it. -/
def put (flags : Flags) (change : Flag × Bool) : Flags :=
  if change.2 then change.1 :: flags else flags.filter (· ≠ change.1)

end Flags

structure Scan where
  rest : List Char
  place : Nat
  flags : Flags
  names : List (List Char × Span)
  later : Option Fault

abbrev Reading := StateT Scan (Except Fault)

/-- How many characters of a text are blanks and comments; a comment runs from a number sign to
the end of its line. -/
def blankCount (inComment : Bool) : List Char → Nat
  | [] => 0
  | c :: rest =>
    match inComment with
    | true => blankCount (c != '\n') rest + 1
    | false =>
      if Text.isBlank c then blankCount false rest + 1
      else if c = '#' then blankCount true rest + 1
      else 0

namespace Reading

def fail {α : Type} (problem : Problem) (start stop : Nat) : Reading α :=
  throw ⟨problem, ⟨start, stop⟩, none⟩

/-- A problem with the next character. -/
def failHere {α : Type} (problem : Problem) : Reading α := do
  let s ← get
  fail problem s.place (if s.rest = [] then s.place else s.place + 1)

/-- A problem to be reported only if the pattern can be read to its end. -/
def failLater (problem : Problem) (span : Span) : Reading Unit :=
  modify fun s => { s with later := s.later.or (some ⟨problem, span, none⟩) }

def has (flag : Flag) : Reading Bool := do
  return (← get).flags.contains flag

def place : Reading Nat := do
  return (← get).place

def peek : Reading (Option Char) := do
  return (← get).rest.head?

/-- The characters after the next. -/
def afterNext : Reading (List Char) := do
  return (← get).rest.drop 1

/-- Goes on by a number of characters. -/
def skip (n : Nat) : Reading Unit :=
  modify fun s => { s with rest := s.rest.drop n, place := s.place + (s.rest.take n).length }

/-- Goes over blanks and comments where they may stand. -/
def skipBlanks : Reading Unit := do
  if ← has .spaced then skip (blankCount false (← get).rest)

/-- Goes on by one character and over the blanks behind it. -/
def next : Reading Unit := do
  skip 1
  skipBlanks

/-- Goes over a text if it comes next. -/
def skipText (t : String) : Reading Bool := do
  if t.toList.isPrefixOf (← get).rest then
    skip t.length
    return true
  else return false

/-- What comes after the next character and the blanks behind it, where a comment's text is not
left out. -/
def peekAfterNext : Reading (Option Char) := do
  let rest ← afterNext
  if ← has .spaced then
    match rest.dropWhile Text.isBlank with
    | '#' :: comment => return (comment.dropWhile Text.isBlank).head?
    | found => return found.head?
  else return rest.head?

/-- Takes characters that pass a test, each with the blanks behind it. -/
def takeSpaced (test : Char → Bool) : Nat → Reading (List Char)
  | 0 => return []
  | fuel + 1 => do
    match ← peek with
    | some c =>
      if test c then
        next
        return c :: (← takeSpaced test fuel)
      else return []
    | none => return []

/-- Takes all characters that pass a test, each with the blanks behind it. -/
def takeAllSpaced (test : Char → Bool) : Reading (List Char) := do
  takeSpaced test (← get).rest.length

end Reading

end RecordQuery.Regex
