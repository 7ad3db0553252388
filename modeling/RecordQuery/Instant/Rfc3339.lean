/-
# RecordQuery.Instant.Rfc3339 -- instants from RFC 3339 text

`Rfc3339.read` takes a text apart into a calendar date, a time of day and an
offset from UTC, and refuses it with the first fault met from the left.  A text that
is too short for a date and a time is refused as that; the date and the time are
judged when each is complete, and the size of the offset last of all.
`Rfc3339.toInstant` is the instant denoted: the local time less the offset, floored
to milliseconds.  A second numbered 60 is the one before it, a whole second longer.
-/
import RecordQuery.Instant.Basic
import RecordQuery.Instant.Calendar

namespace RecordQuery

set_option autoImplicit false

/-- A date and time of day, and how far its clock is ahead of UTC. -/
structure Rfc3339 where
  date : Date
  hour : Nat
  minute : Nat
  second : Nat
  nanos : Nat
  offsetMinutes : Int
deriving DecidableEq

namespace Rfc3339

inductive Fault where
  | tooShort
  | invalid
  | outOfRange
  | tooLong
deriving DecidableEq

namespace Fault

def message : Fault → String
  | .tooShort => "premature end of input"
  | .invalid => "input contains invalid characters"
  | .outOfRange => "input is out of range"
  | .tooLong => "trailing input"

end Fault

/-- Reading takes characters off the front of a text. -/
abbrev Reading := StateT (List Char) (Except Fault)

/-- The text left to read is at least this many bytes long. -/
def requireBytes (n : Nat) : Reading Unit := do
  if (← get).foldl (fun bytes c => bytes + c.utf8Size) 0 < n then throw .tooShort

/-- One digit, as a number. -/
def digit : Reading Nat := do
  match ← get with
  | c :: rest =>
    if c.isDigit then
      set rest
      return c.toNat - '0'.toNat
    else throw .invalid
  | [] => throw .invalid

/-- A number of exactly so many digits. -/
def number (digits : Nat) : Reading Nat := do
  requireBytes digits
  let mut n := 0
  for _ in [0:digits] do
    n := 10 * n + (← digit)
  return n

/-- One of the given characters. -/
def separator (allowed : List Char) : Reading Unit := do
  match ← get with
  | [] => throw .tooShort
  | c :: rest => if c ∈ allowed then set rest else throw .invalid

/-- Nanoseconds, from an optional point and any number of digits.  Digits after the ninth are
skipped. -/
def fraction : Reading Nat := do
  match ← get with
  | '.' :: rest =>
    set rest
    requireBytes 1
    let digits := rest.takeWhile Char.isDigit
    if digits = [] then throw .invalid
    set (rest.dropWhile Char.isDigit)
    let nine := digits.take 9
    return Nat.ofDigitChars 10 nine 0 * Nat.pow 10 (9 - nine.length)
  | _ => return 0

/-- True for a clock behind UTC, false for one ahead of it, none for UTC itself. -/
def offsetSign : Reading (Option Bool) := do
  match ← get with
  | [] => throw .tooShort
  | c :: rest =>
    if c = 'Z' ∨ c = 'z' then
      set rest
      return none
    else if c = '+' then
      set rest
      return some false
    else if c = '-' ∨ c = '\u2212' then
      set rest
      return some true
    else throw .invalid

/-- Refuses what is not so. -/
def require (so : Bool) : Reading Unit :=
  if so then return () else throw .outOfRange

/-- The offset from UTC in minutes. -/
def offset : Reading Int := do
  match ← offsetSign with
  | none => return 0
  | some behind =>
    let hours ← number 2
    separator [':']
    let minutes ← number 2
    require (minutes < 60)
    let total : Int := hours * 60 + minutes
    return if behind then -total else total

/-- A date that exists. -/
def calendarDate : Reading Date := do
  let year ← number 4
  separator ['-']
  let month ← number 2
  separator ['-']
  let day ← number 2
  let date : Date := ⟨year, month, day⟩
  require date.isValid
  return date

/-- The fewest bytes of a date and a time of day. -/
def shortest : Nat := 19

/-- The parts of the text, from left to right. -/
def parts : Reading Rfc3339 := do
  requireBytes shortest
  let date ← calendarDate
  separator ['T', 't', ' ']
  let hour ← number 2
  separator [':']
  let minute ← number 2
  separator [':']
  let second ← number 2
  let nanos ← fraction
  require (hour < 24 && minute < 60 && second ≤ 60)
  let offsetMinutes ← offset
  return { date, hour, minute, second, nanos, offsetMinutes }

/-- Minutes in a day, which an offset must stay below. -/
def minutesPerDay : Nat := 1440

/-- Reads a whole text. -/
def read (text : List Char) : Except Fault Rfc3339 :=
  match parts.run text with
  | .error fault => .error fault
  | .ok (_, _ :: _) => .error .tooLong
  | .ok (t, []) => if t.offsetMinutes.natAbs < minutesPerDay then .ok t else .error .outOfRange

/-- Seconds since the start of 1970 in UTC, a leap second not counted. -/
def utcSeconds (t : Rfc3339) : Int :=
  t.date.dayNumber * 86400 + t.hour * 3600 + t.minute * 60 + (min t.second 59 : Nat)
    - t.offsetMinutes * 60

/-- Nanoseconds into the second, a leap second being part of the second before it. -/
def secondNanos (t : Rfc3339) : Nat :=
  t.nanos + if t.second = 60 then 1000000000 else 0

def toInstant (t : Rfc3339) : Instant :=
  .ofUtc t.utcSeconds t.secondNanos

end Rfc3339

end RecordQuery
