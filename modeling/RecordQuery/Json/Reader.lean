/-
# RecordQuery.Json.Reader -- JSON values from text

`JsonValue.read` accepts strict JSON and nothing more: no blanks but the four, no
leading zeros, no trailing commas, no control characters within strings, no half of
a surrogate pair.  Arrays and objects may be nested 127 deep.  Of equal names in one
object the last one counts.

A text is refused with the first fault from the left, which carries the text left
to read, so that its line and column can be told.
-/
import RecordQuery.Json.Value
import RecordQuery.Json.Number
import RecordQuery.Text.Decimal

namespace RecordQuery

set_option autoImplicit false

inductive JsonFault where
  | endInValue
  | endInArray
  | endInObject
  | endInString
  | expectedValue
  | expectedWord
  | expectedColon
  | expectedArrayNext
  | expectedObjectNext
  | expectedName
  | trailingComma
  | trailingText
  | invalidNumber
  | numberOutOfRange
  | invalidEscape
  | incompletePair
  | loneSurrogate
  | controlCharacter
  | nestedTooDeep
deriving DecidableEq

namespace JsonFault

def message : JsonFault → String
  | .endInValue => "EOF while parsing a value"
  | .endInArray => "EOF while parsing a list"
  | .endInObject => "EOF while parsing an object"
  | .endInString => "EOF while parsing a string"
  | .expectedValue => "expected value"
  | .expectedWord => "expected ident"
  | .expectedColon => "expected `:`"
  | .expectedArrayNext => "expected `,` or `]`"
  | .expectedObjectNext => "expected `,` or `\x7d`"
  | .expectedName => "key must be a string"
  | .trailingComma => "trailing comma"
  | .trailingText => "trailing characters"
  | .invalidNumber => "invalid number"
  | .numberOutOfRange => "number out of range"
  | .invalidEscape => "invalid escape"
  | .incompletePair => "unexpected end of hex escape"
  | .loneSurrogate => "lone leading surrogate in hex escape"
  | .controlCharacter => "control character (\\u0000-\\u001F) found while parsing a string"
  | .nestedTooDeep => "recursion limit exceeded"

end JsonFault

/-- A fault and where it was found: the text not yet read, of which the first character may
already be part of the fault. -/
structure JsonError where
  fault : JsonFault
  rest : List Char
  atNext : Bool

namespace JsonError

/-- The line, from one, and the column, in bytes, of the last character that was looked at. -/
def position (text : List Char) (e : JsonError) : Nat × Nat :=
  let seen := text.take (text.length - e.rest.length)
  let lineSoFar := (seen.reverse.takeWhile (· != '\n')).foldl (fun n c => n + c.utf8Size) 0
  let line := 1 + seen.count '\n'
  match e.atNext, e.rest with
  | true, c :: _ => if c = '\n' then (line + 1, 0) else (line, lineSoFar + 1)
  | _, _ => (line, lineSoFar)

def message (text : List Char) (e : JsonError) : String :=
  let (line, column) := e.position text
  s!"{e.fault.message} at line {Text.ofInt line} column {Text.ofInt column}"

end JsonError

/-! ## Reading

The parts that are read in loops have a number for a first argument, called `size`, that is greater
than the length of the text. -/

namespace JsonReader

/-- Reading takes characters off the front of a text. -/
abbrev Reading := StateT (List Char) (Except JsonError)

/-- Fails after the characters read so far. -/
def fail {α : Type} (fault : JsonFault) : Reading α := do
  throw ⟨fault, ← get, false⟩

/-- Fails at the next character. -/
def failAtNext {α : Type} (fault : JsonFault) : Reading α := do
  throw ⟨fault, ← get, true⟩

def isBlank (c : Char) : Bool :=
  c == ' ' || c == '\n' || c == '\t' || c == '\r'

/-- The next character, left unread. -/
def peek? : Reading (Option Char) := do
  return (← get).head?

/-- The next character that is no blank, left unread. -/
def peekPastBlanks? : Reading (Option Char) := do
  modify (·.dropWhile isBlank)
  peek?

/-- Drops the next character. -/
def skip : Reading Unit :=
  modify (·.drop 1)

/-- The next character. -/
def next? : Reading (Option Char) := do
  let c ← peek?
  skip
  return c

/-- The characters of a word, one after the other. -/
def word : List Char → Reading Unit
  | [] => return ()
  | c :: rest => do
    match ← next? with
    | none => fail .endInValue
    | some d => if d = c then word rest else fail .expectedWord

/-! ## Numbers -/

/-- The digits that come next, if any. -/
def digits : Reading (List Char) := do
  let t ← get
  set (t.dropWhile Char.isDigit)
  return t.takeWhile Char.isDigit

/-- The digits of a fraction or an exponent, at least one. -/
def someDigits (atNext : Bool) : Reading (List Char) := do
  match ← peek? with
  | none => fail .endInValue
  | some c =>
    if c.isDigit then digits
    else if atNext then failAtNext .invalidNumber
    else do
      skip
      fail .invalidNumber

/-- The digits before the point: a zero alone, or digits of which the first is none. -/
def wholeDigits : Reading (List Char) := do
  match ← next? with
  | none => fail .endInValue
  | some c =>
    if c = '0' then
      match ← peek? with
      | some d => if d.isDigit then failAtNext .invalidNumber else return ['0']
      | none => return ['0']
    else if c.isDigit then return c :: (← digits)
    else fail .invalidNumber

def fraction? : Reading (Option (List Char)) := do
  match ← peek? with
  | some '.' => do
    skip
    return some (← someDigits true)
  | _ => return none

def exponent? : Reading (Option Int) := do
  match ← peek? with
  | some c =>
    if c = 'e' ∨ c = 'E' then
      skip
      let (negative, rest) := Text.splitSign (← get)
      set rest
      let n := Nat.ofDigitChars 10 (← someDigits false) 0
      return some (if negative then -(n : Int) else n)
    else return none
  | none => return none

def number (negative : Bool) : Reading Number := do
  let whole ← wholeDigits
  let fraction ← fraction?
  let exponent ← exponent?
  match JsonNumber.value? { negative, whole, fraction, exponent } with
  | some n => return n
  | none => fail .numberOutOfRange

/-! ## Strings -/

def hexDigit? (c : Char) : Option Nat :=
  if c.isDigit then some (c.toNat - '0'.toNat)
  else if 'a' ≤ c ∧ c ≤ 'f' then some (c.toNat - 'a'.toNat + 10)
  else if 'A' ≤ c ∧ c ≤ 'F' then some (c.toNat - 'A'.toNat + 10)
  else none

/-- Four hexadecimal digits. -/
def hexUnit : Reading Nat := do
  match ← get with
  | a :: b :: c :: d :: rest =>
    set rest
    match hexDigit? a, hexDigit? b, hexDigit? c, hexDigit? d with
    | some a, some b, some c, some d => return ((a * 16 + b) * 16 + c) * 16 + d
    | _, _, _, _ => fail .invalidEscape
  | _ => do
    set ([] : List Char)
    fail .endInString

/-- A character that the second half of a surrogate pair has to begin with. -/
def pairMark (mark : Char) : Reading Unit := do
  match ← next? with
  | none => fail .endInString
  | some c => if c = mark then return () else fail .incompletePair

/-- The character of a code unit, with its second half if the unit is a first half. -/
def unicodeEscape : Reading Char := do
  let high ← hexUnit
  if 0xDC00 ≤ high ∧ high ≤ 0xDFFF then fail .loneSurrogate
  else if 0xD800 ≤ high ∧ high ≤ 0xDBFF then
    pairMark '\\'
    pairMark 'u'
    let low ← hexUnit
    if low < 0xDC00 ∨ 0xDFFF < low then fail .loneSurrogate
    else return Char.ofNat (0x10000 + (high - 0xD800) * 0x400 + (low - 0xDC00))
  else return Char.ofNat high

/-- The character that an escape stands for, its backslash already read. -/
def escape : Reading Char := do
  match ← next? with
  | none => fail .endInString
  | some 'b' => return '\x08'
  | some 'f' => return '\x0c'
  | some 'n' => return '\n'
  | some 'r' => return '\r'
  | some 't' => return '\t'
  | some 'u' => unicodeEscape
  | some c =>
    if c = '\x22' ∨ c = '\\' ∨ c = '/' then return c
    else fail .invalidEscape

/-- The characters up to the closing quotation mark, after those already read in reverse.  Every
step reads a character, so a text shorter than the first argument is read to its end. -/
def stringTail : Nat → List Char → Reading String
  | 0, _ => fail .endInString
  | fuel + 1, read => do
    match ← next? with
    | none => fail .endInString
    | some c =>
      if c = '\x22' then return String.ofList read.reverse
      else if c = '\\' then
        let escaped ← escape
        stringTail fuel (escaped :: read)
      else if c.toNat < 0x20 then fail .controlCharacter
      else stringTail fuel (c :: read)

/-- A string, its opening quotation mark already read. -/
def string (size : Nat) : Reading String :=
  stringTail size []

/-! ## Arrays, objects and values -/

/-- The items of an array up to its closing bracket, after those already read in reverse.  Every
item takes characters, so a text shorter than the number is read to its end. -/
def items (value : Reading JsonValue) : Nat → List JsonValue → Reading (List JsonValue)
  | 0, _ => fail .endInArray
  | fuel + 1, read => do
    match ← peekPastBlanks? with
    | none => failAtNext .endInArray
    | some ']' => do
      skip
      return read.reverse
    | some c =>
      if read.isEmpty then
        let item ← value
        items value fuel [item]
      else if c = ',' then
        skip
        match ← peekPastBlanks? with
        | none => failAtNext .endInValue
        | some ']' => failAtNext .trailingComma
        | some _ => do
          let item ← value
          items value fuel (item :: read)
      else failAtNext .expectedArrayNext

/-- A name, the colon and the value, the name's opening quotation mark next. -/
def entry (size : Nat) (value : Reading JsonValue) : Reading (String × JsonValue) := do
  skip
  let name ← string size
  match ← peekPastBlanks? with
  | none => failAtNext .endInObject
  | some ':' => do
    skip
    return (name, ← value)
  | some _ => failAtNext .expectedColon

/-- The entries of an object up to its closing brace, added to those already read; `first` says
that there are none.  The number is as for arrays. -/
def entries (size : Nat) (value : Reading JsonValue) :
    Nat → Bool → JsonObject → Reading JsonObject
  | 0, _, _ => fail .endInObject
  | fuel + 1, first, read => do
    match ← peekPastBlanks? with
    | none => failAtNext .endInObject
    | some '\x7d' => do
      skip
      return read
    | some c =>
      if first then
        if c = '\x22' then
          let (name, item) ← entry size value
          entries size value fuel false (JsonObject.insertEntry name item read)
        else failAtNext .expectedName
      else if c = ',' then
        skip
        match ← peekPastBlanks? with
        | none => failAtNext .endInValue
        | some '\x22' => do
          let (name, item) ← entry size value
          entries size value fuel false (JsonObject.insertEntry name item read)
        | some '\x7d' => failAtNext .trailingComma
        | some _ => failAtNext .expectedName
      else failAtNext .expectedObjectNext

/-- A value, with a reader for those inside it; none if it may not hold any. -/
def valueOf (size : Nat) (inner? : Option (Reading JsonValue)) : Reading JsonValue := do
  match ← peekPastBlanks? with
  | none => failAtNext .endInValue
  | some 'n' => do
    skip
    word ['u', 'l', 'l']
    return .null
  | some 't' => do
    skip
    word ['r', 'u', 'e']
    return .bool true
  | some 'f' => do
    skip
    word ['a', 'l', 's', 'e']
    return .bool false
  | some '-' => do
    skip
    return .number (← number true)
  | some '\x22' => do
    skip
    return .text (← string size)
  | some '[' =>
    match inner? with
    | none => failAtNext .nestedTooDeep
    | some inner => do
      skip
      return .array (← items inner size [])
  | some '\x7b' =>
    match inner? with
    | none => failAtNext .nestedTooDeep
    | some inner => do
      skip
      return .object (← entries size inner size true [])
  | some c => if c.isDigit then return .number (← number false) else failAtNext .expectedValue

/-- A value in which arrays and objects may be nested so deep. -/
def value (size : Nat) : Nat → Reading JsonValue
  | 0 => valueOf size none
  | depth + 1 => valueOf size (some (value size depth))

/-- How deep arrays and objects may be nested. -/
def depthLimit : Nat := 127

/-- A value with nothing but blanks around it. -/
def document : Reading JsonValue := do
  let v ← value ((← get).length + 1) depthLimit
  match ← peekPastBlanks? with
  | none => return v
  | some _ => failAtNext .trailingText

end JsonReader

namespace JsonValue

/-- The value of a whole text. -/
def read (text : String) : Except JsonError JsonValue :=
  (JsonReader.document.run text.toList).map Prod.fst

end JsonValue

end RecordQuery
