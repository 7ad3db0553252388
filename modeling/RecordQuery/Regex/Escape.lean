/-
# RecordQuery.Regex.Escape -- what a backslash introduces in a pattern

An escape stands for one character, for a set of characters or for a condition on
the place.  `Reading.escape` reads one, from its backslash to its last character.
-/
import RecordQuery.Regex.Basic
import RecordQuery.Regex.Property
import RecordQuery.Regex.Scan

namespace RecordQuery.Regex

set_option autoImplicit false

/-- The least parts of a pattern.  A byte is a character written as two hexadecimal digits. -/
inductive Part where
  | character (c : Char) (asByte : Bool)
  | set (s : CharSet)
  | look (l : Look)
deriving DecidableEq

/-- A backslash may stand before every ASCII character but letters, digits and angle brackets. -/
def isPlainAfterBackslash (c : Char) : Bool :=
  c.toNat < 0x80 && !c.isAlphanum && c != '<' && c != '>'

def isHexDigit (c : Char) : Bool :=
  c.isDigit || ('a' ≤ c && c ≤ 'f') || ('A' ≤ c && c ≤ 'F')

def hexDigitValue (c : Char) : Nat :=
  if c.isDigit then c.toNat - '0'.toNat else c.toLower.toNat - 'a'.toNat + 10

namespace Reading

/-- The character whose code point these hexadecimal digits give. -/
def hexCharacter (digits : List Char) (start stop : Nat) : Reading Char := do
  let code := digits.foldl (fun n c => 16 * n + hexDigitValue c) 0
  if code.isValidChar then return Char.ofNat code else fail .noCharacter start stop

/-- So many hexadecimal digits; `first` is true before the first of them. -/
def hexDigits (first : Bool) : Nat → Reading (List Char)
  | 0 => return []
  | n + 1 => do
    unless first do next
    match ← peek with
    | none => failHere .endInEscape
    | some c =>
      if isHexDigit c then return c :: (← hexDigits false n) else failHere .hexadecimalDigit

/-- Hexadecimal digits in braces, from the opening brace on. -/
def hexInBraces : Reading Char := do
  let opening ← place
  next
  let digits ← takeAllSpaced isHexDigit
  match ← peek with
  | none => fail .endInEscape opening (← place)
  | some '\x7d' =>
    let stop ← place
    next
    if digits = [] then fail .emptyHexadecimal opening (← place)
    else hexCharacter digits (opening + 1) stop
  | some _ => failHere .hexadecimalDigit

/-- A code point, from the letter on that says how many digits it has outside braces. -/
def hexEscape (letter : Char) : Reading Part := do
  next
  match ← peek with
  | none => failHere .endInEscape
  | some '\x7b' => return .character (← hexInBraces) false
  | some _ =>
    let start ← place
    let count := if letter = 'x' then 2 else if letter = 'u' then 4 else 8
    let digits ← hexDigits true count
    next
    return .character (← hexCharacter digits start (← place)) (letter == 'x')

/-- Sets of characters are of Unicode characters unless that flag is out of force; then none may
hold a character beyond ASCII. -/
def setByFlag (unicodeSet asciiSet : CharSet) (negated : Bool) (start : Nat) : Reading Part := do
  if ← has .unicode then return .set (.complIf negated unicodeSet)
  else
    if negated then failLater .invalidBytes ⟨start, ← place⟩
    return .set (.complIf negated asciiSet)

/-- The text of a property in braces, from the opening brace on. -/
def propertyInBraces : Reading (List Char) := do
  next
  let t ← takeAllSpaced (· != '\x7d')
  if (← peek).isNone then failHere .endInEscape
  skip 1
  return t

/-- A set named by a property, from the letter on. -/
def property (start : Nat) (letter : Char) : Reading Part := do
  next
  let (found, inverted) ← match ← peek with
    | none => failHere .endInEscape
    | some '\\' => failHere .unsuitableProperty
    | some '\x7b' => do pure (Property.ofDescription (← propertyInBraces))
    | some c => do
      next
      pure (Property.ofName [c], false)
  let span : Span := ⟨start, ← place⟩
  if ← has .unicode then
    match found with
    | .error problem =>
      failLater problem span
      return .set .none
    | .ok s =>
      let s := if ← has .caseless then s.anyCase else s
      return .set (.complIf ((letter == 'P') != inverted) s)
  else
    failLater .unicodeNotAllowed span
    return .set .none

/-- The characters that words are made of. -/
def wordLetters : Reading CharSet := do
  return if ← has .unicode then .word else .asciiWord

def wordEdge (edge : WordEdge) : Reading Part := do
  return .look (.word edge (← wordLetters))

def isEdgeNameChar (c : Char) : Bool :=
  c.isAlpha || c == '-'

def edgeOfName? : String → Option WordEdge
  | "start" => some .start
  | "end" => some .finish
  | "start-half" => some .notAfterWord
  | "end-half" => some .notBeforeWord
  | _ => none

/-- The name of a word edge in braces, from the opening brace on.  Braces with anything but a name
are left for a repetition. -/
def edgeInBraces (start : Nat) : Reading WordEdge := do
  let opening ← get
  next
  let contents ← place
  match ← peek with
  | none => fail .endInWordEdge start contents
  | some c =>
    if isEdgeNameChar c then
      let name ← takeAllSpaced isEdgeNameChar
      let stop ← place
      if (← peek) = some '\x7d' then
        skip 1
        match edgeOfName? (String.ofList name) with
        | some edge => return edge
        | none => fail .unknownWordEdge contents stop
      else fail .unclosedWordEdge opening.place stop
    else
      set opening
      return .boundary

/-- The characters with an escape letter of their own. -/
def controlCharacter? : Char → Option Char
  | 'a' => some '\x07'
  | 'f' => some '\x0c'
  | 't' => some '\t'
  | 'n' => some '\n'
  | 'r' => some '\r'
  | 'v' => some '\x0b'
  | _ => none

/-- An escape of one character after the backslash, which is already read. -/
def shortEscape (start : Nat) (c : Char) : Reading Part := do
  if isPlainAfterBackslash c then return .character c false
  else match controlCharacter? c, c with
  | some control, _ => return .character control false
  | none, 'A' => return .look .textStart
  | none, 'z' => return .look .textEnd
  | none, 'b' =>
    if (← peek) = some '\x7b' then wordEdge (← edgeInBraces start) else wordEdge .boundary
  | none, 'B' => wordEdge .noBoundary
  | none, '<' => wordEdge .start
  | none, '>' => wordEdge .finish
  | none, _ => fail .unknownEscape start (← place)

def escape : Reading Part := do
  let start ← place
  skip 1
  match ← peek with
  | none => fail .endInEscape start (← place)
  | some c =>
    if c.isDigit then fail .backreference start ((← place) + 1)
    else if ['x', 'u', 'U'].contains c then hexEscape c
    else if c = 'p' ∨ c = 'P' then property start c
    else
      skip 1
      match c with
      | 'd' => setByFlag .digit .asciiDigit false start
      | 'D' => setByFlag .digit .asciiDigit true start
      | 's' => setByFlag .blank .asciiBlank false start
      | 'S' => setByFlag .blank .asciiBlank true start
      | 'w' => setByFlag .word .asciiWord false start
      | 'W' => setByFlag .word .asciiWord true start
      | _ => shortEscape start c

end Reading

end RecordQuery.Regex
