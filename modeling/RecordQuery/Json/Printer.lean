/-
# RecordQuery.Json.Printer -- JSON text of values

A value is written on one line (`compact`) or with an item on every line, each
level indented by two blanks (`pretty`).  Strings escape what they have to and
nothing else, and floating point numbers have the fewest digits that read back.
-/
import RecordQuery.Json.Value
import RecordQuery.Number.Shortest
import RecordQuery.Text.Decimal

namespace RecordQuery

set_option autoImplicit false

/-! ## Floating point numbers -/

/-- Which floating point numbers are written without an exponent: those with so many digits in
front of the point, where zeros after the point count as negative ones. -/
structure FloatLayout where
  fewest : Int
  most : Int

namespace FloatLayout

/-- Numbers from 0.00001 up to, but not including, ten to the sixteenth have no exponent. -/
def json : FloatLayout := ⟨-4, 16⟩

def zeros (n : Nat) : List Char := List.replicate n '0'

/-- The digits with the point in its place and at least one digit on either side of it. -/
def positional (digits : List Char) (point : Int) : List Char :=
  if point ≤ 0 then ['0', '.'] ++ zeros (-point).toNat ++ digits
  else
    let whole := point.toNat
    if digits.length ≤ whole then digits ++ zeros (whole - digits.length) ++ ['.', '0']
    else digits.take whole ++ ['.'] ++ digits.drop whole

/-- The digits with the point after the first and the exponent with its sign. -/
def scientific (digits : List Char) (point : Int) : List Char :=
  let exponent := point - 1
  let sign := if exponent < 0 then ['e'] else ['e', '+']
  let mantissa :=
    match digits with
    | first :: more@(_ :: _) => first :: '.' :: more
    | _ => digits
  mantissa ++ sign ++ Text.digitsOfInt exponent

def magnitude (layout : FloatLayout) (rank : Nat) : List Char :=
  if rank = 0 then ['0', '.', '0']
  else
    let (digits, point) := Binary64.shortestDigits rank
    if layout.fewest ≤ point ∧ point ≤ layout.most then positional digits point
    else scientific digits point

end FloatLayout

namespace Binary64

/-- The text of a finite number; JSON has no other ones, and null stands for those. -/
def jsonText : Binary64 → String
  | .finite negative rank =>
    let digits := FloatLayout.json.magnitude rank.val
    String.ofList (if negative then '-' :: digits else digits)
  | .nan | .infinite _ => "null"

end Binary64

namespace Number

def jsonText : Number → String
  | .signed n => Text.ofInt n.toInt
  | .unsigned n => Text.ofInt n.toNat
  | .binary x => x.jsonText

end Number

/-! ## Strings -/

namespace JsonPrinter

def hexDigits (n : Nat) : List Char :=
  let digits := Nat.toDigits 16 n
  List.replicate (4 - digits.length) '0' ++ digits

def escapedChar (c : Char) : List Char :=
  if c = '\x22' ∨ c = '\\' then ['\\', c]
  else if c = '\x08' then ['\\', 'b']
  else if c = '\x0c' then ['\\', 'f']
  else if c = '\n' then ['\\', 'n']
  else if c = '\r' then ['\\', 'r']
  else if c = '\t' then ['\\', 't']
  else if c.toNat < 0x20 then ['\\', 'u'] ++ hexDigits c.toNat
  else [c]

def string (text : String) : String :=
  String.ofList ('\x22' :: (text.toList.flatMap escapedChar ++ ['\x22']))

def newline (level : Nat) : String :=
  String.ofList ('\n' :: List.replicate (2 * level) ' ')

end JsonPrinter

namespace JsonValue

open JsonPrinter

mutual

def compact : JsonValue → String
  | .null => "null"
  | .bool b => if b then "true" else "false"
  | .number n => n.jsonText
  | .text s => string s
  | .array items => "[" ++ ",".intercalate (compactItems items) ++ "]"
  | .object entries => "\x7b" ++ ",".intercalate (compactEntries entries) ++ "\x7d"

def compactItems : List JsonValue → List String
  | [] => []
  | item :: rest => compact item :: compactItems rest

def compactEntries : List (String × JsonValue) → List String
  | [] => []
  | (name, value) :: rest => (string name ++ ":" ++ compact value) :: compactEntries rest

end

/-- Parts on lines of their own between brackets; with no parts the brackets close at once. -/
def onLines (level : Nat) (opening closing : String) (parts : List String) : String :=
  if parts.isEmpty then opening ++ closing
  else
    opening ++ newline (level + 1) ++ ("," ++ newline (level + 1)).intercalate parts
      ++ newline level ++ closing

mutual

/-- The text of a value that stands so many levels deep. -/
def prettyAt (level : Nat) : JsonValue → String
  | .array items => onLines level "[" "]" (prettyItems (level + 1) items)
  | .object entries => onLines level "\x7b" "\x7d" (prettyEntries (level + 1) entries)
  | .null => "null"
  | .bool b => if b then "true" else "false"
  | .number n => n.jsonText
  | .text s => string s

def prettyItems (level : Nat) : List JsonValue → List String
  | [] => []
  | item :: rest => prettyAt level item :: prettyItems level rest

def prettyEntries (level : Nat) : List (String × JsonValue) → List String
  | [] => []
  | (name, value) :: rest =>
    (string name ++ ": " ++ prettyAt level value) :: prettyEntries level rest

end

theorem prettyItems_eq_map (level : Nat) (items : List JsonValue) :
    prettyItems level items = items.map (prettyAt level) := by
  induction items with
  | nil => rfl
  | cons item rest ih => exact congrArg (_ :: ·) ih

theorem prettyEntries_eq_map (level : Nat) (entries : List (String × JsonValue)) :
    prettyEntries level entries =
      entries.map fun e => string e.1 ++ ": " ++ prettyAt level e.2 := by
  induction entries with
  | nil => rfl
  | cons entry rest ih => exact congrArg (_ :: ·) ih

def pretty (v : JsonValue) : String := prettyAt 0 v

end JsonValue

end RecordQuery
