/-
# RecordQuery.Text.CodePoints -- sets of code points in writing

Large sets of characters are written as a text of hexadecimal ranges between
blanks: `41-5A` is a range, `AA` a single code point, and `100-136/2` every second
code point of a range.  `codePoints` reads such a text.
-/

namespace RecordQuery.Text

set_option autoImplicit false

/-- The value of a hexadecimal digit in upper case. -/
def hexValue (c : Char) : Nat :=
  if c.isDigit then c.toNat - '0'.toNat else c.toNat - 'A'.toNat + 10

/-- The value of hexadecimal digits. -/
def hexNumber (digits : List Char) : Nat :=
  digits.foldl (fun n c => 16 * n + hexValue c) 0

/-- The single code points from the first to the last by steps. -/
def stepped (first last stride : Nat) : List (Nat × Nat) :=
  (List.range ((last - first) / stride + 1)).map fun k => (first + k * stride, first + k * stride)

/-- The ranges of one entry. -/
def entryRanges (entry : List Char) : List (Nat × Nat) :=
  let range := entry.takeWhile (· != '/')
  let first := hexNumber (range.takeWhile (· != '-'))
  let last := match range.dropWhile (· != '-') with
    | [] => first
    | _ :: digits => hexNumber digits
  match entry.dropWhile (· != '/') with
  | [] => [(first, last)]
  | _ :: stride => stepped first last (hexNumber stride)

/-- The entries of a text between blanks, `entry` being what has been read of one, last character
first. -/
def splitEntries (entry : List Char) : List Char → List (List Char)
  | [] => if entry = [] then [] else [entry.reverse]
  | c :: rest =>
    if c = ' ' ∨ c = '\n' then
      if entry = [] then splitEntries [] rest else entry.reverse :: splitEntries [] rest
    else splitEntries (c :: entry) rest

/-- The ranges that a text gives, in its order. -/
def codePoints (t : String) : List (Nat × Nat) :=
  (splitEntries [] t.toList).flatMap entryRanges

end RecordQuery.Text
