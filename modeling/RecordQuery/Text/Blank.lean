/-
# RecordQuery.Text.Blank -- blank characters

The white space of the Unicode standard: six control characters, the spaces of
every width and the line and paragraph separators.  `trim` takes it off both ends
of a text.
-/

namespace RecordQuery.Text

set_option autoImplicit false

/-- The blank characters as ranges of code points in increasing order. -/
def blankRanges : List (Nat × Nat) := [
  (0x9, 0xD), (0x20, 0x20), (0x85, 0x85), (0xA0, 0xA0), (0x1680, 0x1680), (0x2000, 0x200A),
  (0x2028, 0x2029), (0x202F, 0x202F), (0x205F, 0x205F), (0x3000, 0x3000)]

def isBlank (c : Char) : Bool :=
  blankRanges.any fun (first, last) => first ≤ c.toNat && c.toNat ≤ last

/-- The text without the blanks at either end. -/
def trim (t : List Char) : List Char :=
  ((t.dropWhile isBlank).reverse.dropWhile isBlank).reverse

end RecordQuery.Text
