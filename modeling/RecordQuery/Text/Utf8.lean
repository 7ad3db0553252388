/-
# RecordQuery.Text.Utf8 -- characters and ranges of characters as bytes

`utf8` gives the one to four bytes of a character.  `utf8Ranges` describes a range of
characters by sequences of byte ranges: a character is in the range exactly if its
bytes lie one by one in the ranges of one sequence.
-/

namespace RecordQuery.Text

set_option autoImplicit false

/-- The byte with these six low bits that is not the first of a character. -/
def laterByte (bits : Nat) : Nat := 0x80 + bits % 0x40

/-- The bytes of a code point. -/
def utf8 (code : Nat) : List Nat :=
  if code < 0x80 then [code]
  else if code < 0x800 then [0xC0 + code / 0x40, laterByte code]
  else if code < 0x10000 then [0xE0 + code / 0x1000, laterByte (code / 0x40), laterByte code]
  else [0xF0 + code / 0x40000, laterByte (code / 0x1000), laterByte (code / 0x40), laterByte code]

/-- What code points of one length have in common: they lie between two code points. -/
def utf8Blocks : List (Nat × Nat) :=
  [(0, 0x7F), (0x80, 0x7FF), (0x800, 0xD7FF), (0xE000, 0xFFFF), (0x10000, 0x10FFFF)]

/-- All later bytes, so many times. -/
def anyLater (n : Nat) : List (Nat × Nat) := List.replicate n (0x80, 0xBF)

/-- The sequences from a text of bytes to the last one of its length with the same first byte. -/
def fromBytes : List Nat → List (List (Nat × Nat))
  | [] => [[]]
  | b :: rest =>
    if rest.all (· == 0x80) then [(b, 0xBF) :: anyLater rest.length]
    else
      (fromBytes rest).map ((b, b) :: ·) ++
        if b < 0xBF then [(b + 1, 0xBF) :: anyLater rest.length] else []

/-- The sequences from the first text of later bytes up to this one. -/
def toBytes : List Nat → List (List (Nat × Nat))
  | [] => [[]]
  | b :: rest =>
    if rest.all (· == 0xBF) then [(0x80, b) :: anyLater rest.length]
    else
      (if 0x80 < b then [(0x80, b - 1) :: anyLater rest.length] else []) ++
        (toBytes rest).map ((b, b) :: ·)

/-- The sequences between two texts of bytes of one length. -/
def betweenBytes : List Nat → List Nat → List (List (Nat × Nat))
  | a :: as, b :: bs =>
    if a == b then (betweenBytes as bs).map ((a, a) :: ·)
    else
      let first := if as.all (· == 0x80) then a else a + 1
      let last := if bs.all (· == 0xBF) then b else b - 1
      (if first == a then [] else (fromBytes as).map ((a, a) :: ·)) ++
        (if first ≤ last then [(first, last) :: anyLater as.length] else []) ++
        if last == b then [] else (toBytes bs).map ((b, b) :: ·)
  | _, _ => [[]]

/-- The sequences of a range of code points.  Surrogates have none. -/
def utf8Ranges (first last : Nat) : List (List (Nat × Nat)) :=
  utf8Blocks.flatMap fun (low, high) =>
    let a := max first low
    let b := min last high
    if a ≤ b then betweenBytes (utf8 a) (utf8 b) else []

end RecordQuery.Text
