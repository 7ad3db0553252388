/-
# RecordQuery.Test.Pattern -- patterns with the wildcard `%`

A pattern without a wildcard matches every text that holds it.  One with wildcards
is pinned at both ends: the pieces between the wildcards have to appear in order,
the first at the start of the text and the last at its end, with anything at all in
between.  `Pattern.accepts` takes each middle piece at the first place it is found.
-/

namespace RecordQuery

set_option autoImplicit false

inductive Pattern where
  /-- Matches every text that holds the piece. -/
  | holding (piece : List Char)
  /-- Matches the pieces in order, pinned at both ends. -/
  | pinned (first : List Char) (middle : List (List Char)) (last : List Char)
deriving DecidableEq

namespace Pattern

/-- Stands for any run of characters. -/
def wildcard : Char := '%'

/-- A compiled pattern may not take more bytes than this. -/
def sizeLimit : Nat := 10485760

/-- The bytes that a pattern with wildcards takes when its regular expression is compiled for going
backward through a text, which takes the most.  A state takes 32 bytes, and 4 for each way out of a
state that tries several.  The ends have four states.  A wildcard has 30, with 11 such ways: one
state to repeat or to go on, one for nine sequences of byte ranges, which any character is one of,
27 for the ranges in them and one behind them.  Each byte between wildcards has one. -/
def compiledSize (wildcards literalBytes : Nat) : Nat :=
  32 * 4 + (32 * 30 + 4 * 11) * wildcards + 32 * literalBytes

/-- A pattern from its text, unless it has wildcards and takes too much room. -/
def ofText? (text : String) : Option Pattern :=
  match text.toList.splitOn wildcard with
  | [] | [_] => some (.holding text.toList)
  | first :: rest =>
    if sizeLimit < compiledSize rest.length (text.utf8ByteSize - rest.length) then none
    else some (.pinned first rest.dropLast (rest.getLast?.getD []))

/-- What follows the first occurrence of a piece in a text. -/
def afterFirst? (piece : List Char) : List Char → Option (List Char)
  | [] => if piece = [] then some [] else none
  | c :: rest =>
    if piece.isPrefixOf (c :: rest) then some ((c :: rest).drop piece.length)
    else afterFirst? piece rest

/-- What follows the pieces, each taken at the first place where it occurs. -/
def afterAll? : List (List Char) → List Char → Option (List Char)
  | [], text => some text
  | piece :: pieces, text => (afterFirst? piece text).bind (afterAll? pieces)

def acceptsList (pattern : Pattern) (text : List Char) : Bool :=
  match pattern with
  | .holding piece => (afterFirst? piece text).isSome
  | .pinned first middle last =>
    first.isPrefixOf text &&
      match afterAll? middle (text.drop first.length) with
      | some rest => last.isSuffixOf rest
      | none => false

def accepts (pattern : Pattern) (text : String) : Bool :=
  pattern.acceptsList text.toList

end Pattern

end RecordQuery
