/-
# RecordQuery.Text.Word -- words over letters, digits and the underscore

Keys and literals of query text are words: non-empty runs of ASCII letters, ASCII
digits and underscores.  No other letter or digit is a word character.
-/

namespace RecordQuery.Text

set_option autoImplicit false

def isWordChar (c : Char) : Bool :=
  c.isAlphanum || c == '_'

/-- A non-empty run of word characters. -/
def isWord (t : List Char) : Bool :=
  !t.isEmpty && t.all isWordChar

theorem isWord_iff {t : List Char} : isWord t = true ↔ t ≠ [] ∧ ∀ c ∈ t, isWordChar c = true := by
  simp [isWord]

/-- Splits at the last underscore that has a character on either side. -/
def splitLastInner (t : List Char) : Option (List Char × List Char) :=
  match t.reverse with
  | [] => none
  | last :: front =>
    match front.dropWhile (· != '_') with
    | _ :: key@(_ :: _) => some (key.reverse, (last :: front.takeWhile (· != '_')).reverse)
    | _ => none

end RecordQuery.Text
