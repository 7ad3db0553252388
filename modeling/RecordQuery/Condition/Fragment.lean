/-
# RecordQuery.Condition.Fragment -- reading one condition from text

A fragment is an optional `|`, a key, an operator code and a value; keys are words
and a value is one or more words between commas.  The underscore is a word
character and the code of the list operator, so a fragment can split in several
places: the longest key that leaves a value behind it is the one read.

`Fragment.WellFormed` says what a split of a text is, `split?` finds the one with the
longest key, and `Condition.parse` builds its condition.  `diagnose` names what is
wrong with a text that no split fits.
-/
import RecordQuery.Condition.Basic
import RecordQuery.Text.Word

namespace RecordQuery

set_option autoImplicit false

/-- A text taken apart into key, operator and the words of the value. -/
structure Fragment where
  key : List Char
  operator : Operator
  words : List (List Char)
deriving DecidableEq

namespace Fragment

/-- The text of a fragment without its `|`. -/
def text (f : Fragment) : List Char :=
  f.key ++ f.operator.code :: [Operand.separator].intercalate f.words

/-- The key is a word, and so is each of the at least one words of the value. -/
def WellFormed (f : Fragment) : Prop :=
  Text.isWord f.key = true ∧ f.words ≠ [] ∧ ∀ w ∈ f.words, Text.isWord w = true

/-- The words between commas, if every one of them is a word. -/
def words? (value : List Char) : Option (List (List Char)) :=
  let words := value.splitOn Operand.separator
  if words.all Text.isWord then some words else none

/-- The split with the longest key.  The key cannot reach past the leading word characters.  If an
operator code other than the underscore follows them, the whole run is the key; otherwise the
run has to hold the code itself, as its last underscore that leaves something on either side. -/
def split? (body : List Char) : Option Fragment :=
  let run := body.takeWhile Text.isWordChar
  let inner (more : List (List Char)) : Option Fragment :=
    (Text.splitLastInner run).map fun (key, word) => ⟨key, .oneOf, word :: more⟩
  match body.dropWhile Text.isWordChar with
  | [] => inner []
  | c :: value =>
    if c = Operand.separator then (words? value).bind inner
    else if run = [] then none
    else do
      let operator ← Operator.ofCode? c
      let words ← words? value
      some ⟨run, operator, words⟩

/-- The operand that the value stands for: always a list for the list operator, and a list for any
other if the value holds a comma. -/
def operand (f : Fragment) : Operand :=
  match f.operator, f.words with
  | .oneOf, words => .many (words.map fun w => .text (String.ofList w))
  | _, [word] => .one (.text (String.ofList word))
  | _, words => .many (words.map fun w => .text (String.ofList w))

def toCondition (f : Fragment) (connective : Connective) : Condition :=
  ⟨some connective, String.ofList f.key, f.operator, f.operand⟩

/-- Splits off the mark that connects by `or`. -/
def splitMark : List Char → Connective × List Char
  | [] => (.and, [])
  | c :: rest => if c = Condition.orMark then (.or, rest) else (.and, c :: rest)

/-- Two separators stand next to each other. -/
def hasDoubleSeparator : List Char → Bool
  | a :: b :: rest =>
    (a == Operand.separator && b == Operand.separator) || hasDoubleSeparator (b :: rest)
  | _ => false

/-- What is wrong with a text, given without its mark, that has no split. -/
def diagnose (body : List Char) : TextFault :=
  let rest := body.dropWhile Text.isWordChar
  if body = [] then .emptyFragment
  else if body.takeWhile Text.isWordChar = [] then .missingKey
  else if rest.head? = some Operand.separator ∨ hasDoubleSeparator body = true
      ∨ body.getLast? = some Operand.separator then .emptyListElement
  else match rest with
    | [] => if body.getLast? = some Operator.oneOf.code then .missingValue else .missingOperator
    | c :: value =>
      if Operator.ofCode? c = none then .unknownOperatorCode
      else match value with
        | [] => .missingValue
        | first :: _ =>
          if first = Operand.separator then .emptyListElement else .invalidValueCharacter

end Fragment

namespace Condition

/-- Reads one fragment. -/
def parse (text : String) : Except QueryError Condition :=
  let (connective, body) := Fragment.splitMark text.toList
  match Fragment.split? body with
  | some fragment => .ok (fragment.toCondition connective)
  | none => .error (.malformed text (Fragment.diagnose body))

end Condition

end RecordQuery
