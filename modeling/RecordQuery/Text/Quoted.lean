/-
# RecordQuery.Text.Quoted -- text between quotation marks, for messages

`quoted` shows any text on one line and unambiguously: the quotation mark and the
backslash get a backslash, four control characters have a letter of their own, and
every other character that cannot be seen or that attaches to its neighbour is
given by its code point.
-/
import RecordQuery.Text.Unprintable
import RecordQuery.Text.Extending

namespace RecordQuery.Text

set_option autoImplicit false

/-- The code point of a character in lower-case hexadecimal, between braces. -/
def codePointEscape (c : Char) : List Char :=
  ['\\', 'u', '\x7b'] ++ Nat.toDigits 16 c.toNat ++ ['\x7d']

def quotedChar (c : Char) : List Char :=
  if c = '\x22' ∨ c = '\\' then ['\\', c]
  else if c = '\x00' then ['\\', '0']
  else if c = '\t' then ['\\', 't']
  else if c = '\n' then ['\\', 'n']
  else if c = '\r' then ['\\', 'r']
  else if isUnprintable c || isExtending c then codePointEscape c
  else [c]

/-- The text between quotation marks, with every character that would be unclear escaped. -/
def quoted (text : String) : String :=
  String.ofList ('\x22' :: (text.toList.flatMap quotedChar ++ ['\x22']))

end RecordQuery.Text
