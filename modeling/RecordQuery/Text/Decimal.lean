/-
# RecordQuery.Text.Decimal -- whole numbers in decimal

`ofInt` writes a whole number with a minus sign in front of a negative one and no
leading zeros; `integer?` reads an optional sign and at least one digit, leading
zeros included.  `integer?_ofInt` says that what is written reads back.
-/

namespace RecordQuery.Text

set_option autoImplicit false

/-- The value of a non-empty run of ASCII digits. -/
def natural? (t : List Char) : Option Nat :=
  if t ≠ [] ∧ t.all Char.isDigit then some (Nat.ofDigitChars 10 t 0) else none

/-- Splits off one leading sign; true stands for minus. -/
def splitSign : List Char → Bool × List Char
  | '-' :: rest => (true, rest)
  | '+' :: rest => (false, rest)
  | rest => (false, rest)

/-- The value of an optional sign followed by digits. -/
def integer? (t : List Char) : Option Int :=
  let (negative, rest) := splitSign t
  (natural? rest).map fun (n : Nat) => if negative then -(n : Int) else (n : Int)

/-- The decimal digits of a whole number, with a minus sign if it is negative. -/
def digitsOfInt (n : Int) : List Char :=
  if n < 0 then '-' :: Nat.toDigits 10 (-n).toNat else Nat.toDigits 10 n.toNat

def ofInt (n : Int) : String :=
  String.ofList (digitsOfInt n)

theorem natural?_toDigits (n : Nat) : natural? (Nat.toDigits 10 n) = some n := by
  have digits : ∀ c ∈ Nat.toDigits 10 n, c.isDigit = true :=
    fun c hc => Nat.isDigit_of_mem_toDigits (by decide) (by decide) hc
  have nonempty : Nat.toDigits 10 n ≠ [] := Nat.toDigits_ne_nil
  simp [natural?, nonempty]
  exact digits

theorem splitSign_of_isDigit {c : Char} {t : List Char} (digit : c.isDigit = true) :
    splitSign (c :: t) = (false, c :: t) := by
  unfold splitSign
  split
  · rename_i same; cases same; exact absurd digit (by decide)
  · rename_i same; cases same; exact absurd digit (by decide)
  · rfl

theorem splitSign_toDigits (n : Nat) :
    splitSign (Nat.toDigits 10 n) = (false, Nat.toDigits 10 n) := by
  cases shape : Nat.toDigits 10 n with
  | nil => exact absurd shape Nat.toDigits_ne_nil
  | cons c t =>
    have first : c ∈ Nat.toDigits 10 n := by simp [shape]
    exact splitSign_of_isDigit (Nat.isDigit_of_mem_toDigits (by decide) (by decide) first)

theorem integer?_digitsOfInt (n : Int) : integer? (digitsOfInt n) = some n := by
  by_cases sign : n < 0
  · have digits : digitsOfInt n = '-' :: Nat.toDigits 10 (-n).toNat := if_pos sign
    have back : -((-n).toNat : Int) = n := by omega
    simp only [integer?, digits, splitSign, natural?_toDigits, Option.map_some, if_true, back]
  · have digits : digitsOfInt n = Nat.toDigits 10 n.toNat := if_neg sign
    have back : (n.toNat : Int) = n := by omega
    simp only [integer?, digits, splitSign_toDigits, natural?_toDigits, Option.map_some,
      Bool.false_eq_true, if_false, back]

theorem integer?_ofInt (n : Int) : integer? (ofInt n).toList = some n := by
  simp [ofInt, integer?_digitsOfInt]

end RecordQuery.Text
