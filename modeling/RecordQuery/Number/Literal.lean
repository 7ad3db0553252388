/-
# RecordQuery.Number.Literal -- numbers from decimal text

A text is read as a whole number in the first form that holds it, and otherwise as
the floating point number nearest to its decimal value.  A value too large for a
finite floating point number is no number, and neither is any word for infinity or
NaN.
-/
import RecordQuery.Text.Decimal
import RecordQuery.Number.Basic

namespace RecordQuery

set_option autoImplicit false

/-- A decimal value: a signed digit string, scaled by a power of ten. -/
structure DecimalLiteral where
  negative : Bool
  digits : List Char
  exponent : Int

namespace DecimalLiteral

/-- Reads the part from the exponent mark on; no mark stands for exponent zero. -/
def exponent? : List Char → Option Int
  | [] => some 0
  | mark :: rest => if mark = 'e' ∨ mark = 'E' then Text.integer? rest else none

/-- Reads an optional sign, digits with an optional point (and a digit on at least one side of
it), and an optional exponent. -/
def ofText? (t : List Char) : Option DecimalLiteral :=
  let (negative, t) := Text.splitSign t
  let whole := t.takeWhile Char.isDigit
  let afterWhole := t.dropWhile Char.isDigit
  let (fraction, tail) :=
    match afterWhole with
    | '.' :: rest => (rest.takeWhile Char.isDigit, rest.dropWhile Char.isDigit)
    | rest => ([], rest)
  if whole = [] ∧ fraction = [] then none
  else (exponent? tail).map fun e => ⟨negative, whole ++ fraction, e - fraction.length⟩

/-- Every magnitude of at least ten to this power is infinite. -/
def overflowExponent : Int := 310

/-- Every magnitude below ten to this power is zero. -/
def underflowExponent : Int := -330

/-- The floating point number nearest to the value.  An exponent far outside the format's range
decides the result without the power of ten being computed. -/
def toBinary64 (d : DecimalLiteral) : Binary64 :=
  let significant := d.digits.dropWhile (· == '0')
  let n := Nat.ofDigitChars 10 significant 0
  let above := significant.length + d.exponent
  if n = 0 ∨ above ≤ underflowExponent then .ofRank d.negative 0
  else if overflowExponent < above then .infinite d.negative
  else if 0 ≤ d.exponent then .ofRatio d.negative (n * Nat.pow 10 d.exponent.toNat) 1
  else .ofRatio d.negative n (Nat.pow 10 (-d.exponent).toNat)

end DecimalLiteral

namespace Number

/-- The number that a whole text spells, if any. -/
def ofText? (t : List Char) : Option Number :=
  ((Text.integer? t).bind ofInt?).or <|
    (DecimalLiteral.ofText? t).bind fun d =>
      let x := d.toBinary64
      if x.isFinite then some (.binary x) else none

/-- No text spells NaN. -/
theorem ofText?_ne_nan (t : List Char) : ofText? t ≠ some (.binary .nan) := by
  intro spelled
  rcases Option.or_eq_some_iff.mp spelled with whole | ⟨-, point⟩
  · obtain ⟨n, -, held⟩ := Option.bind_eq_some_iff.mp whole
    unfold ofInt? at held
    split at held
    · cases held
    · split at held <;> cases held
  · obtain ⟨d, -, kept⟩ := Option.bind_eq_some_iff.mp point
    obtain ⟨finite, same⟩ := Option.ite_none_right_eq_some.mp kept
    have nan : d.toBinary64 = .nan := binary.inj (Option.some.inj same)
    rw [nan] at finite
    cases finite

end Number

end RecordQuery
