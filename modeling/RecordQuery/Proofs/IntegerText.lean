/-
# RecordQuery.Proofs.IntegerText -- the numbers that decimal texts spell, and their order

A decimal text of any length, with a sign and leading zeros or without, is read as a
signed number of 64 bits, an unsigned one or a floating point number, the first that can
hold its value (`ofText?_of_isDecimal`).  The last of these is the nearest one; only a
value that would be rounded to infinity spells no number.  The number read depends on
the value of the text alone and lies where the value is rounded to.  So the order of the
values survives in the numbers (`integer_texts_ordered`): it is exact where both values
fit into 64 bits, and elsewhere never the wrong way round.
-/
import RecordQuery.Proofs.Coercion
import RecordQuery.Proofs.NumberOrder
import Mathlib.Data.List.TakeWhile

namespace RecordQuery

set_option autoImplicit false

/-! ## Digits -/

theorem ofDigitChars_dropZeros (digits : List Char) :
    Nat.ofDigitChars 10 (digits.dropWhile (· == '0')) 0 = Nat.ofDigitChars 10 digits 0 := by
  induction digits with
  | nil => rfl
  | cons c digits ih =>
      by_cases zero : c = '0'
      · subst zero
        rw [List.dropWhile_cons_of_pos (by rfl), ih, Nat.ofDigitChars_cons]
        rfl
      · rw [List.dropWhile_cons_of_neg (by simpa using zero)]

theorem one_le_digit {c : Char} (isDigit : c.isDigit = true) (notZero : c ≠ '0') :
    1 ≤ c.toNat - '0'.toNat := by
  have code : c.toNat ≠ '0'.toNat := mt Char.toNat_inj.mp notZero
  have least : '0'.toNat ≤ c.toNat := by
    rw [Char.isDigit, Bool.and_eq_true, decide_eq_true_iff] at isDigit
    exact UInt32.le_iff_toNat_le.mp isDigit.1
  omega

/-- A digit that is not zero has the weight of its place at least. -/
theorem pow_le_ofDigitChars {c : Char} (digits : List Char) (isDigit : c.isDigit = true)
    (notZero : c ≠ '0') : 10 ^ digits.length ≤ Nat.ofDigitChars 10 (c :: digits) 0 := by
  have first := Nat.mul_le_mul_left (10 ^ digits.length) (one_le_digit isDigit notZero)
  rw [Nat.mul_one] at first
  rw [Nat.ofDigitChars_cons, Nat.ofDigitChars_eq_ofDigitChars_zero, Nat.mul_zero, Nat.zero_add]
  exact first.trans (Nat.le_add_right _ _)

namespace DecimalLiteral

/-- A whole text is read as a literal without fraction and exponent. -/
theorem ofText?_of_isDecimal {t : List Char} {v : Int} (decimal : Text.IsDecimal t v) :
    ∃ negative digits, ofText? t = some ⟨negative, digits, 0⟩ ∧
      (∀ c ∈ digits, c.isDigit = true) ∧
      v = if negative then -(Nat.ofDigitChars 10 digits 0 : Int) else Nat.ofDigitChars 10 digits 0 := by
  obtain ⟨digits, nonempty, all, shape⟩ := decimal
  have whole : digits.takeWhile Char.isDigit = digits := List.takeWhile_eq_self_iff.mpr all
  have rest : digits.dropWhile Char.isDigit = [] := List.dropWhile_eq_nil_iff.mpr all
  rcases shape with ⟨rfl | rfl, value⟩ | ⟨rfl, value⟩
  · refine ⟨false, _, ?_, all, value⟩
    simp [ofText?, Text.splitSign_digits nonempty all, whole, rest, nonempty, exponent?]
  · refine ⟨false, digits, ?_, all, value⟩
    simp [ofText?, Text.splitSign, whole, rest, nonempty, exponent?]
  · refine ⟨true, digits, ?_, all, value⟩
    simp [ofText?, Text.splitSign, whole, rest, nonempty, exponent?]

theorem overflow_le_of_digits {significant : List Char}
    (all : ∀ c ∈ significant, c.isDigit = true) (noZero : ∀ c ∈ significant.head?, c ≠ '0')
    (long : overflowExponent < significant.length) :
    Binary64.overflow ≤ Nat.ofDigitChars 10 significant 0 := by
  cases significant with
  | nil => cases long
  | cons c digits =>
      have least := pow_le_ofDigitChars digits (all c List.mem_cons_self) (noZero c rfl)
      have length : overflowExponent.toNat ≤ digits.length := by
        rw [List.length_cons] at long
        omega
      calc Binary64.overflow ≤ 10 ^ overflowExponent.toNat := by decide +kernel
        _ ≤ 10 ^ digits.length := Nat.pow_le_pow_right (by decide) length
        _ ≤ Nat.ofDigitChars 10 (c :: digits) 0 := least

/-- Neither leading zeros nor the length of a whole text matter, only its value. -/
theorem toBinary64_of_digits (negative : Bool) {digits : List Char}
    (all : ∀ c ∈ digits, c.isDigit = true) :
    toBinary64 ⟨negative, digits, 0⟩ =
      .ofRatio negative (Nat.ofDigitChars 10 digits 0) 1 := by
  have value := ofDigitChars_dropZeros digits
  have significantDigits : ∀ c ∈ digits.dropWhile (· == '0'), c.isDigit = true :=
    fun c member => all c ((List.dropWhile_sublist _).subset member)
  have noZero : ∀ c ∈ (digits.dropWhile (· == '0')).head?, c ≠ '0' := by
    intro c first
    simpa [Option.mem_def.mp first] using List.head?_dropWhile_not (· == '0') digits
  unfold toBinary64
  dsimp only
  rw [value]
  split
  · rename_i small
    have zero : Nat.ofDigitChars 10 digits 0 = 0 :=
      small.resolve_right (by simp [underflowExponent]; omega)
    rw [zero, Binary64.ofRatio, Nat.zero_mul]
    rfl
  · split
    · rename_i long
      have large := overflow_le_of_digits significantDigits noZero (by simpa using long)
      rw [value] at large
      exact (Binary64.ofRatio_of_overflow_le large negative).symm
    · rw [if_pos (Int.le_refl 0)]
      simp

end DecimalLiteral

/-! ## What a value is read as -/

namespace Number

theorem ofInt?_cases (v : Int) :
    (∃ k : Int64, ofInt? v = some (.signed k) ∧ k.toInt = v) ∨
      (2 ^ 63 ≤ v ∧ ∃ k : UInt64, ofInt? v = some (.unsigned k) ∧ (k.toNat : Int) = v) ∨
      ((v < -2 ^ 63 ∨ 2 ^ 64 ≤ v) ∧ ofInt? v = none) := by
  have least : Int64.minValue.toInt = -2 ^ 63 := rfl
  have greatest : Int64.maxValue.toInt = 2 ^ 63 - 1 := rfl
  have size : (UInt64.size : Int) = 2 ^ 64 := rfl
  unfold ofInt?
  rw [least, greatest, size]
  split
  · rename_i fits
    exact .inl ⟨_, rfl, Int64.toInt_ofInt_of_le fits.1 (by omega)⟩
  · split
    · rename_i fits
      have inRange : v.toNat < UInt64.size := by omega
      refine .inr (.inl ⟨by omega, _, rfl, ?_⟩)
      rw [UInt64.toNat_ofNat_of_lt' inRange]
      omega
    · exact .inr (.inr ⟨by omega, rfl⟩)

/-- What a text of this value is read as: the first form that can hold the value, or nothing if it
is rounded to infinity. -/
inductive ReadAs (v : Int) : Option Number → Prop
  | signed (k : Int64) (value : k.toInt = v) : ReadAs v (some (.signed k))
  | unsigned (k : UInt64) (value : (k.toNat : Int) = v) (large : 2 ^ 63 ≤ v) :
      ReadAs v (some (.unsigned k))
  | binary (outside : v < -2 ^ 63 ∨ 2 ^ 64 ≤ v) (finite : v.natAbs < Binary64.overflow) :
      ReadAs v (some (.binary (.ofInt v)))
  | nothing (infinite : Binary64.overflow ≤ v.natAbs) : ReadAs v none

/-- The floating point number of a whole text is the one nearest to its value. -/
theorem toBinary64_of_isDecimal {t : List Char} {v : Int} (decimal : Text.IsDecimal t v)
    (nonzero : v ≠ 0) :
    ∃ d, DecimalLiteral.ofText? t = some d ∧ d.toBinary64 = .ofInt v := by
  obtain ⟨negative, digits, read, all, value⟩ := DecimalLiteral.ofText?_of_isDecimal decimal
  refine ⟨_, read, ?_⟩
  rw [DecimalLiteral.toBinary64_of_digits negative all, Binary64.ofInt]
  have sign : decide (v < 0) = negative := by
    cases negative with
    | false => exact decide_eq_false (by rw [value]; simp)
    | true => exact decide_eq_true (by rw [if_pos rfl] at value; omega)
  have magnitude : v.natAbs = Nat.ofDigitChars 10 digits 0 := by
    rw [value]
    split <;> simp
  rw [sign, magnitude]

/-- **A decimal text is read by its value alone**, whatever its sign, its zeros and its length. -/
theorem readAs_ofText? {t : List Char} {v : Int} (decimal : Text.IsDecimal t v) :
    ReadAs v (ofText? t) := by
  rw [ofText?, Text.integer?_eq_some_iff.mpr decimal, Option.bind_some]
  rcases ofInt?_cases v with ⟨k, held, value⟩ | ⟨large, k, held, value⟩ | ⟨outside, held⟩
  · rw [held]
    exact .signed k value
  · rw [held]
    exact .unsigned k value large
  · obtain ⟨d, read, nearest⟩ := toBinary64_of_isDecimal decimal (by omega)
    rw [held, Option.none_or, read, Option.bind_some, nearest]
    dsimp only
    split
    · rename_i finite
      exact .binary outside (Binary64.isFinite_ofInt_iff.mp finite)
    · rename_i infinite
      exact .nothing (Nat.le_of_not_lt (mt Binary64.isFinite_ofInt_iff.mpr infinite))

namespace ReadAs

variable {v w m : Int} {p q : Number} {read : Option Number}

theorem signed_iff (readAs : ReadAs v read) :
    (∃ k, read = some (.signed k) ∧ k.toInt = v) ↔ -2 ^ 63 ≤ v ∧ v < 2 ^ 63 := by
  constructor
  · rintro ⟨k, -, rfl⟩
    exact ⟨k.le_toInt, k.toInt_lt⟩
  · intro fits
    cases readAs with
    | signed k value => exact ⟨k, rfl, value⟩
    | unsigned k value large => omega
    | binary outside finite => omega
    | nothing infinite =>
        have large := Binary64.two_pow_64_le_overflow
        omega

theorem unsigned_iff (readAs : ReadAs v read) :
    (∃ k, read = some (.unsigned k) ∧ (k.toNat : Int) = v) ↔ 2 ^ 63 ≤ v ∧ v < 2 ^ 64 := by
  constructor
  · rintro ⟨k, rfl, rfl⟩
    cases readAs with
    | unsigned _ _ large => exact ⟨large, by exact_mod_cast k.toNat_lt⟩
  · intro fits
    cases readAs with
    | signed k value =>
        have bound := k.toInt_lt
        omega
    | unsigned k value large => exact ⟨k, rfl, value⟩
    | binary outside finite => omega
    | nothing infinite =>
        have large := Binary64.two_pow_64_le_overflow
        omega

theorem eq_none_iff (readAs : ReadAs v read) : read = none ↔ Binary64.overflow ≤ v.natAbs := by
  have large := Binary64.two_pow_64_le_overflow
  cases readAs with
  | signed k value =>
      have least := k.le_toInt
      have bound := k.toInt_lt
      simp only [reduceCtorEq, false_iff]
      omega
  | unsigned k value large =>
      have bound := k.toNat_lt
      simp only [reduceCtorEq, false_iff]
      omega
  | binary outside finite =>
      simp only [reduceCtorEq, false_iff]
      omega
  | nothing infinite => simp [infinite]

/-- What 64 bits do not hold is read as a floating point number, unless it is too large for one. -/
theorem eq_binary (readAs : ReadAs v read) (outside : v < -2 ^ 63 ∨ 2 ^ 64 ≤ v)
    (finite : v.natAbs < Binary64.overflow) : read = some (.binary (.ofInt v)) := by
  cases readAs with
  | signed k value =>
      have least := k.le_toInt
      have bound := k.toInt_lt
      omega
  | unsigned k value large =>
      have bound := k.toNat_lt
      omega
  | binary outside finite => rfl
  | nothing infinite => omega

/-! ## Order -/

theorem liesAt (readAs : ReadAs v (some p)) : p.LiesAt (Binary64.roundedPosition v) := by
  cases readAs with
  | signed k value =>
      rw [← value]
      exact liesAt_of_integer? rfl
  | unsigned k value large =>
      rw [← value]
      exact liesAt_of_integer? rfl
  | binary outside finite => exact Binary64.position?_ofInt v

theorem eq_of_integer? (readAs : ReadAs v (some p)) (whole : p.integer? = some m) : m = v := by
  cases readAs with
  | signed k value => exact (Option.some.inj whole).symm.trans value
  | unsigned k value large => exact (Option.some.inj whole).symm.trans value
  | binary outside finite => cases whole

theorem integer?_of_fits (readAs : ReadAs v (some p)) (fits : -2 ^ 63 ≤ v ∧ v < 2 ^ 64) :
    p.integer? = some v := by
  cases readAs with
  | signed k value => rw [integer?, value]
  | unsigned k value large => rw [integer?, value]
  | binary outside finite => omega

theorem atMost (left : ReadAs v (some p)) (right : ReadAs w (some q)) (le : v ≤ w) :
    p.AtMost q := by
  rcases whole_or_mixed p q with ⟨m, n, whole, other⟩ | mixed
  · rw [atMost_iff_le whole other, left.eq_of_integer? whole, right.eq_of_integer? other]
    exact le
  · rw [atMost_iff_of_order? (order?_of_mixed mixed left.liesAt right.liesAt), Int.compare_ne_gt]
    exact Binary64.roundedPosition_mono le

end ReadAs

/-- **Texts of whole numbers are read in their order**, at any length.  A value is read as a signed
number exactly if 64 bits with a sign hold it, as an unsigned one exactly if only 64 bits without a
sign do, and otherwise as the nearest floating point number, or not at all from the magnitude on
that is rounded to infinity.  Numbers that are read from equal values are equal, and from a smaller
and a greater value the first is at most the second.  Where 64 bits hold both values, the numbers
compare as the values do. -/
theorem integer_texts_ordered {a b : List Char} {v w : Int} (left : Text.IsDecimal a v)
    (right : Text.IsDecimal b w) :
    ((∃ k, ofText? a = some (.signed k) ∧ k.toInt = v) ↔ -2 ^ 63 ≤ v ∧ v < 2 ^ 63) ∧
    ((∃ k, ofText? a = some (.unsigned k) ∧ (k.toNat : Int) = v) ↔ 2 ^ 63 ≤ v ∧ v < 2 ^ 64) ∧
    (v < -2 ^ 63 ∨ 2 ^ 64 ≤ v → v.natAbs < Binary64.overflow →
      ofText? a = some (.binary (.ofInt v))) ∧
    (ofText? a = none ↔ Binary64.overflow ≤ v.natAbs) ∧
    ∀ p q, ofText? a = some p → ofText? b = some q →
      (v = w → p.order? q = some .eq) ∧ (v < w → p.AtMost q) ∧
      (-2 ^ 63 ≤ v ∧ v < 2 ^ 64 → -2 ^ 63 ≤ w ∧ w < 2 ^ 64 →
        p.order? q = some (compare v w)) := by
  have readA := readAs_ofText? left
  have readB := readAs_ofText? right
  refine ⟨readA.signed_iff, readA.unsigned_iff, readA.eq_binary, readA.eq_none_iff, ?_⟩
  intro p q first second
  rw [first] at readA
  rw [second] at readB
  refine ⟨fun same => ?_, fun lt => readA.atMost readB (Int.le_of_lt lt), fun fits fitsToo => ?_⟩
  · rw [order?_eq_eq_iff]
    exact ⟨readA.atMost readB same.le, readB.atMost readA same.ge⟩
  · exact order?_of_whole (readA.integer?_of_fits fits) (readB.integer?_of_fits fitsToo)

/-- The greatest number of 64 bits and the next one, which has zeros in front and is read as a
floating point number: it is not told apart from the first, but does not come before it. -/
theorem integer_texts_ordered_at_64_bits :
    Text.IsDecimal "18446744073709551615".toList 18446744073709551615 ∧
      Text.IsDecimal "+0018446744073709551616".toList 18446744073709551616 ∧
      ∃ p q, ofText? "18446744073709551615".toList = some p ∧
        ofText? "+0018446744073709551616".toList = some q ∧ p.AtMost q := by
  have left : Text.IsDecimal "18446744073709551615".toList 18446744073709551615 :=
    Text.integer?_eq_some_iff.mp (by decide +kernel)
  have right : Text.IsDecimal "+0018446744073709551616".toList 18446744073709551616 :=
    Text.integer?_eq_some_iff.mp (by decide +kernel)
  have first : ofText? "18446744073709551615".toList = some (.unsigned 18446744073709551615) := by
    decide +kernel
  have second : ofText? "+0018446744073709551616".toList =
      some (.binary (.ofInt 18446744073709551616)) := by decide +kernel
  obtain ⟨-, -, -, -, ordered⟩ := integer_texts_ordered left right
  exact ⟨left, right, _, _, first, second, (ordered _ _ first second).2.1 (by decide)⟩

end Number

end RecordQuery
