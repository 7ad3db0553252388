/-
# RecordQuery.Proofs.NumberOrder -- what kind of order the numbers have

Every number but NaN lies somewhere on the line of floating point numbers, whole
numbers at the nearest one (`LiesAt`).  Two whole numbers compare by their values, which
never contradicts where they lie; all others compare by where they lie.  From this the
order is strict (`strictly_ordered`).

Being at most another number is less than a preorder.  Beyond 2⁵³, two whole numbers can
lie on one floating point number, which is then equal to both although one of them is
greater.  Being at most is transitive exactly where no numbers are crossed in this way
(`preorder_unless_crossed`); `crossed_past_53_bits` has the first three that are.
-/
import RecordQuery.Number.Basic
import RecordQuery.Proofs.RoundedInteger

namespace RecordQuery

set_option autoImplicit false

namespace Number

open Binary64 (roundedPosition)

variable {a b c : Number}

/-! ## Where numbers lie -/

/-- The position of the nearest floating point number.  NaN lies nowhere. -/
def LiesAt (a : Number) (p : Int) : Prop :=
  a.toBinary64.position? = some p

theorem exists_liesAt (notNan : a ≠ .binary .nan) : ∃ p, a.LiesAt p := by
  apply Option.ne_none_iff_exists'.mp
  rwa [Ne, Binary64.position?_eq_none_iff, toBinary64_eq_nan_iff]

theorem liesAt_of_integer? {m : Int} (whole : a.integer? = some m) :
    a.LiesAt (roundedPosition m) := by
  cases a with
  | signed n =>
      cases whole
      exact Binary64.position?_ofInt _
  | unsigned n =>
      cases whole
      exact Binary64.position?_ofInt _
  | binary x => cases whole

theorem exists_liesAt_of_order? {outcome : Ordering} (compared : a.order? b = some outcome) :
    (∃ p, a.LiesAt p) ∧ ∃ q, b.LiesAt q := by
  have comparable : ¬ (a = .binary .nan ∨ b = .binary .nan) := by
    rw [← order?_eq_none_iff, compared]
    simp
  rw [not_or] at comparable
  exact ⟨exists_liesAt comparable.1, exists_liesAt comparable.2⟩

/-! ## The two ways to compare -/

theorem whole_or_mixed (a b : Number) :
    (∃ m n, a.integer? = some m ∧ b.integer? = some n) ∨
      (a.integer? = none ∨ b.integer? = none) := by
  cases a.integer? <;> cases b.integer? <;> simp

theorem order?_of_whole {m n : Int} (left : a.integer? = some m) (right : b.integer? = some n) :
    a.order? b = some (compare m n) := by
  rw [order?, left, right]

theorem order?_of_mixed {p q : Int} (mixed : a.integer? = none ∨ b.integer? = none)
    (left : a.LiesAt p) (right : b.LiesAt q) : a.order? b = some (compare p q) := by
  have rounded : a.order? b = a.toBinary64.order? b.toBinary64 := by
    rcases mixed with noInteger | noInteger <;> rw [order?, noInteger]
    cases a.integer? <;> rfl
  rw [rounded, Binary64.order?, left, right]

theorem order?_swap (a b : Number) : b.order? a = (a.order? b).map .swap := by
  rcases whole_or_mixed a b with ⟨m, n, left, right⟩ | mixed
  · rw [order?_of_whole left right, order?_of_whole right left, Option.map_some, Int.compare_swap]
  · by_cases nan : a = .binary .nan ∨ b = .binary .nan
    · rw [order?_eq_none_iff.mpr nan, order?_eq_none_iff.mpr nan.symm, Option.map_none]
    · rw [not_or] at nan
      obtain ⟨p, left⟩ := exists_liesAt nan.1
      obtain ⟨q, right⟩ := exists_liesAt nan.2
      rw [order?_of_mixed mixed left right, order?_of_mixed mixed.symm right left, Option.map_some,
        Int.compare_swap]

/-- The first number is not the greater one. -/
def AtMost (a b : Number) : Prop :=
  a.order? b = some .lt ∨ a.order? b = some .eq

instance (a b : Number) : Decidable (AtMost a b) :=
  inferInstanceAs (Decidable (_ ∨ _))

theorem AtMost.exists_liesAt (atMost : a.AtMost b) : ∃ p q, a.LiesAt p ∧ b.LiesAt q := by
  obtain ⟨⟨p, left⟩, q, right⟩ : (∃ p, a.LiesAt p) ∧ ∃ q, b.LiesAt q :=
    atMost.elim exists_liesAt_of_order? exists_liesAt_of_order?
  exact ⟨p, q, left, right⟩

theorem atMost_iff_of_order? {outcome : Ordering} (compared : a.order? b = some outcome) :
    a.AtMost b ↔ outcome ≠ .gt := by
  cases outcome <;> simp [AtMost, compared]

/-- **No comparison contradicts where the numbers lie.** -/
theorem AtMost.le {p q : Int} (atMost : a.AtMost b) (left : a.LiesAt p) (right : b.LiesAt q) :
    p ≤ q := by
  rcases whole_or_mixed a b with ⟨m, n, whole, other⟩ | mixed
  · have values : m ≤ n := by
      rwa [atMost_iff_of_order? (order?_of_whole whole other), Int.compare_ne_gt] at atMost
    obtain rfl := Option.some.inj (left.symm.trans (liesAt_of_integer? whole))
    obtain rfl := Option.some.inj (right.symm.trans (liesAt_of_integer? other))
    exact Binary64.roundedPosition_mono values
  · rwa [atMost_iff_of_order? (order?_of_mixed mixed left right), Int.compare_ne_gt] at atMost

/-! ## A strict order -/

/-- One number is less than another if it lies lower, or if both are whole and its value is less. -/
theorem order?_eq_lt_iff {p q : Int} (left : a.LiesAt p) (right : b.LiesAt q) :
    a.order? b = some .lt ↔
      p < q ∨ ∃ m n, a.integer? = some m ∧ b.integer? = some n ∧ m < n := by
  rcases whole_or_mixed a b with ⟨m, n, whole, other⟩ | mixed
  · rw [order?_of_whole whole other, Option.some.injEq, Int.compare_eq_lt]
    constructor
    · exact fun lt => .inr ⟨m, n, whole, other, lt⟩
    · rintro (lt | ⟨_, _, whole', other', lt⟩)
      · -- A lower position belongs to a smaller value.
        obtain rfl := Option.some.inj (left.symm.trans (liesAt_of_integer? whole))
        obtain rfl := Option.some.inj (right.symm.trans (liesAt_of_integer? other))
        by_contra notLess
        exact Int.not_lt.mpr (Binary64.roundedPosition_mono (Int.not_lt.mp notLess)) lt
      · cases whole.symm.trans whole'
        cases other.symm.trans other'
        exact lt
  · rw [order?_of_mixed mixed left right, Option.some.injEq, Int.compare_eq_lt, iff_self_or]
    rintro ⟨m, n, whole, other, -⟩
    simp [whole, other] at mixed

theorem order?_lt_trans (first : a.order? b = some .lt) (second : b.order? c = some .lt) :
    a.order? c = some .lt := by
  obtain ⟨⟨p, atP⟩, q, atQ⟩ := exists_liesAt_of_order? first
  obtain ⟨-, r, atR⟩ := exists_liesAt_of_order? second
  have lower : p ≤ q := AtMost.le (.inl first) atP atQ
  have upper : q ≤ r := AtMost.le (.inl second) atQ atR
  rw [order?_eq_lt_iff atP atQ] at first
  rw [order?_eq_lt_iff atQ atR] at second
  rw [order?_eq_lt_iff atP atR]
  rcases first with lt | ⟨m, n, left, middle, lt⟩
  · exact .inl (Int.lt_of_lt_of_le lt upper)
  · rcases second with lt' | ⟨n', k, middle', right, lt'⟩
    · exact .inl (Int.lt_of_le_of_lt lower lt')
    · cases middle.symm.trans middle'
      exact .inr ⟨m, k, left, right, Int.lt_trans lt lt'⟩

/-- **Numbers are strictly ordered**, whatever their forms: only NaN does not compare, an exchange
of the two numbers turns the outcome around, and being less is transitive. -/
theorem strictly_ordered (a b c : Number) :
    (a.order? b = none ↔ a = .binary .nan ∨ b = .binary .nan) ∧
      b.order? a = (a.order? b).map .swap ∧
      (a.order? b = some .lt → b.order? c = some .lt → a.order? c = some .lt) :=
  ⟨order?_eq_none_iff, order?_swap a b, order?_lt_trans⟩

/-! ## Not quite a preorder -/

/-- Two whole numbers lie on one floating point number, which is equal to both, and the greater one
comes first. -/
def Crossed (a b c : Number) : Prop :=
  ∃ m n x, a.integer? = some m ∧ b = .binary x ∧ c.integer? = some n ∧ n < m ∧
    a.order? b = some .eq ∧ b.order? c = some .eq

theorem Crossed.past_53_bits (crossed : Crossed a b c) : ∃ m n, a.integer? = some m ∧
    c.integer? = some n ∧ 2 ^ 53 < max m.natAbs n.natAbs := by
  obtain ⟨m, n, x, left, rfl, right, lt, above, below⟩ := crossed
  refine ⟨m, n, left, right, ?_⟩
  by_contra notLarge
  have small := max_le_iff.mp (Nat.le_of_not_lt notLarge)
  -- Both would lie where they are, and on one number.
  obtain ⟨-, p, position⟩ := exists_liesAt_of_order? above
  rw [order?_of_mixed (.inr rfl) (liesAt_of_integer? left) position, Option.some.injEq,
    Int.compare_eq_eq, Binary64.roundedPosition_of_small small.1] at above
  rw [order?_of_mixed (.inl rfl) position (liesAt_of_integer? right), Option.some.injEq,
    Int.compare_eq_eq, Binary64.roundedPosition_of_small small.2] at below
  have steps : (0 : Int) < Binary64.stepsPerUnit := Int.natCast_pos.mpr Binary64.stepsPerUnit_pos
  have same : m = n := Int.eq_of_mul_eq_mul_right steps.ne' (above.trans below)
  omega

theorem atMost_total (left : a ≠ .binary .nan) (right : b ≠ .binary .nan) :
    a.AtMost b ∨ b.AtMost a := by
  have compared : a.order? b ≠ none := by
    rw [Ne, order?_eq_none_iff]
    exact not_or.mpr ⟨left, right⟩
  obtain ⟨outcome, compared⟩ := Option.ne_none_iff_exists'.mp compared
  have reversed : b.order? a = some outcome.swap := by rw [order?_swap, compared, Option.map_some]
  rw [atMost_iff_of_order? compared, atMost_iff_of_order? reversed]
  cases outcome <;> simp

/-- Two whole numbers around a floating point number keep their order, unless both lie on it. -/
theorem le_or_crossed {m n : Int} {x : Binary64} (left : a.integer? = some m)
    (right : c.integer? = some n) (first : a.AtMost (.binary x)) (second : (binary x).AtMost c) :
    m ≤ n ∨ Crossed a (.binary x) c := by
  rcases Int.lt_or_le n m with lt | le
  · have atP := liesAt_of_integer? left
    have atR := liesAt_of_integer? right
    obtain ⟨-, q, -, atQ⟩ := first.exists_liesAt
    have lower : roundedPosition m ≤ q := first.le atP atQ
    have upper : q ≤ roundedPosition n := second.le atQ atR
    have turned : roundedPosition n ≤ roundedPosition m :=
      Binary64.roundedPosition_mono (Int.le_of_lt lt)
    have above : a.order? (.binary x) = some .eq := by
      rw [order?_of_mixed (.inr rfl) atP atQ, Int.compare_eq_eq.mpr (by omega)]
    have below : (binary x).order? c = some .eq := by
      rw [order?_of_mixed (.inl rfl) atQ atR, Int.compare_eq_eq.mpr (by omega)]
    exact .inr ⟨m, n, x, left, rfl, right, lt, above, below⟩
  · exact .inl le

theorem atMost_iff_le {m n : Int} (left : a.integer? = some m) (right : b.integer? = some n) :
    a.AtMost b ↔ m ≤ n := by
  rw [atMost_iff_of_order? (order?_of_whole left right), Int.compare_ne_gt]

/-- Being at most is transitive but for numbers that are crossed. -/
theorem atMost_trans_iff (first : a.AtMost b) (second : b.AtMost c) :
    a.AtMost c ↔ ¬ Crossed a b c := by
  constructor
  · rintro atMost ⟨m, n, x, left, -, right, lt, -⟩
    exact absurd ((atMost_iff_le left right).mp atMost) (Int.not_le.mpr lt)
  · intro notCrossed
    rcases whole_or_mixed a c with ⟨m, n, left, right⟩ | mixed
    · rw [atMost_iff_le left right]
      cases b with
      | binary x => exact (le_or_crossed left right first second).resolve_right notCrossed
      | signed k | unsigned k =>
          have lower := (atMost_iff_le left rfl).mp first
          have upper := (atMost_iff_le rfl right).mp second
          exact Int.le_trans lower upper
    · obtain ⟨p, q, atP, atQ⟩ := first.exists_liesAt
      obtain ⟨-, r, -, atR⟩ := second.exists_liesAt
      rw [atMost_iff_of_order? (order?_of_mixed mixed atP atR), Int.compare_ne_gt]
      exact Int.le_trans (first.le atP atQ) (second.le atQ atR)

theorem order?_eq_eq_iff : a.order? b = some .eq ↔ a.AtMost b ∧ b.AtMost a := by
  rw [AtMost, AtMost, order?_swap a b]
  cases a.order? b with
  | none => simp
  | some outcome => cases outcome <;> simp

/-- **Numbers are totally preordered unless some are crossed.**  Of two numbers that are not NaN,
one is at most the other.  Being at most, and being equal, pass from two numbers to the next unless
the first and the third are crossed; then they are whole numbers, and not both up to 2⁵³. -/
theorem preorder_unless_crossed (a b c : Number) :
    (a ≠ .binary .nan → b ≠ .binary .nan → a.AtMost b ∨ b.AtMost a) ∧
    (a.AtMost b → b.AtMost c → (a.AtMost c ↔ ¬ Crossed a b c)) ∧
    (a.order? b = some .eq → b.order? c = some .eq →
      (a.order? c = some .eq ↔ ¬ Crossed a b c ∧ ¬ Crossed c b a)) ∧
    (Crossed a b c → ∃ m n, a.integer? = some m ∧ c.integer? = some n ∧
      2 ^ 53 < max m.natAbs n.natAbs) := by
  refine ⟨atMost_total, atMost_trans_iff, fun first second => ?_, Crossed.past_53_bits⟩
  rw [order?_eq_eq_iff] at first second ⊢
  rw [atMost_trans_iff first.1 second.1, atMost_trans_iff second.2 first.2]

/-- **The numbers are not totally preordered**: 2⁵³ + 1 is rounded to 2⁵³, and is equal to it as a
floating point number, which is equal to 2⁵³ as a whole number; but 2⁵³ + 1 is greater. -/
theorem crossed_past_53_bits :
    let a : Number := .signed 9007199254740993
    let b : Number := .binary (.ofInt 9007199254740992)
    let c : Number := .signed 9007199254740992
    (a.AtMost b ∧ b.AtMost c ∧ ¬ a.AtMost c) ∧
      a.order? b = some .eq ∧ b.order? c = some .eq ∧ a.order? c = some .gt := by
  decide +kernel

end Number

end RecordQuery
