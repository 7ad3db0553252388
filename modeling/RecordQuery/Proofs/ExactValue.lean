/-
# RecordQuery.Proofs.ExactValue -- comparisons and exact values

A floating point number stands for a rational number or an infinity (`value?`).  A whole
number is compared with it after being rounded, so the comparison can miss a difference,
and beyond 2⁵³ it does.  `whole_order_faithful` says what can be relied on: an outcome is
never the wrong way round, and up to 2⁵³ it is exact.
-/
import RecordQuery.Proofs.NumberOrder
import Mathlib.Algebra.Order.Field.Rat
import Mathlib.Order.WithBotTop

namespace RecordQuery

set_option autoImplicit false

namespace Binary64

/-- The exact value of a floating point number, a rational number or an infinity; NaN has none. -/
def value? : Binary64 → Option (WithBotTop ℚ)
  | .nan => none
  | .infinite true => some ⊥
  | .infinite false => some ⊤
  | .finite negative rank => some (signedUnits negative rank / stepsPerUnit : ℚ)

variable {x : Binary64} {v : WithBotTop ℚ} {p n : Int}

theorem exists_value_of_isFinite (isFinite : x.isFinite = true) : ∃ v, x.value? = some v := by
  cases x with
  | finite negative rank => exact ⟨_, rfl⟩
  | nan | infinite negative => cases isFinite

theorem intCast_lt_div_iff :
    ((n : ℚ) : WithBotTop ℚ) < (p / stepsPerUnit : ℚ) ↔ n * stepsPerUnit < p := by
  have steps : (0 : ℚ) < stepsPerUnit := Nat.cast_pos.mpr stepsPerUnit_pos
  rw [WithBotTop.coe_lt_coe, lt_div_iff₀ steps]
  exact_mod_cast Iff.rfl

theorem div_lt_intCast_iff :
    ((p / stepsPerUnit : ℚ) : WithBotTop ℚ) < (n : ℚ) ↔ p < n * stepsPerUnit := by
  have steps : (0 : ℚ) < stepsPerUnit := Nat.cast_pos.mpr stepsPerUnit_pos
  rw [WithBotTop.coe_lt_coe, div_lt_iff₀ steps]
  exact_mod_cast Iff.rfl

theorem lt_value_of_roundedPosition_lt (value : x.value? = some v) (position : x.position? = some p)
    (lt : roundedPosition n < p) : ((n : ℚ) : WithBotTop ℚ) < v := by
  match x with
  | .infinite true =>
      cases position
      exact absurd lt (Int.not_lt.mpr (roundedPosition_bounds n).1)
  | .infinite false =>
      cases value
      exact lt_top_iff_ne_top.mpr (WithBotTop.coe_ne_top _)
  | .finite negative rank =>
      cases value
      cases position
      rw [intCast_lt_div_iff]
      by_contra notBelow
      have turned := le_roundedPosition (Nat.le_of_lt rank.isLt) (Int.not_lt.mp notBelow)
      omega

theorem value_lt_of_lt_roundedPosition (value : x.value? = some v) (position : x.position? = some p)
    (lt : p < roundedPosition n) : v < ((n : ℚ) : WithBotTop ℚ) := by
  match x with
  | .infinite true =>
      cases value
      exact bot_lt_iff_ne_bot.mpr (WithBotTop.coe_ne_bot _)
  | .infinite false =>
      cases position
      exact absurd lt (Int.not_lt.mpr (roundedPosition_bounds n).2)
  | .finite negative rank =>
      cases value
      cases position
      rw [div_lt_intCast_iff]
      by_contra notAbove
      have turned := roundedPosition_le (Nat.le_of_lt rank.isLt) (Int.not_lt.mp notAbove)
      omega

/-- A small whole number lies nowhere but at its value. -/
theorem value_eq_of_small (small : n.natAbs ≤ 2 ^ 53) (value : x.value? = some v)
    (position : x.position? = some (roundedPosition n)) : v = ((n : ℚ) : WithBotTop ℚ) := by
  have inside := roundedPosition_inside small
  match x with
  | .infinite true =>
      have outside := Option.some.inj position
      omega
  | .infinite false =>
      have outside := Option.some.inj position
      omega
  | .finite negative rank =>
      cases value
      have exact := Option.some.inj position
      rw [roundedPosition_of_small small] at exact
      have steps : (stepsPerUnit : ℚ) ≠ 0 := Nat.cast_ne_zero.mpr stepsPerUnit_pos.ne'
      rw [exact, Int.cast_mul, Int.cast_natCast, mul_div_cancel_right₀ _ steps]

end Binary64

namespace Number

open Binary64 (roundedPosition)

variable {a b : Number} {m : Int} {x : Binary64} {v : WithBotTop ℚ}

/-! ## Whole numbers against exact values -/

/-- A comparison has an outcome, which is not the wrong way round for these values; if they are
small, it is exact. -/
def Faithful (outcome? : Option Ordering) (v w : WithBotTop ℚ) (small : Prop) : Prop :=
  ∃ outcome, outcome? = some outcome ∧ (outcome = .lt → v < w) ∧ (outcome = .gt → w < v) ∧
    (small → outcome = .eq → v = w)

theorem Faithful.swap {outcome? : Option Ordering} {v w : WithBotTop ℚ} {small : Prop}
    (faithful : Faithful outcome? v w small) : Faithful (outcome?.map .swap) w v small := by
  obtain ⟨outcome, rfl, less, greater, equal⟩ := faithful
  refine ⟨outcome.swap, rfl, ?_, ?_, ?_⟩ <;> cases outcome <;> simp_all [eq_comm]

theorem order?_binary_faithful (whole : a.integer? = some m) (value : x.value? = some v) :
    Faithful (a.order? (.binary x)) ((m : ℚ) : WithBotTop ℚ) v (m.natAbs ≤ 2 ^ 53) := by
  have notNan : x ≠ .nan := by
    rintro rfl
    cases value
  obtain ⟨p, position⟩ : ∃ p, x.position? = some p :=
    Option.ne_none_iff_exists'.mp (mt Binary64.position?_eq_none_iff.mp notNan)
  have outcome : a.order? (.binary x) = some (compare (roundedPosition m) p) :=
    order?_of_mixed (.inr rfl) (liesAt_of_integer? whole) position
  refine ⟨_, outcome, fun less => ?_, fun greater => ?_, fun small equal => ?_⟩
  · exact Binary64.lt_value_of_roundedPosition_lt value position (Int.compare_eq_lt.mp less)
  · exact Binary64.value_lt_of_lt_roundedPosition value position (Int.compare_eq_gt.mp greater)
  · obtain rfl := Int.compare_eq_eq.mp equal
    exact (Binary64.value_eq_of_small small value position).symm

/-- **The comparison of a whole number is faithful** to the exact values.  Against a floating point
number, in either order, it is never the wrong way round, and for whole numbers up to 2⁵³ only equal
values compare as equal.  Two whole numbers, of whichever forms, compare as their values do. -/
theorem whole_order_faithful (whole : a.integer? = some m) :
    (∀ x v, x.value? = some v →
      Faithful (a.order? (.binary x)) ((m : ℚ) : WithBotTop ℚ) v (m.natAbs ≤ 2 ^ 53) ∧
      Faithful ((Number.binary x).order? a) v ((m : ℚ) : WithBotTop ℚ) (m.natAbs ≤ 2 ^ 53)) ∧
    ∀ b n, b.integer? = some n → a.order? b = some (compare m n) := by
  refine ⟨fun x v value => ?_, fun b n other => order?_of_whole whole other⟩
  have faithful := order?_binary_faithful whole value
  refine ⟨faithful, ?_⟩
  rw [order?_swap]
  exact faithful.swap

theorem whole_order_faithful_53_bits :
    (Number.unsigned 9007199254740992).integer? = some 9007199254740992 ∧
      ∃ v, (Binary64.ofInt 9007199254740992).value? = some v ∧
        v = ((9007199254740992 : ℤ) : ℚ) := by
  have whole : (Number.unsigned 9007199254740992).integer? = some 9007199254740992 := by decide
  have isFinite : (Binary64.ofInt 9007199254740992).isFinite = true := by decide +kernel
  have equal : (Number.unsigned 9007199254740992).order? (.binary (.ofInt 9007199254740992)) =
      some .eq := by decide +kernel
  obtain ⟨v, value⟩ := Binary64.exists_value_of_isFinite isFinite
  obtain ⟨outcome, compared, -, -, exact⟩ := ((whole_order_faithful whole).1 _ v value).1
  cases equal.symm.trans compared
  exact ⟨whole, v, value, (exact (by decide) rfl).symm⟩

/-- Beyond 2⁵³ a difference can be missed. -/
example : (Number.unsigned 18446744073709551615).order?
    (.binary (.ofInt 18446744073709551616)) = some .eq := by
  decide +kernel

end Number

end RecordQuery
