/-
# RecordQuery.Number.Rounding -- quotients to the nearest whole number, ties to even

`nearestQuotient n d` is the whole number nearest to `n / d`; of two equally near
ones it is the even one.  `nearestQuotient_mono` says that rounding never turns an
order around.
-/

namespace RecordQuery

set_option autoImplicit false

/-- The whole number nearest to the quotient, the even one of two equally near. -/
def nearestQuotient (num den : Nat) : Nat :=
  let q := num / den
  let r := num % den
  if 2 * r > den ∨ (2 * r = den ∧ q % 2 = 1) then q + 1 else q

/-- The rounded quotient is the quotient or the next number. -/
theorem nearestQuotient_bounds (num den : Nat) :
    num / den ≤ nearestQuotient num den ∧ nearestQuotient num den ≤ num / den + 1 := by
  unfold nearestQuotient
  dsimp only
  split <;> omega

theorem nearestQuotient_mono {m n den : Nat} (le : m ≤ n) :
    nearestQuotient m den ≤ nearestQuotient n den := by
  have quotients : m / den ≤ n / den := Nat.div_le_div_right le
  rcases Nat.lt_or_eq_of_le quotients with lt | same
  · have := nearestQuotient_bounds m den
    have := nearestQuotient_bounds n den
    omega
  · have split_m := Nat.div_add_mod m den
    have split_n := Nat.div_add_mod n den
    rw [same] at split_m
    have remainders : m % den ≤ n % den := by omega
    unfold nearestQuotient
    rw [same]
    dsimp only
    split <;> split <;> omega

end RecordQuery
