/-
# RecordQuery.Proofs.NearestRank -- rounding follows the order of magnitudes

The ranks number the magnitudes in increasing order, and rounding must not lose that
order.  Two facts about `nearestRank` say all of it: it never turns two values around
(`nearestRank_mono`), and it takes every magnitude to its own rank
(`nearestRank_unitsAt_mul`).  So a greater rank has a greater magnitude
(`unitsAt_strictMono`), and a value on one side of a magnitude rounds to a rank on the
same side (`le_nearestRank`, `nearestRank_le`).

Rounding keeps the 53 leading bits of the quotient.  Two values that lose equally many
bits round as quotients by one divisor do.  Where the greater one loses more, the rank
at which its scale begins stands between the two.

`nearestRank_nearest` says that the name is right: of all magnitudes the nearest is
taken, and of two equally near ones that of even rank.
-/
import RecordQuery.Number.Binary64
import Mathlib.Order.Monotone.Basic
import Mathlib.Tactic.Ring

namespace RecordQuery

set_option autoImplicit false

theorem scaleSize_eq : scaleSize = 2 ^ 52 := rfl

theorem nearestQuotient_mul (q : Nat) {den : Nat} (pos : 0 < den) :
    nearestQuotient (q * den) den = q := by
  have exact : ¬ (2 * 0 > den ∨ (2 * 0 = den ∧ q % 2 = 1)) := by omega
  simp only [nearestQuotient, Nat.mul_div_cancel _ pos, Nat.mul_mod_left, if_neg exact]

namespace Binary64

/-! ## The bits that rounding drops -/

/-- How many bits of a quotient are dropped: all but the 53 leading ones. -/
def droppedBits (quotient : Nat) : Nat :=
  quotient.log2 - 52

theorem droppedBits_mono {p q : Nat} (le : p ≤ q) : droppedBits p ≤ droppedBits q := by
  by_cases zero : p = 0
  · simp [zero, droppedBits]
  · have positive : q ≠ 0 := by omega
    have logs : p.log2 ≤ q.log2 :=
      (Nat.le_log2 positive).mpr ((Nat.log2_self_le zero).trans le)
    exact Nat.sub_le_sub_right logs 52

theorem droppedBits_of_lt {q : Nat} (small : q < scaleSize) : droppedBits q = 0 := by
  by_cases zero : q = 0
  · simp [zero, droppedBits]
  · have logs : q.log2 < 52 := (Nat.log2_lt zero).mpr small
    exact Nat.sub_eq_zero_of_le (Nat.le_of_lt logs)

theorem droppedBits_mul_pow {significand : Nat} (least : scaleSize ≤ significand)
    (bound : significand < 2 * scaleSize) (shift : Nat) :
    droppedBits (significand * 2 ^ shift) = shift := by
  rw [scaleSize_eq] at least bound
  have positive : 0 < significand * 2 ^ shift := Nat.mul_pos (by omega) (Nat.two_pow_pos shift)
  have low : 2 ^ (52 + shift) ≤ significand * 2 ^ shift := by
    rw [Nat.pow_add]
    exact Nat.mul_le_mul_right _ least
  have high : significand * 2 ^ shift < 2 ^ (53 + shift) := by
    rw [Nat.pow_add]
    exact Nat.mul_lt_mul_of_pos_right bound (Nat.two_pow_pos shift)
  have above := (Nat.le_log2 positive.ne').mpr low
  have below := (Nat.log2_lt positive.ne').mpr high
  unfold droppedBits
  omega

theorem nearestRank_eq (num den : Nat) :
    nearestRank num den = nearestQuotient num (den * 2 ^ droppedBits (num / den)) +
      droppedBits (num / den) * scaleSize := by
  rw [← Nat.shiftLeft_eq]
  rfl

/-- What is left has at most 53 bits. -/
theorem kept_lt (num den : Nat) :
    num / (den * 2 ^ droppedBits (num / den)) < 2 * scaleSize := by
  have bits : (num / den).log2 + 1 ≤ 53 + droppedBits (num / den) := by
    unfold droppedBits
    omega
  rw [← Nat.div_div_eq_div_mul, Nat.div_lt_iff_lt_mul (Nat.two_pow_pos _)]
  calc num / den < 2 ^ ((num / den).log2 + 1) := Nat.lt_log2_self
    _ ≤ 2 ^ (53 + droppedBits (num / den)) := Nat.pow_le_pow_right (by decide) bits
    _ = 2 * scaleSize * 2 ^ droppedBits (num / den) := Nat.pow_add 2 53 _

/-- Where bits are dropped, 53 are left. -/
theorem le_kept {num den : Nat} (drops : 0 < droppedBits (num / den)) :
    scaleSize ≤ num / (den * 2 ^ droppedBits (num / den)) := by
  have bits : 52 + droppedBits (num / den) = (num / den).log2 := by
    unfold droppedBits at drops ⊢
    omega
  have nonzero : num / den ≠ 0 := by
    intro zero
    simp [zero, droppedBits] at drops
  rw [← Nat.div_div_eq_div_mul, Nat.le_div_iff_mul_le (Nat.two_pow_pos _)]
  calc scaleSize * 2 ^ droppedBits (num / den) = 2 ^ (52 + droppedBits (num / den)) :=
        (Nat.pow_add 2 52 _).symm
    _ = 2 ^ (num / den).log2 := by rw [bits]
    _ ≤ num / den := Nat.log2_self_le nonzero

/-! ## Rounding and magnitudes -/

/-- **Rounding never turns two values around.** -/
theorem nearestRank_mono {m n : Nat} (den : Nat) (le : m ≤ n) :
    nearestRank m den ≤ nearestRank n den := by
  have quotients : m / den ≤ n / den := Nat.div_le_div_right le
  rw [nearestRank_eq, nearestRank_eq]
  rcases Nat.lt_or_eq_of_le (droppedBits_mono quotients) with more | same
  · -- The rank `2 ^ 52 * (d + 1)` is where values that lose `d` bits begin.
    have below := kept_lt m den
    have above := le_kept (Nat.zero_lt_of_lt more)
    have belowRounded := (nearestQuotient_bounds m (den * 2 ^ droppedBits (m / den))).2
    have aboveRounded := (nearestQuotient_bounds n (den * 2 ^ droppedBits (n / den))).1
    have scales : (droppedBits (m / den) + 1) * scaleSize ≤ droppedBits (n / den) * scaleSize :=
      Nat.mul_le_mul_right _ more
    rw [Nat.succ_mul] at scales
    omega
  · rw [same]
    exact Nat.add_le_add_right (nearestQuotient_mono le) _

theorem unitsAt_of_lt {rank : Nat} (small : rank < scaleSize) : unitsAt rank = rank :=
  if_pos small

/-- The rank of a significand of 53 bits counts its shift in scales. -/
theorem unitsAt_significand {significand : Nat} (least : scaleSize ≤ significand)
    (bound : significand < 2 * scaleSize) (shift : Nat) :
    unitsAt (significand + shift * scaleSize) = significand * 2 ^ shift := by
  have positive : 0 < scaleSize := by decide
  have large : ¬ significand + shift * scaleSize < scaleSize := by omega
  have leading : significand / scaleSize = 1 :=
    Nat.div_eq_of_lt_le (by omega) (by omega)
  have rest : scaleSize + significand % scaleSize = significand := by
    have split := Nat.div_add_mod significand scaleSize
    rw [leading] at split
    omega
  rw [unitsAt, if_neg large, Nat.add_mul_mod_self_right, rest, Nat.add_mul_div_right _ _ positive,
    leading, Nat.shiftLeft_eq, Nat.add_sub_cancel_left]

/-- A rank counts steps of one size up to where the next scale begins. -/
theorem unitsAt_add_scales {steps shift : Nat} (bound : steps ≤ 2 * scaleSize)
    (scaled : 0 < shift → scaleSize ≤ steps) :
    unitsAt (steps + shift * scaleSize) = steps * 2 ^ shift := by
  by_cases small : steps < scaleSize
  · obtain rfl : shift = 0 := by
      by_contra drops
      exact absurd (scaled (Nat.pos_of_ne_zero drops)) (Nat.not_le.mpr small)
    rw [Nat.zero_mul, Nat.add_zero, unitsAt_of_lt small, Nat.pow_zero, Nat.mul_one]
  · rcases Nat.lt_or_eq_of_le bound with lt | rfl
    · exact unitsAt_significand (Nat.le_of_not_lt small) lt shift
    · have next : 2 * scaleSize + shift * scaleSize = scaleSize + (shift + 1) * scaleSize := by ring
      rw [next, unitsAt_significand (Nat.le_refl _) (by decide), Nat.pow_succ]
      ring

theorem exists_significand {rank : Nat} (large : scaleSize ≤ rank) :
    ∃ significand shift, rank = significand + shift * scaleSize ∧ scaleSize ≤ significand ∧
      significand < 2 * scaleSize := by
  have positive : 0 < scaleSize := by decide
  have split := Nat.div_add_mod' rank scaleSize
  have inScale := Nat.mod_lt rank positive
  have scales : 1 ≤ rank / scaleSize := (Nat.one_le_div_iff positive).mpr large
  refine ⟨scaleSize + rank % scaleSize, rank / scaleSize - 1, ?_, by omega, by omega⟩
  have counted : (rank / scaleSize - 1) * scaleSize + scaleSize = rank / scaleSize * scaleSize := by
    rw [← Nat.succ_mul, Nat.succ_eq_add_one, Nat.sub_add_cancel scales]
  omega

/-- **Every magnitude rounds to itself.** -/
theorem nearestRank_unitsAt_mul (rank : Nat) {den : Nat} (pos : 0 < den) :
    nearestRank (unitsAt rank * den) den = rank := by
  rw [nearestRank_eq, Nat.mul_div_cancel _ pos]
  by_cases small : rank < scaleSize
  · rw [unitsAt_of_lt small, droppedBits_of_lt small, Nat.pow_zero, Nat.mul_one,
      nearestQuotient_mul rank pos, Nat.zero_mul, Nat.add_zero]
  · obtain ⟨significand, shift, rfl, least, bound⟩ := exists_significand (Nat.le_of_not_lt small)
    rw [unitsAt_significand least bound, droppedBits_mul_pow least bound, Nat.mul_assoc,
      Nat.mul_comm (2 ^ shift) den, nearestQuotient_mul _ (Nat.mul_pos pos (Nat.two_pow_pos shift))]

theorem le_nearestRank {rank num den : Nat} (pos : 0 < den) (le : unitsAt rank * den ≤ num) :
    rank ≤ nearestRank num den := by
  have rounded := nearestRank_mono den le
  rwa [nearestRank_unitsAt_mul rank pos] at rounded

theorem nearestRank_le {rank num den : Nat} (pos : 0 < den) (le : num ≤ unitsAt rank * den) :
    nearestRank num den ≤ rank := by
  have rounded := nearestRank_mono den le
  rwa [nearestRank_unitsAt_mul rank pos] at rounded

/-- The ranks number the magnitudes in increasing order. -/
theorem unitsAt_strictMono : StrictMono unitsAt := by
  intro rank other lt
  by_contra notLess
  have turned := nearestRank_mono 1 (Nat.le_of_not_lt notLess)
  have own := nearestRank_unitsAt_mul rank Nat.one_pos
  have others := nearestRank_unitsAt_mul other Nat.one_pos
  rw [Nat.mul_one] at own others
  omega

/-! ## The nearest magnitude -/

/-- What remains on the way from a rank's magnitude to `num / den`, in parts of `den`. -/
def distance (num den rank : Nat) : Nat :=
  ((num : Int) - (unitsAt rank * den : Nat)).natAbs

/-- The two magnitudes around a value are steps of the size that rounding keeps. -/
theorem exists_neighbours (num : Nat) {den : Nat} (pos : 0 < den) :
    ∃ lower step q, lower % 2 = q % 2 ∧ unitsAt lower * den = q * step ∧
      unitsAt (lower + 1) * den = q * step + step ∧ q * step + num % step = num ∧
      num % step < step ∧
      nearestRank num den =
        if 2 * (num % step) > step ∨ (2 * (num % step) = step ∧ q % 2 = 1) then lower + 1
        else lower := by
  have kept := kept_lt num den
  have scaled : 0 < droppedBits (num / den) →
      scaleSize ≤ num / (den * 2 ^ droppedBits (num / den)) := le_kept
  rw [nearestRank_eq]
  generalize droppedBits (num / den) = d at kept scaled ⊢
  have positive : 0 < den * 2 ^ d := Nat.mul_pos pos (Nat.two_pow_pos d)
  generalize rounded : num / (den * 2 ^ d) = q at kept scaled
  refine ⟨q + d * scaleSize, den * 2 ^ d, q, ?_, ?_, ?_, ?_, Nat.mod_lt num positive, ?_⟩
  · have even : d * scaleSize % 2 = 0 :=
      Nat.mod_eq_zero_of_dvd (Dvd.dvd.mul_left (by decide) d)
    omega
  · rw [unitsAt_add_scales (Nat.le_of_lt kept) scaled]
    ring
  · have next : q + d * scaleSize + 1 = q + 1 + d * scaleSize := by ring
    have fits : q + 1 ≤ 2 * scaleSize := kept
    rw [next, unitsAt_add_scales fits fun drops => Nat.le_succ_of_le (scaled drops)]
    ring
  · rw [← rounded]
    exact Nat.div_add_mod' num _
  · rw [nearestQuotient, rounded]
    split <;> ring

/-- **Rounding takes the nearest magnitude**, and of two equally near ones that of even rank. -/
theorem nearestRank_nearest (num : Nat) {den rank : Nat} (pos : 0 < den)
    (other : rank ≠ nearestRank num den) :
    distance num den (nearestRank num den) < distance num den rank ∨
      distance num den (nearestRank num den) = distance num den rank ∧
        nearestRank num den % 2 = 0 := by
  obtain ⟨lower, step, q, parity, atLower, atUpper, split, inStep, rounded⟩ :=
    exists_neighbours num pos
  have order : ∀ {r s : Nat}, r < s → unitsAt r * den < unitsAt s * den :=
    fun lt => Nat.mul_lt_mul_of_pos_right (unitsAt_strictMono lt) pos
  -- No magnitude stands between the two neighbours.
  have sides : unitsAt rank * den < unitsAt lower * den ∨ rank = lower ∨ rank = lower + 1 ∨
      unitsAt (lower + 1) * den < unitsAt rank * den := by
    rcases Nat.lt_trichotomy rank lower with lt | same | gt
    · exact .inl (order lt)
    · exact .inr (.inl same)
    · rcases Nat.lt_or_eq_of_le gt with lt | same
      · exact .inr (.inr (.inr (order lt)))
      · exact .inr (.inr (.inl same.symm))
  rw [rounded] at other ⊢
  unfold distance
  split at other <;> rename_i up
  · rw [if_pos up, atUpper]
    rcases sides with below | rfl | rfl | above
    · omega
    · omega
    · exact absurd rfl other
    · omega
  · rw [if_neg up, atLower]
    rcases sides with below | rfl | rfl | above
    · omega
    · exact absurd rfl other
    · omega
    · omega

end Binary64

end RecordQuery
