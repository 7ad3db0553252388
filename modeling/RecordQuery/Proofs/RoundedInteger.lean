/-
# RecordQuery.Proofs.RoundedInteger -- where whole numbers lie when they are rounded

A whole number is compared with a floating point number at the place of the nearest
floating point number (`roundedPosition`).  Three facts settle what becomes of order.
Greater whole numbers do not lie lower (`roundedPosition_mono`); a whole number on one
side of a floating point number stays on that side or falls on the number itself
(`le_roundedPosition`, `roundedPosition_le`); and up to 2⁵³ nothing moves
(`roundedPosition_of_small`).

`isFinite_ofInt_iff` says from which magnitude on a whole number is rounded to infinity.
-/
import RecordQuery.Proofs.NearestRank
import Mathlib.Algebra.Order.Ring.Int

namespace RecordQuery.Binary64

set_option autoImplicit false

/-! ## Positions of ranks with a sign -/

theorem signedUnits_false (rank : Nat) : signedUnits false rank = unitsAt rank :=
  rfl

theorem signedUnits_true (rank : Nat) : signedUnits true rank = -(unitsAt rank : Int) :=
  rfl

theorem signedUnits_not (negative : Bool) (rank : Nat) :
    signedUnits (!negative) rank = -signedUnits negative rank := by
  cases negative
  · rfl
  · exact (Int.neg_neg _).symm

theorem natAbs_signedUnits (negative : Bool) (rank : Nat) :
    (signedUnits negative rank).natAbs = unitsAt rank := by
  cases negative
  · exact Int.natAbs_natCast _
  · exact (Int.natAbs_neg _).trans (Int.natAbs_natCast _)

/-- A rank past that of infinity lies where infinity does. -/
theorem position?_ofRank (negative : Bool) (rank : Nat) :
    (ofRank negative rank).position? = some (signedUnits negative (min rank rankCount)) := by
  unfold ofRank
  split
  · rename_i inside
    rw [position?, Nat.min_eq_left (Nat.le_of_lt inside)]
  · rename_i outside
    rw [position?, Nat.min_eq_right (Nat.le_of_not_lt outside)]

theorem isFinite_ofRank (negative : Bool) (rank : Nat) :
    (ofRank negative rank).isFinite = true ↔ rank < rankCount := by
  unfold ofRank
  split <;> simp_all [isFinite]

/-! ## Whole numbers -/

/-- The rank nearest to a whole number, or that of infinity. -/
def wholeRank (n : Nat) : Nat :=
  min (nearestRank (n * stepsPerUnit) 1) rankCount

/-- The position of the floating point number nearest to a whole number. -/
def roundedPosition (n : Int) : Int :=
  signedUnits (decide (n < 0)) (wholeRank n.natAbs)

theorem position?_ofInt (n : Int) : (ofInt n).position? = some (roundedPosition n) :=
  position?_ofRank _ _

theorem wholeRank_mono {m n : Nat} (le : m ≤ n) : wholeRank m ≤ wholeRank n :=
  min_le_min_right rankCount (nearestRank_mono 1 (Nat.mul_le_mul_right stepsPerUnit le))

theorem le_wholeRank {rank n : Nat} (inside : rank ≤ rankCount)
    (le : unitsAt rank ≤ n * stepsPerUnit) : rank ≤ wholeRank n :=
  le_min (le_nearestRank Nat.one_pos (by rwa [Nat.mul_one])) inside

theorem wholeRank_le {rank n : Nat} (le : n * stepsPerUnit ≤ unitsAt rank) : wholeRank n ≤ rank :=
  min_le_of_left_le (nearestRank_le Nat.one_pos (by rwa [Nat.mul_one]))

theorem wholeRank_zero : wholeRank 0 = 0 :=
  Nat.le_zero.mp (wholeRank_le (by simp))

theorem roundedPosition_natCast (n : Nat) : roundedPosition n = unitsAt (wholeRank n) := by
  rw [roundedPosition, decide_eq_false (by omega), signedUnits_false, Int.natAbs_natCast]

theorem roundedPosition_neg (n : Int) : roundedPosition (-n) = -roundedPosition n := by
  by_cases zero : n = 0
  · subst zero
    have zeroUnits : unitsAt 0 = 0 := rfl
    simp [roundedPosition, wholeRank_zero, signedUnits, zeroUnits]
  · have signs : decide (-n < 0) = !decide (n < 0) := by
      rw [← decide_not, decide_eq_decide]
      omega
    rw [roundedPosition, roundedPosition, signs, signedUnits_not, Int.natAbs_neg]

/-- **Greater whole numbers do not lie lower.** -/
theorem roundedPosition_mono {m n : Int} (le : m ≤ n) : roundedPosition m ≤ roundedPosition n := by
  have magnitudes : ∀ {m n : Nat}, m ≤ n → unitsAt (wholeRank m) ≤ unitsAt (wholeRank n) :=
    fun le => unitsAt_strictMono.monotone (wholeRank_mono le)
  obtain ⟨a, rfl | rfl⟩ := Int.eq_nat_or_neg m <;> obtain ⟨b, rfl | rfl⟩ := Int.eq_nat_or_neg n <;>
    simp only [roundedPosition_neg, roundedPosition_natCast]
  · exact Int.ofNat_le.mpr (magnitudes (Int.ofNat_le.mp le))
  · -- Only zero is both at least zero and at most zero.
    obtain rfl : a = 0 := by omega
    obtain rfl : b = 0 := by omega
    rfl
  · omega
  · have turned : b ≤ a := by omega
    exact Int.neg_le_neg (Int.ofNat_le.mpr (magnitudes turned))

/-- **A whole number that is not below a floating point number is not below it when rounded.** -/
theorem le_roundedPosition {negative : Bool} {rank : Nat} {n : Int} (inside : rank ≤ rankCount)
    (le : signedUnits negative rank ≤ n * stepsPerUnit) :
    signedUnits negative rank ≤ roundedPosition n := by
  rcases Int.le_total 0 n with nonnegative | nonpositive
  · obtain ⟨a, rfl⟩ := Int.eq_ofNat_of_zero_le nonnegative
    rw [roundedPosition_natCast]
    cases negative with
    | false =>
        rw [signedUnits_false, ← Int.natCast_mul] at le
        have above : rank ≤ wholeRank a := le_wholeRank inside (Int.ofNat_le.mp le)
        exact Int.ofNat_le.mpr (unitsAt_strictMono.monotone above)
    | true =>
        rw [signedUnits_true]
        omega
  · obtain ⟨a, rfl⟩ := Int.exists_eq_neg_ofNat nonpositive
    rw [roundedPosition_neg, roundedPosition_natCast]
    rw [Int.neg_mul, ← Int.natCast_mul] at le
    cases negative with
    | false =>
        -- Then the whole number is zero, and so is the floating point number.
        rw [signedUnits_false] at le ⊢
        have zero : unitsAt 0 = 0 := rfl
        have notAbove : a * stepsPerUnit ≤ unitsAt 0 := by omega
        rw [Nat.le_zero.mp (wholeRank_le notAbove), zero]
        omega
    | true =>
        have below : wholeRank a ≤ rank := wholeRank_le (Int.ofNat_le.mp (Int.neg_le_neg_iff.mp le))
        exact Int.neg_le_neg (Int.ofNat_le.mpr (unitsAt_strictMono.monotone below))

/-- **A whole number that is not above a floating point number is not above it when rounded.** -/
theorem roundedPosition_le {negative : Bool} {rank : Nat} {n : Int} (inside : rank ≤ rankCount)
    (le : n * stepsPerUnit ≤ signedUnits negative rank) :
    roundedPosition n ≤ signedUnits negative rank := by
  have mirrored : signedUnits (!negative) rank ≤ -n * stepsPerUnit := by
    rw [signedUnits_not, Int.neg_mul]
    exact Int.neg_le_neg le
  have rounded := le_roundedPosition inside mirrored
  rw [signedUnits_not, roundedPosition_neg] at rounded
  exact Int.neg_le_neg_iff.mp rounded

/-! ## Small whole numbers -/

/-- A number of up to 53 bits, shifted, is a magnitude, and so is the next power of two. -/
theorem exists_unitsAt_eq_mul_shiftLeft (shift : Nat) {n : Nat} (small : n ≤ 2 * scaleSize) :
    ∃ rank, unitsAt rank = n * (1 <<< shift) := by
  rw [Nat.one_shiftLeft]
  induction shift generalizing n with
  | zero => exact ⟨_, unitsAt_add_scales small fun drops => absurd drops (Nat.lt_irrefl 0)⟩
  | succ shift ih =>
      by_cases large : scaleSize ≤ n
      · exact ⟨_, unitsAt_add_scales small fun _ => large⟩
      · -- One bit moves from the shift to the number.
        obtain ⟨rank, same⟩ := ih (Nat.mul_le_mul_left 2 (Nat.le_of_not_le large))
        exact ⟨rank, by rw [same, Nat.pow_succ']; ac_rfl⟩

theorem unitsAt_rankCount : unitsAt rankCount = 1 <<< 1024 * stepsPerUnit := by
  decide +kernel

theorem stepsPerUnit_pos : 0 < stepsPerUnit := by
  decide +kernel

theorem unitsAt_wholeRank_of_small {n : Nat} (small : n ≤ 2 ^ 53) :
    unitsAt (wholeRank n) = n * stepsPerUnit := by
  obtain ⟨rank, same⟩ : ∃ rank, unitsAt rank = n * stepsPerUnit :=
    exists_unitsAt_eq_mul_shiftLeft 1074 small
  have inside : rank ≤ rankCount := by
    rw [← unitsAt_strictMono.le_iff_le, same, unitsAt_rankCount]
    exact Nat.mul_le_mul_right _ (small.trans (by decide +kernel))
  have own : wholeRank n = rank :=
    Nat.le_antisymm (wholeRank_le same.ge) (le_wholeRank inside same.le)
  rw [own, same]

/-- **Up to 2⁵³, a whole number lies where it is.** -/
theorem roundedPosition_of_small {n : Int} (small : n.natAbs ≤ 2 ^ 53) :
    roundedPosition n = n * stepsPerUnit := by
  obtain ⟨a, rfl | rfl⟩ := Int.eq_nat_or_neg n
  · rw [Int.natAbs_natCast] at small
    rw [roundedPosition_natCast, unitsAt_wholeRank_of_small small, Int.natCast_mul]
  · rw [Int.natAbs_neg, Int.natAbs_natCast] at small
    rw [roundedPosition_neg, roundedPosition_natCast, unitsAt_wholeRank_of_small small,
      Int.natCast_mul, Int.neg_mul]

/-! ## Infinity -/

/-- No whole number lies beyond the infinities. -/
theorem roundedPosition_bounds (n : Int) :
    signedUnits true rankCount ≤ roundedPosition n ∧
      roundedPosition n ≤ signedUnits false rankCount := by
  have inside : (roundedPosition n).natAbs ≤ unitsAt rankCount := by
    rw [roundedPosition, natAbs_signedUnits]
    exact unitsAt_strictMono.monotone (min_le_right _ _)
  rw [signedUnits_true, signedUnits_false]
  omega

theorem roundedPosition_inside {n : Int} (small : n.natAbs ≤ 2 ^ 53) :
    signedUnits true rankCount < roundedPosition n ∧
      roundedPosition n < signedUnits false rankCount := by
  have lessThanInfinity : n.natAbs < 1 <<< 1024 := small.trans_lt (by decide +kernel)
  have inside : (roundedPosition n).natAbs < unitsAt rankCount := by
    rw [roundedPosition, natAbs_signedUnits, unitsAt_wholeRank_of_small small, unitsAt_rankCount]
    exact Nat.mul_lt_mul_of_pos_right lessThanInfinity stepsPerUnit_pos
  rw [signedUnits_true, signedUnits_false]
  omega

/-- The least whole number that is rounded to infinity: half a step past the greatest finite
number. -/
def overflow : Nat :=
  1 <<< 1024 - 1 <<< 970

theorem two_pow_64_le_overflow : 2 ^ 64 ≤ overflow := by
  decide +kernel

theorem nearestRank_overflow : nearestRank (overflow * stepsPerUnit) 1 = rankCount := by
  decide +kernel

theorem nearestRank_pred_overflow :
    nearestRank ((overflow - 1) * stepsPerUnit) 1 < rankCount := by
  decide +kernel

theorem nearestRank_lt_rankCount_iff {n : Nat} :
    nearestRank (n * stepsPerUnit) 1 < rankCount ↔ n < overflow := by
  constructor
  · intro finite
    by_contra large
    have above := nearestRank_mono 1
      (Nat.mul_le_mul_right stepsPerUnit (Nat.le_of_not_lt large))
    rw [nearestRank_overflow] at above
    omega
  · intro small
    have below := nearestRank_mono 1 (Nat.mul_le_mul_right stepsPerUnit (Nat.le_pred_of_lt small))
    exact Nat.lt_of_le_of_lt below nearestRank_pred_overflow

/-- **From this magnitude on, and no earlier, whole numbers are rounded to infinity.** -/
theorem isFinite_ofInt_iff {n : Int} : (ofInt n).isFinite = true ↔ n.natAbs < overflow := by
  rw [ofInt, ofRatio, isFinite_ofRank, nearestRank_lt_rankCount_iff]

theorem ofRatio_of_overflow_le {n : Nat} (large : overflow ≤ n) (negative : Bool) :
    ofRatio negative n 1 = .infinite negative := by
  have outside : ¬ nearestRank (n * stepsPerUnit) 1 < rankCount :=
    mt nearestRank_lt_rankCount_iff.mp (Nat.not_lt.mpr large)
  rw [ofRatio, ofRank, dif_neg outside]

end RecordQuery.Binary64
