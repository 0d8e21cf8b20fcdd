import Mathlib.Tactic.Linarith
import Soldisco.Construction.Snapshot.Arithmetic

/-
This file proves that the checked arithmetic computes exact values in the range of the metrics.
-/

namespace Soldisco.Snapshot
open MachineInteger

/-- A successful computation passes its value on. -/
@[simp] theorem ok_bind {Error Value Result : Type} (value : Value)
    (next : Value → Except Error Result) : (Except.ok value >>= next) = next value := rfl

/-- A computation that succeeds has a first part that succeeds. -/
theorem bind_ok {Error Value Result : Type} {first : Except Error Value}
    {next : Value → Except Error Result} {result : Result} (ok : first >>= next = .ok result) :
    ∃ value, first = .ok value ∧ next value = .ok result := by
  cases first with
  | error error => cases ok
  | ok value => exact ⟨value, rfl, ok⟩

theorem checkedAdd_ok {size left right : Nat} (fits : left + right < size) :
    checkedAdd size left right = .ok (left + right) := by
  rw [checkedAdd, checkedAdd_of_lt fits]
  rfl

theorem checkedMul_ok {size left right : Nat} (fits : left * right < size) :
    checkedMul size left right = .ok (left * right) := by
  rw [checkedMul, checkedMul_of_lt fits]
  rfl

theorem checkedAdd_error {size left right : Nat} (overflows : size ≤ left + right) :
    checkedAdd size left right = .error .arithmeticOverflow := by
  rw [checkedAdd, MachineInteger.checkedAdd, if_neg (not_lt.mpr overflows)]
  rfl

theorem checkedMul_error {size left right : Nat} (overflows : size ≤ left * right) :
    checkedMul size left right = .error .arithmeticOverflow := by
  rw [checkedMul, MachineInteger.checkedMul, if_neg (not_lt.mpr overflows)]
  rfl

theorem tryFrom_ok {size value : Nat} (fits : value < size) : tryFrom size value = .ok value := by
  rw [tryFrom, if_pos fits]

/-- The rounded quotient is the least number whose product reaches the dividend. -/
theorem roundedQuotient_le_iff {dividend divisor bound : Nat} (positive : 0 < divisor) :
    dividend / divisor + (if dividend % divisor ≠ 0 then 1 else 0) ≤ bound ↔
      dividend ≤ bound * divisor := by
  have parts := Nat.div_add_mod dividend divisor
  have small := Nat.mod_lt dividend positive
  generalize dividend / divisor = quotient at *
  generalize dividend % divisor = remainder at *
  rw [Nat.mul_comm divisor quotient] at parts
  split
  · constructor
    · intro below
      have scaled := Nat.mul_le_mul_right divisor below
      rw [Nat.add_mul, Nat.one_mul] at scaled
      omega
    · intro reached
      by_contra above
      have scaled := Nat.mul_le_mul_right divisor (Nat.le_of_lt_succ (Nat.lt_of_not_ge above))
      omega
  · rename_i divides
    have exact_ : remainder = 0 := not_not.mp divides
    rw [Nat.add_zero]
    constructor
    · intro below
      have scaled := Nat.mul_le_mul_right divisor below
      omega
    · intro reached
      apply Nat.le_of_mul_le_mul_right _ positive
      omega

/-- The whole and the rounded part add up to the ceiling of the scaled value. -/
theorem scaledCeiling_le_iff {multiplier value divisor bound : Nat} (positive : 0 < divisor) :
    value / divisor * multiplier + (value % divisor * multiplier / divisor +
        (if value % divisor * multiplier % divisor ≠ 0 then 1 else 0)) ≤ bound ↔
      multiplier * value ≤ bound * divisor := by
  have parts := Nat.div_add_mod value divisor
  generalize value / divisor = quotient at *
  generalize value % divisor = remainder at *
  subst parts
  rcases Nat.lt_or_ge bound (quotient * multiplier) with below | above
  · constructor
    · intro reached
      exact absurd ((Nat.le_add_right _ _).trans reached) (Nat.not_le_of_lt below)
    · intro reached
      have whole : quotient * multiplier * divisor ≤ bound * divisor := by
        refine le_trans ?_ reached
        rw [Nat.mul_add]
        exact Nat.le_add_right_of_le (by ring_nf; exact le_refl _)
      have := Nat.le_of_mul_le_mul_right whole positive
      omega
  · obtain ⟨rest, rfl⟩ := Nat.exists_eq_add_of_le above
    rw [Nat.add_le_add_iff_left, roundedQuotient_le_iff positive]
    have left : multiplier * (divisor * quotient + remainder) =
        quotient * multiplier * divisor + remainder * multiplier := by ring
    rw [left, Nat.add_mul, Nat.add_le_add_iff_left]

/-- The ceiling of the scaled value is exact below the width. -/
theorem ceilScaledDenominator_ok {multiplier value divisor : Nat} (positive : 0 < divisor)
    (within : multiplier ≤ divisor) (narrow : divisor ≤ u64Size) (fits : value < u128Size) :
    ∃ ceiling, ceilScaledDenominator multiplier value divisor = .ok ceiling ∧
      ∀ bound, ceiling ≤ bound ↔ multiplier * value ≤ bound * divisor := by
  have fraction : value % divisor * multiplier < u128Size := by
    have below : value % divisor < u64Size := (Nat.mod_lt value positive).trans_le narrow
    calc value % divisor * multiplier
      _ ≤ value % divisor * u64Size := Nat.mul_le_mul_left _ (within.trans narrow)
      _ < u64Size * u64Size := Nat.mul_lt_mul_of_pos_right below (by decide)
      _ = u128Size := by decide
  have ceiling := (@scaledCeiling_le_iff multiplier value divisor value positive).mpr
    (by rw [Nat.mul_comm]; exact Nat.mul_le_mul_left value within)
  have whole : value / divisor * multiplier < u128Size :=
    ((Nat.le_add_right _ _).trans ceiling).trans_lt fits
  refine ⟨_, ?_, fun bound => scaledCeiling_le_iff positive⟩
  have valid : ¬ (divisor = 0 || multiplier > divisor) = true := by
    simp
    omega
  rw [ceilScaledDenominator, if_neg valid]
  simp only [checkedMul_ok whole, checkedMul_ok fraction]
  exact checkedAdd_ok (ceiling.trans_lt fits)

/-- The binary search finds the floor of the scaled proper fraction. -/
theorem scaledProperFraction_ok {numerator denominator scale : Nat} (proper : numerator < denominator)
    (fits : denominator < u128Size) (narrow : scale ≤ u64Size) :
    scaledProperFraction numerator denominator scale = .ok (numerator * scale / denominator) := by
  unfold scaledProperFraction
  by_cases trivial : (numerator = 0 || scale = 0) = true
  · rw [if_pos trivial]
    simp only [Bool.or_eq_true, decide_eq_true_eq] at trivial
    rcases trivial with zero | zero <;> simp [zero]
  · rw [if_neg trivial]
    simp only [Bool.or_eq_true, decide_eq_true_eq, not_or] at trivial
    have positive : 0 < scale := Nat.pos_of_ne_zero trivial.2
    have tested (value : Nat) (_ : 0 < value) (below : value ≤ scale) :
        (do
          let ceiling ← ceilScaledDenominator value denominator scale
          return decide (ceiling ≤ numerator) : Except SnapshotError Bool) =
          pure (decide (value * denominator ≤ numerator * scale)) := by
      obtain ⟨ceiling, computed, exact_⟩ := ceilScaledDenominator_ok positive below narrow fits
      rw [computed]
      exact congrArg Except.ok (decide_eq_decide.mpr (exact_ numerator))
    obtain ⟨last, found, isLast⟩ := BinarySearch.searchLast_isLast
      (fun first second le accepted => (Nat.mul_le_mul_right denominator le).trans accepted)
      (Nat.zero_le scale) tested
    rw [found]
    have lower : last * denominator ≤ numerator * scale := by
      rcases isLast.accepted with accepted | zero
      · exact accepted
      · simp [zero]
    have upper : numerator * scale < (last + 1) * denominator := by
      rcases Nat.lt_or_ge last scale with inside | outside
      · exact Nat.lt_of_not_le (isLast.beyond (last + 1) (Nat.lt_succ_self _) inside)
      · have same : last = scale := le_antisymm isLast.below outside
        subst same
        nlinarith
    exact congrArg Except.ok (Nat.div_eq_of_lt_le lower upper).symm

/-- The floor of a scaled ratio is the sum of its whole and its fractional part. -/
theorem scaledRatio_split {numerator denominator scale : Nat} (positive : 0 < denominator) :
    numerator / denominator * scale + numerator % denominator * scale / denominator =
      numerator * scale / denominator := by
  conv_rhs => rw [← Nat.div_add_mod numerator denominator]
  rw [Nat.add_mul, Nat.mul_assoc, Nat.mul_add_div positive]

/-- The scaled ratio is exact and only fails when its floor is too large for the width. -/
theorem checkedScaledRatio_eq {numerator denominator scale : Nat} (positive : 0 < denominator)
    (fits : denominator < u128Size) (narrow : scale ≤ u64Size) :
    checkedScaledRatio numerator denominator scale =
      if numerator * scale / denominator < u128Size then .ok (numerator * scale / denominator)
      else .error .arithmeticOverflow := by
  have split := @scaledRatio_split numerator denominator scale positive
  have fraction := @scaledProperFraction_ok (numerator % denominator) denominator scale
    (Nat.mod_lt numerator positive) fits narrow
  rw [checkedScaledRatio, if_neg (Nat.ne_of_gt positive)]
  by_cases whole : numerator / denominator * scale < u128Size
  · simp only [checkedMul_ok whole, fraction, ok_bind]
    rw [← split]
    split_ifs with result
    · exact checkedAdd_ok result
    · exact checkedAdd_error (not_lt.mp result)
  · have large : ¬ numerator * scale / denominator < u128Size := by
      intro result
      exact whole ((Nat.le_add_right _ _).trans_lt (split.trans_lt result))
    rw [if_neg large]
    simp only [checkedMul_error (not_lt.mp whole)]
    rfl

theorem checkedScaledRatio_ok {numerator denominator scale : Nat} (positive : 0 < denominator)
    (fits : denominator < u128Size) (narrow : scale ≤ u64Size)
    (result : numerator * scale / denominator < u128Size) :
    checkedScaledRatio numerator denominator scale = .ok (numerator * scale / denominator) := by
  rw [checkedScaledRatio_eq positive fits narrow, if_pos result]

theorem fractionWithinBasisPointLimit_ok {numerator denominator maximumBps : Nat}
    (positive : 0 < denominator) (fits : denominator < u128Size)
    (limited : maximumBps ≤ basisPointsScale) :
    fractionWithinBasisPointLimit numerator denominator maximumBps =
      .ok (decide (numerator * basisPointsScale ≤ maximumBps * denominator)) := by
  have scalePositive : 0 < basisPointsScale := by decide
  have narrow : maximumBps ≤ u64Size := limited.trans (by decide)
  have result : denominator * maximumBps / basisPointsScale < u128Size := by
    refine lt_of_le_of_lt ?_ fits
    exact Nat.div_le_of_le_mul ((Nat.mul_le_mul_left denominator limited).trans_eq (Nat.mul_comm _ _))
  have valid : ¬ (denominator = 0 || maximumBps > basisPointsScale) = true := by
    simp
    omega
  rw [fractionWithinBasisPointLimit, if_neg valid,
    checkedScaledRatio_ok scalePositive (by decide) narrow result]
  refine congrArg Except.ok (decide_eq_decide.mpr ?_)
  rw [Nat.le_div_iff_mul_le scalePositive, Nat.mul_comm denominator]

/-- The rounded share stays within a limit exactly when the fraction does. -/
theorem fractionToBasisPoints_ok {numerator denominator : Nat} (positive : 0 < denominator)
    (fits : denominator < u128Size) (proper : numerator ≤ denominator) :
    ∃ share, fractionToBasisPoints numerator denominator = .ok share ∧
      ∀ limit, share ≤ limit ↔ numerator * basisPointsScale ≤ limit * denominator := by
  have scaled : numerator * basisPointsScale / denominator ≤ basisPointsScale :=
    Nat.div_le_of_le_mul (Nat.mul_le_mul_right basisPointsScale proper)
  have wide : numerator * basisPointsScale / denominator < u128Size :=
    scaled.trans_lt (by decide)
  have valid : ¬ (denominator = 0 || numerator > denominator) = true := by
    simp
    omega
  have narrow : numerator * basisPointsScale / denominator < u16Size := scaled.trans_lt (by decide)
  have floor := checkedScaledRatio_ok positive fits (by decide) wide
  have within := @fractionWithinBasisPointLimit_ok numerator denominator _ positive fits scaled
  have lower := Nat.div_mul_le_self (numerator * basisPointsScale) denominator
  have upper := Nat.lt_mul_div_succ (numerator * basisPointsScale) positive
  generalize numerator * basisPointsScale / denominator = share at *
  by_cases exact_ : numerator * basisPointsScale ≤ share * denominator
  · refine ⟨share, ?_, fun limit => ⟨fun below => ?_, fun reached => ?_⟩⟩
    · rw [decide_eq_true exact_] at within
      simp only [fractionToBasisPoints, if_neg valid, floor, ok_bind, tryFrom_ok narrow, within,
        if_true, pure_bind]
    · exact exact_.trans (Nat.mul_le_mul_right denominator below)
    · exact Nat.le_of_mul_le_mul_right (lower.trans reached) positive
  · have next : share + 1 < u16Size := lt_of_le_of_lt (Nat.succ_le_succ scaled) (by decide)
    have sum : share + 1 < u128Size := lt_of_le_of_lt (Nat.succ_le_succ scaled) (by decide)
    refine ⟨share + 1, ?_, fun limit => ⟨fun below => ?_, fun reached => ?_⟩⟩
    · rw [decide_eq_false exact_] at within
      simp only [fractionToBasisPoints, if_neg valid, floor, ok_bind, tryFrom_ok narrow, within,
        Bool.false_eq_true, if_false, checkedAdd_ok sum, tryFrom_ok next]
    · refine upper.le.trans ?_
      rw [Nat.mul_comm denominator]
      exact Nat.mul_le_mul_right denominator below
    · exact Nat.lt_of_mul_lt_mul_right ((Nat.lt_of_not_ge exact_).trans_le reached)

end Soldisco.Snapshot
