import Mathlib.Data.Nat.Log
import Mathlib.Algebra.Order.Ring.Int

/-
This file gives the integers that a binary64 number represents. A magnitude keeps 53 significant bits;
the overflow to infinity lies outside.
-/

namespace Binary64

/-- A quotient is rounded to the nearest integer and a tie to the even one. -/
def divideToEven (value divisor : Nat) : Nat :=
  let quotient := value / divisor
  let remainder := value % divisor
  if divisor < 2 * remainder || (2 * remainder == divisor && quotient % 2 == 1) then quotient + 1
  else quotient

/-- The distance of the representable numbers at a magnitude. -/
def spacing (magnitude : Nat) : Nat := 2 ^ (Nat.log2 magnitude - 52)

def roundMagnitude (magnitude : Nat) : Nat :=
  divideToEven magnitude (spacing magnitude) * spacing magnitude

/-- The number that stands for an integer. -/
def ofInt : Int → Int
  | .ofNat magnitude => roundMagnitude magnitude
  | .negSucc magnitude => -roundMagnitude (magnitude + 1)

/-- A safe integer is the only integer that is rounded to its number. -/
def isSafeInteger (value : Int) : Bool := value.natAbs < 2 ^ 53

theorem le_divideToEven (value divisor : Nat) : value / divisor ≤ divideToEven value divisor := by
  unfold divideToEven
  dsimp only
  split
  · exact Nat.le_succ _
  · exact le_refl _

theorem divideToEven_one (value : Nat) : divideToEven value 1 = value := by
  simp [divideToEven, Nat.mod_one]

theorem roundMagnitude_of_lt {magnitude : Nat} (small : magnitude < 2 ^ 53) :
    roundMagnitude magnitude = magnitude := by
  have unit : spacing magnitude = 1 := by
    by_cases zero : magnitude = 0
    · rw [zero]
      rfl
    · have exponent : Nat.log2 magnitude < 53 := (Nat.log2_lt zero).mpr small
      rw [spacing, Nat.sub_eq_zero_of_le (by omega), pow_zero]
  rw [roundMagnitude, unit, divideToEven_one, Nat.mul_one]

/-- A magnitude beyond the safe integers is rounded to such a magnitude. -/
theorem le_roundMagnitude {magnitude : Nat} (large : 2 ^ 53 ≤ magnitude) :
    2 ^ 53 ≤ roundMagnitude magnitude := by
  have positive : magnitude ≠ 0 := by
    have two : 0 < 2 ^ 53 := by decide
    omega
  have exponent : 53 ≤ Nat.log2 magnitude := (Nat.le_log2 positive).mpr large
  have bound : 2 ^ 52 * spacing magnitude ≤ magnitude := by
    calc 2 ^ 52 * 2 ^ (Nat.log2 magnitude - 52) = 2 ^ Nat.log2 magnitude := by
          rw [← pow_add]
          congr 1
          omega
      _ ≤ magnitude := Nat.log2_self_le positive
  have quotient : 2 ^ 52 ≤ divideToEven magnitude (spacing magnitude) :=
    ((Nat.le_div_iff_mul_le (Nat.two_pow_pos _)).mpr bound).trans (le_divideToEven _ _)
  have even : 2 ≤ spacing magnitude := by
    calc 2 = 2 ^ 1 := rfl
      _ ≤ 2 ^ (Nat.log2 magnitude - 52) := Nat.pow_le_pow_right (by decide) (by omega)
  calc 2 ^ 53 = 2 ^ 52 * 2 := rfl
    _ ≤ divideToEven magnitude (spacing magnitude) * spacing magnitude :=
        Nat.mul_le_mul quotient even

theorem ofInt_eq_self {value : Int} (safe : isSafeInteger value = true) : ofInt value = value := by
  have small : value.natAbs < 2 ^ 53 := of_decide_eq_true safe
  cases value with
  | ofNat magnitude =>
      have kept : roundMagnitude magnitude = magnitude := roundMagnitude_of_lt small
      change ((roundMagnitude magnitude : Nat) : Int) = magnitude
      rw [kept]
  | negSucc magnitude =>
      have kept : roundMagnitude (magnitude + 1) = magnitude + 1 := roundMagnitude_of_lt small
      change -((roundMagnitude (magnitude + 1) : Nat) : Int) = Int.negSucc magnitude
      rw [kept]
      rfl

/-- Rounding makes no integer safe. -/
theorem isSafeInteger_ofInt (value : Int) : isSafeInteger (ofInt value) = isSafeInteger value := by
  cases safe : isSafeInteger value with
  | true => rw [ofInt_eq_self safe, safe]
  | false =>
      have large : 2 ^ 53 ≤ value.natAbs := Nat.le_of_not_lt (of_decide_eq_false safe)
      have rounded : 2 ^ 53 ≤ (ofInt value).natAbs := by
        cases value with
        | ofNat magnitude => exact le_roundMagnitude large
        | negSucc magnitude =>
            change 2 ^ 53 ≤ (-((roundMagnitude (magnitude + 1) : Nat) : Int)).natAbs
            rw [Int.natAbs_neg]
            exact le_roundMagnitude large
      exact decide_eq_false (Nat.not_lt.mpr rounded)

/-- The first integer that is rounded away is not safe. -/
example : ofInt 9007199254740993 = 9007199254740992 := by decide

end Binary64
