import Mathlib.Tactic.Ring
import Mathlib.Algebra.Order.Group.Int

/-
This file gives the checked and saturating operations of the fixed-width integers.
Values are unbounded; each operation applies the bound of its width.
-/

namespace MachineInteger

/-- The largest signed 64-bit value. -/
def i64Max : Int := 2 ^ 63 - 1

/-- The smallest signed 64-bit value. -/
def i64Min : Int := -2 ^ 63

/-- A signed 64-bit sum stops at the bound that it crosses. -/
def saturatingAdd (left right : Int) : Int :=
  if left + right > i64Max then i64Max else if left + right < i64Min then i64Min else left + right

/-- A signed 64-bit difference stops at the bound that it crosses. -/
def saturatingSub (left right : Int) : Int :=
  if left - right > i64Max then i64Max else if left - right < i64Min then i64Min else left - right

/-- A signed 64-bit product stops at the bound that it crosses. -/
def saturatingMul (left right : Int) : Int :=
  if left * right > i64Max then i64Max else if left * right < i64Min then i64Min else left * right

/-- A signed 64-bit result is absent on overflow. -/
def checkedI64 (value : Int) : Option Int :=
  if value > i64Max then none else if value < i64Min then none else some value

/-- An unsigned value converts to a signed 64-bit value or to the largest one. -/
def i64FromOrMax (value : Nat) : Int :=
  if (value : Int) ≤ i64Max then value else i64Max

/-- The number of unsigned 64-bit values. -/
def u64Size : Nat := 2 ^ 64

/-- The number of unsigned 16-bit values. -/
def u16Size : Nat := 2 ^ 16

/-- The number of unsigned 128-bit values. -/
def u128Size : Nat := 2 ^ 128

/-- The largest signed 128-bit value. -/
def i128Max : Int := 2 ^ 127 - 1

/-- An unsigned sum of the given width is absent on overflow. -/
def checkedAdd (size left right : Nat) : Option Nat :=
  if left + right < size then some (left + right) else none

/-- An unsigned product of the given width is absent on overflow. -/
def checkedMul (size left right : Nat) : Option Nat :=
  if left * right < size then some (left * right) else none

/-- An unsigned sum of the given width wraps around. -/
def wrappingAdd (size left right : Nat) : Nat := (left + right) % size

/-- A saturated sum that is not too small is no larger than the sum. -/
theorem saturatingAdd_le {left right : Int} (above : i64Min ≤ left + right) :
    saturatingAdd left right ≤ left + right := by
  unfold saturatingAdd
  split_ifs
  · omega
  · omega
  · exact le_refl _

/-- A saturated difference that is not too large is no smaller than the difference. -/
theorem le_saturatingSub {left right : Int} (below : left - right ≤ i64Max) :
    left - right ≤ saturatingSub left right := by
  unfold saturatingSub
  split_ifs
  · omega
  · omega
  · exact le_refl _

theorem i64Min_le_saturatingMul (left right : Int) : i64Min ≤ saturatingMul left right := by
  unfold saturatingMul
  split_ifs
  · decide
  · exact le_refl _
  · omega

theorem saturatingMul_le {left right : Int} (above : i64Min ≤ left * right) :
    saturatingMul left right ≤ left * right := by
  unfold saturatingMul
  split_ifs
  · omega
  · omega
  · exact le_refl _

theorem checkedI64_eq_some {value result : Int} (fits : checkedI64 value = some result) :
    result = value ∧ i64Min ≤ value ∧ value ≤ i64Max := by
  unfold checkedI64 at fits
  split_ifs at fits with above below
  cases fits
  exact ⟨rfl, by omega, by omega⟩

theorem i64FromOrMax_bounds (value : Nat) :
    0 ≤ i64FromOrMax value ∧ i64FromOrMax value ≤ value ∧ i64FromOrMax value ≤ i64Max := by
  unfold i64FromOrMax
  split_ifs with fits
  · exact ⟨Int.natCast_nonneg value, le_refl _, fits⟩
  · exact ⟨by decide, by omega, le_refl _⟩

theorem checkedAdd_eq_some {size left right total : Nat} :
    checkedAdd size left right = some total ↔ left + right = total ∧ total < size := by
  unfold checkedAdd
  split
  · constructor
    · rintro ⟨⟩
      exact ⟨rfl, by assumption⟩
    · rintro ⟨rfl, _⟩
      rfl
  · constructor
    · intro absent
      cases absent
    · rintro ⟨rfl, fits⟩
      contradiction

theorem checkedAdd_of_lt {size left right : Nat} (fits : left + right < size) :
    checkedAdd size left right = some (left + right) := by
  rw [checkedAdd, if_pos fits]

theorem checkedAdd_of_not_lt {size left right : Nat} (overflows : ¬ left + right < size) :
    checkedAdd size left right = none := by
  rw [checkedAdd, if_neg overflows]

theorem checkedMul_of_lt {size left right : Nat} (fits : left * right < size) :
    checkedMul size left right = some (left * right) := by
  rw [checkedMul, if_pos fits]

end MachineInteger
