import Mathlib.Data.Nat.Basic
import Mathlib.Order.Monotone.Defs

/-
This file gives the binary search for the last value that a monotone test accepts.
The test runs in any lawful monad, so it may fail.
-/

namespace BinarySearch

variable {Effect : Type → Type} [Monad Effect]

/-- The search halves the interval and rounds its midpoint up. -/
def searchLast (test : Nat → Effect Bool) (low high : Nat) : Effect Nat :=
  if _open : low < high then do
    let midpoint := low + (high - low + 1) / 2
    if ← test midpoint then searchLast test midpoint high
    else searchLast test low (midpoint - 1)
  else pure low
termination_by high - low

/-- The result is the last accepted value of the interval, or its low end when none is accepted. -/
structure IsLast (accepts : Nat → Prop) (low high last : Nat) : Prop where
  above : low ≤ last
  below : last ≤ high
  accepted : accepts last ∨ last = low
  beyond : ∀ value, last < value → value ≤ high → ¬ accepts value

/-- A test that never fails and accepts an initial segment leads the search to its last value. -/
theorem searchLast_isLast [LawfulMonad Effect] {test : Nat → Effect Bool} {accepts : Nat → Prop}
    [DecidablePred accepts] (downward : ∀ first second, first ≤ second → accepts second → accepts first)
    {low high : Nat} (within : low ≤ high)
    (tested : ∀ value, low < value → value ≤ high → test value = pure (decide (accepts value))) :
    ∃ last, searchLast test low high = pure last ∧ IsLast accepts low high last := by
  -- The interval shrinks with each pass; the values outside it are already decided.
  induction size : high - low using Nat.strong_induction_on generalizing low high with
  | _ size ih =>
      unfold searchLast
      by_cases open_ : low < high
      · have lower : low < low + (high - low + 1) / 2 := by omega
        have upper : low + (high - low + 1) / 2 ≤ high := by omega
        simp only [dif_pos open_, tested _ lower upper, pure_bind]
        generalize low + (high - low + 1) / 2 = midpoint at lower upper
        by_cases accepted : accepts midpoint
        · simp only [accepted, decide_true, if_true]
          obtain ⟨last, found, isLast⟩ := ih (high - midpoint) (by omega) upper
            (fun value above below => tested value (by omega) below) rfl
          refine ⟨last, found, by have := isLast.above; omega, isLast.below, ?_, isLast.beyond⟩
          rcases isLast.accepted with inside | same
          · exact Or.inl inside
          · exact Or.inl (same ▸ accepted)
        · simp only [accepted, decide_false, Bool.false_eq_true, if_false]
          obtain ⟨last, found, isLast⟩ := ih (midpoint - 1 - low) (by omega) (by omega)
            (fun value above below => tested value above (by omega)) rfl
          refine ⟨last, found, isLast.above, by have := isLast.below; omega, isLast.accepted, ?_⟩
          intro value beyond below inside
          rcases Nat.lt_or_ge value midpoint with left | right
          · exact isLast.beyond value beyond (by omega) inside
          · exact accepted (downward midpoint value right inside)
      · simp only [dif_neg open_]
        exact ⟨low, rfl, le_refl _, within, Or.inr rfl, fun value above below => by omega⟩

end BinarySearch
