import Mathlib.Algebra.BigOperators.Group.Multiset.Basic
import Mathlib.Algebra.Order.BigOperators.Group.Multiset
import Mathlib.Algebra.Order.Group.Nat

/-
This file gives the total share that a multiset of owners holds and the moves of single owners
in the lists that make up the multiset.
-/

namespace Holding

variable {Owner : Type}

/-- Each owner counts with its share. -/
def total (share : Owner → Nat) (owners : Multiset Owner) : Nat := (owners.map share).sum

@[simp] theorem total_zero (share : Owner → Nat) : total share 0 = 0 := rfl

@[simp] theorem total_add (share : Owner → Nat) (first second : Multiset Owner) :
    total share (first + second) = total share first + total share second := by
  simp [total]

@[simp] theorem total_singleton (share : Owner → Nat) (owner : Owner) :
    total share {owner} = share owner := by
  simp [total]

theorem total_eq_zero {share : Owner → Nat} {owners : Multiset Owner}
    (none : ∀ owner ∈ owners, share owner = 0) : total share owners = 0 := by
  apply Multiset.sum_eq_zero
  intro value member
  obtain ⟨owner, owned, rfl⟩ := Multiset.mem_map.mp member
  exact none owner owned

theorem share_le_total (share : Owner → Nat) {owner : Owner} {owners : Multiset Owner}
    (member : owner ∈ owners) : share owner ≤ total share owners :=
  Multiset.single_le_sum (fun _ _ => Nat.zero_le _) _ (Multiset.mem_map_of_mem share member)

/-- An element of a list is one owner beside the rest. -/
theorem coe_eraseIdx {owners : List Owner} {index : Nat} {owner : Owner}
    (found : owners[index]? = some owner) :
    (owners : Multiset Owner) = {owner} + (owners.eraseIdx index : Multiset Owner) := by
  obtain ⟨bound, rfl⟩ := List.getElem?_eq_some_iff.mp found
  rw [Multiset.singleton_add, Multiset.cons_coe]
  exact Multiset.coe_eq_coe.mpr (List.getElem_cons_eraseIdx_perm bound).symm

/-- The replacement of an element leaves the rest. -/
theorem coe_set {owners : List Owner} {index : Nat} (bound : index < owners.length)
    (owner : Owner) :
    (owners.set index owner : Multiset Owner) = {owner} + (owners.eraseIdx index : Multiset Owner) := by
  have found : (owners.set index owner)[index]? = some owner := by
    rw [List.getElem?_set_self bound]
  rw [coe_eraseIdx found, List.eraseIdx_set_eq]

/-- A replaced owner changes a count by its own part. -/
theorem countP_set_add (property : Owner → Bool) {owners : List Owner} {index : Nat}
    {owner : Owner} (found : owners[index]? = some owner) (other : Owner) :
    (owners.set index other).countP property + (property owner).toNat =
      owners.countP property + (property other).toNat := by
  obtain ⟨inside, same⟩ := List.getElem?_eq_some_iff.mp found
  have replaced := List.countP_set (p := property) (a := other) inside
  rw [same] at replaced
  cases holds : property owner with
  | false =>
      rw [holds] at replaced
      cases new : property other <;> rw [new] at replaced <;> exact replaced
  | true =>
      have counted : 0 < owners.countP property :=
        List.countP_pos_iff.mpr ⟨owner, List.mem_of_getElem? found, holds⟩
      rw [holds, if_pos rfl] at replaced
      cases new : property other <;> rw [new] at replaced <;>
        simp only [Bool.toNat_true, Bool.toNat_false, if_true, Bool.false_eq_true, if_false]
          at replaced ⊢ <;>
        omega

end Holding
