import Mathlib.Data.List.Basic

/-
This file gives the lists of the elements of ordered sets.
-/

namespace OrderedSet

variable {Item : Type} [Ord Item] [Std.TransOrd Item] [Std.LawfulEqOrd Item]

/-- An ordered set lists each of its elements once. -/
theorem toList_nodup (set : Std.TreeSet Item) : set.toList.Nodup :=
  Std.TreeSet.distinct_toList.imp fun different equal =>
    different (Std.LawfulEqCmp.compare_eq_iff_eq.mpr equal)

/-- Ordered sets with the same elements have the same list. -/
theorem toList_eq_of_mem {left right : Std.TreeSet Item}
    (same : ∀ item, item ∈ left ↔ item ∈ right) : left.toList = right.toList := by
  have perm : left.toList.Perm right.toList := by
    rw [List.perm_ext_iff_of_nodup (toList_nodup left) (toList_nodup right)]
    intro item
    rw [Std.TreeSet.mem_toList, Std.TreeSet.mem_toList]
    exact same item
  have asymmetric : ∀ first second, first ∈ left.toList → second ∈ right.toList →
      compare first second = .lt → compare second first = .lt → first = second := by
    intro first second _ _ before after
    have reversed := Std.OrientedCmp.gt_of_lt before
    rw [reversed] at after
    cases after
  exact List.Perm.eq_of_pairwise asymmetric Std.TreeSet.ordered_toList Std.TreeSet.ordered_toList
    perm

/-- The set of the listed elements lists them again. -/
theorem toList_ofList_toList [BEq Item] [LawfulBEq Item] (set : Std.TreeSet Item) :
    (Std.TreeSet.ofList set.toList).toList = set.toList := by
  apply toList_eq_of_mem
  intro item
  rw [Std.TreeSet.mem_ofList, List.contains_iff_mem, Std.TreeSet.mem_toList]

end OrderedSet
