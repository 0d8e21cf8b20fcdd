import Mathlib.Data.List.Basic

/-
This file gives the part of a list behind a cursor and the paging of a list that grows at its head.
-/

namespace Paging

variable {Item Key : Type} [DecidableEq Key] (key : Item → Key)

/-- The items behind the one with the cursor, or all items without a cursor. -/
def olderThan (items : List Item) : Option Key → List Item
  | none => items
  | some cursor => (items.dropWhile fun item => key item ≠ cursor).tail

/-- The cursor of the last item read so far. -/
def cursor (read : List Item) : Option Key := read.getLast?.map key

theorem olderThan_append {front back : List Item} {item : Item}
    (fresh : key item ∉ front.map key) :
    olderThan key (front ++ item :: back) (some (key item)) = back := by
  have passed : ∀ other ∈ front, decide (key other ≠ key item) = true := by
    intro other member
    rw [decide_eq_true_iff]
    intro same
    exact fresh (same ▸ List.mem_map_of_mem member)
  rw [olderThan, List.dropWhile_append_of_pos passed]
  simp

/-- The cursor of a read part finds the rest, whatever has been put in front meanwhile. -/
theorem olderThan_cursor {whole newer read rest : List Item} (grown : whole = newer ++ (read ++ rest))
    (distinct : (whole.map key).Nodup) (started : read ≠ []) :
    olderThan key whole (cursor key read) = rest := by
  obtain ⟨before, last, rfl⟩ := List.eq_nil_or_concat read |>.resolve_left started
  rw [List.concat_eq_append] at grown ⊢
  have shape : whole = (newer ++ before) ++ last :: rest := by
    rw [grown]
    simp
  have found : cursor key (before ++ [last]) = some (key last) := by
    simp [cursor]
  rw [found, shape]
  apply olderThan_append
  rw [shape, List.map_append, List.map_cons] at distinct
  exact fun member => (List.nodup_append.mp distinct).2.2 _ member _ (List.mem_cons_self ..) rfl

/-- The pages of a list that grows at its head are the slices of the list as it was at the first
page. -/
theorem olderThan_slice {whole first : List Item} {count : Nat} (grown : first <:+ whole)
    (distinct : (whole.map key).Nodup) (inside : count ≤ first.length)
    (initial : count = 0 → whole = first) :
    olderThan key whole (cursor key (first.take count)) = first.drop count := by
  rcases Nat.eq_zero_or_pos count with none | positive
  · rw [none, List.take_zero, List.drop_zero, initial none]
    rfl
  · obtain ⟨newer, joined⟩ := grown
    have shape : whole = newer ++ (first.take count ++ first.drop count) := by
      rw [List.take_append_drop, joined]
    apply olderThan_cursor key shape distinct
    · intro empty
      have length := congrArg List.length empty
      rw [List.length_take, List.length_nil] at length
      omega

end Paging
