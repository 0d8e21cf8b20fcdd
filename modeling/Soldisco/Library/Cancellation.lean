import Mathlib.Data.Multiset.Filter

/-
This file defines the cancellation of keys against items that can each be taken once, and proves that
taking the first free item of each key computes a difference of multisets.
-/

namespace Cancellation

variable {Item Key : Type} [DecidableEq Key] (key : Item → Key)

/-- The keys of the items that are not taken. -/
def free : List Item → List Bool → Multiset Key
  | item :: items, taken :: flags => if taken then free items flags else key item ::ₘ free items flags
  | _, _ => 0

/-- The position of the first item of the key that is not taken. -/
def firstFree (wanted : Key) (items : List Item) (flags : List Bool) : Option Nat :=
  (items.zip flags).findIdx? fun entry => !entry.2 && decide (key entry.1 = wanted)

omit [DecidableEq Key] in
theorem free_replicate (items : List Item) :
    free key items (List.replicate items.length false) = (items.map key : List Key) := by
  induction items with
  | nil => rfl
  | cons item rest ih =>
      rw [List.length_cons, List.replicate_succ, free, ih, if_neg Bool.false_ne_true, List.map_cons,
        Multiset.cons_coe]

theorem firstFree_cons (wanted : Key) (item : Item) (items : List Item) (taken : Bool)
    (flags : List Bool) : firstFree key wanted (item :: items) (taken :: flags) =
      if !taken && decide (key item = wanted) then some 0
      else (firstFree key wanted items flags).map (· + 1) := by
  simp [firstFree, List.findIdx?_cons]

/-- Without a free item of the key nothing can be taken. -/
theorem not_mem_free_of_firstFree_eq_none {wanted : Key} {items : List Item} {flags : List Bool}
    (absent : firstFree key wanted items flags = none) : wanted ∉ free key items flags := by
  induction items generalizing flags with
  | nil => simp [free]
  | cons item rest ih =>
      cases flags with
      | nil => simp [free]
      | cons taken flags =>
          rw [firstFree_cons] at absent
          split_ifs at absent with found
          have later := ih (Option.map_eq_none_iff.mp absent)
          cases taken with
          | true => simpa [free] using later
          | false =>
              have other : key item ≠ wanted := by simpa using found
              simp [free, other.symm, later]

/-- The item that is found has the key, and taking it removes the key once. -/
theorem free_set_of_firstFree_eq_some {wanted : Key} {items : List Item} {flags : List Bool}
    {index : Nat} (found : firstFree key wanted items flags = some index) :
    free key items flags = wanted ::ₘ free key items (flags.set index true) := by
  induction items generalizing flags index with
  | nil => simp [firstFree] at found
  | cons item rest ih =>
      cases flags with
      | nil => simp [firstFree] at found
      | cons taken flags =>
          rw [firstFree_cons] at found
          split_ifs at found with here
          · cases found
            have same : taken = false ∧ key item = wanted := by simpa using here
            simp [free, same]
          · obtain ⟨before, later, rfl⟩ := Option.map_eq_some_iff.mp found
            have moved := ih later
            cases taken with
            | true => simpa [free] using moved
            | false => simp [free, moved, Multiset.cons_swap]

/-- A key that is present cancels one occurrence. -/
theorem cons_sub_cons (wanted : Key) (left right : Multiset Key) :
    (wanted ::ₘ left) - (wanted ::ₘ right) = left - right := by
  rw [Multiset.sub_cons, Multiset.erase_cons_head]

/-- A key that is absent stays. -/
theorem cons_sub_of_not_mem {wanted : Key} {right : Multiset Key} (absent : wanted ∉ right)
    (left : Multiset Key) : (wanted ::ₘ left) - right = wanted ::ₘ (left - right) := by
  ext other
  by_cases same : other = wanted
  · subst same
    simp [Multiset.count_eq_zero_of_notMem absent]
  · simp [Multiset.count_cons_of_ne same]

/-- The items whose keys are not available any more when their turn comes. -/
def uncancelled : Multiset Key → List Item → List Item
  | _, [] => []
  | available, item :: rest =>
      if key item ∈ available then uncancelled (available.erase (key item)) rest
      else item :: uncancelled available rest

theorem uncancelled_sublist (available : Multiset Key) (items : List Item) :
    (uncancelled key available items).Sublist items := by
  induction items generalizing available with
  | nil => exact .slnil
  | cons item rest ih =>
      rw [uncancelled]
      split
      · exact (ih _).cons _
      · exact (ih _).cons_cons _

/-- What is left over are the keys without the available ones. -/
theorem map_uncancelled (available : Multiset Key) (items : List Item) :
    (((uncancelled key available items).map key : List Key) : Multiset Key) =
      ((items.map key : List Key) : Multiset Key) - available := by
  induction items generalizing available with
  | nil => exact (Multiset.zero_sub _).symm
  | cons item rest ih =>
      rw [uncancelled, List.map_cons, ← Multiset.cons_coe]
      split
      · rename_i present
        rw [ih, ← Multiset.cons_erase present, cons_sub_cons, Multiset.erase_cons_head]
      · rename_i absent
        rw [cons_sub_of_not_mem absent, List.map_cons, ← Multiset.cons_coe, ih]

theorem count_map_key (items : List Item) (wanted : Key) :
    ((items.map key : List Key) : Multiset Key).count wanted =
      items.countP fun item => decide (key item = wanted) := by
  rw [Multiset.coe_count, List.count, List.countP_map]
  rfl

/-- An item is left over when the earlier items of its key take all that is available. -/
theorem mem_uncancelled {available : Multiset Key} {items : List Item} {item : Item} :
    item ∈ uncancelled key available items ↔ ∃ front back, items = front ++ item :: back ∧
      available.count (key item) ≤
        front.countP fun earlier => decide (key earlier = key item) := by
  induction items generalizing available with
  | nil =>
      constructor
      · intro impossible
        cases impossible
      · intro ⟨front, back, split, _⟩
        cases front <;> cases split
  | cons head rest ih =>
      rw [uncancelled]
      split
      · rename_i present
        have taken : ∀ other, available.count other =
            (available.erase (key head)).count other + if other = key head then 1 else 0 := by
          intro other
          rw [← Multiset.count_cons, Multiset.cons_erase present]
        rw [ih]
        constructor
        · intro ⟨front, back, split, counted⟩
          refine ⟨head :: front, back, by rw [split, List.cons_append], ?_⟩
          rw [taken, List.countP_cons]
          by_cases same : key item = key head
          · rw [if_pos same, if_pos (decide_eq_true same.symm)]
            omega
          · rw [if_neg same]
            omega
        · intro ⟨front, back, split, counted⟩
          cases front with
          | nil =>
              cases split
              have positive := Multiset.count_pos.mpr present
              rw [List.countP_nil] at counted
              omega
          | cons first front =>
              cases split
              refine ⟨front, back, rfl, ?_⟩
              rw [taken, List.countP_cons] at counted
              by_cases same : key item = key head
              · rw [if_pos same, if_pos (decide_eq_true same.symm)] at counted
                omega
              · have other : decide (key head = key item) = false :=
                  decide_eq_false (Ne.symm same)
                rw [if_neg same, other, if_neg Bool.false_ne_true] at counted
                omega
      · rename_i absent
        have none := Multiset.count_eq_zero_of_notMem absent
        rw [List.mem_cons, ih]
        constructor
        · intro left
          rcases left with rfl | ⟨front, back, split, counted⟩
          · exact ⟨[], rest, rfl, by rw [none]; exact Nat.zero_le _⟩
          · refine ⟨head :: front, back, by rw [split, List.cons_append], ?_⟩
            rw [List.countP_cons]
            omega
        · intro ⟨front, back, split, counted⟩
          cases front with
          | nil =>
              cases split
              exact .inl rfl
          | cons first front =>
              cases split
              refine .inr ⟨front, back, rfl, ?_⟩
              rw [List.countP_cons] at counted
              by_cases same : key item = key head
              · rw [same, none]
                exact Nat.zero_le _
              · have other : decide (key head = key item) = false :=
                  decide_eq_false (Ne.symm same)
                rw [other, if_neg Bool.false_ne_true] at counted
                exact counted

section Group

variable {Group Value : Type} [DecidableEq Group] [DecidableEq Value]

/-- The values of one group. -/
def valuesOf (group : Group) (pairs : Multiset (Group × Value)) : Multiset Value :=
  (pairs.filter fun pair => pair.1 = group).map Prod.snd

theorem count_valuesOf (group : Group) (value : Value) (pairs : Multiset (Group × Value)) :
    (valuesOf group pairs).count value = pairs.count (group, value) := by
  rw [valuesOf, Multiset.count_map, Multiset.filter_filter, Multiset.count_eq_card_filter_eq]
  congr 1
  apply Multiset.filter_congr
  rintro ⟨first, second⟩ -
  simp [and_comm, eq_comm]

/-- The groups of a difference are the differences of the groups. -/
theorem valuesOf_sub (group : Group) (left right : Multiset (Group × Value)) :
    valuesOf group (left - right) = valuesOf group left - valuesOf group right := by
  ext value
  rw [Multiset.count_sub, count_valuesOf, count_valuesOf, count_valuesOf, Multiset.count_sub]

end Group
end Cancellation
