import Mathlib.Data.List.AList

/-
This file adds the lemmas on finite maps that removal loops need.
-/

namespace AList

variable {Key : Type} {Value : Type} [DecidableEq Key]

/-- The entries of a map are the removed entry and the rest. -/
theorem entries_perm_erase {map : AList fun _ : Key => Value} {key : Key} {value : Value}
    (present : map.lookup key = some value) :
    map.entries.Perm (⟨key, value⟩ :: (map.erase key).entries) := by
  have member : key ∈ map.entries.keys := by
    rw [← AList.keys, ← AList.mem_keys, ← AList.lookup_isSome, present]
    rfl
  obtain ⟨found, before, after, _, split, erased⟩ := List.exists_of_kerase member
  have entry : (⟨key, found⟩ : Sigma fun _ : Key => Value) ∈ map.entries := by
    rw [split]
    simp
  have same : found = value := by
    have looked := AList.mem_lookup_iff.mpr entry
    rw [present] at looked
    exact (Option.some.inj looked).symm
  subst same
  change map.entries.Perm (⟨key, found⟩ :: map.entries.kerase key)
  rw [erased, split]
  exact List.perm_middle

/-- A lookup after a removal finds the other keys. -/
theorem lookup_erase_eq_some {map : AList fun _ : Key => Value} {removed key : Key} {value : Value} :
    (map.erase removed).lookup key = some value ↔ key ≠ removed ∧ map.lookup key = some value := by
  by_cases same : key = removed
  · subst same
    simp
  · simp [AList.lookup_erase_ne same, same]

/-- A lookup after a list of removals finds exactly the keys outside the list. -/
theorem lookup_foldl_erase (map : AList fun _ : Key => Value) (removed : List Key) (key : Key) :
    (removed.foldl (fun map key => map.erase key) map).lookup key =
      if key ∈ removed then none else map.lookup key := by
  induction removed generalizing map with
  | nil => simp
  | cons first rest ih =>
      rw [List.foldl_cons, ih]
      by_cases same : key = first
      · subst same
        simp
      · simp [same, AList.lookup_erase_ne same]

/-- The removal of an absent key changes nothing. -/
theorem erase_of_lookup_none {map : AList fun _ : Key => Value} {key : Key}
    (absent : map.lookup key = none) : map.erase key = map := by
  apply AList.ext
  exact List.kerase_of_notMem_keys (AList.lookup_eq_none.mp absent)

/-- A value of the map is stored under one of its keys. -/
theorem mem_values {map : AList fun _ : Key => Value} {value : Value} :
    value ∈ map.entries.map Sigma.snd ↔ ∃ key, map.lookup key = some value := by
  constructor
  · intro member
    obtain ⟨entry, stored, same⟩ := List.mem_map.mp member
    exact ⟨entry.1, AList.mem_lookup_iff.mpr (same ▸ stored)⟩
  · rintro ⟨key, present⟩
    exact List.mem_map.mpr ⟨⟨key, value⟩, AList.mem_lookup_iff.mp present, rfl⟩

end AList
