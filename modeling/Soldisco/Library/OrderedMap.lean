import Mathlib.Data.List.Basic
import Mathlib.Data.List.Nodup
import Std.Data.ExtTreeMap

/-
This file counts the values of ordered maps and rebuilds a map from its values.
-/

namespace OrderedMap
open Std

variable {Key Value : Type} [Ord Key] [TransOrd Key]

/-- The values in the order of their keys. -/
def values (map : ExtTreeMap Key Value) : List Value := map.toList.map Prod.snd

/-- The number of keys whose value has a property. -/
def count (map : ExtTreeMap Key Value) (property : Value → Bool) : Nat :=
  map.toList.countP fun entry => property entry.2

theorem length_values (map : ExtTreeMap Key Value) : (values map).length = map.size := by
  rw [values, List.length_map, ExtTreeMap.length_toList]

theorem countP_values (map : ExtTreeMap Key Value) (property : Value → Bool) :
    (values map).countP property = count map property := by
  rw [values, List.countP_map]
  rfl

theorem count_le_size (map : ExtTreeMap Key Value) (property : Value → Bool) :
    count map property ≤ map.size := by
  rw [← ExtTreeMap.length_toList]
  exact List.countP_le_length

theorem size_insert_le (map : ExtTreeMap Key Value) (key : Key) (value : Value) :
    (map.insert key value).size ≤ map.size + 1 := ExtTreeMap.size_insert_le

theorem size_insert_of_present {map : ExtTreeMap Key Value} {key : Key} {old : Value}
    (present : map[key]? = some old) (value : Value) :
    (map.insert key value).size = map.size := by
  have member : key ∈ map := by
    rw [ExtTreeMap.mem_iff_isSome_getElem?, present]
    rfl
  rw [ExtTreeMap.size_insert, if_pos (ExtTreeMap.contains_iff_mem.mpr member)]

variable {key : Value → Key}

/-- Each value is stored under its own key. -/
def IsKeyed (key : Value → Key) (map : ExtTreeMap Key Value) : Prop :=
  ∀ stored value, map[stored]? = some value → key value = stored

theorem isKeyed_empty : IsKeyed key (∅ : ExtTreeMap Key Value) := by
  intro stored value present
  rw [ExtTreeMap.getElem?_empty] at present
  cases present

variable [LawfulEqOrd Key]

theorem nodup_toList (map : ExtTreeMap Key Value) : map.toList.Nodup :=
  ExtTreeMap.distinct_keys_toList.imp fun different same =>
    different (by rw [same, LawfulEqCmp.compare_eq_iff_eq])

theorem mem_values {map : ExtTreeMap Key Value} {value : Value} :
    value ∈ values map ↔ ∃ key : Key, map[key]? = some value := by
  unfold values
  rw [List.mem_map]
  constructor
  · rintro ⟨⟨key, stored⟩, member, rfl⟩
    exact ⟨key, ExtTreeMap.mem_toList_iff_getElem?_eq_some.mp member⟩
  · rintro ⟨key, present⟩
    exact ⟨(key, value), ExtTreeMap.mem_toList_iff_getElem?_eq_some.mpr present, rfl⟩

/-- The values of a keyed map have distinct keys. -/
theorem IsKeyed.nodup_values {map : ExtTreeMap Key Value} (keyed : IsKeyed key map) :
    ((values map).map key).Nodup := by
  unfold values
  rw [List.map_map]
  have keys : map.toList.map (key ∘ Prod.snd) = map.toList.map Prod.fst := by
    apply List.map_congr_left
    rintro ⟨stored, value⟩ member
    exact keyed stored value (ExtTreeMap.mem_toList_iff_getElem?_eq_some.mp member)
  rw [keys, List.Nodup, List.pairwise_map]
  exact ExtTreeMap.distinct_keys_toList.imp fun different same =>
    different (by rw [same, LawfulEqCmp.compare_eq_iff_eq])

variable [DecidableEq Key]

theorem getElem?_insert_eq (map : ExtTreeMap Key Value) (key other : Key) (value : Value) :
    (map.insert key value)[other]? = if key = other then some value else map[other]? := by
  rw [ExtTreeMap.getElem?_insert]
  simp only [LawfulEqCmp.compare_eq_iff_eq]

theorem getElem?_erase_eq (map : ExtTreeMap Key Value) (key other : Key) :
    (map.erase key)[other]? = if key = other then none else map[other]? := by
  rw [ExtTreeMap.getElem?_erase]
  simp only [LawfulEqCmp.compare_eq_iff_eq]

/-- The removal of an absent key changes nothing. -/
theorem erase_of_absent {map : ExtTreeMap Key Value} {key : Key} (absent : map[key]? = none) :
    map.erase key = map := by
  apply ExtTreeMap.ext_getElem?
  intro other
  rw [getElem?_erase_eq]
  by_cases same : key = other
  · rw [if_pos same, ← same, absent]
  · rw [if_neg same]

/-- The entries with a key written are the new entry and the other ones. -/
theorem toList_insert_perm (map : ExtTreeMap Key Value) (key : Key) (value : Value) :
    (map.insert key value).toList.Perm ((key, value) :: (map.erase key).toList) := by
  have fresh : (key, value) ∉ (map.erase key).toList := by
    rw [ExtTreeMap.mem_toList_iff_getElem?_eq_some, getElem?_erase_eq, if_pos rfl]
    simp
  rw [List.perm_ext_iff_of_nodup (nodup_toList _) (List.nodup_cons.mpr ⟨fresh, nodup_toList _⟩)]
  rintro ⟨other, stored⟩
  rw [List.mem_cons, ExtTreeMap.mem_toList_iff_getElem?_eq_some,
    ExtTreeMap.mem_toList_iff_getElem?_eq_some, getElem?_insert_eq, getElem?_erase_eq]
  by_cases same : key = other
  · subst same
    rw [if_pos rfl, if_pos rfl]
    constructor
    · intro present
      cases present
      exact .inl rfl
    · rintro (equal | absent)
      · cases equal
        rfl
      · cases absent
  · rw [if_neg same, if_neg same]
    constructor
    · exact .inr
    · rintro (equal | present)
      · cases equal
        exact absurd rfl same
      · exact present

/-- A stored value counts apart from the other ones. -/
theorem count_erase {map : ExtTreeMap Key Value} {key : Key} {value : Value}
    (present : map[key]? = some value) (property : Value → Bool) :
    count (map.erase key) property + (property value).toNat = count map property := by
  have whole : map.insert key value = map := by
    apply ExtTreeMap.ext_getElem?
    intro other
    rw [getElem?_insert_eq]
    by_cases same : key = other
    · rw [if_pos same, ← same, present]
    · rw [if_neg same]
  have perm := toList_insert_perm map key value
  rw [whole] at perm
  unfold count
  rw [perm.countP_eq, List.countP_cons]
  cases property value <;> rfl

theorem count_insert_of_absent {map : ExtTreeMap Key Value} {key : Key}
    (absent : map[key]? = none) (value : Value) (property : Value → Bool) :
    count (map.insert key value) property = count map property + (property value).toNat := by
  have perm := toList_insert_perm map key value
  rw [erase_of_absent absent] at perm
  unfold count
  rw [perm.countP_eq, List.countP_cons]
  cases property value <;> rfl

/-- A written value takes the place of the old one in the count. -/
theorem count_insert_of_present {map : ExtTreeMap Key Value} {key : Key} {old : Value}
    (present : map[key]? = some old) (value : Value) (property : Value → Bool) :
    count (map.insert key value) property + (property old).toNat =
      count map property + (property value).toNat := by
  have perm := toList_insert_perm map key value
  have removed := count_erase present property
  unfold count at removed ⊢
  rw [perm.countP_eq, List.countP_cons, ← removed]
  cases property value <;> cases property old <;> simp

/-- A value without the property leaves room in the count. -/
theorem count_lt_size {map : ExtTreeMap Key Value} {key : Key} {value : Value}
    {property : Value → Bool} (present : map[key]? = some value)
    (lacks : property value = false) : count map property < map.size := by
  have member : key ∈ map := by
    rw [ExtTreeMap.mem_iff_isSome_getElem?, present]
    rfl
  have rest := count_le_size (map.erase key) property
  have removed := count_erase present property
  have smaller : (map.erase key).size = map.size - 1 := by
    rw [ExtTreeMap.size_erase, if_pos (ExtTreeMap.contains_iff_mem.mpr member)]
  have positive : 0 < map.size := by
    rw [← ExtTreeMap.length_toList]
    exact List.length_pos_of_mem (ExtTreeMap.mem_toList_iff_getElem?_eq_some.mpr present)
  rw [lacks, Bool.toNat_false] at removed
  omega

theorem IsKeyed.insert {map : ExtTreeMap Key Value} (keyed : IsKeyed key map) (value : Value) :
    IsKeyed key (map.insert (key value) value) := by
  intro stored other present
  rw [getElem?_insert_eq] at present
  split at present
  · rename_i same
    cases present
    exact same
  · exact keyed stored other present

theorem IsKeyed.erase {map : ExtTreeMap Key Value} (keyed : IsKeyed key map) (removed : Key) :
    IsKeyed key (map.erase removed) := by
  intro stored other present
  rw [getElem?_erase_eq] at present
  split at present
  · cases present
  · exact keyed stored other present

/-- The values are stored one by one, each under its own key. -/
def storeAll (key : Value → Key) (map : ExtTreeMap Key Value) (stored : List Value) :
    ExtTreeMap Key Value :=
  stored.foldl (fun map value => map.insert (key value) value) map

/-- Values with distinct keys are all found again. -/
theorem getElem?_storeAll {stored : List Value} (distinct : (stored.map key).Nodup)
    (map : ExtTreeMap Key Value) (wanted : Key) (value : Value) :
    (storeAll key map stored)[wanted]? = some value ↔
      (value ∈ stored ∧ key value = wanted) ∨
        (wanted ∉ stored.map key ∧ map[wanted]? = some value) := by
  induction stored generalizing map with
  | nil => simp [storeAll]
  | cons first rest ih =>
      rw [List.map_cons, List.nodup_cons] at distinct
      change (storeAll key (map.insert (key first) first) rest)[wanted]? = some value ↔ _
      rw [ih distinct.2, getElem?_insert_eq, List.mem_cons, List.map_cons, List.mem_cons, not_or]
      by_cases same : key first = wanted
      · subst same
        rw [if_pos rfl]
        constructor
        · rintro (later | ⟨-, here⟩)
          · exact .inl ⟨.inr later.1, later.2⟩
          · cases here
            exact .inl ⟨.inl rfl, rfl⟩
        · rintro (⟨rfl | later, equal⟩ | ⟨⟨absent, -⟩, -⟩)
          · exact .inr ⟨distinct.1, rfl⟩
          · exact .inl ⟨later, equal⟩
          · exact absurd rfl absent
      · rw [if_neg same]
        constructor
        · rintro (later | ⟨absent, before⟩)
          · exact .inl ⟨.inr later.1, later.2⟩
          · exact .inr ⟨⟨fun equal => same equal.symm, absent⟩, before⟩
        · rintro (⟨rfl | later, equal⟩ | ⟨⟨-, absent⟩, before⟩)
          · exact absurd equal same
          · exact .inl ⟨later, equal⟩
          · exact .inr ⟨absent, before⟩

/-- A keyed map is rebuilt from its values. -/
theorem IsKeyed.storeAll_values {map : ExtTreeMap Key Value} (keyed : IsKeyed key map) :
    storeAll key ∅ (values map) = map := by
  apply ExtTreeMap.ext_getElem?
  intro wanted
  apply Option.ext
  intro value
  rw [getElem?_storeAll keyed.nodup_values, mem_values]
  constructor
  · rintro (⟨⟨stored, present⟩, same⟩ | ⟨-, none⟩)
    · rw [← same, keyed stored value present]
      exact present
    · rw [ExtTreeMap.getElem?_empty] at none
      cases none
  · intro present
    exact .inl ⟨⟨wanted, present⟩, keyed wanted value present⟩

end OrderedMap
