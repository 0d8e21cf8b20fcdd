import Mathlib.Algebra.BigOperators.Group.List.Basic
import Mathlib.Algebra.GroupWithZero.Nat
import Soldisco.Library.AssociationList

/-
This file gives tables of rows under a primary key and sums a value over the rows.
-/

/-- A table maps each value of its primary key to one row. -/
abbrev Table (Key Row : Type) := AList fun _ : Key => Row

namespace Table

variable {Key Row : Type} [DecidableEq Key]

/-- A change of the row under one key leaves an absent key absent. -/
def modify (table : Table Key Row) (key : Key) (change : Row → Row) : Table Key Row :=
  match table.lookup key with
  | some row => table.insert key (change row)
  | none => table

/-- A change of every row keeps the keys. -/
def modifyAll (table : Table Key Row) (change : Key → Row → Row) : Table Key Row :=
  ⟨table.entries.map fun entry => ⟨entry.1, change entry.1 entry.2⟩, by
    have distinct := table.nodupKeys
    rw [List.NodupKeys, List.keys, List.map_map]
    exact distinct⟩

/-- The rows that a condition selects are deleted. -/
def deleteWhere (table : Table Key Row) (selects : Key → Row → Bool) : Table Key Row :=
  ⟨table.entries.filter fun entry => !selects entry.1 entry.2,
    table.nodupKeys.sublist List.filter_sublist⟩

/-- The first entry whose row has a property. -/
def find (table : Table Key Row) (property : Row → Bool) : Option (Key × Row) :=
  (table.entries.find? fun entry => property entry.2).map fun entry => (entry.1, entry.2)

/-- Some row has a property. -/
def any (table : Table Key Row) (property : Key → Row → Bool) : Bool :=
  table.entries.any fun entry => property entry.1 entry.2

/-- The sum of a value over the rows. -/
def total (table : Table Key Row) (value : Row → Nat) : Nat :=
  (table.entries.map fun entry => value entry.2).sum

/-- A row with a property counts as one. -/
def one (property : Row → Bool) (row : Row) : Nat := if property row then 1 else 0

/-- The number of rows with a property. -/
def count (table : Table Key Row) (property : Row → Bool) : Nat := table.total (one property)

theorem modify_of_lookup {table : Table Key Row} {key : Key} {row : Row}
    (present : table.lookup key = some row) (change : Row → Row) :
    table.modify key change = table.insert key (change row) := by
  unfold modify
  rw [present]

@[simp] theorem modify_insert (table : Table Key Row) (key : Key) (row : Row)
    (change : Row → Row) : modify (table.insert key row) key change =
      table.insert key (change row) := by
  rw [modify_of_lookup (AList.lookup_insert table), AList.insert_insert]

theorem lookup_modify (table : Table Key Row) (key other : Key) (change : Row → Row) :
    (table.modify key change).lookup other =
      if other = key then (table.lookup key).map change else table.lookup other := by
  unfold modify
  cases found : table.lookup key with
  | some row =>
      by_cases same : other = key
      · subst same
        simp
      · simp [AList.lookup_insert_ne same, same]
  | none =>
      by_cases same : other = key
      · subst same
        simp [found]
      · simp [same]

/-- The entry of a key survives the deletion exactly when the condition spares it. -/
theorem lookup_deleteWhere_eq_some {table : Table Key Row} {selects : Key → Row → Bool} {key : Key}
    {row : Row} : (table.deleteWhere selects).lookup key = some row ↔
      table.lookup key = some row ∧ selects key row = false := by
  rw [← Option.mem_def, ← Option.mem_def, AList.mem_lookup_iff, AList.mem_lookup_iff]
  simp [deleteWhere]

theorem lookup_modifyAll (table : Table Key Row) (key : Key) (change : Key → Row → Row) :
    (table.modifyAll change).lookup key = (table.lookup key).map (change key) := by
  apply Option.ext
  intro row
  rw [← Option.mem_def, AList.mem_lookup_iff, Option.map_eq_some_iff]
  simp only [modifyAll, List.mem_map]
  constructor
  · rintro ⟨entry, stored, same⟩
    cases same
    exact ⟨entry.2, AList.mem_lookup_iff.mpr stored, rfl⟩
  · rintro ⟨old, present, rfl⟩
    exact ⟨⟨key, old⟩, AList.mem_lookup_iff.mp present, rfl⟩

theorem find_eq_some {table : Table Key Row} {property : Row → Bool} {key : Key} {row : Row}
    (found : table.find property = some (key, row)) :
    table.lookup key = some row ∧ property row = true := by
  unfold find at found
  obtain ⟨entry, first, same⟩ := Option.map_eq_some_iff.mp found
  cases same
  exact ⟨AList.mem_lookup_iff.mpr (List.mem_of_find?_eq_some first), by
    simpa using List.find?_some first⟩

theorem find_eq_none {table : Table Key Row} {property : Row → Bool} :
    table.find property = none ↔ ∀ key row, table.lookup key = some row → property row = false := by
  simp only [find, Option.map_eq_none_iff, List.find?_eq_none, Bool.not_eq_true]
  constructor
  · intro absent key row present
    exact absent ⟨key, row⟩ (AList.mem_lookup_iff.mp present)
  · intro absent entry member
    exact absent entry.1 entry.2 (AList.mem_lookup_iff.mpr member)

/-- A property that the rows of a key lack is found as if the key were absent. -/
theorem find?_kerase (entries : List (Sigma fun _ : Key => Row)) (key : Key)
    (property : Row → Bool) (lacks : ∀ entry ∈ entries, entry.1 = key → property entry.2 = false) :
    (entries.kerase key).find? (fun entry => property entry.2) =
      entries.find? fun entry => property entry.2 := by
  induction entries with
  | nil => rfl
  | cons entry rest ih =>
      by_cases same : key = entry.1
      · have absent := lacks entry List.mem_cons_self same.symm
        rw [List.kerase_cons_eq same, List.find?_cons_of_neg (by simp [absent])]
      · rw [List.kerase_cons_ne same, List.find?_cons, List.find?_cons, ih fun other member =>
          lacks other (List.mem_cons_of_mem _ member)]

/-- A written row with the property is found first. -/
theorem find_insert_of_property (table : Table Key Row) (key : Key) {row : Row}
    {property : Row → Bool} (holds : property row = true) :
    find (table.insert key row) property = some (key, row) := by
  unfold find
  rw [AList.entries_insert, List.find?_cons, holds]
  rfl

/-- A written row without the property leaves what is found when the old row had it neither. -/
theorem find_insert_of_not (table : Table Key Row) (key : Key) {row : Row}
    {property : Row → Bool} (lacks : property row = false)
    (before : ∀ old, table.lookup key = some old → property old = false) :
    find (table.insert key row) property = table.find property := by
  unfold find
  rw [AList.entries_insert, List.find?_cons, lacks]
  dsimp only
  rw [find?_kerase]
  intro entry member same
  apply before
  rw [← same]
  exact AList.mem_lookup_iff.mpr member

theorem any_iff {table : Table Key Row} {property : Key → Row → Bool} :
    table.any property = true ↔ ∃ key row, table.lookup key = some row ∧ property key row = true := by
  simp only [any, List.any_eq_true]
  constructor
  · rintro ⟨entry, member, holds⟩
    exact ⟨entry.1, entry.2, AList.mem_lookup_iff.mpr member, holds⟩
  · rintro ⟨key, row, present, holds⟩
    exact ⟨⟨key, row⟩, AList.mem_lookup_iff.mp present, holds⟩

theorem total_insert_new {table : Table Key Row} {key : Key} (absent : table.lookup key = none)
    (row : Row) (value : Row → Nat) :
    total (table.insert key row) value = table.total value + value row := by
  have kept := AList.erase_of_lookup_none absent
  have entries : table.entries.kerase key = table.entries := congrArg AList.entries kept
  unfold total
  rw [AList.entries_insert, entries, List.map_cons, List.sum_cons, Nat.add_comm]

/-- A replaced row leaves the total and the new row enters it. -/
theorem total_insert_old {table : Table Key Row} {key : Key} {old : Row}
    (present : table.lookup key = some old) (row : Row) (value : Row → Nat) :
    total (table.insert key row) value + value old = table.total value + value row := by
  have split := ((AList.entries_perm_erase present).map fun entry => value entry.2).sum_eq
  unfold total
  rw [AList.entries_insert, List.map_cons, List.sum_cons, split, List.map_cons, List.sum_cons]
  change value row + ((table.entries.kerase key).map fun entry => value entry.2).sum + value old =
    value old + ((table.entries.kerase key).map fun entry => value entry.2).sum + value row
  omega

theorem total_modify {table : Table Key Row} {key : Key} {old : Row}
    (present : table.lookup key = some old) (change : Row → Row) (value : Row → Nat) :
    (table.modify key change).total value + value old =
      table.total value + value (change old) := by
  unfold modify
  rw [present]
  exact total_insert_old present (change old) value

/-- A change that keeps the value of a row keeps the total. -/
theorem total_modify_of_same {table : Table Key Row} {key : Key} {change : Row → Row}
    {value : Row → Nat}
    (same : ∀ row, table.lookup key = some row → value (change row) = value row) :
    (table.modify key change).total value = table.total value := by
  cases present : table.lookup key with
  | none =>
      unfold modify
      rw [present]
  | some old =>
      have changed := total_modify present change value
      rw [same old present] at changed
      omega

theorem total_modifyAll {table : Table Key Row} {change : Key → Row → Row} {value : Row → Nat}
    (same : ∀ key row, table.lookup key = some row → value (change key row) = value row) :
    (table.modifyAll change).total value = table.total value := by
  unfold total modifyAll
  rw [List.map_map]
  congr 1
  apply List.map_congr_left
  intro entry member
  exact same entry.1 entry.2 (AList.mem_lookup_iff.mpr member)

/-- Deleted rows without a value leave the total as it is. -/
theorem total_deleteWhere {table : Table Key Row} {selects : Key → Row → Bool} {value : Row → Nat}
    (spared : ∀ key row, table.lookup key = some row → selects key row = true → value row = 0) :
    (table.deleteWhere selects).total value = table.total value := by
  have worthless : ∀ entries : List (Sigma fun _ : Key => Row),
      (∀ entry ∈ entries, selects entry.1 entry.2 = true → value entry.2 = 0) →
      ((entries.filter fun entry => !selects entry.1 entry.2).map fun entry => value entry.2).sum =
        (entries.map fun entry => value entry.2).sum := by
    intro entries
    induction entries with
    | nil => exact fun _ => rfl
    | cons entry rest ih =>
        intro zero
        have others := ih fun later member => zero later (List.mem_cons_of_mem _ member)
        cases selected : selects entry.1 entry.2 with
        | false => simp [selected, others]
        | true => simp [selected, others, zero entry List.mem_cons_self selected]
  exact worthless table.entries fun entry member =>
    spared entry.1 entry.2 (AList.mem_lookup_iff.mpr member)

omit [DecidableEq Key] in
theorem count_eq_length_filter (table : Table Key Row) (property : Row → Bool) :
    table.count property = (table.entries.filter fun entry => property entry.2).length := by
  unfold count total
  induction table.entries with
  | nil => rfl
  | cons entry rest ih =>
      rw [List.map_cons, List.sum_cons, ih, one]
      cases holds : property entry.2 with
      | false => simp [holds]
      | true => simp [holds, Nat.add_comm]

/-- Deleted rows keep no property that they lack. -/
theorem any_deleteWhere {table : Table Key Row} {selects property : Key → Row → Bool}
    (lacks : ∀ key row, table.lookup key = some row → selects key row = true →
      property key row = false) :
    (table.deleteWhere selects).any property = table.any property := by
  rw [Bool.eq_iff_iff, any_iff, any_iff]
  constructor
  · rintro ⟨key, row, present, holds⟩
    exact ⟨key, row, (lookup_deleteWhere_eq_some.mp present).1, holds⟩
  · rintro ⟨key, row, present, holds⟩
    refine ⟨key, row, lookup_deleteWhere_eq_some.mpr ⟨present, ?_⟩, holds⟩
    by_contra selected
    rw [lacks key row present (by simpa using selected)] at holds
    cases holds

omit [DecidableEq Key] in
theorem any_modifyAll {table : Table Key Row} {change : Key → Row → Row}
    {property : Key → Row → Bool}
    (same : ∀ key row, property key (change key row) = property key row) :
    (table.modifyAll change).any property = table.any property := by
  unfold any modifyAll
  rw [List.any_map]
  congr 1
  funext entry
  exact same entry.1 entry.2

/-- A condition that selects no deleted row selects the same entries. -/
theorem filter_deleteWhere {table : Table Key Row} {selects property : Key → Row → Bool}
    (lacks : ∀ key row, table.lookup key = some row → selects key row = true →
      property key row = false) :
    (table.deleteWhere selects).entries.filter (fun entry => property entry.1 entry.2) =
      table.entries.filter fun entry => property entry.1 entry.2 := by
  unfold deleteWhere
  rw [List.filter_filter]
  apply List.filter_congr
  intro entry member
  cases selected : selects entry.1 entry.2 with
  | false => simp
  | true => simp [lacks entry.1 entry.2 (AList.mem_lookup_iff.mpr member) selected]

/-- A row that no deletion selects is found in the same place. -/
theorem find_deleteWhere {table : Table Key Row} {selects : Key → Row → Bool}
    {property : Row → Bool}
    (lacks : ∀ key row, table.lookup key = some row → selects key row = true →
      property row = false) :
    (table.deleteWhere selects).find property = table.find property := by
  have kept := @filter_deleteWhere Key Row _ table selects (fun _ => property) lacks
  unfold find
  rw [← List.head?_filter, ← List.head?_filter, kept]

/-- A lookup that the deletion spares. -/
theorem lookup_deleteWhere_of_spared {table : Table Key Row} {selects : Key → Row → Bool}
    {key : Key} (spared : ∀ row, table.lookup key = some row → selects key row = false) :
    (table.deleteWhere selects).lookup key = table.lookup key := by
  apply Option.ext
  intro row
  rw [lookup_deleteWhere_eq_some]
  exact ⟨And.left, fun present => ⟨present, spared row present⟩⟩

/-- A row that the deletion spares is written before or after the deletion. -/
theorem deleteWhere_insert {table : Table Key Row} {selects : Key → Row → Bool} {key : Key}
    {row : Row} (spared : selects key row = false)
    (before : ∀ old, table.lookup key = some old → selects key old = false) :
    deleteWhere (table.insert key row) selects = (table.deleteWhere selects).insert key row := by
  apply AList.ext
  rw [AList.entries_insert]
  change (AList.insert key row table).entries.filter
    (fun entry => !selects entry.1 entry.2) = _
  rw [AList.entries_insert, List.filter_cons_of_pos (by simp [spared])]
  congr 1
  have erased : ∀ entries : List (Sigma fun _ : Key => Row),
      (∀ entry ∈ entries, entry.1 = key → selects entry.1 entry.2 = false) →
      (entries.kerase key).filter (fun entry => !selects entry.1 entry.2) =
        (entries.filter fun entry => !selects entry.1 entry.2).kerase key := by
    intro entries
    induction entries with
    | nil => exact fun _ => rfl
    | cons entry rest ih =>
        intro kept
        by_cases same : key = entry.1
        · have spares := kept entry List.mem_cons_self same.symm
          rw [List.kerase_cons_eq same, List.filter_cons_of_pos (by simp [spares]),
            List.kerase_cons_eq same]
        · have others := ih fun later member => kept later (List.mem_cons_of_mem _ member)
          rw [List.kerase_cons_ne same, List.filter_cons, List.filter_cons, others]
          split
          · rw [List.kerase_cons_ne same]
          · rfl
  apply erased
  intro entry member same
  have present := AList.mem_lookup_iff.mpr member
  rw [same] at present ⊢
  exact before _ present

/-- A change that the deletion does not see is made before or after the deletion. -/
theorem deleteWhere_modify {table : Table Key Row} {selects : Key → Row → Bool} {key : Key}
    {change : Row → Row} (same : ∀ row, selects key (change row) = selects key row)
    (spared : ∀ row, table.lookup key = some row → selects key row = false) :
    deleteWhere (table.modify key change) selects =
      (table.deleteWhere selects).modify key change := by
  unfold modify
  rw [lookup_deleteWhere_of_spared spared]
  cases present : table.lookup key with
  | none => rfl
  | some row => exact deleteWhere_insert ((same row).trans (spared row present)) spared

omit [DecidableEq Key] in
theorem deleteWhere_modifyAll {table : Table Key Row} {selects : Key → Row → Bool}
    {change : Key → Row → Row} (same : ∀ key row, selects key (change key row) = selects key row) :
    deleteWhere (table.modifyAll change) selects =
      (table.deleteWhere selects).modifyAll change := by
  apply AList.ext
  change (table.entries.map fun entry => (⟨entry.1, change entry.1 entry.2⟩ : Sigma fun _ : Key => Row)).filter
      (fun entry => !selects entry.1 entry.2) =
    (table.entries.filter fun entry => !selects entry.1 entry.2).map fun entry =>
      ⟨entry.1, change entry.1 entry.2⟩
  rw [List.filter_map]
  congr 1
  apply List.filter_congr
  intro entry _
  rw [Function.comp_apply, same]

theorem modifyAll_insert (table : Table Key Row) (key : Key) (row : Row)
    (change : Key → Row → Row) : modifyAll (table.insert key row) change =
      (table.modifyAll change).insert key (change key row) := by
  apply AList.ext
  rw [AList.entries_insert]
  change (AList.insert key row table).entries.map (fun entry =>
    (⟨entry.1, change entry.1 entry.2⟩ : Sigma fun _ : Key => Row)) = _
  rw [AList.entries_insert, List.map_cons]
  congr 1
  change (table.entries.kerase key).map (fun entry =>
      (⟨entry.1, change entry.1 entry.2⟩ : Sigma fun _ : Key => Row)) =
    (table.entries.map fun entry => ⟨entry.1, change entry.1 entry.2⟩).kerase key
  induction table.entries with
  | nil => rfl
  | cons entry rest ih =>
      obtain ⟨other, old⟩ := entry
      by_cases same : key = other
      · rw [List.kerase_cons_eq same, List.map_cons, List.kerase_cons_eq same]
      · rw [List.kerase_cons_ne same, List.map_cons, List.map_cons, ih, List.kerase_cons_ne same]

/-- Two changes that commute on a row are made in either order. -/
theorem modifyAll_modify {table : Table Key Row} {key : Key} {change : Row → Row}
    {every : Key → Row → Row} (commutes : ∀ row, table.lookup key = some row →
      every key (change row) = change (every key row)) :
    modifyAll (table.modify key change) every = (table.modifyAll every).modify key change := by
  unfold modify
  rw [lookup_modifyAll]
  cases present : table.lookup key with
  | none => rfl
  | some row =>
      rw [Option.map_some]
      dsimp only
      rw [modifyAll_insert, commutes row present]

omit [DecidableEq Key] in
/-- A property that the change of every row keeps is found in the same place. -/
theorem find_modifyAll {table : Table Key Row} {change : Key → Row → Row} {property : Row → Bool}
    (same : ∀ key row, property (change key row) = property row) :
    (table.modifyAll change).find property =
      (table.find property).map fun entry => (entry.1, change entry.1 entry.2) := by
  unfold find modifyAll
  rw [List.find?_map, Option.map_map, Option.map_map]
  congr 1
  congr 1
  funext entry
  exact same entry.1 entry.2

end Table
