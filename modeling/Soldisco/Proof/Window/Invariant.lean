import Soldisco.Construction.Window.System
import Soldisco.Proof.Window.Atomics
import Soldisco.Proof.Window.Registry

/-
This file proves the invariant of every interleaving and the relation between the two ends of a step.
-/

namespace Soldisco.Window
open Domain MachineInteger ObservationWindowRegistry

/-- Each token is stored once and under its own target, each address belongs to one issued token,
and each retained token was confirmed. -/
structure RegistryValid (registry : ObservationWindowRegistry)
    (issued : List ObservationWindowToken) : Prop where
  cells : ∀ address, CellValid (registry.cells address)
  keyed : ∀ target token, registry.windows.lookup target = some token → token.target = target
  tracked : ∀ token ∈ registry.tokens, token ∈ issued
  nodup : registry.tokens.Nodup
  addresses : ∀ token ∈ issued, token.address < registry.allocated ∧
    token.generation = token.address % u64Size
  injective : ∀ first ∈ issued, ∀ second ∈ issued, first.address = second.address → first = second
  retained : ∀ token ∈ registry.retained, (registry.cell token).wasConfirmed = true
  capacity : registry.windows.entries.length ≤ registry.maximumActive
  generation : registry.nextGeneration = registry.allocated % u64Size
  counted : registry.allocated = issued.length

theorem RegistryValid.new (maximumActive : Nat) (capacityPositive : 0 < maximumActive) :
    RegistryValid (ObservationWindowRegistry.new maximumActive capacityPositive) [] where
  cells := fun _ => CellValid.fresh
  keyed := by simp [ObservationWindowRegistry.new]
  tracked := by simp [ObservationWindowRegistry.new, tokens]
  nodup := by simp [ObservationWindowRegistry.new, tokens]
  addresses := by simp
  injective := by simp
  retained := by simp [ObservationWindowRegistry.new]
  capacity := by simp [ObservationWindowRegistry.new]
  generation := by simp [ObservationWindowRegistry.new]
  counted := rfl

/-- An active token is not retained. -/
theorem RegistryValid.not_retained {registry : ObservationWindowRegistry}
    {issued : List ObservationWindowToken} (valid : RegistryValid registry issued)
    {target : ObservationTarget} {token : ObservationWindowToken}
    (active : registry.windows.lookup target = some token) : token ∉ registry.retained := by
  intro member
  exact (List.nodup_append.mp valid.nodup).2.2 token (AList.mem_values.mpr ⟨target, active⟩)
    token member rfl

theorem RegistryValid.active_issued {registry : ObservationWindowRegistry}
    {issued : List ObservationWindowToken} (valid : RegistryValid registry issued)
    {target : ObservationTarget} {token : ObservationWindowToken}
    (active : registry.windows.lookup target = some token) : token ∈ issued :=
  valid.tracked token (mem_tokens.mpr (Or.inl ⟨target, active⟩))

/-- A map without new entries is not longer. -/
theorem Effect.length_le {closing : ObservationWindowToken → Prop}
    {before after : ObservationWindowRegistry} (effect : Effect closing before after) :
    after.windows.entries.length ≤ before.windows.entries.length := by
  have keys : after.windows.keys ⊆ before.windows.keys := by
    intro target member
    obtain ⟨token, present⟩ := Option.isSome_iff_exists.mp
      (AList.lookup_isSome.mpr (AList.mem_keys.mpr member))
    exact AList.mem_keys.mp (AList.lookup_isSome.mp
      (Option.isSome_iff_exists.mpr ⟨token, effect.windows target token present⟩))
  simpa [AList.keys, List.keys] using
    (after.windows.keys_nodup.subperm keys).length_le

/-- An effect keeps the registry valid. -/
theorem RegistryValid.effect {closing : ObservationWindowToken → Prop}
    {before after : ObservationWindowRegistry} {issued : List ObservationWindowToken}
    (valid : RegistryValid before issued) (effect : Effect closing before after) :
    RegistryValid after issued where
  cells := fun address => effect.valid address (valid.cells address)
  keyed := fun target token present => valid.keyed target token (effect.windows target token present)
  tracked := fun token member =>
    valid.tracked token (Multiset.mem_of_le effect.tokens member)
  nodup := Multiset.coe_nodup.mp (Multiset.nodup_of_le effect.tokens (Multiset.coe_nodup.mpr valid.nodup))
  addresses := fun token member => by
    rw [effect.allocated]
    exact valid.addresses token member
  injective := valid.injective
  retained := by
    intro token member
    rcases effect.retained token member with earlier | confirmed
    · exact (effect.wasConfirmed token.address).trans (valid.retained token earlier)
    · exact confirmed
  capacity := by
    rw [effect.maximumActive]
    exact effect.length_le.trans valid.capacity
  generation := by
    rw [effect.nextGeneration, effect.allocated]
    exact valid.generation
  counted := effect.allocated.trans valid.counted

theorem newCell_valid (registry : ObservationWindowRegistry) (window : ObservationWindow) :
    CellValid (registry.newCell window) := by
  unfold newCell
  split
  · exact TokenCell.markIncomplete_valid CellValid.fresh _
  · exact CellValid.fresh

/-- The token of a new window is not issued yet. -/
theorem RegistryValid.newToken_not_issued {registry : ObservationWindowRegistry}
    {issued : List ObservationWindowToken} (valid : RegistryValid registry issued)
    (target : ObservationTarget) (mint : String) (openedAt closesAt : Int) :
    registry.newToken target mint openedAt closesAt ∉ issued := by
  intro member
  have below := (valid.addresses _ member).1
  simp [newToken] at below

theorem openWindow_cells_of_ne {registry : ObservationWindowRegistry} {address : Nat}
    (target : ObservationTarget) (mint : String) (openedAt closesAt : Int)
    (different : address ≠ registry.allocated) :
    (registry.openWindow target mint openedAt closesAt).cells address = registry.cells address := by
  simp [openWindow, newToken, different]

theorem openWindow_cell (registry : ObservationWindowRegistry) (target : ObservationTarget)
    (mint : String) (openedAt closesAt : Int) :
    (registry.openWindow target mint openedAt closesAt).cell
      (registry.newToken target mint openedAt closesAt) =
      registry.newCell (registry.newToken target mint openedAt closesAt).window := by
  simp [openWindow, ObservationWindowRegistry.cell]

/-- A new window keeps the registry valid when its target is free and the map has room. -/
theorem RegistryValid.openWindow {registry : ObservationWindowRegistry}
    {issued : List ObservationWindowToken} (valid : RegistryValid registry issued)
    {target : ObservationTarget} (absent : registry.windows.lookup target = none)
    (room : registry.windows.entries.length < registry.maximumActive)
    (mint : String) (openedAt closesAt : Int) :
    RegistryValid (registry.openWindow target mint openedAt closesAt)
      (issued ++ [registry.newToken target mint openedAt closesAt]) := by
  have fresh := valid.newToken_not_issued target mint openedAt closesAt
  have unseen : registry.newToken target mint openedAt closesAt ∉ registry.tokens :=
    fun member => fresh (valid.tracked _ member)
  have entries : (registry.openWindow target mint openedAt closesAt).windows.entries =
      ⟨target, registry.newToken target mint openedAt closesAt⟩ :: registry.windows.entries :=
    AList.entries_insert_of_notMem (AList.lookup_eq_none.mp absent)
  have tokens : (registry.openWindow target mint openedAt closesAt).tokens =
      registry.newToken target mint openedAt closesAt :: registry.tokens := by
    simp only [ObservationWindowRegistry.tokens, entries]
    rfl
  constructor
  case cells =>
      intro address
      by_cases same : address = registry.allocated
      · subst same
        change CellValid ((registry.openWindow target mint openedAt closesAt).cell
          (registry.newToken target mint openedAt closesAt))
        rw [openWindow_cell]
        exact newCell_valid registry _
      · rw [openWindow_cells_of_ne target mint openedAt closesAt same]
        exact valid.cells address
  case keyed =>
      intro key token present
      change (registry.windows.insert target _).lookup key = some token at present
      by_cases same : key = target
      · subst same
        rw [AList.lookup_insert] at present
        cases present
        rfl
      · rw [AList.lookup_insert_ne same] at present
        exact valid.keyed key token present
  case tracked =>
      rw [tokens]
      intro token member
      rcases List.mem_cons.mp member with rfl | earlier
      · simp
      · exact List.mem_append_left _ (valid.tracked token earlier)
  case nodup =>
      rw [tokens]
      exact List.nodup_cons.mpr ⟨unseen, valid.nodup⟩
  case addresses =>
      intro token member
      change token.address < registry.allocated + 1 ∧ _
      rcases List.mem_append.mp member with earlier | new
      · obtain ⟨below, generation⟩ := valid.addresses token earlier
        exact ⟨Nat.lt_succ_of_lt below, generation⟩
      · rw [List.mem_singleton.mp new]
        exact ⟨Nat.lt_succ_self _, valid.generation⟩
  case injective =>
      intro first firstMember second secondMember equal
      rcases List.mem_append.mp firstMember with firstOld | firstNew <;>
        rcases List.mem_append.mp secondMember with secondOld | secondNew
      · exact valid.injective first firstOld second secondOld equal
      · have below := (valid.addresses first firstOld).1
        rw [List.mem_singleton.mp secondNew] at equal
        simp only [newToken] at equal
        omega
      · have below := (valid.addresses second secondOld).1
        rw [List.mem_singleton.mp firstNew] at equal
        simp only [newToken] at equal
        omega
      · rw [List.mem_singleton.mp firstNew, List.mem_singleton.mp secondNew]
  case retained =>
      intro token member
      have below := (valid.addresses token (valid.tracked token (mem_tokens.mpr (Or.inr member)))).1
      change ((registry.openWindow target mint openedAt closesAt).cells token.address).wasConfirmed = true
      rw [openWindow_cells_of_ne target mint openedAt closesAt (Nat.ne_of_lt below)]
      exact valid.retained token member
  case capacity =>
      rw [entries]
      exact room
  case generation =>
      change (registry.nextGeneration + 1) % u64Size = (registry.allocated + 1) % u64Size
      rw [valid.generation, Nat.mod_add_mod]
  case counted =>
      rw [List.length_append, ← valid.counted]
      rfl

/-- A valid operation on the cell of one token keeps the registry valid. -/
theorem RegistryValid.setCell {registry : ObservationWindowRegistry}
    {issued : List ObservationWindowToken} (valid : RegistryValid registry issued)
    {token : ObservationWindowToken} {cell : TokenCell}
    (progress : CellProgress (registry.cell token) cell) (cellValid : CellValid cell) :
    RegistryValid (registry.setCell token cell) issued :=
  { valid with
    cells := by
      intro address
      by_cases same : address = token.address
      · subst same
        simpa [ObservationWindowRegistry.setCell] using cellValid
      · rw [cells_setCell_of_ne cell same]
        exact valid.cells address
    retained := by
      intro other member
      by_cases same : other.address = token.address
      · have confirmed := valid.retained other member
        simp only [ObservationWindowRegistry.cell, same] at confirmed
        simpa [ObservationWindowRegistry.setCell, ObservationWindowRegistry.cell, same] using
          progress.wasConfirmed confirmed
      · change ((registry.setCell token cell).cells other.address).wasConfirmed = true
        rw [cells_setCell_of_ne cell same]
        exact valid.retained other member }

end Soldisco.Window
