import Mathlib.Data.Multiset.AddSub
import Soldisco.Construction.Window.Registry
import Soldisco.Library.AssociationList
import Soldisco.Proof.Window.Token

/-
This file says once what a registry method can do to the tokens that exist before it.
Every loop of the registry is a chain of such effects.
-/

namespace Soldisco.Window
open ObservationWindowRegistry

/-- An effect moves tokens from the map to the retained list or out of the registry.
It never confirms, claims or finalizes a token. A live token leaves the map only
when the closing condition allows it, and a confirmed token stays in the registry. -/
structure Effect (closing : ObservationWindowToken → Prop)
    (before after : ObservationWindowRegistry) : Prop where
  maximumActive : after.maximumActive = before.maximumActive
  nextGeneration : after.nextGeneration = before.nextGeneration
  allocated : after.allocated = before.allocated
  gaps : after.latestSourceCoverageGap = before.latestSourceCoverageGap
  watermarks : after.latestSourceProgress = before.latestSourceProgress
  cells : ∀ address, CellProgress (before.cells address) (after.cells address)
  valid : ∀ address, CellValid (before.cells address) → CellValid (after.cells address)
  wasConfirmed : ∀ address, (after.cells address).wasConfirmed = (before.cells address).wasConfirmed
  finalized : ∀ address, (after.cells address).finalized = (before.cells address).finalized
  claimed : ∀ address,
    (after.cells address).finalizationClaimed = (before.cells address).finalizationClaimed
  tokens : (after.tokens : Multiset ObservationWindowToken) ≤ before.tokens
  windows : ∀ target token, after.windows.lookup target = some token →
    before.windows.lookup target = some token
  retained : ∀ token ∈ after.retained,
    token ∈ before.retained ∨ (after.cell token).wasConfirmed = true
  stays : ∀ token ∈ before.retained, (after.cell token).finalized = false → token ∈ after.retained
  kept : ∀ token ∈ before.tokens, (after.cell token).wasConfirmed = true →
    (after.cell token).finalized = false → token ∈ after.tokens
  left : ∀ target token, before.windows.lookup target = some token →
    after.windows.lookup target = some token ∨ (after.cell token).isLive = false ∨ closing token

theorem Effect.refl (closing : ObservationWindowToken → Prop)
    (registry : ObservationWindowRegistry) : Effect closing registry registry where
  maximumActive := rfl
  nextGeneration := rfl
  allocated := rfl
  gaps := rfl
  watermarks := rfl
  cells := fun _ => .refl _
  valid := fun _ valid => valid
  wasConfirmed := fun _ => rfl
  finalized := fun _ => rfl
  claimed := fun _ => rfl
  tokens := le_refl _
  windows := fun _ _ present => present
  retained := fun _ member => Or.inl member
  stays := fun _ member _ => member
  kept := fun _ member _ _ => member
  left := fun _ _ present => Or.inl present

theorem Effect.trans {closing : ObservationWindowToken → Prop}
    {first second third : ObservationWindowRegistry}
    (left : Effect closing first second) (right : Effect closing second third) :
    Effect closing first third where
  maximumActive := right.maximumActive.trans left.maximumActive
  nextGeneration := right.nextGeneration.trans left.nextGeneration
  allocated := right.allocated.trans left.allocated
  gaps := right.gaps.trans left.gaps
  watermarks := right.watermarks.trans left.watermarks
  cells := fun address => (left.cells address).trans (right.cells address)
  valid := fun address valid => right.valid address (left.valid address valid)
  wasConfirmed := fun address => (right.wasConfirmed address).trans (left.wasConfirmed address)
  finalized := fun address => (right.finalized address).trans (left.finalized address)
  claimed := fun address => (right.claimed address).trans (left.claimed address)
  tokens := right.tokens.trans left.tokens
  windows := fun target token present => left.windows target token (right.windows target token present)
  retained := by
    intro token member
    rcases right.retained token member with earlier | confirmed
    · rcases left.retained token earlier with member | confirmed
      · exact Or.inl member
      · exact Or.inr ((right.cells token.address).wasConfirmed confirmed)
    · exact Or.inr confirmed
  stays := by
    intro token member unfinalized
    exact right.stays token (left.stays token member
      ((right.cells token.address).unfinalized unfinalized)) unfinalized
  kept := by
    intro token member confirmed unfinalized
    apply right.kept token _ confirmed unfinalized
    apply left.kept token member _ ((right.cells token.address).unfinalized unfinalized)
    exact (right.wasConfirmed token.address).symm.trans confirmed
  left := by
    intro target token present
    rcases left.left target token present with stays | dead | closes
    · exact right.left target token stays
    · right
      left
      by_contra live
      have revived := (right.cells token.address).isLive (Bool.eq_true_of_not_eq_false live)
      exact absurd (dead.symm.trans revived) (by decide)
    · exact Or.inr (Or.inr closes)

/-- A weaker closing condition admits the same effects. -/
theorem Effect.mono {weak strong : ObservationWindowToken → Prop}
    {before after : ObservationWindowRegistry} (implies : ∀ token, strong token → weak token)
    (effect : Effect strong before after) : Effect weak before after :=
  { effect with
    left := fun target token present => by
      rcases effect.left target token present with stays | dead | closes
      · exact Or.inl stays
      · exact Or.inr (Or.inl dead)
      · exact Or.inr (Or.inr (implies token closes)) }

/-- The passes of a loop chain their effects. -/
theorem Effect.foldl {Item State : Type} {closing : ObservationWindowToken → Prop}
    (registry : State → ObservationWindowRegistry) (pass : State → Item → State)
    (each : ∀ state item, Effect closing (registry state) (registry (pass state item)))
    (items : List Item) (state : State) :
    Effect closing (registry state) (registry (items.foldl pass state)) := by
  induction items generalizing state with
  | nil => exact .refl closing _
  | cons item rest ih => exact (each state item).trans (ih (pass state item))

/-- A cell operation that never confirms, claims or finalizes is an effect on its own. -/
theorem Effect.setCell (closing : ObservationWindowToken → Prop)
    (registry : ObservationWindowRegistry) (token : ObservationWindowToken) (cell : TokenCell)
    (progress : CellProgress (registry.cell token) cell)
    (valid : CellValid (registry.cell token) → CellValid cell)
    (wasConfirmed : cell.wasConfirmed = (registry.cell token).wasConfirmed)
    (finalized : cell.finalized = (registry.cell token).finalized)
    (claimed : cell.finalizationClaimed = (registry.cell token).finalizationClaimed) :
    Effect closing registry (registry.setCell token cell) := by
  have cases (address : Nat) : address = token.address ∧ (registry.setCell token cell).cells address =
      cell ∨ (registry.setCell token cell).cells address = registry.cells address := by
    by_cases same : address = token.address
    · left
      simp [same, ObservationWindowRegistry.setCell]
    · right
      simp [same, ObservationWindowRegistry.setCell]
  refine { Effect.refl closing registry with
    maximumActive := rfl, nextGeneration := rfl, allocated := rfl, gaps := rfl, watermarks := rfl,
    cells := ?_, valid := ?_, wasConfirmed := ?_, finalized := ?_, claimed := ?_,
    tokens := le_refl _, windows := fun _ _ present => present,
    retained := fun _ member => Or.inl member, stays := fun _ member _ => member,
    kept := fun _ member _ _ => member, left := fun _ _ present => Or.inl present }
  all_goals
    intro address
    rcases cases address with ⟨rfl, updated⟩ | unchanged
  · rw [updated]
    exact progress
  · rw [unchanged]
    exact .refl _
  · rw [updated]
    exact valid
  · rw [unchanged]
    exact id
  · rw [updated]
    exact wasConfirmed
  · rw [unchanged]
  · rw [updated]
    exact finalized
  · rw [unchanged]
  · rw [updated]
    exact claimed
  · rw [unchanged]

theorem cells_setCell_of_ne {registry : ObservationWindowRegistry} {token : ObservationWindowToken}
    {address : Nat} (cell : TokenCell) (different : address ≠ token.address) :
    (registry.setCell token cell).cells address = registry.cells address := by
  simp [setCell, different]

@[simp] theorem cell_setCell (registry : ObservationWindowRegistry) (token : ObservationWindowToken)
    (cell : TokenCell) : (registry.setCell token cell).cell token = cell := by
  simp [setCell, ObservationWindowRegistry.cell]

@[simp] theorem retainIfDurable_cells (registry : ObservationWindowRegistry)
    (token : ObservationWindowToken) : (registry.retainIfDurable token).cells = registry.cells := by
  unfold retainIfDurable
  split <;> rfl

@[simp] theorem retainIfDurable_windows (registry : ObservationWindowRegistry)
    (token : ObservationWindowToken) :
    (registry.retainIfDurable token).windows = registry.windows := by
  unfold retainIfDurable
  split <;> rfl

theorem mem_retainIfDurable {registry : ObservationWindowRegistry}
    {token other : ObservationWindowToken} :
    other ∈ (registry.retainIfDurable token).retained ↔ other ∈ registry.retained ∨
      (other = token ∧ (registry.cell token).wasConfirmed = true ∧
        (registry.cell token).finalized = false) := by
  unfold retainIfDurable
  by_cases durable : ((registry.cell token).wasConfirmed &&
      !(registry.cell token).finalized) = true
  · rw [if_pos durable]
    simp only [Bool.and_eq_true, Bool.not_eq_true'] at durable
    simp [durable]
  · rw [if_neg durable]
    simp only [Bool.and_eq_true, Bool.not_eq_true', not_and, Bool.not_eq_false] at durable
    constructor
    · exact Or.inl
    · rintro (member | ⟨_, confirmed, unfinalized⟩)
      · exact member
      · simp [durable confirmed] at unfinalized

theorem mem_tokens {registry : ObservationWindowRegistry} {token : ObservationWindowToken} :
    token ∈ registry.tokens ↔
      (∃ target, registry.windows.lookup target = some token) ∨ token ∈ registry.retained := by
  rw [tokens, List.mem_append, AList.mem_values]

/-- The retained list after the last step of a removal. -/
theorem retainIfDurable_tokens (registry : ObservationWindowRegistry)
    (token : ObservationWindowToken) :
    ((registry.retainIfDurable token).tokens : Multiset ObservationWindowToken) ≤
      token ::ₘ (registry.tokens : Multiset ObservationWindowToken) := by
  unfold retainIfDurable
  split
  · apply le_of_eq
    apply Multiset.coe_eq_coe.mpr
    simp only [tokens]
    rw [← List.append_assoc]
    exact List.perm_append_singleton token _
  · exact Multiset.le_cons_self _ _

/-- Taking a window out of the map, after a last operation on its cell, is an effect when
the token is no longer live or may be closed. -/
theorem Effect.remove {closing : ObservationWindowToken → Prop}
    {registry : ObservationWindowRegistry} {target : ObservationTarget}
    {token : ObservationWindowToken} (present : registry.windows.lookup target = some token)
    (allowed : (registry.cell token).isLive = false ∨ closing token) :
    Effect closing registry
      ({ registry with windows := registry.windows.erase target }.retainIfDurable token) := by
  have unchanged (other : ObservationWindowToken) :
      ({ registry with windows := registry.windows.erase target }.retainIfDurable token).cell other =
        registry.cell other := by
    simp [ObservationWindowRegistry.cell]
  have fields : ∀ field : ObservationWindowRegistry → Prop,
      (∀ retained, field { registry with windows := registry.windows.erase target, retained }) →
        field ({ registry with windows := registry.windows.erase target }.retainIfDurable token) := by
    intro field holds
    unfold retainIfDurable
    split <;> exact holds _
  refine {
    maximumActive := fields (fun after => after.maximumActive = registry.maximumActive) fun _ => rfl
    nextGeneration := fields (fun after => after.nextGeneration = registry.nextGeneration) fun _ => rfl
    allocated := fields (fun after => after.allocated = registry.allocated) fun _ => rfl
    gaps := fields (fun after =>
      after.latestSourceCoverageGap = registry.latestSourceCoverageGap) fun _ => rfl
    watermarks := fields (fun after =>
      after.latestSourceProgress = registry.latestSourceProgress) fun _ => rfl
    cells := fun _ => by simpa using CellProgress.refl _
    valid := fun _ => by simp
    wasConfirmed := fun _ => by simp
    finalized := fun _ => by simp
    claimed := fun _ => by simp
    tokens := ?_, windows := ?_, retained := ?_, stays := ?_, kept := ?_, left := ?_ }
  · refine (retainIfDurable_tokens _ token).trans (le_of_eq ?_)
    apply Multiset.coe_eq_coe.mpr
    exact ((AList.entries_perm_erase present).map Sigma.snd).symm.append_right registry.retained
  · intro other found looked
    rw [retainIfDurable_windows] at looked
    exact (AList.lookup_erase_eq_some.mp looked).2
  · intro other member
    rcases mem_retainIfDurable.mp member with earlier | ⟨rfl, confirmed, _⟩
    · exact Or.inl earlier
    · exact Or.inr ((unchanged other).symm ▸ confirmed)
  · intro other member _
    exact mem_retainIfDurable.mpr (Or.inl member)
  · intro other member confirmed unfinalized
    rw [unchanged] at confirmed unfinalized
    rw [mem_tokens] at member ⊢
    rcases member with ⟨key, looked⟩ | member
    · by_cases same : key = target
      · subst same
        right
        have equal : token = other := Option.some.inj (present.symm.trans looked)
        exact mem_retainIfDurable.mpr (Or.inr ⟨equal.symm, equal ▸ confirmed, equal ▸ unfinalized⟩)
      · left
        refine ⟨key, ?_⟩
        rw [retainIfDurable_windows]
        exact AList.lookup_erase_eq_some.mpr ⟨same, looked⟩
    · exact Or.inr (mem_retainIfDurable.mpr (Or.inl member))
  · intro key other looked
    by_cases same : key = target
    · subst same
      have equal : token = other := Option.some.inj (present.symm.trans looked)
      rw [unchanged, ← equal]
      exact Or.inr allowed
    · left
      rw [retainIfDurable_windows]
      exact AList.lookup_erase_eq_some.mpr ⟨same, looked⟩

end Soldisco.Window
