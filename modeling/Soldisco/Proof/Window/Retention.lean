import Soldisco.Proof.Window.Step

/-
This file proves that confirmed windows stay in the registry until they are finalized
when each confirmation finds its window in the map.
-/

namespace Soldisco.Window
open Domain ObservationWindowRegistry

/-- The confirmation of a pending token happens while its window is in the map. -/
def ConfirmsWhileActive (system : System) (action : Action) : Prop :=
  ∀ token ∈ system.pendingConfirmation action,
    system.registry.windows.lookup token.target = some token

instance (system : System) (action : Action) : Decidable (ConfirmsWhileActive system action) :=
  inferInstanceAs (Decidable (∀ token ∈ system.pendingConfirmation action,
    system.registry.windows.lookup token.target = some token))

/-- The registry tracks each confirmed and unfinalized token. -/
def TracksConfirmed (system : System) : Prop :=
  ∀ token ∈ system.issued, (system.registry.cell token).wasConfirmed = true →
    (system.registry.cell token).finalized = false → token ∈ system.registry.tokens

theorem newCell_wasConfirmed (registry : ObservationWindowRegistry) (window : ObservationWindow) :
    (registry.newCell window).wasConfirmed = false := by
  unfold newCell
  split <;> rfl

/-- A step leaves a token confirmed only when it was confirmed before or is confirmed now. -/
theorem Change.confirmed {before after : System} {action : Action}
    (change : Change before action after) (valid : RegistryValid before.registry before.issued)
    {token : ObservationWindowToken} (issued : token ∈ after.issued)
    (confirmed : (after.registry.cell token).wasConfirmed = true) :
    token ∈ before.issued ∧ ((before.registry.cell token).wasConfirmed = true ∨
      before.pendingConfirmation action = some token) := by
  cases change with
  | registry _ _ effect _ =>
      exact ⟨issued, Or.inl ((effect.wasConfirmed token.address).symm.trans confirmed)⟩
  | opened mint openedAt _ _ _ effect _ _ _ =>
      rcases List.mem_append.mp issued with earlier | new
      · have below := ((valid.effect effect).addresses token earlier).1
        dsimp only [ObservationWindowRegistry.cell] at confirmed
        rw [openWindow_cells_of_ne _ mint openedAt _ (Nat.ne_of_lt below)] at confirmed
        exact ⟨earlier, Or.inl ((effect.wasConfirmed token.address).symm.trans confirmed)⟩
      · rw [List.mem_singleton.mp new, openWindow_cell, newCell_wasConfirmed] at confirmed
        cases confirmed
  | @cell changed cell _ _ _ member _ _ confirms =>
      refine ⟨issued, ?_⟩
      by_cases same : token = changed
      · subst same
        rw [cell_setCell] at confirmed
        exact confirms confirmed
      · have different : token.address ≠ changed.address :=
          fun equal => same (valid.injective token issued changed member equal)
        dsimp only [ObservationWindowRegistry.cell] at confirmed
        rw [cells_setCell_of_ne cell different] at confirmed
        exact Or.inl confirmed
  | invoked => exact ⟨issued, Or.inl confirmed⟩

/-- A guarded step keeps the confirmed tokens tracked. -/
theorem step_tracksConfirmed {system : System} (valid : SystemValid system) {action : Action}
    (tracks : TracksConfirmed system) (prompt : ConfirmsWhileActive system action) :
    TracksConfirmed (system.step action).2 := by
  intro token issued confirmed unfinalized
  have change := step_change valid action
  obtain ⟨earlier, confirms⟩ := change.confirmed valid.registry issued confirmed
  apply change.kept valid.registry _ confirmed unfinalized
  rcases confirms with already | now
  · have progress := (change.evolution valid.registry).cells token earlier
    exact tracks token earlier already (progress.unfinalized unfinalized)
  · exact mem_tokens.mpr (Or.inl ⟨token.target, prompt token now⟩)

/-- A tracked token that is closed, settled and unclaimed is a candidate. -/
theorem mem_candidates_of_tracked {system : System} (valid : SystemValid system)
    {token : ObservationWindowToken} {now : Int} (tracked : token ∈ system.registry.tokens)
    (confirmed : (system.registry.cell token).wasConfirmed = true)
    (durable : (system.registry.cell token).durableWindowId ≠ none)
    (unfinalized : (system.registry.cell token).finalized = false)
    (closed : token ∈ system.registry.retained ∨ system.registry.isOpenAt token now = false)
    (settled : (system.registry.cell token).admitted = (system.registry.cell token).settled)
    (unclaimed : token ∉ system.holders) :
    token ∈ (system.registry.finalizationCandidates now).1 := by
  have effect := rotateClosedWindows_effect system.registry now
  have cell : (system.registry.rotateClosedWindows now).cell token = system.registry.cell token :=
    congrFun (rotateClosedWindows_cells system.registry now) token.address
  have free : (system.registry.cell token).finalizationClaimed = false := by
    have claimed := valid.claimed token (valid.registry.tracked token tracked)
    exact Bool.eq_false_of_not_eq_true fun flag => unclaimed (claimed.mp flag)
  rw [mem_finalizationCandidates]
  constructor
  · rcases closed with retained | shut
    · exact effect.stays token retained (cell.symm ▸ unfinalized)
    · have kept := effect.kept token tracked (cell.symm ▸ confirmed) (cell.symm ▸ unfinalized)
      rcases mem_tokens.mp kept with ⟨target, active⟩ | retained
      · rw [rotateClosedWindows_lookup, matchingToken_eq_some, shut] at active
        cases active.2
      · exact retained
  · simp [isCandidate, confirmed, Option.isSome_iff_ne_none.mpr durable, TokenCell.isSettled,
      settled, free, unfinalized]

/-- When each confirmation finds its window in the map, every confirmed, durable and unfinalized
token is tracked, and it is a candidate once it is closed, settled and unclaimed. -/
theorem confirmed_durable_window_tracked (maximumActive : Nat)
    (capacityPositive : 0 < maximumActive) (actions : List Action)
    (prompt : Transition.Along System.step ConfirmsWhileActive
      (System.new maximumActive capacityPositive) actions) :
    let system := System.execute maximumActive capacityPositive actions
    ∀ token ∈ system.issued, (system.registry.cell token).wasConfirmed = true →
      (system.registry.cell token).durableWindowId ≠ none →
      (system.registry.cell token).finalized = false →
      token ∈ system.registry.tokens ∧
        ∀ now, (token ∈ system.registry.retained ∨ system.registry.isOpenAt token now = false) →
          (system.registry.cell token).admitted = (system.registry.cell token).settled →
          token ∉ system.holders → token ∈ (system.registry.finalizationCandidates now).1 := by
  intro system token issued confirmed durable unfinalized
  have invariant : SystemValid system ∧ TracksConfirmed system :=
    Transition.invariant_of_along System.step (fun system => SystemValid system ∧ TracksConfirmed system)
      (fun _ action holds guard => ⟨step_valid holds.1 action, step_tracksConfirmed holds.1 holds.2 guard⟩)
      ⟨.new maximumActive capacityPositive, by simp [TracksConfirmed, System.new]⟩ prompt
  have tracked := invariant.2 token issued confirmed unfinalized
  exact ⟨tracked, fun now closed settled unclaimed =>
    mem_candidates_of_tracked invariant.1 tracked confirmed durable unfinalized closed settled unclaimed⟩

/-- A window that is confirmed before it closes is a candidate at its close. -/
theorem confirmed_before_close_tracked :
    firstToken (.pumpMint "mint") "mint" 1000 1500 ∈
      ((System.execute 4 (by decide) (.provisionTarget (.pumpMint "mint") "mint" 1000 500 ::
        durableActions (firstToken (.pumpMint "mint") "mint" 1000 1500) 42)).registry.finalizationCandidates
          1500).1 :=
  (confirmed_durable_window_tracked 4 (by decide)
    (.provisionTarget (.pumpMint "mint") "mint" 1000 500 ::
      durableActions (firstToken (.pumpMint "mint") "mint" 1000 1500) 42) (by decide)
    (firstToken (.pumpMint "mint") "mint" 1000 1500) (by decide) (by decide) (by decide)
    (by decide)).2 1500 (by decide) (by decide) (by decide)

/-- A window that closes before its confirmation is lost, although both calls return true. -/
theorem confirmed_after_close_orphaned :
    ¬ ∀ (maximumActive : Nat) (capacityPositive : 0 < maximumActive) (actions : List Action),
      let system := System.execute maximumActive capacityPositive actions
      ∀ token ∈ system.issued, (system.registry.cell token).wasConfirmed = true →
        (system.registry.cell token).durableWindowId ≠ none →
        (system.registry.cell token).finalized = false →
        token ∈ system.registry.tokens ∧
          ∀ now, (token ∈ system.registry.retained ∨ system.registry.isOpenAt token now = false) →
            (system.registry.cell token).admitted = (system.registry.cell token).settled →
            token ∉ system.holders → token ∈ (system.registry.finalizationCandidates now).1 := by
  intro tracks
  have tracked := (tracks 4 (by decide)
    ([.provisionTarget (.pumpMint "mint") "mint" 1000 500, .activeCount 1500] ++
      durableActions (firstToken (.pumpMint "mint") "mint" 1000 1500) 42)
    (firstToken (.pumpMint "mint") "mint" 1000 1500) (by decide) (by decide) (by decide)
    (by decide)).1
  exact absurd tracked (by decide)

end Soldisco.Window
