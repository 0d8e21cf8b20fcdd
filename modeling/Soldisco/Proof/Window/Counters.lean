import Soldisco.Proof.Window.Step

/-
This file proves that only an admission and a settlement change the counters of a token.
-/

namespace Soldisco.Window
open Domain MachineInteger ObservationWindowRegistry

/-- Both counters of the cell are as before. -/
def TokenCell.SameCounters (before after : TokenCell) : Prop :=
  after.admitted = before.admitted ∧ after.settled = before.settled

/-- Both counters of every cell are as before. -/
def SameCounters (before after : ObservationWindowRegistry) : Prop :=
  ∀ address, (before.cells address).SameCounters (after.cells address)

theorem SameCounters.refl (registry : ObservationWindowRegistry) : SameCounters registry registry :=
  fun _ => ⟨rfl, rfl⟩

theorem SameCounters.trans {first second third : ObservationWindowRegistry}
    (left : SameCounters first second) (right : SameCounters second third) :
    SameCounters first third := fun address =>
  ⟨(right address).1.trans (left address).1, (right address).2.trans (left address).2⟩

theorem SameCounters.ofCells {before after : ObservationWindowRegistry}
    (same : after.cells = before.cells) : SameCounters before after := by
  intro address
  rw [same]
  exact ⟨rfl, rfl⟩

theorem SameCounters.foldl {Item : Type}
    (pass : Nat × ObservationWindowRegistry → Item → Nat × ObservationWindowRegistry)
    (each : ∀ state item, SameCounters state.2 (pass state item).2) (items : List Item)
    (state : Nat × ObservationWindowRegistry) :
    SameCounters state.2 (items.foldl pass state).2 := by
  induction items generalizing state with
  | nil => exact .refl state.2
  | cons item rest ih => exact (each state item).trans (ih (pass state item))

theorem SameCounters.setCell {registry : ObservationWindowRegistry} {token : ObservationWindowToken}
    {cell : TokenCell} (same : (registry.cell token).SameCounters cell) :
    SameCounters registry (registry.setCell token cell) := by
  intro address
  by_cases own : address = token.address
  · subst own
    change (registry.cell token).SameCounters ((registry.setCell token cell).cell token)
    rwa [cell_setCell]
  · rw [cells_setCell_of_ne cell own]
    exact ⟨rfl, rfl⟩

namespace TokenCell

theorem markIncomplete_counters (cell : TokenCell) (reason : WindowIncompleteReason) :
    cell.SameCounters (cell.markIncomplete reason).2 := by
  simp [SameCounters, markIncomplete_snd]

theorem cancelIfPending_counters (cell : TokenCell) : cell.SameCounters cell.cancelIfPending := by
  unfold cancelIfPending
  split <;> exact ⟨rfl, rfl⟩

theorem cancelWithReason_counters (cell : TokenCell) (reason : WindowIncompleteReason) :
    cell.SameCounters (cell.cancelWithReason reason) := by
  unfold cancelWithReason
  split
  · exact ⟨rfl, rfl⟩
  · exact cell.markIncomplete_counters reason
  · exact ⟨rfl, rfl⟩
  · exact ⟨rfl, rfl⟩

theorem markFinalized_counters (cell : TokenCell) : cell.SameCounters cell.markFinalized.2 := by
  unfold markFinalized
  split <;> exact ⟨rfl, rfl⟩

theorem confirm_counters (cell : TokenCell) : cell.SameCounters cell.confirm.2 := by
  unfold confirm
  split <;> exact ⟨rfl, rfl⟩

theorem setDurableWindowId_counters (cell : TokenCell) (durableWindowId : Int) :
    cell.SameCounters (cell.setDurableWindowId durableWindowId).2 := by
  unfold setDurableWindowId
  split
  · exact ⟨rfl, rfl⟩
  · split <;> exact ⟨rfl, rfl⟩

/-- An admission that is counted adds one and an admission that is refused adds nothing. -/
theorem markAdmitted_counters (cell : TokenCell) :
    cell.markAdmitted.2.admitted = cell.admitted + (if cell.markAdmitted.1 then 1 else 0) ∧
      cell.markAdmitted.2.settled = cell.settled := by
  unfold markAdmitted
  split
  · exact ⟨rfl, rfl⟩
  · split
    · rename_i total added
      exact ⟨(checkedAdd_eq_some.mp added).1.symm, rfl⟩
    · exact ⟨rfl, rfl⟩

end TokenCell

theorem evictAtCapacity_counters (registry : ObservationWindowRegistry) :
    SameCounters registry registry.evictAtCapacity := by
  rcases evictAtCapacity_cases registry with ⟨_, same⟩ | ⟨_, target, token, _, _, same⟩
  · rw [same]
    exact .refl registry
  · rw [same]
    exact (SameCounters.setCell (TokenCell.cancelWithReason_counters _ _)).trans
      (.ofCells (retainIfDurable_cells _ _))

theorem rotateClosedWindows_counters (registry : ObservationWindowRegistry) (now : Int) :
    SameCounters registry (registry.rotateClosedWindows now) :=
  .ofCells (rotateClosedWindows_cells registry now)

theorem recordSourceCoverageGap_counters (registry : ObservationWindowRegistry)
    (source : SourceProgram) (time : Int) (reason : WindowIncompleteReason) :
    SameCounters registry (registry.recordSourceCoverageGap source time reason).2 := by
  refine SameCounters.foldl (recordGapOn source ⟨time, reason⟩) (fun state token => ?_)
    registry.tokens (0, registry.storeGap source ⟨time, reason⟩)
  rw [recordGapOn_snd]
  split
  · exact .setCell (TokenCell.markIncomplete_counters _ _)
  · exact .refl _

theorem cancelActive_counters (reason : WindowIncompleteReason)
    (accumulator : Nat × ObservationWindowRegistry) (target : ObservationTarget) :
    SameCounters accumulator.2 (cancelActive reason accumulator target).2 := by
  unfold cancelActive
  dsimp only
  split
  · exact .refl _
  · split
    · exact (SameCounters.setCell (TokenCell.cancelWithReason_counters _ _)).trans
        (.ofCells (retainIfDurable_cells _ _))
    · exact .setCell (TokenCell.cancelIfPending_counters _)

theorem cancelConfirmedMatching_counters (registry : ObservationWindowRegistry)
    (reason : WindowIncompleteReason) (matchesTarget : ObservationTarget → Bool) :
    SameCounters registry (registry.cancelConfirmedMatching reason matchesTarget).2 := by
  refine (SameCounters.foldl (cancelActive reason) (cancelActive_counters reason)
    (registry.windows.keys.filter matchesTarget) (0, registry)).trans
    (SameCounters.foldl (cancelRetained reason matchesTarget) (fun state token => ?_) _ _)
  unfold cancelRetained
  dsimp only
  split
  · exact .setCell (TokenCell.cancelWithReason_counters _ _)
  · exact .refl _

theorem claimFinalization_counters (registry : ObservationWindowRegistry)
    (candidate : ObservationWindowToken) :
    SameCounters registry (registry.claimFinalization candidate).2 := by
  unfold claimFinalization
  split
  · exact .refl _
  · split
    · exact .refl _
    · split
      · exact .refl _
      · rename_i claimed outcome
        refine .setCell ?_
        unfold TokenCell.tryClaimFinalization at outcome
        split at outcome
        · cases outcome
        · cases outcome
          exact ⟨rfl, rfl⟩

/-- The action neither opens a window nor counts an admission or a settlement. -/
def Action.isCounterNeutral : Action → Bool
  | .provisionTarget _ _ _ _ | .admitMatchingToken _ _ | .invoke _ _ | .advance _ _ => false
  | _ => true

theorem step_counters (system : System) {action : Action} (neutral : action.isCounterNeutral = true) :
    SameCounters system.registry (system.step action).2.registry := by
  cases action with
  | provisionTarget | admitMatchingToken | invoke | advance => cases neutral
  | activeCount now => exact rotateClosedWindows_counters system.registry now
  | recordSourceProgress => exact .ofCells rfl
  | recordSourceCoverageGap source time reason =>
      exact recordSourceCoverageGap_counters system.registry source time reason
  | finalizationCandidates now => exact rotateClosedWindows_counters system.registry now
  | claimFinalization candidate => exact claimFinalization_counters system.registry candidate
  | cleanupFinalized => exact .ofCells rfl
  | cancelAllConfirmed reason => exact cancelConfirmedMatching_counters system.registry reason _
  | cancelSourceConfirmed source reason =>
      exact cancelConfirmedMatching_counters system.registry reason _
  | commitClaim index =>
      change SameCounters _ (system.commitClaim index).2.registry
      unfold System.commitClaim
      split
      · exact .setCell (TokenCell.markFinalized_counters _)
      · exact .refl _
  | dropClaim index =>
      change SameCounters _ (system.dropClaim index).2.registry
      unfold System.dropClaim
      split
      · exact .setCell ⟨rfl, rfl⟩
      · exact .refl _

end Soldisco.Window
