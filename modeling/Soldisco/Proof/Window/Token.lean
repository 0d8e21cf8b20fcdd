import Soldisco.Construction.Window.Atomics

/-
This file proves that each token operation moves its cell forward and keeps it valid.
-/

namespace Soldisco.Window
open MachineInteger

/-- The state atomic moves from pending to confirmed or cancelled and from confirmed to cancelled. -/
def WindowState.Reaches (before after : WindowState) : Prop :=
  before = after ∨ before = .pending ∨ (before = .confirmed ∧ after = .cancelledConfirmed)

theorem WindowState.Reaches.refl (state : WindowState) : state.Reaches state := Or.inl rfl

theorem WindowState.Reaches.trans {first second third : WindowState}
    (left : first.Reaches second) (right : second.Reaches third) : first.Reaches third := by
  cases first <;> cases second <;> cases third <;> simp_all [WindowState.Reaches]

/-- A cancellation keeps the memory of an earlier confirmation. -/
def WindowState.cancelled : WindowState → WindowState
  | .pending | .cancelledPending => .cancelledPending
  | .confirmed | .cancelledConfirmed => .cancelledConfirmed

theorem WindowState.reaches_cancelled (state : WindowState) : state.Reaches state.cancelled := by
  cases state <;> simp [WindowState.Reaches, WindowState.cancelled]

/-- The order of a cell's life: counters grow and each once-set value stays. -/
structure CellProgress (before after : TokenCell) : Prop where
  state : before.state.Reaches after.state
  durable : ∀ id, before.durableWindowId = some id → after.durableWindowId = some id
  admitted : before.admitted ≤ after.admitted
  settled : before.settled ≤ after.settled
  reason : ∀ reason, before.incompleteReason = some reason → after.incompleteReason = some reason
  finalized : before.finalized = true → after.finalized = true

theorem CellProgress.refl (cell : TokenCell) : CellProgress cell cell where
  state := .refl _
  durable := fun _ present => present
  admitted := Nat.le_refl _
  settled := Nat.le_refl _
  reason := fun _ present => present
  finalized := fun present => present

theorem CellProgress.trans {first second third : TokenCell} (left : CellProgress first second)
    (right : CellProgress second third) : CellProgress first third where
  state := left.state.trans right.state
  durable := fun id present => right.durable id (left.durable id present)
  admitted := left.admitted.trans right.admitted
  settled := left.settled.trans right.settled
  reason := fun reason present => right.reason reason (left.reason reason present)
  finalized := fun present => right.finalized (left.finalized present)

/-- The claim flag is no part of the order. -/
theorem CellProgress.claimFlag (cell : TokenCell) (claimed : Bool) :
    CellProgress cell { cell with finalizationClaimed := claimed } :=
  { CellProgress.refl cell with }

/-- A recorded reason is never cleared. -/
theorem CellProgress.reason_ne_none {before after : TokenCell} (progress : CellProgress before after)
    (recorded : before.incompleteReason ≠ none) : after.incompleteReason ≠ none := by
  obtain ⟨reason, present⟩ := Option.ne_none_iff_exists'.mp recorded
  rw [progress.reason reason present]
  exact Option.some_ne_none reason

/-- A cell without a reason never had one. -/
theorem CellProgress.reason_none {before after : TokenCell} (progress : CellProgress before after)
    (clear : after.incompleteReason = none) : before.incompleteReason = none := by
  by_contra recorded
  exact progress.reason_ne_none recorded clear

theorem CellProgress.unfinalized {before after : TokenCell} (progress : CellProgress before after)
    (open_ : after.finalized = false) : before.finalized = false := by
  cases closed : before.finalized with
  | false => rfl
  | true => simp [progress.finalized closed] at open_

/-- Confirmation is never undone. -/
theorem CellProgress.wasConfirmed {before after : TokenCell} (progress : CellProgress before after)
    (confirmed : before.wasConfirmed = true) : after.wasConfirmed = true := by
  have state := progress.state
  unfold TokenCell.wasConfirmed at confirmed ⊢
  cases first : before.state <;> cases second : after.state <;>
    simp_all [WindowState.Reaches]

/-- A cancelled token stays cancelled. -/
theorem CellProgress.isLive {before after : TokenCell} (progress : CellProgress before after)
    (live : after.isLive = true) : before.isLive = true := by
  have state := progress.state
  unfold TokenCell.isLive at live ⊢
  cases first : before.state <;> cases second : after.state <;>
    simp_all [WindowState.Reaches]

/-- A token that was cancelled before its confirmation never becomes confirmed. -/
theorem CellProgress.cancelledPending {before after : TokenCell}
    (progress : CellProgress before after) (cancelled : before.state = .cancelledPending) :
    after.state = .cancelledPending := by
  have state := progress.state
  rw [cancelled] at state
  simpa [WindowState.Reaches, eq_comm] using state

/-- Settlement follows admission, a cancelled confirmation carries its reason
and only a confirmed token has a durable identifier. -/
structure CellValid (cell : TokenCell) : Prop where
  settled : cell.settled ≤ cell.admitted
  reason : cell.state = .cancelledConfirmed → cell.incompleteReason ≠ none
  durable : cell.durableWindowId ≠ none → cell.wasConfirmed = true

theorem CellValid.fresh : CellValid TokenCell.fresh where
  settled := Nat.le_refl _
  reason := by simp [TokenCell.fresh]
  durable := by simp [TokenCell.fresh]

theorem CellValid.claimFlag {cell : TokenCell} (valid : CellValid cell) (claimed : Bool) :
    CellValid { cell with finalizationClaimed := claimed } where
  settled := valid.settled
  reason := valid.reason
  durable := valid.durable

/-- A confirmed token without a reason has not been cancelled. -/
theorem CellValid.live_of_complete {cell : TokenCell} (valid : CellValid cell)
    (confirmed : cell.wasConfirmed = true) (complete : cell.incompleteReason = none) :
    cell.state = .confirmed := by
  have reason := valid.reason
  cases state : cell.state <;> simp_all [TokenCell.wasConfirmed]

namespace TokenCell

theorem isLive_of_state {cell : TokenCell} (state : cell.state = .confirmed) :
    cell.isLive = true := by
  simp [isLive, state]

theorem not_wasConfirmed_iff {cell : TokenCell} :
    cell.wasConfirmed = false ↔ cell.state = .pending ∨ cell.state = .cancelledPending := by
  cases state : cell.state <;> simp [wasConfirmed, state]

theorem confirm_progress (cell : TokenCell) : CellProgress cell cell.confirm.2 := by
  unfold confirm
  split
  case h_1 pending => exact { CellProgress.refl cell with state := Or.inr (Or.inl pending) }
  all_goals exact .refl cell

theorem confirm_valid {cell : TokenCell} (valid : CellValid cell) : CellValid cell.confirm.2 := by
  unfold confirm
  split
  case h_1 =>
      exact { settled := valid.settled, reason := by simp, durable := by simp [wasConfirmed] }
  all_goals exact valid

theorem cancelIfPending_progress (cell : TokenCell) : CellProgress cell cell.cancelIfPending := by
  unfold cancelIfPending
  split
  · rename_i pending
    exact { CellProgress.refl cell with state := Or.inr (Or.inl pending) }
  · exact .refl cell

theorem cancelIfPending_wasConfirmed (cell : TokenCell) :
    cell.cancelIfPending.wasConfirmed = cell.wasConfirmed := by
  unfold cancelIfPending
  split
  · rename_i pending
    simp [wasConfirmed, pending]
  · rfl

theorem cancelIfPending_valid {cell : TokenCell} (valid : CellValid cell) :
    CellValid cell.cancelIfPending := by
  have durable := valid.durable
  rw [← cancelIfPending_wasConfirmed cell] at durable
  unfold cancelIfPending at durable ⊢
  split
  · rename_i pending
    rw [if_pos pending] at durable
    exact { settled := valid.settled, reason := by simp, durable := durable }
  · exact valid

/-- A mark changes only the reason and only when none is recorded. -/
@[simp] theorem markIncomplete_snd (cell : TokenCell) (reason : WindowIncompleteReason) :
    (cell.markIncomplete reason).2 =
      { cell with incompleteReason := cell.incompleteReason.or (some reason) } := by
  rcases cell with ⟨state, id, admitted, settled, recorded, claimed, finalized⟩
  cases recorded <;> rfl

theorem markIncomplete_progress (cell : TokenCell) (reason : WindowIncompleteReason) :
    CellProgress cell (cell.markIncomplete reason).2 := by
  rw [markIncomplete_snd]
  exact { CellProgress.refl cell with reason := fun _ recorded => by simp [recorded] }

theorem markIncomplete_reason (cell : TokenCell) (reason : WindowIncompleteReason) :
    (cell.markIncomplete reason).2.incompleteReason ≠ none := by
  simp

theorem markIncomplete_valid {cell : TokenCell} (valid : CellValid cell)
    (reason : WindowIncompleteReason) : CellValid (cell.markIncomplete reason).2 where
  settled := by simpa using valid.settled
  reason := fun _ => markIncomplete_reason cell reason
  durable := by simpa [wasConfirmed] using valid.durable

/-- Cancellation changes only the state and the reason of a confirmed token. -/
theorem cancelWithReason_eq (cell : TokenCell) (reason : WindowIncompleteReason) :
    cell.cancelWithReason reason = { cell with
      state := cell.state.cancelled
      incompleteReason := if cell.state = .confirmed then cell.incompleteReason.or (some reason)
        else cell.incompleteReason } := by
  rcases cell with ⟨state, id, admitted, settled, recorded, claimed, finalized⟩
  cases state <;> simp [cancelWithReason, WindowState.cancelled]

theorem cancelWithReason_progress (cell : TokenCell) (reason : WindowIncompleteReason) :
    CellProgress cell (cell.cancelWithReason reason) := by
  rw [cancelWithReason_eq]
  refine { CellProgress.refl cell with state := cell.state.reaches_cancelled, reason := ?_ }
  intro first recorded
  dsimp only
  split
  · simp [recorded]
  · exact recorded

@[simp] theorem cancelWithReason_wasConfirmed (cell : TokenCell)
    (reason : WindowIncompleteReason) :
    (cell.cancelWithReason reason).wasConfirmed = cell.wasConfirmed := by
  cases state : cell.state <;>
    simp [cancelWithReason_eq, wasConfirmed, WindowState.cancelled, state]

/-- Cancellation closes the token. -/
@[simp] theorem cancelWithReason_isLive (cell : TokenCell) (reason : WindowIncompleteReason) :
    (cell.cancelWithReason reason).isLive = false := by
  cases state : cell.state <;> simp [cancelWithReason_eq, isLive, WindowState.cancelled, state]

theorem cancelWithReason_valid {cell : TokenCell} (valid : CellValid cell)
    (reason : WindowIncompleteReason) : CellValid (cell.cancelWithReason reason) where
  settled := by simpa [cancelWithReason_eq] using valid.settled
  reason := by
    have recorded := valid.reason
    cases state : cell.state <;> simp_all [cancelWithReason_eq, WindowState.cancelled]
  durable := by
    rw [cancelWithReason_wasConfirmed]
    simpa [cancelWithReason_eq] using valid.durable

/-- A confirmed token carries a reason once it has been cancelled. -/
theorem cancelWithReason_reason {cell : TokenCell} (valid : CellValid cell)
    (confirmed : cell.wasConfirmed = true) (reason : WindowIncompleteReason) :
    (cell.cancelWithReason reason).incompleteReason ≠ none := by
  apply (cancelWithReason_valid valid reason).reason
  cases state : cell.state <;> simp_all [cancelWithReason_eq, wasConfirmed, WindowState.cancelled]

/-- A token that was not confirmed is closed by the pending cancellation. -/
theorem cancelIfPending_isLive {cell : TokenCell} (unconfirmed : cell.wasConfirmed = false) :
    cell.cancelIfPending.isLive = false := by
  rcases not_wasConfirmed_iff.mp unconfirmed with state | state <;>
    simp [cancelIfPending, isLive, state]

theorem setDurableWindowId_progress (cell : TokenCell) (id : Int) :
    CellProgress cell (cell.setDurableWindowId id).2 := by
  unfold setDurableWindowId
  split
  · exact .refl cell
  · split
    · exact .refl cell
    · rename_i absent
      exact { CellProgress.refl cell with durable := by simp [absent] }

theorem markAdmitted_progress (cell : TokenCell) : CellProgress cell cell.markAdmitted.2 := by
  unfold markAdmitted
  split
  · exact .refl cell
  · split
    · rename_i total added
      have sum := (checkedAdd_eq_some.mp added).1
      exact { CellProgress.refl cell with admitted := by dsimp only; omega }
    · exact .refl cell

theorem markAdmitted_valid {cell : TokenCell} (valid : CellValid cell) :
    CellValid cell.markAdmitted.2 := by
  have grows := (markAdmitted_progress cell).admitted
  unfold markAdmitted at grows ⊢
  split
  · exact valid
  · split
    · rename_i finalized total added
      have sum := (checkedAdd_eq_some.mp added).1
      have settled := valid.settled
      exact { settled := by dsimp only; omega, reason := valid.reason, durable := valid.durable }
    · exact valid

theorem markSettled_progress (cell : TokenCell) : CellProgress cell cell.markSettled.2 := by
  unfold markSettled
  split
  · exact .refl cell
  · exact { CellProgress.refl cell with settled := Nat.le_succ _ }

theorem markFinalized_progress (cell : TokenCell) : CellProgress cell cell.markFinalized.2 := by
  unfold markFinalized
  split
  · exact .refl cell
  · exact { CellProgress.refl cell with finalized := fun _ => rfl }

theorem markFinalized_finalized (cell : TokenCell) : cell.markFinalized.2.finalized = true := by
  unfold markFinalized
  split
  · assumption
  · rfl

theorem markFinalized_valid {cell : TokenCell} (valid : CellValid cell) :
    CellValid cell.markFinalized.2 := by
  unfold markFinalized
  split
  · exact valid
  · exact { settled := valid.settled, reason := valid.reason, durable := valid.durable }

end TokenCell
end Soldisco.Window
