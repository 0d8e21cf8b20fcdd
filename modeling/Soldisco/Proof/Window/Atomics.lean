import Soldisco.Proof.Window.Token

/-
This file proves what one atomic operation can do, whatever other holders did before it.
-/

namespace Soldisco.Window
open MachineInteger

/-- The local values of a call in flight agree with the cell that the call works on. -/
def CallValid (cell : TokenCell) : TokenCall → Prop
  | .cancelConfirmed _ => cell.incompleteReason ≠ none
  | .durableGet _ | .durableSet _ | .durableRecheck _ => cell.wasConfirmed = true
  | .settledLoad admitted => admitted ≤ cell.admitted
  | .settledExchange admitted settled => settled < admitted ∧ admitted ≤ cell.admitted
  | _ => True

/-- The operations of other holders keep a call in flight valid. -/
theorem CallValid.progress {before after : TokenCell} {call : TokenCall}
    (ready : CallValid before call) (progress : CellProgress before after) :
    CallValid after call := by
  have admitted := progress.admitted
  cases call
  case cancelConfirmed => exact progress.reason_ne_none ready
  case durableGet | durableSet | durableRecheck => exact progress.wasConfirmed ready
  case settledLoad loaded => exact Nat.le_trans ready admitted
  case settledExchange loaded settled => exact ⟨ready.1, Nat.le_trans ready.2 admitted⟩
  all_goals trivial

/-- A method starts without local values. -/
theorem CallValid.entry {call : TokenCall} (entry : call.isEntry = true) (cell : TokenCell) :
    CallValid cell call := by
  cases call <;> simp_all [TokenCall.isEntry, CallValid]

namespace TokenCall

/-- Each atomic operation moves the cell forward. -/
theorem advance_progress (call : TokenCall) (spuriousFailure : Bool) (cell : TokenCell) :
    CellProgress cell (call.advance spuriousFailure cell).2 := by
  cases call <;> dsimp only [advance]
  case confirm => exact cell.confirm_progress
  case cancelIfPending => exact cell.cancelIfPending_progress
  case markIncomplete reason => exact cell.markIncomplete_progress reason
  case cancelWithReason => split <;> exact .refl cell
  case cancelPending =>
      split
      · rename_i pending
        exact { CellProgress.refl cell with state := Or.inr (Or.inl pending) }
      · exact .refl cell
  case cancelMark reason => exact cell.markIncomplete_progress reason
  case cancelConfirmed =>
      split
      · rename_i confirmed
        exact { CellProgress.refl cell with state := Or.inr (Or.inr ⟨confirmed, rfl⟩) }
      · exact .refl cell
  case setDurableWindowId => split <;> exact .refl cell
  case durableGet => split <;> exact .refl cell
  case durableSet =>
      split
      · exact .refl cell
      · rename_i absent
        exact { CellProgress.refl cell with durable := by simp [absent] }
  case durableRecheck => exact .refl cell
  case markAdmitted => split <;> exact .refl cell
  case admittedAdd =>
      split
      · rename_i total added
        have sum := (checkedAdd_eq_some.mp added).1
        exact { CellProgress.refl cell with admitted := by dsimp only; omega }
      · exact .refl cell
  case markSettled => exact .refl cell
  case settledLoad => split <;> exact .refl cell
  case settledExchange =>
      split
      · rename_i equal
        exact { CellProgress.refl cell with settled := by dsimp only; omega }
      · exact .refl cell
  case markFinalized => exact cell.markFinalized_progress

/-- Each atomic operation of a valid call keeps the cell valid. -/
theorem advance_valid {call : TokenCall} (spuriousFailure : Bool) {cell : TokenCell}
    (valid : CellValid cell) (ready : CallValid cell call) :
    CellValid (call.advance spuriousFailure cell).2 := by
  cases call <;> dsimp only [advance]
  case confirm => exact TokenCell.confirm_valid valid
  case cancelIfPending => exact TokenCell.cancelIfPending_valid valid
  case markIncomplete reason => exact TokenCell.markIncomplete_valid valid reason
  case cancelPending =>
      split
      · rename_i pending
        have same : cell.cancelIfPending = { cell with state := .cancelledPending } := by
          rw [TokenCell.cancelIfPending, if_pos pending]
        exact same ▸ TokenCell.cancelIfPending_valid valid
      · exact valid
  case cancelMark reason => exact TokenCell.markIncomplete_valid valid reason
  case cancelConfirmed =>
      split
      · exact { settled := valid.settled, reason := fun _ => ready,
                durable := by simp [TokenCell.wasConfirmed] }
      · exact valid
  case durableSet =>
      split
      · exact valid
      · exact { settled := valid.settled, reason := valid.reason, durable := fun _ => ready }
  case admittedAdd =>
      split
      · rename_i total added
        have sum := (checkedAdd_eq_some.mp added).1
        have settled := valid.settled
        exact { settled := by dsimp only; omega, reason := valid.reason, durable := valid.durable }
      · exact valid
  case settledExchange loaded settled =>
      split
      · obtain ⟨below, within⟩ := ready
        exact { settled := by dsimp only; omega, reason := valid.reason, durable := valid.durable }
      · exact valid
  case markFinalized => exact TokenCell.markFinalized_valid valid
  all_goals first | exact valid | (split <;> exact valid)

/-- A call that goes on has loaded values that agree with the cell. -/
theorem advance_running {call next : TokenCall} (spuriousFailure : Bool) {cell : TokenCell}
    (ready : CallValid cell call)
    (running : (call.advance spuriousFailure cell).1 = .running next) :
    CallValid (call.advance spuriousFailure cell).2 next := by
  cases call
  case cancelMark reason =>
      cases running
      exact TokenCell.markIncomplete_reason cell reason
  all_goals
    simp only [advance] at running ⊢
    grind [CallValid]

/-- The claim flag belongs to the claims. -/
@[simp] theorem advance_finalizationClaimed {call : TokenCall} (spuriousFailure : Bool)
    {cell : TokenCell} : (call.advance spuriousFailure cell).2.finalizationClaimed =
      cell.finalizationClaimed := by
  cases call <;> dsimp only [advance]
  case confirm => unfold TokenCell.confirm; split <;> rfl
  case cancelIfPending => unfold TokenCell.cancelIfPending; split <;> rfl
  case markIncomplete | cancelMark => simp
  case markFinalized => unfold TokenCell.markFinalized; split <;> rfl
  all_goals first | rfl | (split <;> rfl)

/-- Only the confirmation of a pending token confirms it. -/
theorem advance_confirms {call : TokenCall} (spuriousFailure : Bool) {cell : TokenCell}
    (confirmed : (call.advance spuriousFailure cell).2.wasConfirmed = true) :
    cell.wasConfirmed = true ∨ (call = .confirm ∧ cell.state = .pending) := by
  by_cases confirms : call = .confirm
  · subst confirms
    cases state : cell.state <;> simp_all [advance, TokenCell.confirm, TokenCell.wasConfirmed]
  · left
    cases call <;> simp only [advance] at confirmed
    case confirm => contradiction
    case cancelIfPending => rwa [TokenCell.cancelIfPending_wasConfirmed] at confirmed
    all_goals grind [TokenCell.wasConfirmed, TokenCell.markFinalized, TokenCell.markIncomplete_snd]

/-- A method that no other holder interrupts performs its operations in a row. -/
def runAlone : Nat → TokenCall → TokenCell → Option (Bool × TokenCell)
  | 0, _, _ => none
  | fuel + 1, call, cell =>
      match call.advance false cell with
      | (.returned result, after) => some (result, after)
      | (.running next, after) => runAlone fuel next after

/-- The registry runs the token methods as single operations under its lock. -/
def sequential (cell : TokenCell) : TokenCall → Bool × TokenCell
  | .confirm => cell.confirm
  | .cancelIfPending => (true, cell.cancelIfPending)
  | .markIncomplete reason => cell.markIncomplete reason
  | .cancelWithReason reason => (true, cell.cancelWithReason reason)
  | .setDurableWindowId id => cell.setDurableWindowId id
  | .markAdmitted => cell.markAdmitted
  | .markSettled => cell.markSettled
  | .markFinalized => cell.markFinalized
  | _ => (false, cell)

/-- An uninterrupted call returns after at most three operations with the result and
the cell of the whole method. -/
theorem runAlone_entry {call : TokenCall} (entry : call.isEntry = true) (cell : TokenCell) :
    call.runAlone 3 cell = some (call.sequential cell) := by
  cases call
  case cancelWithReason reason =>
      cases state : cell.state <;>
        simp [runAlone, advance, sequential, TokenCell.cancelWithReason, state]
  case setDurableWindowId id =>
      by_cases rejected : (decide (id ≤ 0) || !cell.wasConfirmed) = true
      · simp only [runAlone, advance, sequential, TokenCell.setDurableWindowId, if_pos rejected]
      · cases stored : cell.durableWindowId <;>
          simp only [runAlone, advance, sequential, TokenCell.setDurableWindowId,
            if_neg rejected, stored]
  case markAdmitted =>
      by_cases finalized : cell.finalized = true
      · simp only [runAlone, advance, sequential, TokenCell.markAdmitted, if_pos finalized]
      · cases added : checkedAdd u64Size cell.admitted 1 <;>
          simp only [runAlone, advance, sequential, TokenCell.markAdmitted, if_neg finalized, added]
  case markSettled =>
      by_cases exhausted : cell.settled ≥ cell.admitted
      · simp only [runAlone, advance, sequential, TokenCell.markSettled, if_pos exhausted]
      · simp [runAlone, advance, sequential, TokenCell.markSettled, exhausted]
  all_goals first | rfl | simp [isEntry] at entry

end TokenCall
end Soldisco.Window
