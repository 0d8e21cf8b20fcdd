import Soldisco.Construction.Finalizer
import Soldisco.Proof.Persistence.Feed
import Soldisco.Proof.Window.Coverage
import Soldisco.Proof.Window.Finalization

/-
This file proves where the final marks of tokens and of stored windows come from.
-/

namespace Soldisco.Window
open ObservationWindowRegistry

/-- Only the final mark finalizes a cell. -/
theorem TokenCall.advance_finalized {call : TokenCall} (spuriousFailure : Bool) (cell : TokenCell)
    (other : call ≠ .markFinalized) :
    (call.advance spuriousFailure cell).2.finalized = cell.finalized := by
  cases call <;> dsimp only [advance]
  case confirm => unfold TokenCell.confirm; split <;> rfl
  case cancelIfPending => unfold TokenCell.cancelIfPending; split <;> rfl
  case markIncomplete | cancelMark => rw [TokenCell.markIncomplete_snd]
  case markFinalized => exact absurd rfl other
  all_goals first | rfl | (split <;> rfl)

/-- No other method goes on with the final mark. -/
theorem TokenCall.advance_unmarked {call next : TokenCall} {spuriousFailure : Bool}
    {cell : TokenCell} (running : (call.advance spuriousFailure cell).1 = .running next) :
    next ≠ .markFinalized := by
  cases call <;> simp only [advance] at running
  all_goals grind

/-- No call in flight marks its token as finalized. -/
def System.Unmarked (system : System) : Prop := ∀ entry ∈ system.calls, entry.2 ≠ .markFinalized

/-- The holder calls the final mark. -/
def Action.marks : Action → Bool
  | .invoke _ .markFinalized => true
  | _ => false

variable {system : System} {action : Action} {token : ObservationWindowToken}

theorem step_unmarked (unmarked : system.Unmarked) (quiet : action.marks = false) :
    (system.step action).2.Unmarked := by
  cases action with
  | invoke called call =>
      intro entry member
      simp only [System.step, System.invoke] at member
      split at member
      · rcases List.mem_append.mp member with earlier | new
        · exact unmarked entry earlier
        · rw [List.mem_singleton.mp new]
          rintro rfl
          cases quiet
      · exact unmarked entry member
  | advance index spuriousFailure =>
      intro entry member
      simp only [System.step, System.advance] at member
      split at member
      · exact unmarked entry member
      · split at member
        · rename_i next running
          rcases List.mem_or_eq_of_mem_set member with earlier | rfl
          · exact unmarked entry earlier
          · exact TokenCall.advance_unmarked running
        · exact unmarked entry (List.mem_of_mem_eraseIdx member)
  | commitClaim | dropClaim =>
      simp only [System.step, System.commitClaim, System.dropClaim]
      split <;> exact unmarked
  | _ => exact unmarked

/-- A new cell of one issued token leaves the other issued tokens alone. -/
theorem SystemValid.cell_setCell_of_ne (valid : SystemValid system)
    {other : ObservationWindowToken} (issued : token ∈ system.issued)
    (otherIssued : other ∈ system.issued) (different : token ≠ other) (cell : TokenCell) :
    (system.registry.setCell other cell).cell token = system.registry.cell token :=
  cells_setCell_of_ne cell fun equal =>
    different (valid.registry.injective token issued other otherIssued equal)

/-- A new cell with the same final mark finalizes no token. -/
theorem SystemValid.finalized_of_setCell (valid : SystemValid system)
    {other : ObservationWindowToken} (issued : token ∈ system.issued)
    (otherIssued : other ∈ system.issued) {cell : TokenCell}
    (finalized : ((system.registry.setCell other cell).cell token).finalized = true)
    (same : cell.finalized = (system.registry.cell other).finalized) :
    (system.registry.cell token).finalized = true := by
  by_cases own : token = other
  · rwa [own, cell_setCell, same, ← own] at finalized
  · rwa [valid.cell_setCell_of_ne issued otherIssued own] at finalized

/-- The registry methods themselves finalize no token. -/
theorem Change.finalized {after : System} (valid : SystemValid system)
    (change : Change system action after) (quiet : action.isTokenStep = false)
    (issued : token ∈ after.issued) (finalized : (after.registry.cell token).finalized = true) :
    token ∈ system.issued ∧ (system.registry.cell token).finalized = true := by
  cases change with
  | registry _ _ effect => exact ⟨issued, effect.finalized token.address ▸ finalized⟩
  | opened mint openedAt _ _ _ effect _ absent room =>
      have cleared := valid.registry.effect effect
      rcases List.mem_append.mp issued with earlier | new
      · have below := (cleared.addresses token earlier).1
        dsimp only [ObservationWindowRegistry.cell] at finalized
        rw [openWindow_cells_of_ne _ mint openedAt _ (Nat.ne_of_lt below)] at finalized
        exact ⟨earlier, effect.finalized token.address ▸ finalized⟩
      · rw [List.mem_singleton.mp new, openWindow_cell, newCell_finalized] at finalized
        cases finalized
  | cell _ _ tokenStep =>
      rw [quiet] at tokenStep
      cases tokenStep
  | invoked _ tokenStep =>
      rw [quiet] at tokenStep
      cases tokenStep

/-- The commit of a claim finalizes its token, and nothing else does. -/
theorem step_finalized (valid : SystemValid system) (unmarked : system.Unmarked)
    (issued : token ∈ (system.step action).2.issued)
    (finalized : ((system.step action).2.registry.cell token).finalized = true) :
    (token ∈ system.issued ∧ (system.registry.cell token).finalized = true) ∨
      ∃ index claim, action = .commitClaim index ∧
        system.claims[index]? = some ⟨claim, false⟩ ∧ claim.token = token := by
  cases action with
  | claimFinalization candidate =>
      left
      simp only [System.step, System.claim] at issued finalized
      refine ⟨issued, ?_⟩
      rcases outcome : system.registry.claimFinalization candidate with ⟨result, after⟩
      rw [outcome] at finalized
      cases result with
      | none =>
          have same := claimFinalization_none (by rw [outcome] : _ = none)
          rw [outcome] at same
          dsimp only at same finalized
          rwa [same] at finalized
      | some claim =>
          obtain ⟨retained, -, -, -, -, rfl⟩ := claimFinalization_eq_some.mp outcome
          have tracked := valid.registry.tracked candidate (mem_tokens.mpr (.inr retained))
          exact valid.finalized_of_setCell issued tracked finalized rfl
  | invoke called call =>
      left
      simp only [System.step, System.invoke] at issued finalized
      split at finalized <;> split at issued <;> exact ⟨issued, finalized⟩
  | advance index spuriousFailure =>
      left
      simp only [System.step, System.advance] at issued finalized
      cases found : system.calls[index]? with
      | none =>
          rw [found] at issued finalized
          exact ⟨issued, finalized⟩
      | some entry =>
          obtain ⟨called, call⟩ := entry
          have member := List.mem_of_getElem? found
          rw [found] at issued finalized
          have same := call.advance_finalized spuriousFailure (system.registry.cell called)
            (unmarked _ member)
          dsimp only at issued finalized
          split at finalized <;> split at issued <;>
            exact ⟨issued, valid.finalized_of_setCell issued (valid.calls _ member).1 finalized same⟩
  | commitClaim index =>
      simp only [System.step, System.commitClaim] at issued finalized
      split at finalized
      · rename_i claim found
        have holder : claim.token ∈ system.issued :=
          valid.holders _ (List.mem_map.mpr ⟨_, List.mem_of_getElem? found, rfl⟩)
        by_cases own : token = claim.token
        · exact .inr ⟨index, claim, rfl, found, own.symm⟩
        · dsimp only at issued finalized
          rw [valid.cell_setCell_of_ne (by split at issued <;> exact issued) holder own]
            at finalized
          exact .inl ⟨by split at issued <;> exact issued, finalized⟩
      · split at issued <;> exact .inl ⟨issued, finalized⟩
  | dropClaim index =>
      left
      simp only [System.step, System.dropClaim] at issued finalized
      split at finalized
      · rename_i live found
        have holder : live.claim.token ∈ system.issued :=
          valid.holders _ (List.mem_map.mpr ⟨_, List.mem_of_getElem? found, rfl⟩)
        have member : token ∈ system.issued := by split at issued <;> exact issued
        exact ⟨member, valid.finalized_of_setCell member holder finalized rfl⟩
      · split at issued <;> exact ⟨issued, finalized⟩
  | _ => exact .inl ((step_change valid _).finalized valid rfl issued finalized)

end Soldisco.Window

namespace Soldisco.Persistence

variable {db next : Database} {action : DatabaseAction}

/-- Only the finalization of a window finalizes it. -/
theorem DecisionChange.newly_finalized (change : DecisionChange db action next) {id : Int}
    {window : WindowRow} (present : next.windows.lookup id = some window)
    (finalized : window.status = .finalized) :
    (∃ before, db.windows.lookup id = some before ∧ before.status = .finalized) ∨
      ∃ now payload, action = .finalizeDiscoveryWindow now payload ∧ payload.windowId = id := by
  cases change with
  | quiet same =>
      rw [same.windows] at present
      exact .inl ⟨window, present, finalized⟩
  | bound => exact .inl ⟨window, present, finalized⟩
  | opened _ _ _ _ _ windows =>
      rw [windows] at present
      by_cases created : id = db.nextWindowId
      · subst created
        rw [AList.lookup_insert] at present
        cases present
        cases finalized
      · rw [AList.lookup_insert_ne created] at present
        exact .inl ⟨window, present, finalized⟩
  | observed _ _ _ _ _ _ same =>
      rw [same.windows] at present
      exact .inl ⟨window, present, finalized⟩
  | approved _ _ _ _ _ _ same =>
      rw [same.windows] at present
      exact .inl ⟨window, present, finalized⟩
  | @finalized now payload _ _ _ _ _ _ _ _ _ _ _ _ _ _ windows =>
      rw [windows, Table.lookup_modify] at present
      split at present
      · rename_i same
        exact .inr ⟨now, payload, rfl, same.symm⟩
      · exact .inl ⟨window, present, finalized⟩
  | pruned _ _ windows =>
      rw [windows, Table.lookup_modifyAll] at present
      obtain ⟨before, found, rfl⟩ := Option.map_eq_some_iff.mp present
      refine .inl ⟨before, found, ?_⟩
      split at finalized <;> exact finalized

/-- The row of a window carries its identifier. -/
def WindowsIdentified (db : Database) : Prop :=
  ∀ id window, db.windows.lookup id = some window → window.id = id

theorem DecisionChange.windowsIdentified (change : DecisionChange db action next)
    (identified : WindowsIdentified db) : WindowsIdentified next := by
  intro id window present
  rcases change.window_origin present with ⟨_, _, _, _, _, -, -, -, rfl⟩ |
    ⟨before, _, found, -, rfl⟩ | ⟨before, _, found, rfl⟩
  · rfl
  · exact identified id before found
  · exact identified id before found

/-- What the finalizer relies on in the database of any run. -/
structure StoredWell (db : Database) : Prop where
  counters : CountersInvariant db
  identified : WindowsIdentified db

theorem step_storedWell (isBase64 : String → Bool) (well : StoredWell db)
    (action : DatabaseAction) : StoredWell (step isBase64 db action).2 where
  counters := step_countersInvariant isBase64 db action well.counters
  identified := stepWith_keeps well.identified fun _ committed =>
    (committed.decisionChange well.counters.tokens).windowsIdentified well.identified

theorem databaseAfter_storedWell (isBase64 : String → Bool) (actions : List DatabaseAction) :
    StoredWell (databaseAfter isBase64 actions) :=
  Transition.invariant_run (step isBase64) StoredWell
    (fun _ action well => step_storedWell isBase64 well action)
    ⟨countersInvariant_migrated, fun _ _ present => by cases present⟩ actions

end Soldisco.Persistence
