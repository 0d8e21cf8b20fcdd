import Soldisco.Library.Transition
import Soldisco.Proof.Window.Atomics

/-
This file proves that the life of one token is monotone under every interleaving of its holders.
-/

namespace Soldisco.Window

/-- The moves of the state atomic. -/
inductive WindowState.Moves : WindowState → WindowState → Prop
  | stays (state : WindowState) : Moves state state
  | confirms : Moves .pending .confirmed
  | cancelsConfirmed : Moves .confirmed .cancelledConfirmed
  | cancelsPending : Moves .pending .cancelledPending

/-- A call that may set the durable identifier has checked it. -/
def TokenCall.HasPositiveId : TokenCall → Prop
  | .durableGet id | .durableSet id | .durableRecheck id => 0 < id
  | _ => True

/-- What one step may do to the token. -/
structure LifecycleStep (before : TokenCell) (performed : Option (TokenCall × CallProgress))
    (after : TokenCell) : Prop where
  state : before.state.Moves after.state
  confirmed : performed = some (.confirm, .returned true) → after.state = .confirmed
  durable : after.durableWindowId = before.durableWindowId ∨
    before.durableWindowId = none ∧ before.wasConfirmed = true ∧
      ∃ id, 0 < id ∧ after.durableWindowId = some id
  reason : ∀ reason, before.incompleteReason = some reason →
    after.incompleteReason = some reason

/-- A confirmation returns true on a token that it leaves confirmed. -/
theorem TokenCell.confirm_state {cell : TokenCell} (returned : cell.confirm.1 = true) :
    cell.confirm.2.state = .confirmed := by
  unfold TokenCell.confirm at returned ⊢
  cases state : cell.state <;> simp_all

namespace TokenCall

variable {call : TokenCall} (spuriousFailure : Bool) {cell : TokenCell}

theorem advance_moves : cell.state.Moves (call.advance spuriousFailure cell).2.state := by
  cases call <;> dsimp only [advance]
  case confirm =>
      unfold TokenCell.confirm
      split
      · rename_i pending
        rw [pending]
        exact .confirms
      · exact .stays _
      · exact .stays _
      · exact .stays _
  case cancelIfPending =>
      unfold TokenCell.cancelIfPending
      split
      · rename_i pending
        rw [pending]
        exact .cancelsPending
      · exact .stays _
  case cancelPending =>
      split
      · rename_i pending
        rw [pending]
        exact .cancelsPending
      · exact .stays _
  case cancelConfirmed =>
      split
      · rename_i confirmed
        rw [confirmed]
        exact .cancelsConfirmed
      · exact .stays _
  case markIncomplete | cancelMark =>
      rw [TokenCell.markIncomplete_snd]
      exact .stays _
  case markFinalized =>
      unfold TokenCell.markFinalized
      split <;> exact .stays _
  all_goals first | exact .stays _ | (split <;> exact .stays _)

/-- Only the once-set of a checked call sets the identifier. -/
theorem advance_durable (ready : CallValid cell call) (positive : call.HasPositiveId) :
    (call.advance spuriousFailure cell).2.durableWindowId = cell.durableWindowId ∨
      cell.durableWindowId = none ∧ cell.wasConfirmed = true ∧
        ∃ id, 0 < id ∧ (call.advance spuriousFailure cell).2.durableWindowId = some id := by
  cases call <;> dsimp only [advance]
  case durableSet id =>
      cases absent : cell.durableWindowId with
      | some existing => exact .inl absent
      | none => exact .inr ⟨rfl, ready, id, positive, rfl⟩
  case confirm => unfold TokenCell.confirm; split <;> exact .inl rfl
  case cancelIfPending => unfold TokenCell.cancelIfPending; split <;> exact .inl rfl
  case markIncomplete | cancelMark => simp
  case markFinalized => unfold TokenCell.markFinalized; split <;> exact .inl rfl
  all_goals first | exact .inl rfl | (split <;> exact .inl rfl)

/-- A call that goes on keeps the identifier that it has checked. -/
theorem advance_positive {next : TokenCall} (positive : call.HasPositiveId)
    (running : (call.advance spuriousFailure cell).1 = .running next) : next.HasPositiveId := by
  cases call <;> simp only [advance] at running
  all_goals grind [HasPositiveId]

end TokenCall

namespace SharedToken

/-- The token is consistent with every call in flight. -/
structure Valid (token : SharedToken) : Prop where
  cell : CellValid token.cell
  ready : ∀ call ∈ token.calls, CallValid token.cell call
  positive : ∀ call ∈ token.calls, call.HasPositiveId
  durable : ∀ id, token.cell.durableWindowId = some id → 0 < id

theorem valid_fresh : fresh.Valid where
  cell := .fresh
  ready := fun _ member => by cases member
  positive := fun _ member => by cases member
  durable := fun _ present => by cases present

/-- A performed operation is one step of the lifecycle. -/
theorem Valid.advanced {token : SharedToken} (valid : token.Valid) {call : TokenCall}
    (member : call ∈ token.calls) (spuriousFailure : Bool) :
    LifecycleStep token.cell (some (call, (call.advance spuriousFailure token.cell).1))
      (call.advance spuriousFailure token.cell).2 where
  state := call.advance_moves spuriousFailure
  confirmed := by
    intro returned
    obtain ⟨rfl, result⟩ := Prod.mk.inj (Option.some_inj.mp returned)
    exact TokenCell.confirm_state (CallProgress.returned.inj result)
  durable := call.advance_durable spuriousFailure (valid.ready call member)
    (valid.positive call member)
  reason := (call.advance_progress spuriousFailure token.cell).reason

theorem Valid.lifecycleStep {token : SharedToken} (valid : token.Valid) (action : HolderAction) :
    LifecycleStep token.cell (token.step action).1 (token.step action).2.cell := by
  have quiet : LifecycleStep token.cell none token.cell :=
    ⟨.stays _, fun impossible => (by cases impossible), .inl rfl, fun _ present => present⟩
  cases action with
  | invoke call =>
      dsimp only [step]
      split <;> exact quiet
  | advance index spuriousFailure =>
      dsimp only [step]
      cases found : token.calls[index]? with
      | none => exact quiet
      | some call => exact valid.advanced (List.mem_of_getElem? found) spuriousFailure

/-- A step keeps the token consistent with the calls in flight. -/
theorem Valid.stepped {token : SharedToken} (valid : token.Valid) (action : HolderAction) :
    (token.step action).2.Valid := by
  cases action with
  | invoke call =>
      dsimp only [step]
      split
      · rename_i entry
        refine ⟨valid.cell, ?_, ?_, valid.durable⟩
        · intro other member
          rcases List.mem_append.mp member with old | new
          · exact valid.ready other old
          · rw [List.mem_singleton.mp new]
            exact .entry entry token.cell
        · intro other member
          rcases List.mem_append.mp member with old | new
          · exact valid.positive other old
          · rw [List.mem_singleton.mp new]
            cases call <;> trivial
      · exact valid
  | advance index spuriousFailure =>
      have lifecycle := valid.lifecycleStep (.advance index spuriousFailure)
      dsimp only [step] at lifecycle ⊢
      cases found : token.calls[index]? with
      | none => exact valid
      | some call =>
          rw [found] at lifecycle
          have member := List.mem_of_getElem? found
          have ready := valid.ready call member
          have progress := call.advance_progress spuriousFailure token.cell
          refine ⟨TokenCall.advance_valid spuriousFailure valid.cell ready, ?_, ?_, ?_⟩
          · intro other inFlight
            dsimp only at inFlight ⊢
            split at inFlight
            · rename_i next running
              rcases List.mem_or_eq_of_mem_set inFlight with old | rfl
              · exact (valid.ready other old).progress progress
              · exact TokenCall.advance_running spuriousFailure ready running
            · exact (valid.ready other (List.mem_of_mem_eraseIdx inFlight)).progress progress
          · intro other inFlight
            dsimp only at inFlight
            split at inFlight
            · rename_i next running
              rcases List.mem_or_eq_of_mem_set inFlight with old | rfl
              · exact valid.positive other old
              · exact TokenCall.advance_positive spuriousFailure (valid.positive call member)
                  running
            · exact valid.positive other (List.mem_of_mem_eraseIdx inFlight)
          · intro id present
            rcases lifecycle.durable with same | ⟨-, -, own, positive, set⟩
            · exact valid.durable id (same.symm.trans present)
            · rw [set] at present
              cases present
              exact positive

theorem valid_run (actions : List HolderAction) :
    (Transition.run step fresh actions).Valid :=
  Transition.invariant_run step Valid (fun _ action valid => valid.stepped action) valid_fresh
    actions

/-- A token that was confirmed has been in the confirmed state. -/
theorem wasConfirmed_run {actions : List HolderAction}
    (confirmed : (Transition.run step fresh actions).cell.wasConfirmed = true) :
    ∃ front back, actions = front ++ back ∧
      (Transition.run step fresh front).cell.state = .confirmed := by
  induction actions using List.reverseRecOn with
  | nil => cases confirmed
  | append_singleton actions action ih =>
      by_cases now : (Transition.run step fresh (actions ++ [action])).cell.state = .confirmed
      · exact ⟨actions ++ [action], [], (List.append_nil _).symm, now⟩
      · have earlier : (Transition.run step fresh actions).cell.wasConfirmed = true := by
          have moves := ((valid_run actions).lifecycleStep action).state
          rw [Transition.run_concat] at confirmed now
          unfold TokenCell.wasConfirmed at confirmed ⊢
          generalize (Transition.run step fresh actions).cell.state = before at moves ⊢
          generalize ((Transition.run step fresh actions).step action).2.cell.state = after
            at moves confirmed now
          cases moves with
          | stays => exact confirmed
          | confirms => exact absurd rfl now
          | cancelsConfirmed => rfl
          | cancelsPending => cases confirmed
        obtain ⟨front, back, whole, held⟩ := ih earlier
        exact ⟨front, back ++ [action], by rw [whole, List.append_assoc], held⟩

/-- What holds of a token after every run of its holders. -/
structure LifecycleReached (actions : List HolderAction) (cell : TokenCell) : Prop where
  durable : ∀ id, cell.durableWindowId = some id → 0 < id ∧
    ∃ front back, actions = front ++ back ∧
      (Transition.run step fresh front).cell.state = .confirmed
  cancelled : cell.state = .cancelledConfirmed → ∃ reason, cell.incompleteReason = some reason

/-- The lifecycle of a token is monotone in every step of every interleaving of its holders. -/
theorem lifecycle_monotone (actions : List HolderAction) :
    LifecycleReached actions (Transition.run step fresh actions).cell ∧
      ∀ action, LifecycleStep (Transition.run step fresh actions).cell
        ((Transition.run step fresh actions).step action).1
        ((Transition.run step fresh actions).step action).2.cell := by
  have valid := valid_run actions
  refine ⟨⟨?_, ?_⟩, fun action => valid.lifecycleStep action⟩
  · intro id present
    refine ⟨valid.durable id present, wasConfirmed_run (valid.cell.durable ?_)⟩
    rw [present]
    exact Option.some_ne_none id
  · intro cancelled
    exact Option.ne_none_iff_exists'.mp (valid.cell.reason cancelled)

end SharedToken

end Soldisco.Window
