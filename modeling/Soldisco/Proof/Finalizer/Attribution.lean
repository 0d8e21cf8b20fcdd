import Soldisco.Proof.Finalizer.Safety

/-
This file proves who decides a window: a complete decision is made under a live claim.
-/

namespace Soldisco.Finalizer
open Domain Window Persistence Accumulation ObservationWindowRegistry

/-- The ways in which the worker comes to finalize a window. A window is decided as complete only
under a claim without a reason, which was made on a token whose source had progressed to its close.
The recovery sweeps decide the windows of their runs as incomplete. -/
inductive DecidedBy (state : State) (payload : FinalizeDiscoveryWindow) : Prop
  | claimed {claim : ObservationWindowFinalizationClaim}
      (live : state.windows.claims = [⟨claim, false⟩])
      (holds : HoldsDurable state claim.token payload.windowId)
      (complete : payload.completeness = .complete → claim.incompleteReason = none)
      (progressed : claim.incompleteReason = none → ∃ watermark,
        state.windows.registry.latestSourceProgress (targetSourceProgram claim.token.target) =
          some watermark ∧ claim.token.window.closesAtUnixMs ≤ watermark)
      (reason : ∀ code, claim.incompleteReason = some code →
        payload.completenessReason = some code.asStr ∨
          payload.completenessReason = some WindowIncompleteReason.processingFailed.asStr)
  | recovered {kind : Recovery} (recoverable : Recoverable state kind payload.windowId)
      (incomplete : payload.completeness = .incomplete)
      (reason : payload.completenessReason = some kind.reason.asStr ∨
        payload.completenessReason = some WindowIncompleteReason.processingFailed.asStr)

variable {state : State} {attempt : Attempt} {payload : FinalizeDiscoveryWindow}

/-- The payload has the reason of its attempt, or its opening projection is unavailable. -/
theorem RequestedFor.completenessReason {reason : Option WindowIncompleteReason}
    (requested : RequestedFor reason payload) (known : attempt.Reason reason)
    {code : WindowIncompleteReason} (given : attempt.incompleteReason = some code) :
    payload.completeness = .incomplete ∧ (payload.completenessReason = some code.asStr ∨
      payload.completenessReason = some WindowIncompleteReason.processingFailed.asStr) := by
  rcases known with rfl | rfl
  · obtain ⟨incomplete, same⟩ := requested code given
    exact ⟨incomplete, .inl same⟩
  · obtain ⟨incomplete, same⟩ := requested .processingFailed rfl
    exact ⟨incomplete, .inr same⟩

/-- A complete payload was requested without a reason. -/
theorem RequestedFor.complete {reason : Option WindowIncompleteReason}
    (requested : RequestedFor reason payload) (known : attempt.Reason reason)
    (complete : payload.completeness = .complete) : attempt.incompleteReason = none := by
  cases given : attempt.incompleteReason with
  | none => rfl
  | some code =>
      have incomplete := (requested.completenessReason known given).1
      rw [complete] at incomplete
      cases incomplete

theorem CallerValid.decidedBy (caller : CallerValid state attempt)
    (request : RequestValid attempt (.finalization payload)) : DecidedBy state payload := by
  obtain ⟨own, reason, known, requested⟩ := request
  cases caller with
  | readyTokens _ _ holds =>
      obtain ⟨claim, live, durable, frozen, progressed⟩ := holds
      refine .claimed live (own ▸ durable) ?_ ?_ ?_
      · intro complete
        exact frozen.trans (requested.complete known complete)
      · intro complete
        exact awaitsProgress_eq_false.mp (progressed (frozen.symm.trans complete))
      · intro code given
        exact (requested.completenessReason known (frozen.symm.trans given)).2
  | recovery _ _ sweep windows =>
      obtain ⟨incomplete, code⟩ := requested.completenessReason known sweep
      exact .recovered (own ▸ windows attempt.windowId List.mem_cons_self) incomplete code

/-- The transactions of the other tasks finalize no window. -/
theorem foreign_unfinalized (isBase64 : String → Bool) {db : Database} (well : StoredWell db)
    {action : DatabaseAction} (foreign : isForeign action = true) {windowId : Int}
    {row : WindowRow}
    (present : (Persistence.step isBase64 db action).2.windows.lookup windowId = some row)
    (finalized : row.status = .finalized) :
    ∃ before, db.windows.lookup windowId = some before ∧ before.status = .finalized := by
  rcases stepWith_cases isBase64 greatestZero db action with
    ⟨_, next, moved, committed⟩ | ⟨_, moved⟩
  · unfold Persistence.step at present
    rw [moved] at present
    rcases (committed.decisionChange well.counters.tokens).newly_finalized present finalized with
      before | ⟨_, _, rfl, -⟩
    · exact before
    · cases foreign
  · unfold Persistence.step at present
    rw [moved] at present
    exact ⟨row, present, finalized⟩

/-- An accepted finalization stores its payload in one window and finalizes no other one. -/
theorem finalized_stores {now : Int} {db database : Database} {committed : Bool}
    (well : StoredWell db)
    (accepted : finalizeDiscoveryWindow greatestZero now db payload = .ok (committed, database))
    {windowId : Int} {row : WindowRow} (present : database.windows.lookup windowId = some row)
    (finalized : row.status = .finalized)
    (running : ¬ ∃ before, db.windows.lookup windowId = some before ∧ before.status = .finalized) :
    payload.windowId = windowId ∧ committed = true ∧ StoresPayload database row payload ∧
      (payload.decision = .pass → payload.completeness = .complete) := by
  have moved := step_finalizeDiscoveryWindow (fun _ => true) accepted
  have own : payload.windowId = windowId := by
    by_contra other
    rcases stepWith_cases (fun _ => true) greatestZero db (.finalizeDiscoveryWindow now payload)
      with ⟨_, next, stepped, transacted⟩ | ⟨_, stepped⟩
    · unfold Persistence.step at moved
      rw [stepped] at moved
      subst moved
      rcases (transacted.decisionChange well.counters.tokens).newly_finalized present finalized with
        before | ⟨_, _, same, mine⟩
      · exact running before
      · cases same
        exact other mine
    · unfold Persistence.step at moved
      rw [stepped] at moved
      subst moved
      exact running ⟨row, present, finalized⟩
  subst own
  cases committed with
  | false =>
      obtain ⟨-, before, found, -, ⟨status, -⟩ | ⟨-, impossible, -⟩⟩ :=
        finalizeDiscoveryWindow_eq_ok accepted
      · exact absurd ⟨before, found, status⟩ running
      · cases impossible
  | true =>
      obtain ⟨before, -, -, stored⟩ := finalizeDiscoveryWindow_stores accepted
      have same := stored.present
      rw [present] at same
      cases same
      refine ⟨rfl, rfl, stored, fun pass => ?_⟩
      obtain ⟨-, _, -, -, ⟨-, impossible, -⟩ | ⟨-, -, _, froze, -⟩⟩ :=
        finalizeDiscoveryWindow_eq_ok accepted
      · cases impossible
      · obtain ⟨-, ⟨_, -, built⟩, -⟩ := freezeEvidence_eq_ok froze
        exact buildDiscoveryWindowFinalization_pass built pass

def launchFinalizer : State :=
  Transition.run (step fun _ => true) (.start 4 launchCapacity_pos
    (databaseAfter (fun _ => true) launchActions) "run") launchFinalizerRun

end Soldisco.Finalizer
