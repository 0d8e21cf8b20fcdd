import Soldisco.Proof.Persistence.Projection

/-
This file inverts a committed transaction and gives the rules for runs of the database.
-/

namespace Soldisco.Persistence
open Domain MachineInteger Accumulation

/-- A committed transaction is one accepted operation. -/
inductive Transacted (isBase64 : String → Bool) (clamp : Int → Int) (db : Database) :
    DatabaseAction → Database → Prop
  | bound {network : Network} (free : db.boundNetwork = none) :
      Transacted isBase64 clamp db (.bindNetwork network)
        { db with boundNetwork := some network }
  | boundBefore {network : Network} (same : db.boundNetwork = some network) :
      Transacted isBase64 clamp db (.bindNetwork network) db
  | addedRevision (revision : Int) :
      Transacted isBase64 clamp db (.addQualificationRevision revision)
        { db with qualificationRevisions := revision :: db.qualificationRevisions }
  | skippedSequences (observations work windows : Nat) :
      Transacted isBase64 clamp db (.skipSequences observations work windows)
        { db with
          nextObservationId := db.nextObservationId + observations
          nextWorkId := db.nextWorkId + work
          nextWindowId := db.nextWindowId + windows }
  | insertedObservation {now : Int} {observation : Observation} {isNew : Bool} {next : Database}
      (accepted : insertObservation isBase64 now db observation = .ok (isNew, next)) :
      Transacted isBase64 clamp db (.insertObservation now observation) next
  | openedWindow {now : Int} {observation : Observation} {window : NewDiscoveryWindow}
      {opened : OpenedDiscoveryWindow} {next : Database}
      (accepted : openDiscoveryWindow isBase64 now db observation window = .ok (opened, next)) :
      Transacted isBase64 clamp db (.openDiscoveryWindow now observation window) next
  | insertedMember {now windowId : Int} {observation : Observation} {isNew : Bool}
      {next : Database}
      (accepted : insertWindowObservation isBase64 now db windowId observation =
        .ok (isNew, next)) :
      Transacted isBase64 clamp db (.insertWindowObservation now windowId observation) next
  | claimedWork {now : Int} {workKind workerId : String} {limit leaseDuration : Nat}
      {work : List ClaimedObservationWork} {next : Database}
      (accepted : claimObservationWork now db workKind workerId limit leaseDuration =
        .ok (work, next)) :
      Transacted isBase64 clamp db
        (.claimObservationWork now workKind workerId limit leaseDuration) next
  | renewedLease {now workId : Int} {workerId : String} {leaseDuration : Nat} {expiresAt : Int}
      {next : Database}
      (accepted : renewObservationWorkLease now db workId workerId leaseDuration =
        .ok (expiresAt, next)) :
      Transacted isBase64 clamp db
        (.renewObservationWorkLease now workId workerId leaseDuration) next
  | committedObservation {now workId : Int} {workerId : String} {candidate : DiscoveryObservation}
      {mutation : DiscoveryProjectionMutation} {next : Database}
      (accepted : commitDiscoveryObservation clamp now db workId workerId candidate =
        .ok (mutation, next)) :
      Transacted isBase64 clamp db
        (.commitDiscoveryObservation now workId workerId candidate) next
  | committedApproval {now : Int} {token : DiscoveryToken} {decisionSource decisionVersion : String}
      {mutation : DiscoveryProjectionMutation} {next : Database}
      (accepted : commitDiscoveryApproval now db token decisionSource decisionVersion =
        .ok (mutation, next)) :
      Transacted isBase64 clamp db
        (.commitDiscoveryApproval now token decisionSource decisionVersion) next
  | committedRejection {now workId : Int} {workerId : String} {rejection : DiscoveryRejection}
      {done : Unit} {next : Database}
      (accepted : commitDiscoveryRejection clamp now db workId workerId rejection =
        .ok (done, next)) :
      Transacted isBase64 clamp db
        (.commitDiscoveryRejection now workId workerId rejection) next
  | releasedWork {now workId : Int} {workerId errorCode : String} {retryAfter attemptBudget : Nat}
      {disposition : WorkFailureDisposition} {next : Database}
      (accepted : retryOrFailObservationWork clamp now db workId workerId errorCode retryAfter
        attemptBudget = .ok (disposition, next)) :
      Transacted isBase64 clamp db (.retryOrFailObservationWork now workId workerId errorCode
        retryAfter attemptBudget) next
  | finalizedWindow {now : Int} {finalized : FinalizeDiscoveryWindow} {changed : Bool}
      {next : Database}
      (accepted : finalizeDiscoveryWindow clamp now db finalized = .ok (changed, next)) :
      Transacted isBase64 clamp db (.finalizeDiscoveryWindow now finalized) next
  | prunedHistory {policy : RetentionPolicy} {result : RetentionPruneResult} {next : Database}
      (accepted : pruneRetainedHistory db policy = .ok (result, next)) :
      Transacted isBase64 clamp db (.pruneRetainedHistory policy) next
  | rebuiltProjection {now : Int} {sequence : Nat} {next : Database}
      (accepted : rebuildDiscoveryProjection now db = .ok (sequence, next)) :
      Transacted isBase64 clamp db (.rebuildDiscoveryProjection now) next

/-- The outcome of an operation is wrapped and its database is kept. -/
theorem outcome_eq_ok {Result : Type} {operation : Except PersistenceError (Result × Database)}
    {wrap : Result → DatabaseOutcome} {outcome : DatabaseOutcome} {next : Database}
    (accepted : (do
      let (result, next) ← operation
      return (wrap result, next)) = Except.ok (outcome, next)) :
    ∃ result, operation = .ok (result, next) := by
  rw [bind_eq_ok] at accepted
  obtain ⟨⟨result, _⟩, accepted, done⟩ := accepted
  cases done
  exact ⟨result, accepted⟩

theorem transact_eq_ok {isBase64 : String → Bool} {clamp : Int → Int} {db next : Database}
    {action : DatabaseAction} {outcome : DatabaseOutcome}
    (accepted : transact isBase64 clamp db action = .ok (outcome, next)) :
    Transacted isBase64 clamp db action next := by
  cases action with
  | bindNetwork network =>
      simp only [transact, bind_eq_ok] at accepted
      obtain ⟨⟨_, _⟩, binding, done⟩ := accepted
      cases done
      unfold bindNetwork at binding
      split at binding
      · rename_i free
        cases binding
        exact .bound free
      · rename_i bound present
        split at binding
        · rename_i same
          cases binding
          exact .boundBefore (same ▸ present)
        · cases binding
  | addQualificationRevision revision =>
      cases accepted
      exact .addedRevision revision
  | skipSequences observations work windows =>
      cases accepted
      exact .skippedSequences observations work windows
  | insertObservation =>
      obtain ⟨_, accepted⟩ := outcome_eq_ok accepted
      exact .insertedObservation accepted
  | openDiscoveryWindow =>
      obtain ⟨_, accepted⟩ := outcome_eq_ok accepted
      exact .openedWindow accepted
  | insertWindowObservation =>
      obtain ⟨_, accepted⟩ := outcome_eq_ok accepted
      exact .insertedMember accepted
  | claimObservationWork =>
      obtain ⟨_, accepted⟩ := outcome_eq_ok accepted
      exact .claimedWork accepted
  | renewObservationWorkLease =>
      obtain ⟨_, accepted⟩ := outcome_eq_ok accepted
      exact .renewedLease accepted
  | commitDiscoveryObservation =>
      obtain ⟨_, accepted⟩ := outcome_eq_ok accepted
      exact .committedObservation accepted
  | commitDiscoveryApproval =>
      obtain ⟨_, accepted⟩ := outcome_eq_ok accepted
      exact .committedApproval accepted
  | commitDiscoveryRejection =>
      obtain ⟨_, accepted⟩ := @outcome_eq_ok Unit _ (fun _ => .done) _ _ accepted
      exact .committedRejection accepted
  | retryOrFailObservationWork =>
      obtain ⟨_, accepted⟩ := outcome_eq_ok accepted
      exact .releasedWork accepted
  | finalizeDiscoveryWindow =>
      obtain ⟨_, accepted⟩ := outcome_eq_ok accepted
      exact .finalizedWindow accepted
  | pruneRetainedHistory =>
      obtain ⟨_, accepted⟩ := outcome_eq_ok accepted
      exact .prunedHistory accepted
  | rebuildDiscoveryProjection =>
      obtain ⟨_, accepted⟩ := outcome_eq_ok accepted
      exact .rebuiltProjection accepted

/-- A failed transaction changes nothing. -/
theorem stepWith_cases (isBase64 : String → Bool) (clamp : Int → Int) (db : Database)
    (action : DatabaseAction) :
    (∃ outcome next, stepWith isBase64 clamp db action = (.ok outcome, next) ∧
      Transacted isBase64 clamp db action next) ∨
    ∃ error, stepWith isBase64 clamp db action = (.error error, db) := by
  unfold stepWith
  cases accepted : transact isBase64 clamp db action with
  | ok result =>
      obtain ⟨outcome, next⟩ := result
      exact .inl ⟨outcome, next, rfl, transact_eq_ok accepted⟩
  | error error => exact .inr ⟨error, rfl⟩

/-- A property that each committed transaction keeps is kept by each step. -/
theorem stepWith_keeps {isBase64 : String → Bool} {clamp : Int → Int} {db : Database}
    {action : DatabaseAction} {property : Database → Prop} (holds : property db)
    (kept : ∀ next, Transacted isBase64 clamp db action next → property next) :
    property (stepWith isBase64 clamp db action).2 := by
  rcases stepWith_cases isBase64 clamp db action with ⟨_, next, step, committed⟩ | ⟨_, step⟩
  · rw [step]
    exact kept next committed
  · rw [step]
    exact holds

/-- A property that each guarded step keeps holds after each run with guarded accepted operations. -/
theorem AcceptedAlong.keeps {isBase64 : String → Bool} {guard : Database → DatabaseAction → Prop}
    {actions : List DatabaseAction} (along : AcceptedAlong isBase64 guard actions)
    {property : Database → Prop} (initial : property Database.migrated)
    (kept : ∀ db action, property db → guard db action → property (step isBase64 db action).2) :
    property (databaseAfter isBase64 actions) := by
  refine Transition.invariant_of_accepted (step isBase64) property (fun db action refused => ?_)
    kept initial along
  unfold step at refused ⊢
  rcases stepWith_cases isBase64 greatestZero db action with ⟨_, _, moved, _⟩ | ⟨_, same⟩
  · rw [moved] at refused
    cases refused
  · rw [same]

end Soldisco.Persistence
