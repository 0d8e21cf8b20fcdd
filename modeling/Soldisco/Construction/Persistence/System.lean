import Soldisco.Construction.Persistence.Discovery
import Soldisco.Library.Transition

/-
This file gives the runs of the database: each operation is one atomic transaction.
-/

namespace Soldisco.Persistence
open Domain MachineInteger

/-- An operation of the database crate or a change by its surroundings. -/
inductive DatabaseAction where
  | bindNetwork (network : Network)
  | addQualificationRevision (revision : Int)
  | skipSequences (observations work windows : Nat)
  | insertObservation (now : Int) (observation : Observation)
  | openDiscoveryWindow (now : Int) (observation : Observation) (window : NewDiscoveryWindow)
  | insertWindowObservation (now windowId : Int) (observation : Observation)
  | claimObservationWork (now : Int) (workKind workerId : String) (limit leaseDuration : Nat)
  | renewObservationWorkLease (now workId : Int) (workerId : String) (leaseDuration : Nat)
  | commitDiscoveryObservation (now workId : Int) (workerId : String)
      (candidate : DiscoveryObservation)
  | commitDiscoveryApproval (now : Int) (token : DiscoveryToken)
      (decisionSource decisionVersion : String)
  | commitDiscoveryRejection (now workId : Int) (workerId : String)
      (rejection : DiscoveryRejection)
  | retryOrFailObservationWork (now workId : Int) (workerId errorCode : String)
      (retryAfter attemptBudget : Nat)
  | finalizeDiscoveryWindow (now : Int) (finalized : FinalizeDiscoveryWindow)
  | pruneRetainedHistory (policy : RetentionPolicy)
  | rebuildDiscoveryProjection (now : Int)

inductive DatabaseOutcome where
  | done
  | inserted (isNew : Bool)
  | opened (window : OpenedDiscoveryWindow)
  | claimed (work : List ClaimedObservationWork)
  | renewed (leaseExpiresAtUnixMs : Int)
  | projected (mutation : DiscoveryProjectionMutation)
  | released (disposition : WorkFailureDisposition)
  | finalized (changed : Bool)
  | pruned (result : RetentionPruneResult)
  | rebuilt (sequence : Nat)

/-- The database stays bound to its first network. -/
def bindNetwork (db : Database) (network : Network) : Except PersistenceError (Bool × Database) :=
  match db.boundNetwork with
  | none => .ok (true, { db with boundNetwork := some network })
  | some bound => if bound = network then .ok (false, db) else .error .database

/-- A transaction gives its outcome and the next state of the database. -/
def transact (isBase64 : String → Bool) (clamp : Int → Int) (db : Database) :
    DatabaseAction → Except PersistenceError (DatabaseOutcome × Database)
  | .bindNetwork network => do
      let (_, next) ← bindNetwork db network
      return (.done, next)
  | .addQualificationRevision revision =>
      .ok (.done, { db with
        qualificationRevisions := revision :: db.qualificationRevisions })
  -- A sequence value that a rolled back transaction has drawn is not drawn again.
  | .skipSequences observations work windows => .ok (.done, { db with
      nextObservationId := db.nextObservationId + observations
      nextWorkId := db.nextWorkId + work
      nextWindowId := db.nextWindowId + windows })
  | .insertObservation now observation => do
      let (isNew, next) ← insertObservation isBase64 now db observation
      return (.inserted isNew, next)
  | .openDiscoveryWindow now observation window => do
      let (opened, next) ← openDiscoveryWindow isBase64 now db observation window
      return (.opened opened, next)
  | .insertWindowObservation now windowId observation => do
      let (isNew, next) ← insertWindowObservation isBase64 now db windowId observation
      return (.inserted isNew, next)
  | .claimObservationWork now workKind workerId limit leaseDuration => do
      let (work, next) ← claimObservationWork now db workKind workerId limit leaseDuration
      return (.claimed work, next)
  | .renewObservationWorkLease now workId workerId leaseDuration => do
      let (expiresAt, next) ← renewObservationWorkLease now db workId workerId leaseDuration
      return (.renewed expiresAt, next)
  | .commitDiscoveryObservation now workId workerId candidate => do
      let (mutation, next) ← commitDiscoveryObservation clamp now db workId workerId candidate
      return (.projected mutation, next)
  | .commitDiscoveryApproval now token decisionSource decisionVersion => do
      let (mutation, next) ← commitDiscoveryApproval now db token decisionSource decisionVersion
      return (.projected mutation, next)
  | .commitDiscoveryRejection now workId workerId rejection => do
      let (_, next) ← commitDiscoveryRejection clamp now db workId workerId rejection
      return (.done, next)
  | .retryOrFailObservationWork now workId workerId errorCode retryAfter attemptBudget => do
      let (disposition, next) ← retryOrFailObservationWork clamp now db workId workerId errorCode
        retryAfter attemptBudget
      return (.released disposition, next)
  | .finalizeDiscoveryWindow now finalized => do
      let (changed, next) ← finalizeDiscoveryWindow clamp now db finalized
      return (.finalized changed, next)
  | .pruneRetainedHistory policy => do
      let (result, next) ← pruneRetainedHistory db policy
      return (.pruned result, next)
  | .rebuildDiscoveryProjection now => do
      let (sequence, next) ← rebuildDiscoveryProjection now db
      return (.rebuilt sequence, next)

/-- A failed transaction is rolled back. -/
def stepWith (isBase64 : String → Bool) (clamp : Int → Int) (db : Database)
    (action : DatabaseAction) : Except PersistenceError DatabaseOutcome × Database :=
  match transact isBase64 clamp db action with
  | .ok (outcome, next) => (.ok outcome, next)
  | .error error => (.error error, db)

/-- The counters never fall below zero. -/
def greatestZero (value : Int) : Int := max value 0

def step (isBase64 : String → Bool) :
    Database → DatabaseAction → Except PersistenceError DatabaseOutcome × Database :=
  stepWith isBase64 greatestZero

/-- The database after a run from the migrated database. -/
def databaseAfter (isBase64 : String → Bool) (actions : List DatabaseAction) : Database :=
  Transition.run (step isBase64) Database.migrated actions

/-- The operations of a run from the migrated database meet the guard where they are accepted. -/
def AcceptedAlong (isBase64 : String → Bool) (guard : Database → DatabaseAction → Prop)
    (actions : List DatabaseAction) : Prop :=
  Transition.Along (step isBase64)
    (Transition.WhenAccepted (step isBase64) Except.isOk guard) Database.migrated actions

end Soldisco.Persistence
