import Soldisco.Construction.Persistence.Observations

/-
This file embeds the leases of observation work and the pruning of retained history.
-/

namespace Soldisco.Persistence
open Domain MachineInteger

def maxClaimBatch : Nat := 1000

def maxAttempts : Nat := 2147483647

structure ClaimedObservationWork where
  workId : Int
  observationId : Int
  workKind : String
  attempts : Nat
  leaseOwner : String
  leaseExpiresAtUnixMs : Int
  observation : Observation
deriving DecidableEq, Repr

inductive WorkFailureDisposition where
  | retryScheduled
  | permanentlyFailed
deriving DecidableEq, Repr

structure OwnedWork where
  workId : Int
  row : WorkRow
  observation : Observation

/-- Pending work that is due and processing work whose lease has ended can be claimed. -/
def isClaimable (now : Int) (workKind : String) (row : WorkRow) : Bool :=
  row.workKind = workKind && row.attempts < maxAttempts &&
    (row.status = .pending && row.availableAt ≤ now ||
      row.status = .processing && row.leaseExpiresAt.all (· ≤ now))

/-- The claimable work in the order of its availability. -/
def claimableWork (now : Int) (db : Database) (workKind : String) (limit : Nat) : List Int :=
  (((db.work.entries.filter fun entry => isClaimable now workKind entry.2).insertionSort
    fun left right => left.2.availableAt < right.2.availableAt ∨
      left.2.availableAt = right.2.availableAt ∧ left.1 ≤ right.1).take limit).map Sigma.fst

def claimRow (now : Int) (workerId : String) (leaseMillis : Int) (row : WorkRow) : WorkRow :=
  { row with
    status := .processing
    attempts := row.attempts + 1
    claimedAt := some now
    finishedAt := none
    leaseOwner := some workerId
    leaseExpiresAt := some (now + leaseMillis) }

def claimObservationWork (now : Int) (db : Database) (workKind workerId : String) (limit : Nat)
    (leaseDuration : Nat) : Except PersistenceError (List ClaimedObservationWork × Database) := do
  requireNonEmpty workKind "work_kind"
  requireNonEmpty workerId "worker_id"
  require (limit ≠ 0) (.mustBePositive "claim limit")
  require (limit ≤ maxClaimBatch) (.limitTooLarge "claim limit" maxClaimBatch)
  let leaseMillis ← durationMillis leaseDuration "lease_duration" false
  let claimed := claimableWork now db workKind limit
  let work := db.work.modifyAll fun id row =>
    if id ∈ claimed then claimRow now workerId leaseMillis row else row
  let rows := (claimed.insertionSort (· ≤ ·)).filterMap fun id => do
    let row ← work.lookup id
    let observation ← db.observations.lookup row.observationId
    return {
      workId := id
      observationId := row.observationId
      workKind := row.workKind
      attempts := row.attempts
      leaseOwner := workerId
      leaseExpiresAtUnixMs := now + leaseMillis
      observation := observation.normalized }
  return (rows, { db with work })

/-- The worker holds the work under a live lease. -/
def isOwned (now : Int) (workerId : String) (row : WorkRow) : Bool :=
  row.status = .processing && row.leaseOwner = some workerId &&
    row.leaseExpiresAt.any fun expiresAt => now < expiresAt

def renewObservationWorkLease (now : Int) (db : Database) (workId : Int) (workerId : String)
    (leaseDuration : Nat) : Except PersistenceError (Int × Database) := do
  requireNonEmpty workerId "worker_id"
  let leaseMillis ← durationMillis leaseDuration "lease_duration" false
  require ((db.work.lookup workId).any (isOwned now workerId)) (.workLeaseLost workId workerId)
  return (now + leaseMillis, { db with work := db.work.modify workId fun row =>
    { row with leaseExpiresAt := some (now + leaseMillis) } })

def lockOwnedWork (now : Int) (db : Database) (workId : Int) (workerId : String) :
    Except PersistenceError OwnedWork :=
  match db.work.lookup workId with
  | some row =>
      match db.observations.lookup row.observationId with
      | some observation =>
          if isOwned now workerId row then
            .ok { workId, row, observation := observation.normalized }
          else .error (.workLeaseLost workId workerId)
      | none => .error (.workLeaseLost workId workerId)
  | none => .error (.workLeaseLost workId workerId)

def completeRow (now : Int) (row : WorkRow) : WorkRow :=
  { row with
    status := .complete
    finishedAt := some now
    leaseOwner := none
    leaseExpiresAt := none }

def markWorkComplete (now : Int) (db : Database) (workId : Int) : Database :=
  { db with work := db.work.modify workId (completeRow now) }

/-- A failed row is final; another one waits until it is available again. -/
def releaseRow (now : Int) (errorCode : String) (retryMillis : Int) (permanentlyFailed : Bool)
    (row : WorkRow) : WorkRow :=
  { row with
    status := if permanentlyFailed then .failed else .pending
    availableAt := if permanentlyFailed then row.availableAt else now + retryMillis
    claimedAt := if permanentlyFailed then row.claimedAt else none
    finishedAt := if permanentlyFailed then some now else none
    lastErrorCode := some errorCode
    leaseOwner := none
    leaseExpiresAt := none }

/-- The clamp of a decreased counter is a parameter. -/
def recordTerminalDiscoveryFailure (clamp : Int → Int) (now : Int) (db : Database)
    (work : OwnedWork) (errorCode : String) : Database :=
  let counted := db.updateProjection fun counters =>
    { counters with
      queuedFacts := clamp (counters.queuedFacts - 1)
      processingFailures := counters.processingFailures + 1 }
  let summarized : Database := { counted with
    processingFailureSummaries := upsertSummary counted.processingFailureSummaries errorCode
      work.observation.receivedTimeUnixMs }
  summarized.appendProjectionEvent now fun sequence => .workFailed sequence work.workId
    work.row.observationId work.observation.market.mint errorCode

/-- Failed work is released for a retry until its attempts are used up. -/
def retryOrFailObservationWork (clamp : Int → Int) (now : Int) (db : Database) (workId : Int)
    (workerId errorCode : String) (retryAfter : Nat) (attemptBudget : Nat) :
    Except PersistenceError (WorkFailureDisposition × Database) := do
  requireNonEmpty workerId "worker_id"
  requireNonEmpty errorCode "error_code"
  require (attemptBudget ≠ 0) (.mustBePositive "max_attempts")
  require (attemptBudget ≤ maxAttempts) (.valueOutOfRange "max_attempts")
  let retryMillis ← durationMillis retryAfter "retry_after" true
  let work ← lockOwnedWork now db workId workerId
  let permanentlyFailed := decide (work.row.attempts ≥ attemptBudget)
  let released : Database := { db with
    work := db.work.modify workId (releaseRow now errorCode retryMillis permanentlyFailed) }
  if permanentlyFailed then
    if work.row.workKind = "DISCOVERY" then
      return (.permanentlyFailed,
        recordTerminalDiscoveryFailure clamp now released work errorCode)
    else return (.permanentlyFailed, released)
  else return (.retryScheduled, released)

def maxRetentionBatchSize : Nat := 10000

structure RetentionPolicy where
  terminalHistoryBeforeUnixMs : Int
  projectionEventsBeforeUnixMs : Int
  batchSize : Nat
deriving DecidableEq, Repr

structure RetentionPruneResult where
  terminalObservations : Nat
  projectionEvents : Nat
deriving DecidableEq, Repr

/-- All work of the observation has ended before the bound. -/
def hasTerminalWork (db : Database) (before : Int) (observationId : Int) : Bool :=
  db.work.any (fun _ work => work.observationId = observationId) &&
    !db.work.any fun _ work => work.observationId = observationId &&
      (work.status ≠ .complete && work.status ≠ .failed || !work.finishedAt.any (· < before))

/-- An active window has the observation as a member. -/
def isActiveMember (db : Database) (observationId : Int) : Bool :=
  db.memberships.any fun member => member.observationId = observationId &&
    (db.windows.lookup member.windowId).any fun window => window.status = .active

/-- The oldest terminal observations outside of active windows. -/
def pruneCandidates (db : Database) (policy : RetentionPolicy) : List Int :=
  (((db.observations.entries.filter fun entry =>
    entry.2.firstSeenAt < policy.terminalHistoryBeforeUnixMs &&
      hasTerminalWork db policy.terminalHistoryBeforeUnixMs entry.1 &&
      !isActiveMember db entry.1).insertionSort fun left right =>
        left.2.firstSeenAt < right.2.firstSeenAt ∨
          left.2.firstSeenAt = right.2.firstSeenAt ∧ left.1 ≤ right.1).take
    policy.batchSize).map Sigma.fst

/-- The deletion of observations cascades to their work and memberships and clears references. -/
def deleteObservations (db : Database) (deleted : List Int) : Database :=
  { db with
    observations := db.observations.deleteWhere fun id _ => id ∈ deleted
    work := db.work.deleteWhere fun _ row => row.observationId ∈ deleted
    memberships := db.memberships.filter fun member => member.observationId ∉ deleted
    windows := db.windows.modifyAll fun _ row =>
      if row.openingObservationId.any (· ∈ deleted) then
        { row with openingObservationId := none }
      else row
    tokens := db.tokens.modifyAll fun _ row =>
      if row.sourceWorkId.any fun workId =>
          (db.work.lookup workId).any fun work => work.observationId ∈ deleted then
        { row with sourceWorkId := none }
      else row }

/-- The events are deleted in the order of their creation up to the batch size. -/
def pruneEvents (events : List ProjectionEventRow) (before : Int) (batchSize : Nat) :
    List ProjectionEventRow × Nat :=
  let indexed := events.zipIdx
  let candidates := (((indexed.filter fun entry => entry.1.createdAt < before).insertionSort
    fun left right => left.1.createdAt < right.1.createdAt ∨
      left.1.createdAt = right.1.createdAt ∧ left.2 ≤ right.2).take batchSize).map Prod.snd
  ((indexed.filter fun entry => entry.2 ∉ candidates).map Prod.fst, candidates.length)

/-- One bounded batch of the observations and of the projection events is pruned. The quarantine rows,
the third class of raw history, are a table of their own that no operation of this database reads. -/
def pruneRetainedHistory (db : Database) (policy : RetentionPolicy) :
    Except PersistenceError (RetentionPruneResult × Database) := do
  require (policy.batchSize ≠ 0) (.mustBePositive "retention batch_size")
  require (policy.batchSize ≤ maxRetentionBatchSize)
    (.limitTooLarge "retention batch_size" maxRetentionBatchSize)
  let deleted := pruneCandidates db policy
  let events := pruneEvents db.projectionEvents policy.projectionEventsBeforeUnixMs
    policy.batchSize
  return ({ terminalObservations := deleted.length, projectionEvents := events.2 },
    { deleteObservations db deleted with projectionEvents := events.1 })

end Soldisco.Persistence
