import Soldisco.Construction.Persistence.Database

/-
This file embeds the insertion of chain observations, their replays and their discovery work.
-/

namespace Soldisco.Persistence
open Domain MachineInteger

def maxQuarantineEvidenceBase64Bytes : Nat := 16384

/-- The parameter tells which texts the decoder of standard base64 accepts. -/
def validateEvidenceBase64 (isBase64 : String → Bool) (value field : String) :
    Except PersistenceError Unit := do
  requireNonEmpty value field
  require (value.utf8ByteSize ≤ maxQuarantineEvidenceBase64Bytes)
    (.fieldTooLong field maxQuarantineEvidenceBase64Bytes)
  require (isBase64 value) (.invalidBase64 field)

/-- Delivery metadata may vary between replays; known transaction indexes must agree. -/
def compatibleReplay (stored incoming : Observation) : Bool :=
  let transactionIndexesCompatible :=
    match stored.key.coordinate.transactionIndex, incoming.key.coordinate.transactionIndex with
    | some stored, some incoming => decide (stored = incoming)
    | _, _ => true
  let canonicalIncoming := { incoming with
    receivedTimeUnixMs := stored.receivedTimeUnixMs
    commitment := stored.commitment
    key := { incoming.key with coordinate := { incoming.key.coordinate with
      transactionIndex := stored.key.coordinate.transactionIndex } } }
  transactionIndexesCompatible && canonicalIncoming = stored

/-- The durable identity leaves the slot and the transaction index out. -/
def sameIdentity (left right : ObservationKey) : Bool :=
  left.network = right.network && left.program = right.program &&
    left.coordinate.signature = right.coordinate.signature &&
    left.coordinate.instructionIndex = right.coordinate.instructionIndex &&
    left.coordinate.eventIndex = right.coordinate.eventIndex

structure ObservationInsert where
  id : Int
  isNew : Bool
deriving DecidableEq, Repr

namespace Database

def findObservation (db : Database) (key : ObservationKey) : Option (Int × ObservationRow) :=
  db.observations.find fun row => sameIdentity row.normalized.key key

/-- Some window has the observation as its opening. -/
def opensWindow (db : Database) (observationId : Int) : Bool :=
  db.windows.any fun _ window => window.openingObservationId = some observationId

def addObservation (db : Database) (now : Int) (observation : Observation) : Database :=
  { db with
    observations := db.observations.insert db.nextObservationId
      { normalized := observation, firstSeenAt := now }
    nextObservationId := db.nextObservationId + 1 }

/-- An earlier receipt rewrites the stored document and the admissions of the observation. -/
def lowerReceipt (db : Database) (observationId receivedTimeUnixMs : Int) : Database :=
  { db with
    observations := db.observations.modify observationId fun row =>
      { row with normalized := { row.normalized with receivedTimeUnixMs } }
    memberships := db.memberships.map fun member =>
      if member.observationId = observationId then
        { member with admittedAtUnixMs := min member.admittedAtUnixMs receivedTimeUnixMs }
      else member }

end Database

/-- An observation is inserted once; a compatible replay may lower its receipt. -/
def insertChainObservation (isBase64 : String → Bool) (now : Int) (db : Database)
    (observation : Observation) : Except PersistenceError (ObservationInsert × Database) := do
  require (observation.key.network = observation.market.network) .networkMismatch
  validateEvidenceBase64 isBase64 observation.sourceEvidenceBase64 "source_evidence_base64"
  let _ ← toI64 observation.key.coordinate.slot "slot"
  let _ ← toI64 (observation.key.coordinate.transactionIndex.getD 0) "transaction_index"
  db.enforceBoundNetwork observation.key.network
  require (0 < observation.schemaVersion) .database
  match db.findObservation observation.key with
  | none => do
      let _ ← insertRow db.observations db.nextObservationId
        { normalized := observation, firstSeenAt := now }
      return ({ id := db.nextObservationId, isNew := true }, db.addObservation now observation)
  | some (id, stored) => do
      require (compatibleReplay stored.normalized observation) (.observationEvidenceConflict
        observation.key.network observation.key.program observation.key.coordinate.signature
        observation.key.coordinate.instructionIndex observation.key.coordinate.eventIndex)
      if observation.receivedTimeUnixMs < stored.normalized.receivedTimeUnixMs ∧
          db.opensWindow id = false then
        return ({ id, isNew := false }, db.lowerReceipt id observation.receivedTimeUnixMs)
      else return ({ id, isNew := false }, db)

/-- The work of a new observation is queued. -/
def enqueueDiscoveryWork (now : Int) (db : Database) (observation : Observation)
    (observationId : Int) : Except PersistenceError Database := do
  require (db.work.any (fun _ work =>
    work.observationId = observationId && work.workKind = "DISCOVERY") = false) .database
  let work ← insertRow db.work db.nextWorkId {
    observationId
    workKind := "DISCOVERY"
    status := .pending
    attempts := 0
    availableAt := now
    claimedAt := none
    finishedAt := none
    lastErrorCode := none
    leaseOwner := none
    leaseExpiresAt := none }
  let queued : Database := { db with work, nextWorkId := db.nextWorkId + 1 }
  return (queued.updateProjection fun counters =>
      { counters with queuedFacts := counters.queuedFacts + 1 }).appendProjectionEvent now
    fun sequence => .queuedFactsChanged sequence observation.market.mint observationId

/-- The work of an observation is queued unless the observation is a replay. -/
def enqueueInserted (now : Int) (db : Database) (observation : Observation)
    (inserted : ObservationInsert) : Except PersistenceError Database :=
  if inserted.isNew then enqueueDiscoveryWork now db observation inserted.id else .ok db

/-- A normalized chain fact and its discovery work are inserted exactly once. -/
def insertObservation (isBase64 : String → Bool) (now : Int) (db : Database)
    (observation : Observation) : Except PersistenceError (Bool × Database) := do
  let (inserted, stored) ← insertChainObservation isBase64 now db observation
  let queued ← enqueueInserted now stored observation inserted
  return (inserted.isNew, queued)

end Soldisco.Persistence
