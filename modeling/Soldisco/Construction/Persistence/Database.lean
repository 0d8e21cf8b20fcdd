import Soldisco.Construction.Persistence.Token
import Soldisco.Library.Table

/-
This file gives the tables of the database and the statements that several operations share.
A column that repeats a field of a stored document is read from the document.
-/

namespace Soldisco.Persistence
open Domain MachineInteger

/-- A statement goes on only under its condition. -/
def require (condition : Prop) [Decidable condition] (error : PersistenceError) :
    Except PersistenceError Unit :=
  if condition then .ok () else .error error

structure ObservationRow where
  normalized : Observation
  firstSeenAt : Int
deriving DecidableEq, Repr

inductive WorkStatus where
  | pending
  | processing
  | complete
  | failed
deriving DecidableEq, Repr

structure WorkRow where
  observationId : Int
  workKind : String
  status : WorkStatus
  attempts : Nat
  availableAt : Int
  claimedAt : Option Int
  finishedAt : Option Int
  lastErrorCode : Option String
  leaseOwner : Option String
  leaseExpiresAt : Option Int
deriving DecidableEq, Repr

structure WindowRow extends WindowIdentityRow where
  openingObservationId : Option Int
  openingSignature : String
  openingInstructionIndex : Nat
  openingEventIndex : Nat
  completeness : Option WindowCompleteness
  completenessReason : Option String
  finalizedAtUnixMs : Option Int
deriving DecidableEq, Repr

structure MembershipRow where
  windowId : Int
  observationId : Int
  admittedAtUnixMs : Int
deriving DecidableEq, Repr

structure WindowSnapshotRow where
  featureVersion : String
  observationCount : Int
  snapshot : Value
deriving DecidableEq, Repr

/-- The rule results of an assessment are stored with it. -/
structure AssessmentRow where
  rulesetRevision : Int
  decision : AssessmentDecision
  assessment : Value
  summary : DiscoveryWindowSummary
  ruleResults : List RuleResult
deriving DecidableEq, Repr

structure TokenRow where
  stage : DiscoveryStage
  network : Network
  sourceProgram : SourceProgram
  venue : Venue
  marketAddress : String
  quoteMint : Option String
  eventKind : String
  observedSlot : Int
  observedSignature : String
  instructionIndex : Nat
  eventIndex : Nat
  decisionSource : String
  decisionVersion : String
  token : DiscoveryToken
  sourceWorkId : Option Int
deriving DecidableEq, Repr

structure ActivityKey where
  network : Network
  sourceProgram : SourceProgram
  venue : Venue
  marketAddress : String
  mint : String
  quoteMint : String
deriving DecidableEq, Repr

structure ActivityRow where
  trades : Nat
  buys : Nat
  sells : Nat
  baseVolumeUnits : Nat
  quoteVolumeUnits : Nat
deriving DecidableEq, Repr

structure SummaryRow where
  count : Nat
  lastSeenUnixMs : Int
deriving DecidableEq, Repr

/-- The eight counters that can be rebuilt from the tables. -/
structure ProjectionCounters where
  observed : Int
  approved : Int
  queuedFacts : Int
  qualified : Int
  qualificationPending : Int
  qualificationRejected : Int
  qualificationUnknown : Int
  processingFailures : Int
deriving DecidableEq, Repr

structure ProjectionState where
  sequence : Int
  counters : ProjectionCounters
deriving DecidableEq, Repr

inductive ProjectionEvent where
  | queuedFactsChanged (sequence : Int) (mint : String) (observationId : Int)
  | windowOpened (sequence windowId : Int) (mint : String) (qualificationRevision : Nat)
  | windowFinalized (sequence windowId : Int) (mint : String) (decision : AssessmentDecision)
      (rulesetRevision : Int) (projectionApplied : Bool)
  | tokenObserved (sequence workId : Int) (mint mutation : String)
  | tokenApproved (sequence : Int) (mint mutation decisionSource decisionVersion : String)
  | tokenRejected (sequence workId : Int) (mint reasonCode decisionSource decisionVersion : String)
  | workFailed (sequence workId observationId : Int) (mint reasonCode : String)
  | rebuilt (sequence : Int)
deriving DecidableEq, Repr

structure ProjectionEventRow where
  createdAt : Int
  event : ProjectionEvent
deriving DecidableEq, Repr

/-- The tables, the projection state and the next values of the identifier sequences. -/
structure Database where
  boundNetwork : Option Network
  qualificationRevisions : List Int
  observations : Table Int ObservationRow
  work : Table Int WorkRow
  windows : Table Int WindowRow
  memberships : List MembershipRow
  snapshots : Table Int WindowSnapshotRow
  assessments : Table Int AssessmentRow
  tokens : Table String TokenRow
  activity : Table ActivityKey ActivityRow
  traders : List (ActivityKey × String)
  processingFailureSummaries : Table String SummaryRow
  rejectionSummaries : Table String SummaryRow
  unknownSummaries : Table String SummaryRow
  projection : ProjectionState
  projectionEvents : List ProjectionEventRow
  nextObservationId : Int
  nextWorkId : Int
  nextWindowId : Int

namespace Database

/-- The migrated database holds the row of the projection state only; the last migration advances
its sequence. -/
def migrated : Database where
  boundNetwork := none
  qualificationRevisions := []
  observations := ∅
  work := ∅
  windows := ∅
  memberships := []
  snapshots := ∅
  assessments := ∅
  tokens := ∅
  activity := ∅
  traders := []
  processingFailureSummaries := ∅
  rejectionSummaries := ∅
  unknownSummaries := ∅
  projection := { sequence := 1, counters := ⟨0, 0, 0, 0, 0, 0, 0, 0⟩ }
  projectionEvents := []
  nextObservationId := 1
  nextWorkId := 1
  nextWindowId := 1

/-- The trigger on the tables with a network column. -/
def enforceBoundNetwork (db : Database) (network : Network) : Except PersistenceError Unit :=
  require (db.boundNetwork = some network) .database

/-- An update of the counters advances the sequence. -/
def updateProjection (db : Database) (change : ProjectionCounters → ProjectionCounters) :
    Database :=
  { db with projection := {
      sequence := db.projection.sequence + 1
      counters := change db.projection.counters } }

def appendProjectionEvent (db : Database) (now : Int) (event : Int → ProjectionEvent) : Database :=
  { db with projectionEvents := db.projectionEvents ++
      [{ createdAt := now, event := event db.projection.sequence }] }

end Database

/-- A row gets a fresh identifier of its sequence. -/
def insertRow {Row : Type} (table : Table Int Row) (id : Int) (row : Row) :
    Except PersistenceError (Table Int Row) := do
  require (id ≤ i64Max) .database
  require (table.lookup id = none) .database
  return table.insert id row

/-- The check that a text is not made of spaces alone. -/
def isTrimmedEmpty (text : String) : Bool := text.toList.all fun character => character == ' '

/-- A summary counts its reason and keeps the latest time. -/
def upsertSummary (table : Table String SummaryRow) (reasonCode : String) (seenAtUnixMs : Int) :
    Table String SummaryRow :=
  match table.lookup reasonCode with
  | some row => table.insert reasonCode
      { count := row.count + 1, lastSeenUnixMs := max row.lastSeenUnixMs seenAtUnixMs }
  | none => table.insert reasonCode { count := 1, lastSeenUnixMs := seenAtUnixMs }

end Soldisco.Persistence
