import Soldisco.Construction.Persistence.Work

/-
This file embeds the durable discovery windows: opening, membership and finalization.
-/

namespace Soldisco.Persistence
open Domain MachineInteger

structure NewDiscoveryWindow where
  targetKind : WindowTargetKind
  targetAddress : String
  openedAtUnixMs : Int
  closesAtUnixMs : Int
  collectorRunId : String
  prefilterRevision : Nat
  prefilterValues : PrefilterDefaults
  qualification : StoredQualificationDefaults
deriving DecidableEq, Repr

structure OpenedDiscoveryWindow where
  windowId : Int
  observationInserted : Bool
  windowCreated : Bool
  replayed : Bool
deriving DecidableEq, Repr

inductive DiscoveryWindowProjectionReadiness where
  | pending
  | ready
  | openingProjectionUnavailable
deriving DecidableEq, Repr

/-- The stored part of a finalization that a repeated request is compared with. -/
structure StoredFinalizationRow where
  featureVersion : String
  observationCount : Int
  snapshot : Value
  decision : AssessmentDecision
  assessment : Value
  summary : DiscoveryWindowSummary
  completeness : Option WindowCompleteness
  completenessReason : Option String
deriving DecidableEq, Repr

/-- The quote mint column of a market. -/
def quoteMintColumn (market : MarketIdentity) : String := market.quoteMint.getD ""

/-- Only the creation of the target opens a window. -/
def targetMatches (observation : Observation) (window : NewDiscoveryWindow) : Bool :=
  match observation.key.program, observation.market.venue, window.targetKind with
  | .pump, .pumpBondingCurve, .pumpMint =>
      observation.eventKind = "CREATE" && window.targetAddress = observation.market.mint
  | .pumpSwap, .pumpSwap, .pumpSwapPool =>
      observation.eventKind = "CREATE_POOL" &&
        window.targetAddress = observation.market.marketAddress
  | _, _, _ => false

def validateNewWindow (observation : Observation) (window : NewDiscoveryWindow) :
    Except PersistenceError Unit := do
  require (window.openedAtUnixMs < window.closesAtUnixMs) .invalidDiscoveryWindowBounds
  requireNonEmpty window.targetAddress "window target_address"
  requireNonEmpty window.collectorRunId "collector_run_id"
  require (targetMatches observation window)
    (.discoveryWindowObservationMismatch 0 "opening target")
  require (observation.receivedTimeUnixMs = window.openedAtUnixMs)
    (.discoveryWindowObservationMismatch 0 "opened_at_unix_ms")

def validateExistingWindow (existing : WindowIdentityRow) (observation : Observation)
    (window : NewDiscoveryWindow) : Except PersistenceError Unit :=
  require (existing.network = observation.key.network ∧
      existing.sourceProgram = observation.key.program ∧
      existing.venue = observation.market.venue ∧
      existing.marketAddress = observation.market.marketAddress ∧
      existing.mint = observation.market.mint ∧
      existing.quoteMint = quoteMintColumn observation.market ∧
      existing.targetKind = window.targetKind ∧ existing.targetAddress = window.targetAddress)
    (.discoveryWindowIdentityConflict existing.id)

def validateWindowMembership (window : WindowIdentityRow) (observation : Observation) :
    Except PersistenceError Unit := do
  require (window.status = .active) (.discoveryWindowNotActive window.id)
  requireMatches (.discoveryWindowObservationMismatch window.id) [
    (window.network = observation.key.network, "network"),
    (window.sourceProgram = observation.key.program, "source_program"),
    (window.venue = observation.market.venue, "venue"),
    (window.marketAddress = observation.market.marketAddress, "market_address"),
    (window.mint = observation.market.mint, "mint"),
    (window.quoteMint = quoteMintColumn observation.market, "quote_mint"),
    (window.openedAtUnixMs ≤ observation.receivedTimeUnixMs &&
      observation.receivedTimeUnixMs < window.closesAtUnixMs, "received_time_unix_ms")]

namespace Database

/-- The unique opening of a window is its event and its target. -/
def findWindowByOpening (db : Database) (observation : Observation) (targetKind : WindowTargetKind)
    (targetAddress : String) : Option (Int × WindowRow) :=
  db.windows.find fun window =>
    window.network = observation.key.network && window.sourceProgram = observation.key.program &&
      window.openingSignature = observation.key.coordinate.signature &&
      window.openingInstructionIndex = observation.key.coordinate.instructionIndex &&
      window.openingEventIndex = observation.key.coordinate.eventIndex &&
      window.targetKind = targetKind && window.targetAddress = targetAddress

/-- A repeated membership keeps the earlier admission. -/
def insertMembership (db : Database) (windowId observationId admittedAtUnixMs : Int) : Database :=
  if db.memberships.any fun member =>
      member.windowId = windowId && member.observationId = observationId then
    { db with memberships := db.memberships.map fun member =>
        if member.windowId = windowId ∧ member.observationId = observationId then
          { member with admittedAtUnixMs := min member.admittedAtUnixMs admittedAtUnixMs }
        else member }
  else { db with memberships := db.memberships ++ [{ windowId, observationId, admittedAtUnixMs }] }

/-- The number of memberships of a window. -/
def countMemberships (db : Database) (windowId : Int) : Nat :=
  db.memberships.countP fun member => member.windowId = windowId

end Database

def newWindowRow (id observationId prefilterRevision qualificationRevision : Int)
    (observation : Observation) (window : NewDiscoveryWindow) : WindowRow where
  id
  network := observation.key.network
  sourceProgram := observation.key.program
  venue := observation.market.venue
  marketAddress := observation.market.marketAddress
  mint := observation.market.mint
  quoteMint := quoteMintColumn observation.market
  targetKind := window.targetKind
  targetAddress := window.targetAddress
  openedAtUnixMs := window.openedAtUnixMs
  closesAtUnixMs := window.closesAtUnixMs
  collectorRunId := window.collectorRunId
  prefilterRevision
  prefilterValues := window.prefilterValues
  qualificationRevision
  qualificationValues := window.qualification.values
  status := .active
  openingObservationId := some observationId
  openingSignature := observation.key.coordinate.signature
  openingInstructionIndex := observation.key.coordinate.instructionIndex
  openingEventIndex := observation.key.coordinate.eventIndex
  completeness := none
  completenessReason := none
  finalizedAtUnixMs := none

/-- The constraints of the window table that the earlier checks do not imply. -/
def checkWindowRow (db : Database) (row : WindowRow) : Except PersistenceError Unit := do
  db.enforceBoundNetwork row.network
  require (isTrimmedEmpty row.openingSignature = false ∧
    isTrimmedEmpty row.marketAddress = false ∧ isTrimmedEmpty row.mint = false ∧
    0 < row.prefilterRevision) .database

/-- The creation, its window and its membership are committed together. -/
def openDiscoveryWindow (isBase64 : String → Bool) (now : Int) (db : Database)
    (observation : Observation) (window : NewDiscoveryWindow) :
    Except PersistenceError (OpenedDiscoveryWindow × Database) := do
  validateNewWindow observation window
  let (inserted, stored) ← insertChainObservation isBase64 now db observation
  let queued ← enqueueInserted now stored observation inserted
  let prefilterRevision ← toI64 window.prefilterRevision "prefilter_revision"
  let qualificationRevision ← toI64 window.qualification.revision "qualification_revision"
  let row := newWindowRow queued.nextWindowId inserted.id prefilterRevision qualificationRevision
    observation window
  checkWindowRow queued row
  match queued.findWindowByOpening observation window.targetKind window.targetAddress with
  | some (id, existing) => do
      validateExistingWindow existing.toWindowIdentityRow observation window
      -- The transaction of a replay is rolled back.
      return ({ windowId := id, observationInserted := false, windowCreated := false,
                replayed := true }, db)
  | none => do
      require (queued.opensWindow inserted.id = false) .database
      require (qualificationRevision ∈ queued.qualificationRevisions) .database
      let windows ← insertRow queued.windows queued.nextWindowId row
      let created : Database := { queued with windows, nextWindowId := queued.nextWindowId + 1 }
      let joined := created.insertMembership row.id inserted.id observation.receivedTimeUnixMs
      let counted := joined.updateProjection fun counters =>
        { counters with qualificationPending := counters.qualificationPending + 1 }
      return ({ windowId := row.id, observationInserted := inserted.isNew, windowCreated := true,
                replayed := false },
        counted.appendProjectionEvent now fun sequence =>
          .windowOpened sequence row.id observation.market.mint window.qualification.revision)

/-- The receipt of the stored fact decides its membership. -/
def insertWindowObservation (isBase64 : String → Bool) (now : Int) (db : Database)
    (windowId : Int) (observation : Observation) : Except PersistenceError (Bool × Database) :=
  match db.windows.lookup windowId with
  | none => .error (.discoveryWindowNotActive windowId)
  | some window => do
      let (inserted, stored) ← insertChainObservation isBase64 now db observation
      if inserted.isNew = false ∧ stored.memberships.any (fun member =>
          member.windowId = windowId && member.observationId = inserted.id) then
        return (false, stored)
      else
        match stored.observations.lookup inserted.id with
        | none => .error .database
        | some row => do
            let admitted := if inserted.isNew then observation else row.normalized
            validateWindowMembership window.toWindowIdentityRow admitted
            let queued ← enqueueInserted now stored observation inserted
            return (inserted.isNew,
              queued.insertMembership windowId inserted.id admitted.receivedTimeUnixMs)

def windowObservationOrder (left right : Observation) : Ordering :=
  (compare left.receivedTimeUnixMs right.receivedTimeUnixMs).then <|
  (compare left.key.coordinate.slot right.key.coordinate.slot).then <|
  (compare left.key.coordinate.signature right.key.coordinate.signature).then <|
  (compare left.key.coordinate.instructionIndex right.key.coordinate.instructionIndex).then <|
  compare left.key.coordinate.eventIndex right.key.coordinate.eventIndex

def loadWindowObservations (db : Database) (windowId : Int) : List Observation :=
  (((db.memberships.filter fun member => member.windowId = windowId).filterMap fun member =>
    (db.observations.lookup member.observationId).map ObservationRow.normalized).insertionSort
      fun left right => windowObservationOrder left right ≠ .gt)

def loadDiscoveryWindow (db : Database) (windowId : Int) :
    Except PersistenceError DiscoveryWindowRecord :=
  match db.windows.lookup windowId with
  | some window => window.intoRecord (loadWindowObservations db windowId)
  | none => .error .database

/-- Pending work of a member is recoverable; a missing opening projection is not. -/
def projectionReadiness (db : Database) (windowId : Int) (window : WindowRow) :
    DiscoveryWindowProjectionReadiness :=
  let projectionWorkPending := db.memberships.any fun member =>
    member.windowId = windowId && db.work.any fun _ work =>
      work.observationId = member.observationId && work.workKind = "DISCOVERY" &&
        (work.status = .pending || work.status = .processing)
  let openingComplete := db.work.any fun _ work =>
    window.openingObservationId = some work.observationId && work.workKind = "DISCOVERY" &&
      work.status = .complete
  if projectionWorkPending then .pending
  else if openingComplete && (db.tokens.lookup window.mint).isSome then .ready
  else .openingProjectionUnavailable

def loadDiscoveryWindowProjectionReadiness (db : Database) (windowId : Int) :
    Except PersistenceError DiscoveryWindowProjectionReadiness :=
  match db.windows.lookup windowId with
  | some window => .ok (projectionReadiness db windowId window)
  | none => .error (.discoveryWindowNotActive windowId)

/-- The active windows of the selected collector runs in the order of their close. -/
def activeWindowIds (db : Database) (selects : String → Bool) : List Int :=
  let active := db.windows.entries.filter fun entry =>
    entry.2.status = .active && selects entry.2.collectorRunId
  (active.insertionSort fun left right =>
    left.2.closesAtUnixMs < right.2.closesAtUnixMs ∨
      left.2.closesAtUnixMs = right.2.closesAtUnixMs ∧ left.1 ≤ right.1).map Sigma.fst

/-- Without a collector run the active windows of all runs are loaded. -/
def loadActiveDiscoveryWindowIds (db : Database) (collectorRunId : Option String) :
    Except PersistenceError (List Int) :=
  .ok (activeWindowIds db fun owner => collectorRunId.all (owner = ·))

/-- An interrupted window is still active but belongs to another collector run. -/
def loadInterruptedDiscoveryWindowIds (db : Database) (currentCollectorRunId : String) :
    Except PersistenceError (List Int) := do
  requireNonEmpty currentCollectorRunId "current_collector_run_id"
  return activeWindowIds db (· ≠ currentCollectorRunId)

def processingFailedReason : String := "PROCESSING_FAILED"

def storedFinalization (db : Database) (windowId : Int) : Option StoredFinalizationRow := do
  let window ← db.windows.lookup windowId
  let snapshot ← db.snapshots.lookup windowId
  let assessment ← db.assessments.lookup windowId
  return {
    featureVersion := snapshot.featureVersion
    observationCount := snapshot.observationCount
    snapshot := snapshot.snapshot
    decision := assessment.decision
    assessment := assessment.assessment
    summary := assessment.summary
    completeness := window.completeness
    completenessReason := window.completenessReason }

/-- The evaluation time of the summary and the rule results are not compared. -/
def finalizationMatches (stored : StoredFinalizationRow) (finalized : FinalizeDiscoveryWindow) :
    Bool :=
  stored.featureVersion = finalized.featureVersion &&
    stored.observationCount =
      (if (finalized.observationCount : Int) ≤ i64Max then (finalized.observationCount : Int)
        else i64Min) &&
    stored.snapshot = finalized.snapshot && stored.decision = finalized.decision &&
    stored.assessment = finalized.assessment &&
    { stored.summary with evaluatedUnixMs := 0 } =
      { finalized.summary with evaluatedUnixMs := 0 } &&
    stored.completeness = some finalized.completeness &&
    stored.completenessReason = finalized.completenessReason

def validateProjectionMatchesWindow (token : DiscoveryToken) (window : WindowIdentityRow) :
    Except PersistenceError Unit :=
  require (token.mint = window.mint ∧ token.sourceProgram = window.sourceProgram ∧
      token.primaryVenue = window.venue ∧ token.marketAddress = window.marketAddress ∧
      token.quoteMint.getD "" = window.quoteMint)
    (.discoveryWindowIdentityConflict window.id)

/-- A window of the mint that opened later, or at the same time under a greater identifier. -/
def newerWindowExists (db : Database) (window : WindowIdentityRow) : Bool :=
  db.windows.any fun id newer => newer.mint = window.mint && id ≠ window.id &&
    (newer.openedAtUnixMs > window.openedAtUnixMs ||
      newer.openedAtUnixMs = window.openedAtUnixMs && id > window.id)

/-- The candidate was last projected from a member of the window. -/
def belongsToWindow (db : Database) (windowId : Int) (row : TokenRow) : Bool :=
  row.sourceWorkId.any fun workId => (db.work.lookup workId).any fun work =>
    db.memberships.any fun member =>
      member.windowId = windowId && member.observationId = work.observationId

/-- The token after the decision of its window. -/
def qualifyToken (finalized : FinalizeDiscoveryWindow) (baseVolumeUnits quoteVolumeUnits : String)
    (token : DiscoveryToken) : DiscoveryToken :=
  { token with
    stage := if finalized.decision = .pass then
        (if token.stage = .approved then .approved else .qualified)
      else .observed
    qualification := some finalized.summary
    activity := {
      trades := finalized.summary.trades
      buys := finalized.summary.buys
      sells := finalized.summary.sells
      uniqueTraders := finalized.summary.uniqueTraders
      baseVolumeUnits
      quoteVolumeUnits } }

def boolToInt (flag : Bool) : Int := if flag then 1 else 0

/-- The candidate takes the decision; the result is the change of the two stage counters. -/
def applyToProjection (db : Database) (window : WindowIdentityRow)
    (finalized : FinalizeDiscoveryWindow) (row : TokenRow) :
    Except PersistenceError ((Int × Int) × Database) := do
  validateProjectionMatchesWindow row.token window
  let nowQualified := decide (finalized.decision = .pass)
  let baseVolumeUnits ← checkedDecimalSum finalized.summary.buyBaseVolumeUnits
    finalized.summary.sellBaseVolumeUnits "qualification base volume"
  let quoteVolumeUnits ← checkedDecimalSum finalized.summary.buyQuoteVolumeUnits
    finalized.summary.sellQuoteVolumeUnits "qualification quote volume"
  let token := qualifyToken finalized baseVolumeUnits quoteVolumeUnits row.token
  return ((boolToInt nowQualified - boolToInt row.token.stage.isQualified,
      boolToInt (row.token.stage = .approved && !nowQualified)),
    { db with tokens := db.tokens.modify token.mint fun row =>
      { row with
        stage := token.stage
        decisionSource := "WINDOW_QUALIFICATION"
        decisionVersion := toString window.qualificationRevision
        token } })

/-- The window row after its finalization. -/
def finalizeRow (finalized : FinalizeDiscoveryWindow) (row : WindowRow) : WindowRow :=
  { row with
    status := .finalized
    completeness := some finalized.completeness
    completenessReason := finalized.completenessReason
    finalizedAtUnixMs := some finalized.finalizedAtUnixMs }

/-- Each reason of a rejection or of an unknown decision is counted. -/
def summarizeDecision (db : Database) (finalized : FinalizeDiscoveryWindow) : Database :=
  let reasons := (decisionReasons finalized.rules finalized.decision).toList
  match finalized.decision with
  | .reject => { db with rejectionSummaries := reasons.foldl (fun table reason =>
      upsertSummary table reason finalized.finalizedAtUnixMs) db.rejectionSummaries }
  | .unknown => { db with unknownSummaries := reasons.foldl (fun table reason =>
      upsertSummary table reason finalized.finalizedAtUnixMs) db.unknownSummaries }
  | .pass => db

/-- The evidence of an active window is frozen once it equals the canonical rebuild. -/
def freezeEvidence (db : Database) (window : WindowRow) (finalized : FinalizeDiscoveryWindow) :
    Except PersistenceError Database := do
  let readiness := projectionReadiness db finalized.windowId window
  require (readiness ≠ .pending) (.discoveryWindowProjectionMissing finalized.windowId)
  require (readiness = .openingProjectionUnavailable →
      finalized.completenessReason = some processingFailedReason)
    (.discoveryWindowFinalizationEvidenceMismatch finalized.windowId)
  let observationCount ← toI64 finalized.observationCount "window observation_count"
  require ((db.countMemberships finalized.windowId : Int) = observationCount)
    (.discoveryWindowEvidenceChanged finalized.windowId)
  let canonicalWindow ← window.intoRecord (loadWindowObservations db finalized.windowId)
  let canonical ← buildDiscoveryWindowFinalization canonicalWindow finalized.finalizedAtUnixMs
    finalized.completenessReason
  require (canonical = finalized)
    (.discoveryWindowFinalizationEvidenceMismatch finalized.windowId)
  let snapshots ← insertRow db.snapshots finalized.windowId {
    featureVersion := finalized.featureVersion
    observationCount
    snapshot := finalized.snapshot }
  let assessments ← insertRow db.assessments finalized.windowId {
    rulesetRevision := window.qualificationRevision
    decision := finalized.decision
    assessment := finalized.assessment
    summary := finalized.summary
    ruleResults := finalized.rules }
  let _ ← finalized.rules.mapM fun result =>
    toI64 (result.observedSlot.getD 0) "qualification observed_slot"
  return { db with snapshots, assessments }

/-- The candidate of the mint, when the window is its latest source. -/
def currentProjection (db : Database) (windowId : Int) (window : WindowIdentityRow) :
    Option TokenRow :=
  (db.tokens.lookup window.mint).filter fun row =>
    belongsToWindow db windowId row && !newerWindowExists db window

/-- Without a current candidate the decision changes no stage. -/
def projectDecision (db : Database) (window : WindowIdentityRow)
    (finalized : FinalizeDiscoveryWindow) :
    Option TokenRow → Except PersistenceError ((Int × Int) × Database)
  | some row => applyToProjection db window finalized row
  | none => .ok ((0, 0), db)

/-- The decision of a window with frozen evidence reaches the candidate, the window row, the
counters and the summaries. -/
def publishDecision (clamp : Int → Int) (now : Int) (db : Database) (window : WindowRow)
    (finalized : FinalizeDiscoveryWindow) : Except PersistenceError Database := do
  let current := currentProjection db finalized.windowId window.toWindowIdentityRow
  let ((qualifiedDelta, approvalRemoved), applied) ←
    projectDecision db window.toWindowIdentityRow finalized current
  let finished : Database := { applied with
    windows := applied.windows.modify finalized.windowId (finalizeRow finalized) }
  let counted := finished.updateProjection fun counters =>
    { counters with
      qualificationPending := clamp (counters.qualificationPending - 1)
      qualified := clamp (counters.qualified + qualifiedDelta)
      qualificationRejected :=
        counters.qualificationRejected + boolToInt (finalized.decision = .reject)
      qualificationUnknown :=
        counters.qualificationUnknown + boolToInt (finalized.decision = .unknown)
      approved := clamp (counters.approved - approvalRemoved) }
  return (summarizeDecision counted finalized).appendProjectionEvent now fun sequence =>
    .windowFinalized sequence finalized.windowId window.mint finalized.decision
      window.qualificationRevision current.isSome

/-- A finalized window only confirms the payload that it stores. -/
def finalizeDiscoveryWindow (clamp : Int → Int) (now : Int) (db : Database)
    (finalized : FinalizeDiscoveryWindow) : Except PersistenceError (Bool × Database) := do
  validateFinalization finalized
  match db.windows.lookup finalized.windowId with
  | none => .error (.discoveryWindowNotActive finalized.windowId)
  | some window => do
      validateFinalizationForWindow window.toWindowIdentityRow finalized
      if window.status = .finalized then
        if (storedFinalization db finalized.windowId).any fun stored =>
            finalizationMatches stored finalized then
          return (false, db)
        else .error (.discoveryWindowFinalizationConflict finalized.windowId)
      else
        let frozen ← freezeEvidence db window finalized
        let published ← publishDecision clamp now frozen window finalized
        return (true, published)

end Soldisco.Persistence
