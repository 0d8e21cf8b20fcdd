import Soldisco.Construction.Persistence.Windows

/-
This file embeds the projection of discovery tokens: observations, approvals, rejections and repair.
-/

namespace Soldisco.Persistence
open Domain MachineInteger

structure DiscoveryObservation where
  token : DiscoveryToken
  validationSource : String
  validationVersion : String
deriving DecidableEq, Repr

structure DiscoveryRejection where
  mint : String
  reasonCode : String
  seenAtUnixMs : Int
  decisionSource : String
  decisionVersion : String
deriving DecidableEq, Repr

/-- The activity rows are keyed by the exact market of the observation. -/
def activityKey (observation : Observation) : ActivityKey where
  network := observation.key.network
  sourceProgram := observation.key.program
  venue := observation.market.venue
  marketAddress := observation.market.marketAddress
  mint := observation.market.mint
  quoteMint := quoteMintColumn observation.market

def emptyActivity : ActivityRow where
  trades := 0
  buys := 0
  sells := 0
  baseVolumeUnits := 0
  quoteVolumeUnits := 0

def addTrade (side : TradeSide) (baseAmountUnits quoteAmountUnits : Nat) (row : ActivityRow) :
    ActivityRow where
  trades := row.trades + 1
  buys := row.buys + (match side with | .buy => 1 | .sell => 0)
  sells := row.sells + (match side with | .buy => 0 | .sell => 1)
  baseVolumeUnits := row.baseVolumeUnits + baseAmountUnits
  quoteVolumeUnits := row.quoteVolumeUnits + quoteAmountUnits

/-- The counts are 64-bit columns and the volumes have at most 39 digits. -/
def ActivityRow.fits (row : ActivityRow) : Bool :=
  (row.trades : Int) ≤ i64Max && row.baseVolumeUnits < 10 ^ 39 && row.quoteVolumeUnits < 10 ^ 39

namespace Database

/-- The row of a market is inserted once. -/
def ensureActivity (db : Database) (key : ActivityKey) : Database :=
  { db with activity := match db.activity.lookup key with
      | some _ => db.activity
      | none => db.activity.insert key emptyActivity }

/-- A trade enters the activity of its market and its wallet enters the traders once. -/
def recordTrade (db : Database) (key : ActivityKey) (side : TradeSide) (wallet : String)
    (baseAmountUnits quoteAmountUnits : Nat) : Database :=
  { db with
    traders := if (key, wallet) ∈ db.traders then db.traders else db.traders ++ [(key, wallet)]
    activity := db.activity.modify key (addTrade side baseAmountUnits quoteAmountUnits) }

/-- Only a trade changes the activity. -/
def recordPayload (db : Database) (key : ActivityKey) :
    ObservationPayload → Except PersistenceError Database
  | .trade side wallet baseAmountUnits quoteAmountUnits _ _ => do
      requireNonEmpty wallet "trade wallet"
      let recorded := db.recordTrade key side wallet baseAmountUnits.toNat quoteAmountUnits.toNat
      require ((recorded.activity.lookup key).all ActivityRow.fits = true) .database
      return recorded
  | _ => .ok db

end Database

def applyObservationActivity (db : Database) (observation : Observation) :
    Except PersistenceError (DiscoveryActivity × Database) := do
  let key := activityKey observation
  db.enforceBoundNetwork key.network
  require (isTrimmedEmpty key.marketAddress = false ∧ isTrimmedEmpty key.mint = false) .database
  require ((db.tokens.lookup key.mint).isSome) .database
  let recorded ← (db.ensureActivity key).recordPayload key observation.payload
  match recorded.activity.lookup key with
  | none => .error .database
  | some row => return ({
      trades := row.trades
      buys := row.buys
      sells := row.sells
      uniqueTraders := recorded.traders.countP fun trader => trader.1 = key
      baseVolumeUnits := toString row.baseVolumeUnits
      quoteVolumeUnits := toString row.quoteVolumeUnits }, recorded)

/-- The decision about a candidate: its mutation, the token to store and the lost stages. -/
structure ProjectedToken where
  mutation : DiscoveryProjectionMutation
  token : DiscoveryToken
  isNew : Bool
  approvalRemoved : Bool
  qualificationRemoved : Bool

def projectToken (existing : Option TokenRow) (candidate : DiscoveryToken)
    (observation : Observation) : Except PersistenceError ProjectedToken :=
  match existing with
  | none => .ok {
      mutation := .inserted
      token := candidate
      isNew := true
      approvalRemoved := false
      qualificationRemoved := false }
  | some row => do
      validateStoredStage row.stage row.token.stage
      let observedSlot ← toI64 candidate.observedSlot "observed_slot"
      if row.observedSlot > observedSlot then
        let (changed, enriched) := enrichMetadataFromStaleCreation row.token candidate observation
        return {
          mutation := if changed then .metadataEnrichedFromStaleCreation
            else .staleObservationIgnored
          token := enriched
          isNew := false
          approvalRemoved := false
          qualificationRemoved := false }
      else
        let merged := mergeObservation row.token candidate
        let approvalRemoved := row.token.stage = .approved && merged.stage ≠ .approved
        let qualificationRemoved := row.token.stage.isQualified && !merged.stage.isQualified
        return {
          mutation := if approvalRemoved || qualificationRemoved then .demotedByMarketChange
            else .updated
          token := merged
          isNew := false
          approvalRemoved
          qualificationRemoved }

/-- The row of a candidate that is inserted or replaced as a whole. -/
def discoveryTokenRow (observation : Observation) (token : DiscoveryToken) (observedSlot : Int)
    (workId : Int) (validationSource validationVersion : String) : TokenRow where
  stage := token.stage
  network := observation.key.network
  sourceProgram := token.sourceProgram
  venue := token.primaryVenue
  marketAddress := token.marketAddress
  quoteMint := token.quoteMint
  eventKind := token.lastEventKind
  observedSlot
  observedSignature := token.latestSignature
  instructionIndex := observation.key.coordinate.instructionIndex
  eventIndex := observation.key.coordinate.eventIndex
  decisionSource := validationSource
  decisionVersion := validationVersion
  token
  sourceWorkId := some workId

/-- A stale observation leaves the row alone except for missing metadata. -/
def storeProjectedToken (db : Database) (projected : ProjectedToken) (observation : Observation)
    (workId : Int) (candidate : DiscoveryObservation) : Except PersistenceError Database := do
  let row := fun observedSlot => discoveryTokenRow observation projected.token observedSlot workId
    candidate.validationSource candidate.validationVersion
  match projected.mutation with
  | .inserted => do
      let observedSlot ← toI64 projected.token.observedSlot "observed_slot"
      db.enforceBoundNetwork observation.key.network
      require (db.tokens.lookup projected.token.mint = none) .database
      return { db with tokens := db.tokens.insert projected.token.mint (row observedSlot) }
  | .updated | .demotedByMarketChange => do
      let observedSlot ← toI64 projected.token.observedSlot "observed_slot"
      db.enforceBoundNetwork observation.key.network
      return { db with tokens := db.tokens.modify projected.token.mint fun _ => row observedSlot }
  | .metadataEnrichedFromStaleCreation =>
      return { db with tokens := db.tokens.modify projected.token.mint fun row =>
        { row with token := projected.token } }
  | .staleObservationIgnored | .promoted | .alreadyApproved => return db

/-- The activity of the current market is stored with its token. -/
def storeActivity (db : Database) (token : DiscoveryToken) (observation : Observation)
    (activity : DiscoveryActivity) : Database :=
  if tokenMatchesObservationMarket token observation then
    { db with tokens := db.tokens.modify token.mint fun row =>
        { row with token := { token with activity } } }
  else db

/-- Discovery work is completed by recording its candidate. -/
def commitDiscoveryObservation (clamp : Int → Int) (now : Int) (db : Database) (workId : Int)
    (workerId : String) (candidate : DiscoveryObservation) :
    Except PersistenceError (DiscoveryProjectionMutation × Database) := do
  requireNonEmpty workerId "worker_id"
  requireNonEmpty candidate.validationSource "validation_source"
  requireNonEmpty candidate.validationVersion "validation_version"
  validateTokenShape candidate.token
  require (candidate.token.stage = .observed) .observationMustBeUnapproved
  let work ← lockOwnedWork now db workId workerId
  ensureDiscoveryWork work.row.workKind workId
  validateTokenSource candidate.token work.observation
  let projected ← projectToken (db.tokens.lookup candidate.token.mint) candidate.token
    work.observation
  let stored ← storeProjectedToken db projected work.observation workId candidate
  let (activity, active) ← applyObservationActivity stored work.observation
  let tracked := storeActivity active projected.token work.observation activity
  let counted := tracked.updateProjection fun counters =>
    { counters with
      observed := counters.observed + boolToInt projected.isNew
      queuedFacts := clamp (counters.queuedFacts - 1)
      approved := clamp (counters.approved - boolToInt projected.approvalRemoved)
      qualified := clamp (counters.qualified - boolToInt projected.qualificationRemoved) }
  return (projected.mutation,
    (markWorkComplete now counted workId).appendProjectionEvent now fun sequence =>
      .tokenObserved sequence workId candidate.token.mint (mutationName projected.mutation))

/-- An approval promotes a qualified candidate to the submitted token. -/
def commitDiscoveryApproval (now : Int) (db : Database) (token : DiscoveryToken)
    (decisionSource decisionVersion : String) :
    Except PersistenceError (DiscoveryProjectionMutation × Database) := do
  requireNonEmpty decisionSource "decision_source"
  requireNonEmpty decisionVersion "decision_version"
  require (token.stage = .approved) .approvalMustBeExplicit
  require (isCompletePass token.qualification) (.candidateNotQualified token.mint)
  validateTokenShape token
  match db.tokens.lookup token.mint with
  | none => .error (.candidateNotObserved token.mint)
  | some row => do
      validateStoredStage row.stage row.token.stage
      require (row.token.stage.isQualified ∧ isCompletePass row.token.qualification)
        (.candidateNotQualified token.mint)
      validatePromotionIdentity row.token token
      let wasApproved := decide (row.token.stage = .approved)
      let promoted := mergeApproval row.token token
      let observedSlot ← toI64 promoted.observedSlot "observed_slot"
      let updated : Database := { db with tokens := db.tokens.modify promoted.mint fun row =>
        { row with
          stage := .approved
          observedSlot
          observedSignature := promoted.latestSignature
          eventKind := promoted.lastEventKind
          decisionSource
          decisionVersion
          token := promoted } }
      let counted := updated.updateProjection fun counters =>
        { counters with approved := counters.approved + boolToInt !wasApproved }
      let mutation : DiscoveryProjectionMutation :=
        if wasApproved then .alreadyApproved else .promoted
      return (mutation, counted.appendProjectionEvent now fun sequence =>
        .tokenApproved sequence promoted.mint (mutationName mutation) decisionSource
          decisionVersion)

/-- Discovery work is completed by a rejection without a candidate. -/
def commitDiscoveryRejection (clamp : Int → Int) (now : Int) (db : Database) (workId : Int)
    (workerId : String) (rejection : DiscoveryRejection) :
    Except PersistenceError (Unit × Database) := do
  requireNonEmpty workerId "worker_id"
  requireNonEmpty rejection.mint "rejection mint"
  requireNonEmpty rejection.reasonCode "reason_code"
  requireNonEmpty rejection.decisionSource "decision_source"
  requireNonEmpty rejection.decisionVersion "decision_version"
  let work ← lockOwnedWork now db workId workerId
  ensureDiscoveryWork work.row.workKind workId
  require (rejection.mint = work.observation.market.mint) (.discoverySourceMismatch "mint")
  let counted := db.updateProjection fun counters =>
    { counters with
      queuedFacts := clamp (counters.queuedFacts - 1)
      processingFailures := counters.processingFailures + 1 }
  let summarized : Database := { counted with
    processingFailureSummaries := upsertSummary counted.processingFailureSummaries
      rejection.reasonCode rejection.seenAtUnixMs }
  return ((), (markWorkComplete now summarized workId).appendProjectionEvent now fun sequence =>
    .tokenRejected sequence workId rejection.mint rejection.reasonCode rejection.decisionSource
      rejection.decisionVersion)

/-- Discovery work that is not done yet. -/
def isQueuedFact (row : WorkRow) : Bool :=
  row.workKind = "DISCOVERY" && (row.status = .pending || row.status = .processing)

/-- The values that the tables give for the counters. -/
def countTables (db : Database) : ProjectionCounters where
  observed := db.tokens.count fun _ => true
  approved := db.tokens.count fun row => row.stage = .approved
  queuedFacts := db.work.count isQueuedFact
  qualified := db.tokens.count fun row => row.stage = .qualified || row.stage = .approved
  qualificationPending := db.windows.count fun row => row.status = .active
  qualificationRejected := db.assessments.count fun row => row.decision = .reject
  qualificationUnknown := db.assessments.count fun row => row.decision = .unknown
  processingFailures := db.processingFailureSummaries.total SummaryRow.count

/-- The counters are repaired from the durable tables. -/
def rebuildDiscoveryProjection (now : Int) (db : Database) :
    Except PersistenceError (Nat × Database) := do
  let rebuilt := db.updateProjection fun _ => countTables db
  let sequence ← toU64 rebuilt.projection.sequence "discovery_projection_state.sequence"
  return (sequence, rebuilt.appendProjectionEvent now .rebuilt)

inductive DiscoveryMode where
  | observeAll
  | qualifiedOnly
  | approvedOnly
deriving DecidableEq, Repr

def maxDiscoverySnapshotLimit : Nat := 5000

/-- The stages that a mode shows. -/
def isVisible : DiscoveryMode → DiscoveryStage → Bool
  | .observeAll, _ => true
  | .qualifiedOnly, stage => stage.isQualified
  | .approvedOnly, stage => stage = .approved

/-- A stored candidate is checked again when it is read. -/
def readDiscoveryToken (mode : DiscoveryMode) (token : DiscoveryToken) :
    Except PersistenceError DiscoveryToken := do
  validateTokenShape token
  require (isVisible mode token.stage)
    (.invalidStoredValue "discovery_tokens.stage" (discoveryStageName token.stage))
  return token

/-- The newest visible candidates; one row that cannot be read fails the whole snapshot. -/
def loadDiscoveryTokens (db : Database) (mode : DiscoveryMode) (limit : Nat) :
    Except PersistenceError (List DiscoveryToken) := do
  require (limit ≠ 0) (.mustBePositive "discovery snapshot limit")
  require (limit ≤ maxDiscoverySnapshotLimit)
    (.limitTooLarge "discovery snapshot limit" maxDiscoverySnapshotLimit)
  let rows := ((db.tokens.entries.filter fun entry => isVisible mode entry.2.stage).insertionSort
    fun left right => right.2.observedSlot < left.2.observedSlot ∨
      left.2.observedSlot = right.2.observedSlot ∧ left.1 ≤ right.1).take limit
  rows.mapM fun entry => readDiscoveryToken mode entry.2.token

end Soldisco.Persistence
