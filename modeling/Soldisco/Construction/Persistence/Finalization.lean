import Soldisco.Construction.Persistence.Values

/-
This file embeds the canonical finalization of a durable window and its two validators.
-/

namespace Soldisco.Persistence
open Domain MachineInteger Snapshot Qualification

def marketWindowFeatureVersion : String := "market-window-features-v1"

inductive WindowTargetKind where
  | pumpMint
  | pumpSwapPool
deriving DecidableEq, Repr

inductive WindowStatus where
  | active
  | finalized
deriving DecidableEq, Repr

inductive QualificationDecision where
  | pass
  | reject
  | unknown
deriving DecidableEq, Repr

inductive WindowCompleteness where
  | complete
  | incomplete
deriving DecidableEq, Repr

/-- The exact quantities are decimal texts. -/
structure DiscoveryWindowSummary where
  windowRevision : Nat
  rulesetRevision : Nat
  openedUnixMs : Int
  closedUnixMs : Int
  evaluatedUnixMs : Int
  decision : QualificationDecision
  completeness : WindowCompleteness
  reasonCodes : List String
  trades : Nat
  buys : Nat
  sells : Nat
  uniqueTraders : Nat
  uniqueBuyers : Nat
  uniqueSellers : Nat
  buyBaseVolumeUnits : String
  sellBaseVolumeUnits : String
  buyQuoteVolumeUnits : String
  sellQuoteVolumeUnits : String
  maximumSingleWalletQuoteShareBps : Option Nat
  priceChangeBps : Option Int
  firstBaseReserveUnits : Option String
  firstQuoteReserveUnits : Option String
  latestBaseReserveUnits : Option String
  latestQuoteReserveUnits : Option String
deriving DecidableEq, Repr

structure DiscoveryWindowRecord where
  windowId : Int
  market : MarketIdentity
  sourceProgram : SourceProgram
  openedAtUnixMs : Int
  closesAtUnixMs : Int
  collectorRunId : String
  prefilterRevision : Nat
  prefilterValues : PrefilterDefaults
  qualificationRevision : Nat
  qualificationValues : QualificationDefaults
  observations : List Observation

/-- A serialized snapshot lists the entries of its wallet map in order. -/
structure SnapshotValue where
  market : MarketIdentity
  openedAtUnixMs : Int
  closesAtUnixMs : Int
  completeness : SnapshotCompleteness
  observationKeys : List ObservationKey
  tradeSamples : List TradeSample
  liquiditySamples : List LiquiditySample
  observations : Nat
  trades : Nat
  buys : Nat
  sells : Nat
  buyBaseUnits : Nat
  sellBaseUnits : Nat
  buyQuoteUnits : Nat
  sellQuoteUnits : Nat
  uniqueTraders : Nat
  uniqueBuyers : Nat
  uniqueSellers : Nat
  wallets : List (String × WalletMetrics)
  largestWalletQuoteVolume : Option WalletVolumeShare
  creatorQuoteVolume : Option CreatorVolumeShare
  firstTradeReceivedAtUnixMs : Option Int
  lastTradeReceivedAtUnixMs : Option Int
  firstTradeSlot : Option Nat
  lastTradeSlot : Option Nat
  reserves : Option ReserveSummary
  prices : Option PriceSummary
  completionObserved : Bool
  migrationObserved : Bool
  completionObservationKeys : List ObservationKey
  migrationObservationKeys : List ObservationKey
  latestObservedSlot : Option Nat
deriving DecidableEq, Repr

/-- A document column is a serialized snapshot, a serialized assessment or another document. -/
inductive Value where
  | snapshot (value : SnapshotValue)
  | assessment (value : QualificationAssessment)
  | other (text : String)
deriving DecidableEq, Repr

def snapshotToValue (snapshot : MarketWindowSnapshot) : Value :=
  .snapshot {
    market := snapshot.market
    openedAtUnixMs := snapshot.openedAtUnixMs
    closesAtUnixMs := snapshot.closesAtUnixMs
    completeness := snapshot.completeness
    observationKeys := snapshot.observationKeys
    tradeSamples := snapshot.tradeSamples
    liquiditySamples := snapshot.liquiditySamples
    observations := snapshot.metrics.observations
    trades := snapshot.metrics.trades
    buys := snapshot.metrics.buys
    sells := snapshot.metrics.sells
    buyBaseUnits := snapshot.metrics.buyBaseUnits
    sellBaseUnits := snapshot.metrics.sellBaseUnits
    buyQuoteUnits := snapshot.metrics.buyQuoteUnits
    sellQuoteUnits := snapshot.metrics.sellQuoteUnits
    uniqueTraders := snapshot.metrics.uniqueTraders
    uniqueBuyers := snapshot.metrics.uniqueBuyers
    uniqueSellers := snapshot.metrics.uniqueSellers
    wallets := snapshot.metrics.wallets.toList
    largestWalletQuoteVolume := snapshot.metrics.largestWalletQuoteVolume
    creatorQuoteVolume := snapshot.metrics.creatorQuoteVolume
    firstTradeReceivedAtUnixMs := snapshot.metrics.firstTradeReceivedAtUnixMs
    lastTradeReceivedAtUnixMs := snapshot.metrics.lastTradeReceivedAtUnixMs
    firstTradeSlot := snapshot.metrics.firstTradeSlot
    lastTradeSlot := snapshot.metrics.lastTradeSlot
    reserves := snapshot.reserves
    prices := snapshot.prices
    completionObserved := snapshot.completionObserved
    migrationObserved := snapshot.migrationObserved
    completionObservationKeys := snapshot.completionObservationKeys
    migrationObservationKeys := snapshot.migrationObservationKeys
    latestObservedSlot := snapshot.latestObservedSlot }

structure FinalizeDiscoveryWindow where
  windowId : Int
  finalizedAtUnixMs : Int
  completeness : WindowCompleteness
  completenessReason : Option String
  featureVersion : String
  snapshot : Value
  observationCount : Nat
  decision : AssessmentDecision
  assessment : Value
  rules : List RuleResult
  summary : DiscoveryWindowSummary
deriving DecidableEq, Repr

/-- The market columns store an absent quote mint as the empty text. -/
structure WindowIdentityRow where
  id : Int
  network : Network
  sourceProgram : SourceProgram
  venue : Venue
  marketAddress : String
  mint : String
  quoteMint : String
  targetKind : WindowTargetKind
  targetAddress : String
  openedAtUnixMs : Int
  closesAtUnixMs : Int
  collectorRunId : String
  prefilterRevision : Int
  prefilterValues : PrefilterDefaults
  qualificationRevision : Int
  qualificationValues : QualificationDefaults
  status : WindowStatus
deriving DecidableEq, Repr

namespace WindowIdentityRow

def market (row : WindowIdentityRow) : MarketIdentity where
  network := row.network
  mint := row.mint
  venue := row.venue
  marketAddress := row.marketAddress
  quoteMint := if row.quoteMint.isEmpty then none else some row.quoteMint

def intoRecord (row : WindowIdentityRow) (observations : List Observation) :
    Except PersistenceError DiscoveryWindowRecord := do
  row.prefilterValues.validate.mapError .invalidPrefilterDefaults
  row.qualificationValues.validate.mapError .invalidQualificationDefaults
  let prefilterRevision ← toU64 row.prefilterRevision "prefilter_revision"
  let qualificationRevision ← toU64 row.qualificationRevision "qualification_revision"
  return {
    windowId := row.id
    market := row.market
    sourceProgram := row.sourceProgram
    openedAtUnixMs := row.openedAtUnixMs
    closesAtUnixMs := row.closesAtUnixMs
    collectorRunId := row.collectorRunId
    prefilterRevision
    prefilterValues := row.prefilterValues
    qualificationRevision
    qualificationValues := row.qualificationValues
    observations }

end WindowIdentityRow

def qualificationPolicy (window : DiscoveryWindowRecord) : QualificationPolicy where
  rulesetVersion := "qualification-revision-" ++ toString window.qualificationRevision
  minimumTrades := window.qualificationValues.minimumTrades
  minimumUniqueTraders := window.qualificationValues.minimumUniqueTraders
  minimumBuys := window.qualificationValues.minimumBuys
  minimumSells := window.qualificationValues.minimumSells
  minimumNativeQuoteVolumeUnits := window.qualificationValues.minimumNativeQuoteVolumeUnits
  minimumStableQuoteVolumeUnits := window.qualificationValues.minimumStableQuoteVolumeUnits
  maximumSingleWalletQuoteVolumeBps := window.qualificationValues.maximumSingleWalletQuoteShareBps

def qualificationDecision : AssessmentDecision → QualificationDecision
  | .pass => .pass
  | .reject => .reject
  | .unknown => .unknown

def windowCompleteness (snapshot : MarketWindowSnapshot) : WindowCompleteness :=
  if snapshot.completeness.isComplete then .complete else .incomplete

/-- The ordered set of the reasons that stand behind a decision. -/
def decisionReasons (rules : List RuleResult) (decision : AssessmentDecision) :
    Std.TreeSet String :=
  .ofList ((rules.filter fun result => result.decision = decision).map RuleResult.reasonCode)

def canonicalDiscoverySummary (window : DiscoveryWindowRecord) (snapshot : MarketWindowSnapshot)
    (assessment : QualificationAssessment) (evaluatedUnixMs : Int) :
    Except PersistenceError DiscoveryWindowSummary :=
  if window.windowId < 0 then .error (.valueOutOfRange "window id")
  else .ok {
    windowRevision := window.windowId.toNat
    rulesetRevision := window.qualificationRevision
    openedUnixMs := window.openedAtUnixMs
    closedUnixMs := window.closesAtUnixMs
    evaluatedUnixMs
    decision := qualificationDecision assessment.decision
    completeness := windowCompleteness snapshot
    reasonCodes := (decisionReasons assessment.rules assessment.decision).toList
    trades := snapshot.metrics.trades
    buys := snapshot.metrics.buys
    sells := snapshot.metrics.sells
    uniqueTraders := snapshot.metrics.uniqueTraders
    uniqueBuyers := snapshot.metrics.uniqueBuyers
    uniqueSellers := snapshot.metrics.uniqueSellers
    buyBaseVolumeUnits := toString snapshot.metrics.buyBaseUnits
    sellBaseVolumeUnits := toString snapshot.metrics.sellBaseUnits
    buyQuoteVolumeUnits := toString snapshot.metrics.buyQuoteUnits
    sellQuoteVolumeUnits := toString snapshot.metrics.sellQuoteUnits
    maximumSingleWalletQuoteShareBps :=
      snapshot.metrics.largestWalletQuoteVolume.map WalletVolumeShare.shareBps
    priceChangeBps := (snapshot.prices.bind PriceSummary.changeBps).bind checkedI64
    firstBaseReserveUnits :=
      (snapshot.reserves.bind fun reserves => reserves.first.baseUnits).map toString
    firstQuoteReserveUnits :=
      (snapshot.reserves.bind fun reserves => reserves.first.quoteUnits).map toString
    latestBaseReserveUnits :=
      (snapshot.reserves.bind fun reserves => reserves.latest.baseUnits).map toString
    latestQuoteReserveUnits :=
      (snapshot.reserves.bind fun reserves => reserves.latest.quoteUnits).map toString }

/-- The one canonical payload of a window at a time and with an optional reason. -/
def buildDiscoveryWindowFinalization (window : DiscoveryWindowRecord) (finalizedAtUnixMs : Int)
    (incompleteReason : Option String) : Except PersistenceError FinalizeDiscoveryWindow := do
  let requestedCompleteness : SnapshotCompleteness := match incompleteReason with
    | some reasonCode => .incomplete reasonCode
    | none => .complete
  let snapshot ← (buildMarketWindowSnapshot window.market window.openedAtUnixMs
    window.closesAtUnixMs requestedCompleteness
    (window.observations.map Observation.toNormalizedObservation)).mapError
      .invalidDiscoveryWindowSnapshot
  let assessment ← (evaluateQualification snapshot (qualificationPolicy window)).mapError
    .invalidQualificationPolicy
  let summary ← canonicalDiscoverySummary window snapshot assessment finalizedAtUnixMs
  return {
    windowId := window.windowId
    finalizedAtUnixMs
    completeness := windowCompleteness snapshot
    completenessReason := snapshot.completeness.reasonCode
    featureVersion := marketWindowFeatureVersion
    snapshot := snapshotToValue snapshot
    observationCount := snapshot.metrics.observations
    decision := assessment.decision
    assessment := .assessment assessment
    rules := assessment.rules
    summary }

def checkedDecimalSum (left right field : String) : Except PersistenceError String :=
  match Text.parseUnsigned u128Size left, Text.parseUnsigned u128Size right with
  | some left, some right =>
      match MachineInteger.checkedAdd u128Size left right with
      | some sum => .ok (toString sum)
      | none => .error (.valueOutOfRange field)
  | _, _ => .error (.invalidUnsignedDecimal field)

/-- The payload repeats the identity of its window and counts consistently. -/
def validateFinalizationForWindow (window : WindowIdentityRow)
    (finalized : FinalizeDiscoveryWindow) : Except PersistenceError Unit := do
  let summary := finalized.summary
  let expectedWindowRevision ←
    if window.id < 0 then .error (.valueOutOfRange "window id") else .ok window.id.toNat
  let expectedRulesetRevision ← toU64 window.qualificationRevision "qualification_revision"
  if summary.windowRevision ≠ expectedWindowRevision ∨
      summary.rulesetRevision ≠ expectedRulesetRevision ∨
      summary.openedUnixMs ≠ window.openedAtUnixMs ∨
      summary.closedUnixMs ≠ window.closesAtUnixMs ∨
      summary.evaluatedUnixMs ≠ finalized.finalizedAtUnixMs ∨
      summary.completeness ≠ finalized.completeness then
    throw (.discoveryWindowIdentityConflict window.id)
  let expectedReasons := decisionReasons finalized.rules finalized.decision
  let submittedReasons := Std.TreeSet.ofList summary.reasonCodes
  if expectedReasons.toList ≠ submittedReasons.toList ∨
      submittedReasons.size ≠ summary.reasonCodes.length ∨
      MachineInteger.checkedAdd u64Size summary.buys summary.sells ≠ some summary.trades ∨
      summary.uniqueTraders > summary.trades ∨
      summary.uniqueBuyers > summary.buys ∨
      summary.uniqueSellers > summary.sells ∨
      summary.maximumSingleWalletQuoteShareBps.any (· > 10000) then
    throw .screeningDecisionMismatch
  let _ ← checkedDecimalSum summary.buyBaseVolumeUnits summary.sellBaseVolumeUnits
    "qualification base volume"
  let _ ← checkedDecimalSum summary.buyQuoteVolumeUnits summary.sellQuoteVolumeUnits
    "qualification quote volume"

/-- One pass of the loop over the rules remembers the identifiers that it has seen. -/
def validateRule (ruleIds : List String) (result : RuleResult) :
    Except PersistenceError (List String) :=
  if Text.isBlank result.ruleId || Text.isBlank result.ruleVersion ||
      Text.isBlank result.reasonCode then
    .error (.emptyField "qualification rule")
  else if result.ruleId ∈ ruleIds then
    .error (.invalidStoredValue "qualification rule_id" result.ruleId)
  else .ok (result.ruleId :: ruleIds)

/-- Without any rule the decision stays unknown. -/
def aggregateDecision (rules : List RuleResult) : AssessmentDecision :=
  if rules.any fun result => result.decision = .reject then .reject
  else if rules.isEmpty || rules.any fun result => result.decision = .unknown then .unknown
  else .pass

/-- The payload is consistent in itself. -/
def validateFinalization (finalized : FinalizeDiscoveryWindow) : Except PersistenceError Unit := do
  if Text.isBlank finalized.featureVersion then throw (.emptyField "feature_version")
  if finalized.completeness = .complete ∧
      finalized.finalizedAtUnixMs < finalized.summary.closedUnixMs then
    throw (.invalidStoredValue "window finalized_at_unix_ms" (toString finalized.finalizedAtUnixMs))
  let _ ← finalized.rules.foldlM validateRule []
  if finalized.summary.decision ≠ qualificationDecision finalized.decision then
    throw .screeningDecisionMismatch
  match finalized.completeness with
  | .complete =>
      if finalized.completenessReason.isSome then
        throw (.invalidStoredValue "window completeness_reason" "present for COMPLETE")
  | .incomplete =>
      if finalized.completenessReason.all Text.isBlank then
        throw (.emptyField "window completeness_reason")
  if aggregateDecision finalized.rules ≠ finalized.decision then throw .screeningDecisionMismatch

end Soldisco.Persistence
