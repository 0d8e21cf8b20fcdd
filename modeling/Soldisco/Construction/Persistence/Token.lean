import Soldisco.Construction.Persistence.Finalization

/-
This file embeds the discovery token of one mint, its checks and its three merges.
-/

namespace Soldisco.Persistence
open Domain MachineInteger

/-- A score is a percentage. -/
structure Score where
  value : Nat
  within : value ≤ 100
deriving DecidableEq, Repr

inductive DiscoveryStage where
  | observed
  | qualified
  | approved
deriving DecidableEq, Repr

def discoveryStageName : DiscoveryStage → String
  | .observed => "OBSERVED"
  | .qualified => "QUALIFIED"
  | .approved => "APPROVED"

/-- The stages that a passed qualification has reached. -/
def DiscoveryStage.isQualified : DiscoveryStage → Bool
  | .observed => false
  | .qualified | .approved => true

structure DiscoveryActivity where
  trades : Nat
  buys : Nat
  sells : Nat
  uniqueTraders : Nat
  baseVolumeUnits : String
  quoteVolumeUnits : String
deriving DecidableEq, Repr

structure DiscoveryToken where
  mint : String
  name : Option String
  symbol : Option String
  primaryVenue : Venue
  marketAddress : String
  quoteMint : Option String
  sourceProgram : SourceProgram
  stage : DiscoveryStage
  lastEventKind : String
  observedSlot : Nat
  firstObservedUnixMs : Int
  lastObservedUnixMs : Int
  latestSignature : String
  activity : DiscoveryActivity
  qualification : Option DiscoveryWindowSummary
  riskScore : Option Score
  opportunityScore : Option Score
deriving DecidableEq, Repr

inductive DiscoveryProjectionMutation where
  | inserted
  | updated
  | demotedByMarketChange
  | staleObservationIgnored
  | metadataEnrichedFromStaleCreation
  | promoted
  | alreadyApproved
deriving DecidableEq, Repr

def mutationName : DiscoveryProjectionMutation → String
  | .inserted => "INSERTED"
  | .updated => "UPDATED"
  | .demotedByMarketChange => "DEMOTED_BY_MARKET_CHANGE"
  | .staleObservationIgnored => "STALE_OBSERVATION_IGNORED"
  | .metadataEnrichedFromStaleCreation => "METADATA_ENRICHED_FROM_STALE_CREATION"
  | .promoted => "PROMOTED"
  | .alreadyApproved => "ALREADY_APPROVED"

def ensureDiscoveryWork (actual : String) (workId : Int) : Except PersistenceError Unit :=
  if actual = "DISCOVERY" then .ok () else .error (.unexpectedWorkKind workId "DISCOVERY" actual)

def validateUnsignedDecimal (value field : String) : Except PersistenceError Unit :=
  if value.toList.isEmpty || !value.toList.all (fun digit => '0' ≤ digit && digit ≤ '9') then
    .error (.invalidUnsignedDecimal field)
  else .ok ()

/-- The first field that does not match is reported. -/
def requireMatches (mismatch : String → PersistenceError) :
    List (Bool × String) → Except PersistenceError Unit
  | [] => .ok ()
  | (true, _) :: rest => requireMatches mismatch rest
  | (false, field) :: _ => .error (mismatch field)

def sourceMatchesVenue : SourceProgram → Venue → Bool
  | .pump, .pumpBondingCurve | .pumpSwap, .pumpSwap | .raydiumCpmm, .raydiumCpmm
  | .raydiumClmm, .raydiumClmm | .raydiumAmmV4, .raydiumAmmV4 => true
  | _, _ => false

/-- A qualification counts consistently and covers a window that has opened. -/
def validateQualificationShape (qualification : DiscoveryWindowSummary) :
    Except PersistenceError Unit := do
  validateUnsignedDecimal qualification.buyBaseVolumeUnits "qualification volume"
  validateUnsignedDecimal qualification.sellBaseVolumeUnits "qualification volume"
  validateUnsignedDecimal qualification.buyQuoteVolumeUnits "qualification volume"
  validateUnsignedDecimal qualification.sellQuoteVolumeUnits "qualification volume"
  if MachineInteger.checkedAdd u64Size qualification.buys qualification.sells ≠
        some qualification.trades ∨
      qualification.uniqueTraders > qualification.trades ∨
      qualification.uniqueBuyers > qualification.buys ∨
      qualification.uniqueSellers > qualification.sells ∨
      qualification.closedUnixMs ≤ qualification.openedUnixMs ∨
      qualification.evaluatedUnixMs < qualification.openedUnixMs ∨
      qualification.maximumSingleWalletQuoteShareBps.any (· > 10000) then
    throw .invalidActivityTotals

/-- Only a complete pass qualifies. -/
def isCompletePass (qualification : Option DiscoveryWindowSummary) : Bool :=
  qualification.any fun summary => summary.decision = .pass && summary.completeness = .complete

def validateTokenShape (token : DiscoveryToken) : Except PersistenceError Unit := do
  requireNonEmpty token.mint "token mint"
  requireNonEmpty token.marketAddress "token market_address"
  requireNonEmpty token.lastEventKind "token last_event_kind"
  requireNonEmpty token.latestSignature "token latest_signature"
  if token.name.any Text.isBlank then throw (.emptyField "token name")
  if token.symbol.any Text.isBlank then throw (.emptyField "token symbol")
  if token.quoteMint.any Text.isBlank then throw (.emptyField "token quote_mint")
  validateUnsignedDecimal token.activity.baseVolumeUnits "activity.base_volume_units"
  validateUnsignedDecimal token.activity.quoteVolumeUnits "activity.quote_volume_units"
  if MachineInteger.checkedAdd u64Size token.activity.buys token.activity.sells ≠
        some token.activity.trades ∨
      token.activity.uniqueTraders > token.activity.trades ∨
      token.firstObservedUnixMs > token.lastObservedUnixMs ∨
      sourceMatchesVenue token.sourceProgram token.primaryVenue = false then
    throw .invalidActivityTotals
  match token.qualification with
  | some qualification => validateQualificationShape qualification
  | none => pure ()
  if token.stage.isQualified && !isCompletePass token.qualification then
    throw (.invalidStoredValue "token qualification" (discoveryStageName token.stage))

/-- A candidate repeats the coordinates of its source observation. -/
def validateTokenSource (token : DiscoveryToken) (observation : Observation) :
    Except PersistenceError Unit :=
  let observedAt := observation.sourceEventTimeUnixMs.getD observation.receivedTimeUnixMs
  requireMatches .discoverySourceMismatch [
    (token.mint = observation.market.mint, "mint"),
    (token.primaryVenue = observation.market.venue, "primary_venue"),
    (token.marketAddress = observation.market.marketAddress, "market_address"),
    (token.quoteMint = observation.market.quoteMint, "quote_mint"),
    (token.sourceProgram = observation.key.program, "source_program"),
    (token.lastEventKind = observation.eventKind, "event_kind"),
    (token.observedSlot = observation.key.coordinate.slot, "observed_slot"),
    (token.latestSignature = observation.key.coordinate.signature, "latest_signature"),
    (token.lastObservedUnixMs = observedAt, "last_observed_unix_ms")]

def tokenMatchesObservationMarket (token : DiscoveryToken) (observation : Observation) : Bool :=
  token.mint = observation.market.mint && token.primaryVenue = observation.market.venue &&
    token.marketAddress = observation.market.marketAddress &&
    token.quoteMint = observation.market.quoteMint && token.sourceProgram = observation.key.program

def validatePromotionIdentity (existing promoted : DiscoveryToken) :
    Except PersistenceError Unit :=
  requireMatches .discoverySourceMismatch [
    (existing.mint = promoted.mint, "mint"),
    (existing.primaryVenue = promoted.primaryVenue, "primary_venue"),
    (existing.marketAddress = promoted.marketAddress, "market_address"),
    (existing.quoteMint = promoted.quoteMint, "quote_mint"),
    (existing.sourceProgram = promoted.sourceProgram, "source_program")]

def validateStoredStage (stored tokenStage : DiscoveryStage) : Except PersistenceError Unit :=
  if stored = tokenStage then .ok ()
  else .error (.invalidStoredValue "discovery_tokens.stage"
    (discoveryStageName stored ++ "/" ++ discoveryStageName tokenStage))

def sameMarket (existing incoming : DiscoveryToken) : Bool :=
  existing.primaryVenue = incoming.primaryVenue &&
    existing.marketAddress = incoming.marketAddress && existing.quoteMint = incoming.quoteMint &&
    existing.sourceProgram = incoming.sourceProgram

/-- A newer observation keeps the decision on the same market and drops it on another one. -/
def mergeObservation (existing observed : DiscoveryToken) : DiscoveryToken :=
  let preserveDecision := existing.stage.isQualified && sameMarket existing observed
  { observed with
    firstObservedUnixMs := min observed.firstObservedUnixMs existing.firstObservedUnixMs
    lastObservedUnixMs := max observed.lastObservedUnixMs existing.lastObservedUnixMs
    name := observed.name <|> existing.name
    symbol := observed.symbol <|> existing.symbol
    stage := if preserveDecision then existing.stage else observed.stage
    qualification := if preserveDecision then existing.qualification else observed.qualification
    riskScore := if preserveDecision then observed.riskScore <|> existing.riskScore
      else observed.riskScore
    opportunityScore :=
      if preserveDecision then observed.opportunityScore <|> existing.opportunityScore
      else observed.opportunityScore }

/-- An older creation fills in a missing name and a missing symbol only. -/
def enrichMetadataFromStaleCreation (existing staleCandidate : DiscoveryToken)
    (observation : Observation) : Bool × DiscoveryToken :=
  match observation.payload with
  | .tokenCreated _ _ _ _ _ =>
      let changed := existing.name.isNone && staleCandidate.name.isSome ||
        existing.symbol.isNone && staleCandidate.symbol.isSome
      (changed, { existing with
        name := existing.name <|> staleCandidate.name
        symbol := existing.symbol <|> staleCandidate.symbol })
  | _ => (false, existing)

/-- An approval with an older slot keeps the stored facts and takes the submitted decision. -/
def mergeApproval (existing approved : DiscoveryToken) : DiscoveryToken :=
  if existing.observedSlot > approved.observedSlot then
    { existing with
      riskScore := approved.riskScore
      opportunityScore := approved.opportunityScore
      qualification := approved.qualification <|> existing.qualification
      stage := .approved }
  else
    { approved with
      firstObservedUnixMs := min approved.firstObservedUnixMs existing.firstObservedUnixMs
      name := approved.name <|> existing.name
      symbol := approved.symbol <|> existing.symbol
      qualification := approved.qualification <|> existing.qualification
      stage := .approved }

end Soldisco.Persistence
