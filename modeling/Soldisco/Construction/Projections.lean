import Soldisco.Construction.Persistence.Discovery
import Soldisco.Library.OrderedMap
import Soldisco.Library.Transition

/-
This file embeds the projection of the discovery tokens in memory, its snapshots and their restoring.
-/

namespace Soldisco.Projections
open Domain MachineInteger Persistence Std

inductive ProjectionError where
  | emptyField (field : String)
  | invalidUnsignedDecimal (field : String)
  | invalidTradeTotals
  | invalidUniqueTraderTotal
  | invalidObservationTimes
  | sourceVenueMismatch (sourceProgram : SourceProgram) (venue : Venue)
  | observeRequiresObservedStage
  | qualifyRequiresQualifiedStage
  | approveRequiresApprovedStage
  | candidateNotObserved (mint : String)
  | candidateNotQualified (mint : String)
  | approvalMarketMismatch (mint : String)
  | approvedCounterMismatch
  | qualifiedCounterMismatch
  | truncatedSnapshot
  | tokenHiddenBySnapshotMode
  | emptyRejectionReason
  | emptyRejectionSummary
  | duplicateMint (mint : String)
  | duplicateRejectionReason (reasonCode : String)
deriving DecidableEq, Repr

structure DiscoveryCounters where
  observed : Nat
  pending : Nat
  qualified : Nat
  qualificationPending : Nat
  qualificationRejected : Nat
  qualificationUnknown : Nat
  processingFailures : Nat
  approved : Nat
  rejected : Nat
  flowPerMinute : Option Nat
deriving DecidableEq, Repr

def DiscoveryCounters.default : DiscoveryCounters := ⟨0, 0, 0, 0, 0, 0, 0, 0, 0, none⟩

structure RejectionSummary where
  reasonCode : String
  count : Nat
  lastSeenUnixMs : Int
deriving DecidableEq, Repr

structure DiscoverySnapshot where
  sequence : Nat
  mode : DiscoveryMode
  tokens : List DiscoveryToken
  tokensTotal : Nat
  tokensTruncated : Bool
  counters : DiscoveryCounters
  rejectionReasons : List RejectionSummary

structure DiscoveryProjection where
  sequence : Nat
  mode : DiscoveryMode
  counters : DiscoveryCounters
  tokens : ExtTreeMap String DiscoveryToken
  rejectionReasons : ExtTreeMap String RejectionSummary

/-- An unsigned 64-bit counter stops at the largest value. -/
def increment (counter : Nat) : Nat :=
  if counter + 1 < u64Size then counter + 1 else u64Size - 1

/-- An unsigned 64-bit counter stops at zero. -/
def decrement (counter : Nat) : Nat := counter - 1

def tokenIsVisible (mode : DiscoveryMode) (stage : DiscoveryStage) : Bool := isVisible mode stage

def validateNonEmpty (value field : String) : Except ProjectionError Unit :=
  if Text.isBlank value then .error (.emptyField field) else .ok ()

def validateOptionalNonEmpty (value : Option String) (field : String) :
    Except ProjectionError Unit :=
  if value.any Text.isBlank then .error (.emptyField field) else .ok ()

def validateUnsignedDecimal (value field : String) : Except ProjectionError Unit :=
  if value.toList.isEmpty || !value.toList.all (fun digit => '0' ≤ digit && digit ≤ '9') then
    .error (.invalidUnsignedDecimal field)
  else .ok ()

def sourceMatchesVenue (sourceProgram : SourceProgram) (venue : Venue) : Bool :=
  Persistence.sourceMatchesVenue sourceProgram venue

def sameMarket (existing incoming : DiscoveryToken) : Bool :=
  Persistence.sameMarket existing incoming

def validateToken (token : DiscoveryToken) : Except ProjectionError Unit := do
  validateNonEmpty token.mint "mint"
  validateNonEmpty token.marketAddress "market_address"
  validateNonEmpty token.lastEventKind "last_event_kind"
  validateNonEmpty token.latestSignature "latest_signature"
  validateOptionalNonEmpty token.name "name"
  validateOptionalNonEmpty token.symbol "symbol"
  validateOptionalNonEmpty token.quoteMint "quote_mint"
  validateUnsignedDecimal token.activity.baseVolumeUnits "activity.base_volume_units"
  validateUnsignedDecimal token.activity.quoteVolumeUnits "activity.quote_volume_units"
  if checkedAdd u64Size token.activity.buys token.activity.sells ≠ some token.activity.trades then
    throw .invalidTradeTotals
  if token.activity.uniqueTraders > token.activity.trades then throw .invalidUniqueTraderTotal
  if token.firstObservedUnixMs > token.lastObservedUnixMs then throw .invalidObservationTimes
  if sourceMatchesVenue token.sourceProgram token.primaryVenue = false then
    throw (.sourceVenueMismatch token.sourceProgram token.primaryVenue)

def isApproved (token : DiscoveryToken) : Bool := token.stage = .approved

def isQualified (token : DiscoveryToken) : Bool := token.stage.isQualified

namespace DiscoveryProjection

def default : DiscoveryProjection where
  sequence := 0
  mode := .observeAll
  counters := .default
  tokens := ∅
  rejectionReasons := ∅

def advance (projection : DiscoveryProjection) : DiscoveryProjection :=
  { projection with sequence := increment projection.sequence }

def markPending (projection : DiscoveryProjection) : DiscoveryProjection :=
  { projection with counters := { projection.counters with
      pending := increment projection.counters.pending } }.advance

/-- An observation of the same market keeps the decision, the qualification and the scores. -/
def retainDecision (existing token : DiscoveryToken) : DiscoveryToken :=
  if sameMarket existing token then
    { token with
      stage := if isApproved existing then .approved
        else if isQualified existing then .qualified else token.stage
      qualification := token.qualification <|> existing.qualification
      riskScore := token.riskScore <|> existing.riskScore
      opportunityScore := token.opportunityScore <|> existing.opportunityScore }
  else token

/-- A decision that the new token does not have leaves its counters. -/
def dropDecision (counters : DiscoveryCounters) (existing token : DiscoveryToken) :
    DiscoveryCounters :=
  { counters with
    approved := if isApproved existing && !isApproved token then decrement counters.approved
      else counters.approved
    qualified := if isQualified existing && !isQualified token then decrement counters.qualified
      else counters.qualified }

def observe (projection : DiscoveryProjection) (token : DiscoveryToken) :
    Except ProjectionError DiscoveryProjection := do
  validateToken token
  if token.stage ≠ .observed then throw .observeRequiresObservedStage
  let counters := { projection.counters with pending := decrement projection.counters.pending }
  match projection.tokens[token.mint]? with
  | some existing =>
      if existing.observedSlot > token.observedSlot then
        return { projection with counters }.advance
      else
        let retained := retainDecision existing token
        return { projection with
          counters := dropDecision counters existing retained
          tokens := projection.tokens.insert token.mint retained }.advance
  | none =>
      return { projection with
        counters := { counters with observed := increment counters.observed }
        tokens := projection.tokens.insert token.mint token }.advance

def qualify (projection : DiscoveryProjection) (token : DiscoveryToken) :
    Except ProjectionError DiscoveryProjection := do
  validateToken token
  if token.stage ≠ .qualified then throw .qualifyRequiresQualifiedStage
  match projection.tokens[token.mint]? with
  | none => throw (.candidateNotObserved token.mint)
  | some existing =>
      if sameMarket existing token = false then throw (.approvalMarketMismatch token.mint)
      return { projection with
        counters := { projection.counters with
          qualified := if isQualified existing then projection.counters.qualified
            else increment projection.counters.qualified }
        tokens := projection.tokens.insert token.mint token }.advance

/-- An approval without a qualification keeps the stored one. -/
def retainQualification (existing token : DiscoveryToken) : DiscoveryToken :=
  { token with qualification := token.qualification <|> existing.qualification }

def approve (projection : DiscoveryProjection) (token : DiscoveryToken) :
    Except ProjectionError DiscoveryProjection := do
  validateToken token
  if token.stage ≠ .approved then throw .approveRequiresApprovedStage
  match projection.tokens[token.mint]? with
  | none => throw (.candidateNotObserved token.mint)
  | some existing =>
      if sameMarket existing token = false then throw (.approvalMarketMismatch token.mint)
      if isQualified existing = false then throw (.candidateNotQualified token.mint)
      return { projection with
        counters := { projection.counters with
          pending := decrement projection.counters.pending
          approved := if isApproved existing then projection.counters.approved
            else increment projection.counters.approved
          qualified := if isQualified existing then projection.counters.qualified
            else increment projection.counters.qualified }
        tokens := projection.tokens.insert token.mint
          (retainQualification existing token) }.advance

/-- The summary of a reason counts the rejection and keeps the latest time. -/
def countRejection (projection : DiscoveryProjection) (reasonCode : String) (seenAtUnixMs : Int) :
    ExtTreeMap String RejectionSummary :=
  let summary := projection.rejectionReasons[reasonCode]?.getD
    { reasonCode, count := 0, lastSeenUnixMs := seenAtUnixMs }
  projection.rejectionReasons.insert reasonCode { summary with
    count := increment summary.count
    lastSeenUnixMs := max summary.lastSeenUnixMs seenAtUnixMs }

def reject (projection : DiscoveryProjection) (mint reasonCode : String) (seenAtUnixMs : Int) :
    Except ProjectionError DiscoveryProjection := do
  if Text.isBlank reasonCode then throw .emptyRejectionReason
  let counters := { projection.counters with
    pending := decrement projection.counters.pending
    rejected := increment projection.counters.rejected }
  let rejectionReasons := projection.countRejection reasonCode seenAtUnixMs
  match projection.tokens[mint]? with
  | some token =>
      return { projection with
        counters := { counters with
          approved := if isApproved token then decrement counters.approved else counters.approved
          qualified := if isQualified token then decrement counters.qualified
            else counters.qualified }
        tokens := projection.tokens.erase mint
        rejectionReasons }.advance
  | none => return { projection with counters, rejectionReasons }.advance

def setMode (projection : DiscoveryProjection) (mode : DiscoveryMode) : DiscoveryProjection :=
  if projection.mode ≠ mode then { projection with mode }.advance else projection

def setFlowPerMinute (projection : DiscoveryProjection) (flowPerMinute : Option Nat) :
    DiscoveryProjection :=
  if projection.counters.flowPerMinute ≠ flowPerMinute then
    { projection with counters := { projection.counters with flowPerMinute } }.advance
  else projection

/-- The snapshot lists the visible tokens in the order of their mints. -/
def snapshot (projection : DiscoveryProjection) : DiscoverySnapshot :=
  let tokens := (OrderedMap.values projection.tokens).filter fun token =>
    tokenIsVisible projection.mode token.stage
  { sequence := projection.sequence
    mode := projection.mode
    tokens
    tokensTotal := if tokens.length < u64Size then tokens.length else u64Size - 1
    tokensTruncated := false
    counters := projection.counters
    rejectionReasons := OrderedMap.values projection.rejectionReasons }

/-- The tokens that are read so far and their counts. -/
structure RestoredTokens where
  tokens : ExtTreeMap String DiscoveryToken
  approvedCount : Nat
  qualifiedCount : Nat

def restoreToken (mode : DiscoveryMode) (restored : RestoredTokens) (token : DiscoveryToken) :
    Except ProjectionError RestoredTokens := do
  validateToken token
  if tokenIsVisible mode token.stage = false then throw .tokenHiddenBySnapshotMode
  if token.mint ∈ restored.tokens then throw (.duplicateMint token.mint)
  return {
    tokens := restored.tokens.insert token.mint token
    approvedCount := if isApproved token then increment restored.approvedCount
      else restored.approvedCount
    qualifiedCount := if isQualified token then increment restored.qualifiedCount
      else restored.qualifiedCount }

def restoreRejection (rejectionReasons : ExtTreeMap String RejectionSummary)
    (summary : RejectionSummary) : Except ProjectionError (ExtTreeMap String RejectionSummary) := do
  if Text.isBlank summary.reasonCode then throw .emptyRejectionReason
  if summary.count = 0 then throw .emptyRejectionSummary
  if summary.reasonCode ∈ rejectionReasons then
    throw (.duplicateRejectionReason summary.reasonCode)
  return rejectionReasons.insert summary.reasonCode summary

def tryFromSnapshot (snapshot : DiscoverySnapshot) :
    Except ProjectionError DiscoveryProjection := do
  if snapshot.tokensTruncated then throw .truncatedSnapshot
  let restored ← snapshot.tokens.foldlM (restoreToken snapshot.mode) ⟨∅, 0, 0⟩
  if restored.approvedCount ≠ snapshot.counters.approved then throw .approvedCounterMismatch
  if snapshot.mode ≠ .approvedOnly ∧ restored.qualifiedCount ≠ snapshot.counters.qualified then
    throw .qualifiedCounterMismatch
  let rejectionReasons ← snapshot.rejectionReasons.foldlM restoreRejection ∅
  return {
    sequence := snapshot.sequence
    mode := snapshot.mode
    counters := snapshot.counters
    tokens := restored.tokens
    rejectionReasons }

end DiscoveryProjection

inductive ProjectionAction where
  | observe (token : DiscoveryToken)
  | qualify (token : DiscoveryToken)
  | approve (token : DiscoveryToken)
  | reject (mint reasonCode : String) (seenAtUnixMs : Int)
  | markPending
  | setMode (mode : DiscoveryMode)
  | setFlowPerMinute (flowPerMinute : Option Nat)

namespace DiscoveryProjection

def call (projection : DiscoveryProjection) :
    ProjectionAction → Except ProjectionError DiscoveryProjection
  | .observe token => projection.observe token
  | .qualify token => projection.qualify token
  | .approve token => projection.approve token
  | .reject mint reasonCode seenAtUnixMs => projection.reject mint reasonCode seenAtUnixMs
  | .markPending => .ok projection.markPending
  | .setMode mode => .ok (projection.setMode mode)
  | .setFlowPerMinute flowPerMinute => .ok (projection.setFlowPerMinute flowPerMinute)

/-- A rejected call leaves the projection as it is. -/
def step (projection : DiscoveryProjection) (action : ProjectionAction) :
    Except ProjectionError Unit × DiscoveryProjection :=
  match projection.call action with
  | .ok next => (.ok (), next)
  | .error error => (.error error, projection)

end DiscoveryProjection
end Soldisco.Projections
