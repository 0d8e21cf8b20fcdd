import Soldisco.Construction.Snapshot.Builder

/-
This file embeds the qualification policy and its eight rules.
-/

namespace Soldisco.Qualification
open Domain Snapshot

def nativeSolMint : String := "11111111111111111111111111111111"

def wrappedSolMint : String := "So11111111111111111111111111111111111111112"

def canonicalUsdcMint : String := "EPjFWdd5AufqSSqeM2qN1xzybapC8G4wEGGkZwyTDt1v"

def ruleVersion : String := "1"

inductive QuoteAssetClass where
  | native
  | stable
  | unsupported
deriving DecidableEq, Repr

def classifyQuoteAsset (market : MarketIdentity) : QuoteAssetClass :=
  match market.quoteMint with
  | some quoteMint =>
      if quoteMint = nativeSolMint ∨ quoteMint = wrappedSolMint then .native
      else if quoteMint = canonicalUsdcMint ∧ market.network = .solanaMainnet then .stable
      else .unsupported
  | none => .unsupported

structure QualificationPolicy where
  rulesetVersion : String
  minimumTrades : Nat
  minimumUniqueTraders : Nat
  minimumBuys : Nat
  minimumSells : Nat
  minimumNativeQuoteVolumeUnits : Nat
  minimumStableQuoteVolumeUnits : Nat
  maximumSingleWalletQuoteVolumeBps : Nat
deriving DecidableEq, Repr

inductive QualificationPolicyError where
  | missingRulesetVersion
  | invalidMaximumWalletShare (actualBps : Nat)
  | minimumUniqueTradersExceedTrades
  | minimumBuysExceedTrades
  | minimumSellsExceedTrades
  | snapshot (error : SnapshotError)
deriving DecidableEq, Repr

namespace QualificationPolicy

def default : QualificationPolicy where
  rulesetVersion := "initial-qualification-v1"
  minimumTrades := 5
  minimumUniqueTraders := 3
  minimumBuys := 1
  minimumSells := 1
  minimumNativeQuoteVolumeUnits := 50000000
  minimumStableQuoteVolumeUnits := 5000000
  maximumSingleWalletQuoteVolumeBps := 9000

def validate (policy : QualificationPolicy) : Except QualificationPolicyError Unit :=
  if Text.isBlank policy.rulesetVersion then .error .missingRulesetVersion
  else if policy.maximumSingleWalletQuoteVolumeBps > basisPointsScale then
    .error (.invalidMaximumWalletShare policy.maximumSingleWalletQuoteVolumeBps)
  else if policy.minimumUniqueTraders > policy.minimumTrades then
    .error .minimumUniqueTradersExceedTrades
  else if policy.minimumBuys > policy.minimumTrades then .error .minimumBuysExceedTrades
  else if policy.minimumSells > policy.minimumTrades then .error .minimumSellsExceedTrades
  else .ok ()

/-- The default thresholds pass their own check. -/
theorem validate_default : default.validate = .ok () := by decide

end QualificationPolicy

inductive QualificationRuleId where
  | completeWindow
  | supportedQuoteAsset
  | minimumTrades
  | minimumUniqueTraders
  | minimumBuys
  | minimumSells
  | minimumQuoteVolume
  | maximumWalletConcentration
deriving DecidableEq, Repr

def QualificationRuleId.asStr : QualificationRuleId → String
  | .completeWindow => "qualification.window-complete"
  | .supportedQuoteAsset => "qualification.supported-quote-asset"
  | .minimumTrades => "qualification.minimum-trades"
  | .minimumUniqueTraders => "qualification.minimum-unique-traders"
  | .minimumBuys => "qualification.minimum-buys"
  | .minimumSells => "qualification.minimum-sells"
  | .minimumQuoteVolume => "qualification.minimum-quote-volume"
  | .maximumWalletConcentration => "qualification.maximum-single-wallet-quote-volume"

structure QualificationAssessment where
  rulesetVersion : String
  decision : AssessmentDecision
  rules : List RuleResult
deriving DecidableEq, Repr

def allRuleIds : List QualificationRuleId :=
  [.completeWindow, .supportedQuoteAsset, .minimumTrades, .minimumUniqueTraders, .minimumBuys,
    .minimumSells, .minimumQuoteVolume, .maximumWalletConcentration]

def rule (ruleId : QualificationRuleId) (decision : AssessmentDecision) (reasonCode : String)
    (evidenceReference : Option String) (observedSlot : Option Nat) : RuleResult where
  ruleId := ruleId.asStr
  ruleVersion := ruleVersion
  decision
  reasonCode
  evidenceReference
  observedSlot

def minimumReasonCode : QualificationRuleId → Bool → String
  | .minimumTrades, true => "MINIMUM_TRADES_MET"
  | .minimumTrades, false => "TRADES_BELOW_MINIMUM"
  | .minimumUniqueTraders, true => "MINIMUM_UNIQUE_TRADERS_MET"
  | .minimumUniqueTraders, false => "UNIQUE_TRADERS_BELOW_MINIMUM"
  | .minimumBuys, true => "MINIMUM_BUYS_MET"
  | .minimumBuys, false => "BUYS_BELOW_MINIMUM"
  | .minimumSells, true => "MINIMUM_SELLS_MET"
  | .minimumSells, false => "SELLS_BELOW_MINIMUM"
  | .minimumQuoteVolume, true => "MINIMUM_QUOTE_VOLUME_MET"
  | .minimumQuoteVolume, false => "QUOTE_VOLUME_BELOW_MINIMUM"
  | _, true => "MINIMUM_MET"
  | _, false => "BELOW_MINIMUM"

/-- The unsigned 64-bit and 128-bit thresholds share one rule. -/
def minimumRule (ruleId : QualificationRuleId) (actual minimum : Nat) (observedSlot : Option Nat) :
    RuleResult :=
  let passes := decide (actual ≥ minimum)
  rule ruleId (if passes then .pass else .reject) (minimumReasonCode ruleId passes)
    (some ("actual=" ++ toString actual ++ ";minimum=" ++ toString minimum)) observedSlot

/-- A rejection outweighs an unknown result. -/
def aggregate (rules : List RuleResult) : AssessmentDecision :=
  if rules.any fun result => result.decision == .reject then .reject
  else if rules.any fun result => result.decision == .unknown then .unknown
  else .pass

def windowEvidence (snapshot : MarketWindowSnapshot) : String :=
  "market=" ++ snapshot.market.marketAddress ++
    ";opened_at_unix_ms=" ++ toString snapshot.openedAtUnixMs ++
    ";closes_at_unix_ms=" ++ toString snapshot.closesAtUnixMs ++
    ";observations=" ++ toString snapshot.metrics.observations

def quoteAssetRule (snapshot : MarketWindowSnapshot) (quoteAsset : QuoteAssetClass) : RuleResult :=
  match quoteAsset with
  | .native => rule .supportedQuoteAsset .pass "SUPPORTED_NATIVE_QUOTE_ASSET"
      snapshot.market.quoteMint snapshot.latestObservedSlot
  | .stable => rule .supportedQuoteAsset .pass "SUPPORTED_STABLE_QUOTE_ASSET"
      snapshot.market.quoteMint snapshot.latestObservedSlot
  | .unsupported => rule .supportedQuoteAsset .reject "UNSUPPORTED_QUOTE_ASSET"
      (some (snapshot.market.quoteMint.getD "NONE")) snapshot.latestObservedSlot

def quoteVolumeRule (snapshot : MarketWindowSnapshot) (policy : QualificationPolicy)
    (quoteAsset : QuoteAssetClass) (totalQuoteVolume : Nat) : RuleResult :=
  match quoteAsset with
  | .native => minimumRule .minimumQuoteVolume totalQuoteVolume
      policy.minimumNativeQuoteVolumeUnits snapshot.latestObservedSlot
  | .stable => minimumRule .minimumQuoteVolume totalQuoteVolume
      policy.minimumStableQuoteVolumeUnits snapshot.latestObservedSlot
  | .unsupported => rule .minimumQuoteVolume .unknown "QUOTE_VOLUME_THRESHOLD_UNAVAILABLE"
      (some ("observed_units=" ++ toString totalQuoteVolume)) snapshot.latestObservedSlot

def walletConcentrationRule (snapshot : MarketWindowSnapshot) (policy : QualificationPolicy)
    (totalQuoteVolume : Nat) : RuleResult :=
  match snapshot.metrics.largestWalletQuoteVolume with
  | some largest =>
      let passes := decide (largest.shareBps ≤ policy.maximumSingleWalletQuoteVolumeBps)
      rule .maximumWalletConcentration (if passes then .pass else .reject)
        (if passes then "WALLET_CONCENTRATION_WITHIN_LIMIT" else "WALLET_CONCENTRATION_EXCEEDS_LIMIT")
        (some ("wallet=" ++ largest.wallet ++ ";actual_bps=" ++ toString largest.shareBps ++
          ";maximum_bps=" ++ toString policy.maximumSingleWalletQuoteVolumeBps))
        snapshot.latestObservedSlot
  | none => rule .maximumWalletConcentration .unknown "WALLET_CONCENTRATION_UNAVAILABLE"
      (some ("observed_quote_units=" ++ toString totalQuoteVolume)) snapshot.latestObservedSlot

/-- An incomplete window leaves every rule unknown. -/
def incompleteAssessment (snapshot : MarketWindowSnapshot) (policy : QualificationPolicy) :
    QualificationAssessment :=
  let reason := snapshot.completeness.reasonCode.getD "WINDOW_INCOMPLETE"
  { rulesetVersion := policy.rulesetVersion
    decision := .unknown
    rules := allRuleIds.map fun ruleId => rule ruleId .unknown reason
      (some (windowEvidence snapshot)) snapshot.latestObservedSlot }

/-- The rules of a complete window stand in the order of their identifiers. -/
def completeRules (snapshot : MarketWindowSnapshot) (policy : QualificationPolicy)
    (totalQuoteVolume : Nat) : List RuleResult :=
  let quoteAsset := classifyQuoteAsset snapshot.market
  [rule .completeWindow .pass "WINDOW_COMPLETE" (some (windowEvidence snapshot))
      snapshot.latestObservedSlot,
    quoteAssetRule snapshot quoteAsset,
    minimumRule .minimumTrades snapshot.metrics.trades policy.minimumTrades
      snapshot.latestObservedSlot,
    minimumRule .minimumUniqueTraders snapshot.metrics.uniqueTraders policy.minimumUniqueTraders
      snapshot.latestObservedSlot,
    minimumRule .minimumBuys snapshot.metrics.buys policy.minimumBuys snapshot.latestObservedSlot,
    minimumRule .minimumSells snapshot.metrics.sells policy.minimumSells
      snapshot.latestObservedSlot,
    quoteVolumeRule snapshot policy quoteAsset totalQuoteVolume,
    walletConcentrationRule snapshot policy totalQuoteVolume]

def evaluateQualification (snapshot : MarketWindowSnapshot) (policy : QualificationPolicy) :
    Except QualificationPolicyError QualificationAssessment := do
  policy.validate
  if !snapshot.completeness.isComplete then return incompleteAssessment snapshot policy
  else
    let totalQuoteVolume ← snapshot.metrics.totalQuoteVolumeUnits.mapError .snapshot
    let rules := completeRules snapshot policy totalQuoteVolume
    return { rulesetVersion := policy.rulesetVersion, decision := aggregate rules, rules }

/-- The assessment of one market, interval and list of observations. -/
def qualifyMarketWindow (market : MarketIdentity) (openedAtUnixMs closesAtUnixMs : Int)
    (completeness : SnapshotCompleteness) (observations : List NormalizedObservation)
    (policy : QualificationPolicy) : Except QualificationPolicyError QualificationAssessment := do
  let snapshot ← (buildMarketWindowSnapshot market openedAtUnixMs closesAtUnixMs completeness
    observations).mapError .snapshot
  evaluateQualification snapshot policy

end Soldisco.Qualification
