import Soldisco.Construction.Persistence.Finalization
import Soldisco.Library.OrderedSet
import Soldisco.Proof.Qualification
import Soldisco.Proof.Snapshot.Canonical

/-
This file proves that the canonical finalization is rebuilt from itself and passes both validators.
-/

namespace Soldisco.Persistence
open Domain MachineInteger Snapshot Qualification

theorem validateInteger_eq_ok {Error : Type} {outOfBounds : String → Nat → IntegerBounds → Error}
    {field : String} {value : Nat} {bounds : IntegerBounds} {result : Unit}
    (valid : validateInteger outOfBounds field value bounds = .ok result) :
    bounds.minimum ≤ value ∧ value ≤ bounds.maximum := by
  unfold validateInteger at valid
  split at valid
  · assumption
  · cases valid

/-- Accepted settings relate their minimums and bound the share. -/
theorem QualificationDefaults.validate_eq_ok {values : QualificationDefaults}
    (valid : values.validate = .ok ()) :
    values.maximumSingleWalletQuoteShareBps ≤ basisPointsScale ∧
      values.minimumUniqueTraders ≤ values.minimumTrades ∧
      values.minimumBuys ≤ values.minimumTrades ∧ values.minimumSells ≤ values.minimumTrades := by
  unfold QualificationDefaults.validate at valid
  obtain ⟨_, -, valid⟩ := Accumulation.bind_eq_ok.mp valid
  obtain ⟨_, -, valid⟩ := Accumulation.bind_eq_ok.mp valid
  obtain ⟨_, -, valid⟩ := Accumulation.bind_eq_ok.mp valid
  obtain ⟨_, -, valid⟩ := Accumulation.bind_eq_ok.mp valid
  obtain ⟨_, -, valid⟩ := Accumulation.bind_eq_ok.mp valid
  obtain ⟨_, -, valid⟩ := Accumulation.bind_eq_ok.mp valid
  obtain ⟨_, share, valid⟩ := Accumulation.bind_eq_ok.mp valid
  split_ifs at valid
  exact ⟨(validateInteger_eq_ok share).2, by omega, by omega, by omega⟩

/-- Accepted settings give an accepted policy. -/
theorem qualificationPolicy_valid {window : DiscoveryWindowRecord}
    (settings : window.qualificationValues.validate = .ok ()) :
    (qualificationPolicy window).validate = .ok () := by
  obtain ⟨share, traders, buys, sells⟩ := QualificationDefaults.validate_eq_ok settings
  have front : Text.isBlank "qualification-revision-" = false := by decide
  have visible := Text.isBlank_append front (toString window.qualificationRevision)
  have shareValid : ¬ (qualificationPolicy window).maximumSingleWalletQuoteVolumeBps >
      basisPointsScale := Nat.not_lt.mpr share
  have tradersValid : ¬ (qualificationPolicy window).minimumUniqueTraders >
      (qualificationPolicy window).minimumTrades := Nat.not_lt.mpr traders
  have buysValid : ¬ (qualificationPolicy window).minimumBuys >
      (qualificationPolicy window).minimumTrades := Nat.not_lt.mpr buys
  have sellsValid : ¬ (qualificationPolicy window).minimumSells >
      (qualificationPolicy window).minimumTrades := Nat.not_lt.mpr sells
  have named : ¬ Text.isBlank (qualificationPolicy window).rulesetVersion = true := by
    change ¬ Text.isBlank ("qualification-revision-" ++ toString window.qualificationRevision) = true
    rw [visible]
    exact Bool.false_ne_true
  rw [QualificationPolicy.validate, if_neg named, if_neg shareValid, if_neg tradersValid,
    if_neg buysValid, if_neg sellsValid]

/-- The rules of an assessment are well formed and decide as the validator aggregates them. -/
structure RulesCanonical (assessment : QualificationAssessment) : Prop where
  ruleIds : assessment.rules.map RuleResult.ruleId = allRuleIds.map QualificationRuleId.asStr
  versions : ∀ result ∈ assessment.rules, result.ruleVersion = ruleVersion
  reasons : ∀ result ∈ assessment.rules, Text.isBlank result.reasonCode = false
  decision : aggregateDecision assessment.rules = assessment.decision

theorem incompleteAssessment_canonical {snapshot : MarketWindowSnapshot}
    (policy : QualificationPolicy) {reasonCode : String}
    (carried : snapshot.completeness.reasonCode = some reasonCode)
    (visible : Text.isBlank reasonCode = false) :
    RulesCanonical (incompleteAssessment snapshot policy) where
  ruleIds := rfl
  versions := by
    intro result member
    obtain ⟨ruleId, -, rfl⟩ := List.mem_map.mp member
    rfl
  reasons := by
    intro result member
    obtain ⟨ruleId, -, rfl⟩ := List.mem_map.mp member
    change Text.isBlank (snapshot.completeness.reasonCode.getD "WINDOW_INCOMPLETE") = false
    rw [carried]
    exact visible
  decision := rfl

theorem aggregateDecision_of_ne_nil {rules : List RuleResult} (present : rules ≠ []) :
    aggregateDecision rules = aggregate rules := by
  cases rules with
  | nil => exact absurd rfl present
  | cons result rest =>
      unfold aggregateDecision aggregate
      simp only [List.isEmpty_cons, Bool.false_or, beq_eq_decide]

theorem minimumReasonCode_visible (ruleId : QualificationRuleId) (passes : Bool) :
    Text.isBlank (minimumReasonCode ruleId passes) = false := by
  cases ruleId <;> cases passes <;> decide

/-- A rule carries its identifier, the version of the rules and a visible reason. -/
structure RuleCanonical (ruleId : QualificationRuleId) (result : RuleResult) : Prop where
  ruleId : result.ruleId = ruleId.asStr
  version : result.ruleVersion = ruleVersion
  reason : Text.isBlank result.reasonCode = false

theorem rule_canonical (ruleId : QualificationRuleId) (decision : AssessmentDecision)
    {reasonCode : String} (evidenceReference : Option String) (observedSlot : Option Nat)
    (visible : Text.isBlank reasonCode = false) :
    RuleCanonical ruleId (rule ruleId decision reasonCode evidenceReference observedSlot) where
  ruleId := rfl
  version := rfl
  reason := visible

theorem minimumRule_canonical (ruleId : QualificationRuleId) (actual minimum : Nat)
    (observedSlot : Option Nat) :
    RuleCanonical ruleId (minimumRule ruleId actual minimum observedSlot) :=
  rule_canonical _ _ _ _ (minimumReasonCode_visible ruleId _)

theorem quoteAssetRule_canonical (snapshot : MarketWindowSnapshot) (quoteAsset : QuoteAssetClass) :
    RuleCanonical .supportedQuoteAsset (quoteAssetRule snapshot quoteAsset) := by
  cases quoteAsset <;> exact rule_canonical _ _ _ _ (by decide)

theorem quoteVolumeRule_canonical (snapshot : MarketWindowSnapshot) (policy : QualificationPolicy)
    (quoteAsset : QuoteAssetClass) (totalQuoteVolume : Nat) :
    RuleCanonical .minimumQuoteVolume
      (quoteVolumeRule snapshot policy quoteAsset totalQuoteVolume) := by
  cases quoteAsset with
  | native => exact minimumRule_canonical _ _ _ _
  | stable => exact minimumRule_canonical _ _ _ _
  | unsupported => exact rule_canonical _ _ _ _ (by decide)

theorem walletConcentrationRule_canonical (snapshot : MarketWindowSnapshot)
    (policy : QualificationPolicy) (totalQuoteVolume : Nat) :
    RuleCanonical .maximumWalletConcentration
      (walletConcentrationRule snapshot policy totalQuoteVolume) := by
  unfold walletConcentrationRule
  split
  · apply rule_canonical
    split <;> decide
  · exact rule_canonical _ _ _ _ (by decide)

/-- The rules of a complete window are canonical in the order of their identifiers. -/
theorem completeRules_canonical (snapshot : MarketWindowSnapshot) (policy : QualificationPolicy)
    (totalQuoteVolume : Nat) :
    List.Forall₂ RuleCanonical allRuleIds (completeRules snapshot policy totalQuoteVolume) := by
  unfold allRuleIds completeRules
  have named : Text.isBlank "WINDOW_COMPLETE" = false := by decide
  have complete := rule_canonical .completeWindow .pass (some (windowEvidence snapshot))
    snapshot.latestObservedSlot named
  exact .cons complete (.cons (quoteAssetRule_canonical _ _)
    (.cons (minimumRule_canonical _ _ _ _) (.cons (minimumRule_canonical _ _ _ _)
      (.cons (minimumRule_canonical _ _ _ _) (.cons (minimumRule_canonical _ _ _ _)
        (.cons (quoteVolumeRule_canonical _ _ _ _)
          (.cons (walletConcentrationRule_canonical _ _ _) .nil)))))))

/-- Canonical rules list their identifiers, their version and visible reasons. -/
theorem forall_of_canonical {ruleIds : List QualificationRuleId} {rules : List RuleResult}
    (canonical : List.Forall₂ RuleCanonical ruleIds rules) :
    rules.map RuleResult.ruleId = ruleIds.map QualificationRuleId.asStr ∧
      ∀ result ∈ rules, result.ruleVersion = ruleVersion ∧
        Text.isBlank result.reasonCode = false := by
  induction canonical with
  | nil => exact ⟨rfl, by simp⟩
  | cons first rest ih =>
      obtain ⟨listed, formed⟩ := ih
      rw [List.map_cons, List.map_cons, first.ruleId, listed]
      exact ⟨rfl, List.forall_mem_cons.mpr ⟨⟨first.version, first.reason⟩, formed⟩⟩

/-- An evaluation succeeds and its rules are canonical. -/
theorem evaluateQualification_canonical {snapshot : MarketWindowSnapshot}
    {policy : QualificationPolicy} (valid : policy.validate = .ok ())
    (consistent : MetricsConsistent snapshot.metrics)
    (visible : snapshot.completeness.reasonCode.any Text.isBlank = false) :
    ∃ assessment, evaluateQualification snapshot policy = .ok assessment ∧
      RulesCanonical assessment := by
  cases carried : snapshot.completeness with
  | incomplete reasonCode =>
      have incomplete : snapshot.completeness.isComplete = false := by rw [carried]; rfl
      have reason : snapshot.completeness.reasonCode = some reasonCode := by rw [carried]; rfl
      rw [reason] at visible
      exact ⟨_, evaluateQualification_incomplete valid incomplete,
        incompleteAssessment_canonical policy reason visible⟩
  | complete =>
      have complete : snapshot.completeness.isComplete = true := by rw [carried]; rfl
      have volume : snapshot.metrics.totalQuoteVolumeUnits =
          .ok (snapshot.metrics.buyQuoteUnits + snapshot.metrics.sellQuoteUnits) :=
        checkedAdd_ok consistent.quote
      simp only [evaluateQualification, valid, ok_bind, complete, volume]
      refine ⟨_, rfl, ?_⟩
      obtain ⟨ruleIds, formed⟩ := forall_of_canonical (completeRules_canonical snapshot policy
        (snapshot.metrics.buyQuoteUnits + snapshot.metrics.sellQuoteUnits))
      exact {
        ruleIds
        versions := fun result member => (formed result member).1
        reasons := fun result member => (formed result member).2
        decision := aggregateDecision_of_ne_nil (List.cons_ne_nil _ _) }

/-- The loop over well-formed rules with distinct identifiers succeeds. -/
theorem foldlM_validateRule {rules : List RuleResult}
    (formed : ∀ result ∈ rules, Text.isBlank result.ruleId = false ∧
      Text.isBlank result.ruleVersion = false ∧ Text.isBlank result.reasonCode = false)
    (distinct : (rules.map RuleResult.ruleId).Nodup) :
    ∃ seen, rules.foldlM validateRule [] = .ok seen := by
  have looped : ∃ seen, rules.foldlM validateRule [] = .ok seen ∧
      seen = (rules.map RuleResult.ruleId).reverse := by
    apply Accumulation.foldlM_ok fun visited seen => seen = (visited.map RuleResult.ruleId).reverse
    · rfl
    intro visited result seen position before
    have member : result ∈ rules := position.subset (by simp)
    obtain ⟨ruleId, version, reason⟩ := formed result member
    have prefixDistinct := distinct.sublist (position.sublist.map RuleResult.ruleId)
    have fresh : result.ruleId ∉ seen := by
      rw [before, List.mem_reverse]
      rw [List.map_append, List.nodup_append] at prefixDistinct
      intro repeated
      exact prefixDistinct.2.2 _ repeated _ (by simp) rfl
    refine ⟨result.ruleId :: seen, ?_, ?_⟩
    · rw [validateRule, ruleId, version, reason, if_neg (by decide), if_neg fresh]
    · rw [before, List.map_append, List.reverse_append]
      rfl
  obtain ⟨seen, folded, -⟩ := looped
  exact ⟨seen, folded⟩

/-- Quantities that sum within their width are accepted as decimal texts. -/
theorem checkedDecimalSum_toString {left right : Nat} (fits : left + right < u128Size)
    (field : String) :
    checkedDecimalSum (toString left) (toString right) field = .ok (toString (left + right)) := by
  have leftFits : left < u128Size := by omega
  have rightFits : right < u128Size := by omega
  rw [checkedDecimalSum, Text.parseUnsigned_toString leftFits,
    Text.parseUnsigned_toString rightFits]
  simp only [MachineInteger.checkedAdd_of_lt fits]

section Canonical

variable {window : DiscoveryWindowRecord} {finalizedAtUnixMs : Int} {reason : Option String}
  {snapshot : MarketWindowSnapshot} {assessment : QualificationAssessment}
  {summary : DiscoveryWindowSummary}

/-- The payload that the builder assembles from its stages. -/
def canonicalFinalization (window : DiscoveryWindowRecord) (finalizedAtUnixMs : Int)
    (snapshot : MarketWindowSnapshot) (assessment : QualificationAssessment)
    (summary : DiscoveryWindowSummary) : FinalizeDiscoveryWindow where
  windowId := window.windowId
  finalizedAtUnixMs
  completeness := windowCompleteness snapshot
  completenessReason := snapshot.completeness.reasonCode
  featureVersion := marketWindowFeatureVersion
  snapshot := snapshotToValue snapshot
  observationCount := snapshot.metrics.observations
  decision := assessment.decision
  assessment := .assessment assessment
  rules := assessment.rules
  summary

theorem buildDiscoveryWindowFinalization_eq (window : DiscoveryWindowRecord)
    (finalizedAtUnixMs : Int) (reason : Option String) :
    buildDiscoveryWindowFinalization window finalizedAtUnixMs reason = do
      let snapshot ← (buildMarketWindowSnapshot window.market window.openedAtUnixMs
        window.closesAtUnixMs (requestedCompleteness reason)
        (window.observations.map Observation.toNormalizedObservation)).mapError
          .invalidDiscoveryWindowSnapshot
      let assessment ← (evaluateQualification snapshot (qualificationPolicy window)).mapError
        .invalidQualificationPolicy
      let summary ← canonicalDiscoverySummary window snapshot assessment finalizedAtUnixMs
      return canonicalFinalization window finalizedAtUnixMs snapshot assessment summary := by
  cases reason <;> rfl

/-- A built payload is assembled from a snapshot, its assessment and their summary. -/
theorem buildDiscoveryWindowFinalization_eq_ok {finalized : FinalizeDiscoveryWindow}
    (built : buildDiscoveryWindowFinalization window finalizedAtUnixMs reason = .ok finalized) :
    ∃ snapshot assessment summary,
      buildMarketWindowSnapshot window.market window.openedAtUnixMs window.closesAtUnixMs
        (requestedCompleteness reason)
        (window.observations.map Observation.toNormalizedObservation) = .ok snapshot ∧
      evaluateQualification snapshot (qualificationPolicy window) = .ok assessment ∧
      canonicalDiscoverySummary window snapshot assessment finalizedAtUnixMs = .ok summary ∧
      finalized = canonicalFinalization window finalizedAtUnixMs snapshot assessment summary := by
  rw [buildDiscoveryWindowFinalization_eq] at built
  simp only [Accumulation.bind_eq_ok, Accumulation.mapError_eq_ok] at built
  obtain ⟨snapshot, snapshotBuilt, assessment, evaluated, summary, summarized, done⟩ := built
  cases done
  exact ⟨snapshot, assessment, summary, snapshotBuilt, evaluated, summarized, rfl⟩

/-- A successful summary repeats the window, the metrics and the reasons of the decision. -/
theorem canonicalDiscoverySummary_eq_ok
    (summarized : canonicalDiscoverySummary window snapshot assessment finalizedAtUnixMs =
      .ok summary) :
    0 ≤ window.windowId ∧ summary.windowRevision = window.windowId.toNat ∧
      summary.rulesetRevision = window.qualificationRevision ∧
      summary.openedUnixMs = window.openedAtUnixMs ∧
      summary.closedUnixMs = window.closesAtUnixMs ∧
      summary.evaluatedUnixMs = finalizedAtUnixMs ∧
      summary.decision = qualificationDecision assessment.decision ∧
      summary.completeness = windowCompleteness snapshot := by
  unfold canonicalDiscoverySummary at summarized
  split at summarized
  · cases summarized
  · cases summarized
    exact ⟨by omega, rfl, rfl, rfl, rfl, rfl, rfl, rfl⟩

/-- A canonical payload is consistent in itself. -/
theorem validateFinalization_canonical (canonical : RulesCanonical assessment)
    (visible : snapshot.completeness.reasonCode.any Text.isBlank = false)
    (summarized : canonicalDiscoverySummary window snapshot assessment finalizedAtUnixMs =
      .ok summary)
    (closed : windowCompleteness snapshot = .complete → window.closesAtUnixMs ≤ finalizedAtUnixMs) :
    validateFinalization
      (canonicalFinalization window finalizedAtUnixMs snapshot assessment summary) = .ok () := by
  obtain ⟨-, -, -, -, closes, -, decision, -⟩ := canonicalDiscoverySummary_eq_ok summarized
  have feature : Text.isBlank marketWindowFeatureVersion = false := by decide
  have distinct : (assessment.rules.map RuleResult.ruleId).Nodup := by
    rw [canonical.ruleIds]
    decide
  have identified : ∀ result ∈ assessment.rules, Text.isBlank result.ruleId = false := by
    intro result member
    have listed : result.ruleId ∈ allRuleIds.map QualificationRuleId.asStr := by
      rw [← canonical.ruleIds]
      exact List.mem_map_of_mem member
    have all : ∀ ruleId ∈ allRuleIds.map QualificationRuleId.asStr,
        Text.isBlank ruleId = false := by decide
    exact all _ listed
  obtain ⟨seen, looped⟩ := foldlM_validateRule
    (fun result member => ⟨identified result member,
      (canonical.versions result member).symm ▸ by decide, canonical.reasons result member⟩)
    distinct
  have early : ¬ (windowCompleteness snapshot = .complete ∧
      finalizedAtUnixMs < summary.closedUnixMs) := by
    rintro ⟨complete, before⟩
    have after := closed complete
    omega
  unfold validateFinalization canonicalFinalization
  simp only [feature, Bool.false_eq_true, if_false, looped, if_neg early, decision,
    canonical.decision, not_true_eq_false, ne_eq, ok_bind]
  cases carried : snapshot.completeness with
  | complete => simp [windowCompleteness, carried, SnapshotCompleteness.isComplete,
      SnapshotCompleteness.reasonCode]; rfl
  | incomplete reasonCode =>
      rw [carried] at visible
      have present : Text.isBlank reasonCode = false := visible
      simp [windowCompleteness, carried, SnapshotCompleteness.isComplete,
        SnapshotCompleteness.reasonCode, present]; rfl

/-- A canonical payload repeats the identity of each row that its window comes from. -/
theorem validateFinalizationForWindow_canonical (consistent : MetricsConsistent snapshot.metrics)
    (summarized : canonicalDiscoverySummary window snapshot assessment finalizedAtUnixMs =
      .ok summary) {row : WindowIdentityRow} {observations : List Observation}
    (loaded : row.intoRecord observations = .ok window) :
    validateFinalizationForWindow row
      (canonicalFinalization window finalizedAtUnixMs snapshot assessment summary) = .ok () := by
  unfold WindowIdentityRow.intoRecord at loaded
  obtain ⟨_, -, loaded⟩ := Accumulation.bind_eq_ok.mp loaded
  obtain ⟨_, -, loaded⟩ := Accumulation.bind_eq_ok.mp loaded
  obtain ⟨prefilterRevision, -, loaded⟩ := Accumulation.bind_eq_ok.mp loaded
  obtain ⟨qualificationRevision, revision, loaded⟩ := Accumulation.bind_eq_ok.mp loaded
  cases loaded
  unfold canonicalDiscoverySummary at summarized
  split at summarized
  · cases summarized
  rename_i identified
  cases summarized
  have identity : ¬ row.id < 0 := identified
  have sides : MachineInteger.checkedAdd u64Size snapshot.metrics.buys snapshot.metrics.sells =
      some snapshot.metrics.trades := by
    rw [MachineInteger.checkedAdd_eq_some]
    exact ⟨consistent.sides, consistent.trades⟩
  have share : (snapshot.metrics.largestWalletQuoteVolume.map
      WalletVolumeShare.shareBps).any (· > 10000) = false := by
    cases found : snapshot.metrics.largestWalletQuoteVolume with
    | none => rfl
    | some largest =>
        have bounded := consistent.share largest found
        simpa [basisPointsScale] using bounded
  have reasons := OrderedSet.toList_ofList_toList (decisionReasons assessment.rules
    assessment.decision)
  have size : (Std.TreeSet.ofList (decisionReasons assessment.rules
      assessment.decision).toList).size =
      (decisionReasons assessment.rules assessment.decision).toList.length := by
    rw [← Std.TreeSet.length_toList, reasons]
  unfold validateFinalizationForWindow canonicalFinalization
  simp only [identity, if_false, revision, ok_bind, ne_eq, not_true_eq_false, or_self, reasons, size,
    sides, share, checkedDecimalSum_toString consistent.base,
    checkedDecimalSum_toString consistent.quote, Nat.not_lt.mpr consistent.uniqueTraders,
    Nat.not_lt.mpr consistent.uniqueBuyers, Nat.not_lt.mpr consistent.uniqueSellers, gt_iff_lt,
    Bool.false_eq_true]
  rfl

end Canonical

/-- The canonical finalization of a window exists, is rebuilt from its own time and reason and
passes both validators. -/
theorem buildDiscoveryWindowFinalization_fixpoint (window : DiscoveryWindowRecord)
    (finalizedAtUnixMs : Int) (reason : Option String)
    (bounds : window.openedAtUnixMs < window.closesAtUnixMs) (identity : 0 ≤ window.windowId)
    (settings : window.qualificationValues.validate = .ok ())
    (length : window.observations.length < 2 ^ 63)
    (distinct : (window.observations.map fun observation => observation.key).Nodup)
    (visible : reason.any Text.isBlank = false) :
    ∃ finalized, buildDiscoveryWindowFinalization window finalizedAtUnixMs reason =
        .ok finalized ∧
      buildDiscoveryWindowFinalization window finalizedAtUnixMs finalized.completenessReason =
        .ok finalized ∧
      finalized.finalizedAtUnixMs = finalizedAtUnixMs ∧
      ((finalized.completeness = .complete → window.closesAtUnixMs ≤ finalizedAtUnixMs) →
        validateFinalization finalized = .ok ()) ∧
      ∀ row : WindowIdentityRow, row.intoRecord window.observations = .ok window →
        validateFinalizationForWindow row finalized = .ok () := by
  have observed : (window.observations.map Observation.toNormalizedObservation).length < 2 ^ 63 := by
    rwa [List.length_map]
  have keys : ((window.observations.map Observation.toNormalizedObservation).map
      NormalizedObservation.key).Nodup := by
    rwa [List.map_map]
  have requested : (requestedCompleteness reason).reasonCode.any Text.isBlank = false := by
    cases reason with
    | none => rfl
    | some reasonCode => exact visible
  obtain ⟨snapshot, built, -⟩ := buildMarketWindowSnapshot_ok window.market
    (requestedCompleteness reason) bounds requested observed keys
  have rebuilt := buildMarketWindowSnapshot_rebuild built visible
  have reasonVisible := buildMarketWindowSnapshot_reasonCode built requested
  obtain ⟨-, consistent⟩ := buildMarketWindowSnapshot_consistent built observed
  obtain ⟨assessment, evaluated, canonical⟩ := evaluateQualification_canonical
    (qualificationPolicy_valid settings) consistent reasonVisible
  obtain ⟨summary, summarized⟩ : ∃ summary, canonicalDiscoverySummary window snapshot assessment
      finalizedAtUnixMs = .ok summary := by
    rw [canonicalDiscoverySummary, if_neg (by omega)]
    exact ⟨_, rfl⟩
  refine ⟨canonicalFinalization window finalizedAtUnixMs snapshot assessment summary, ?_, ?_, rfl,
    ?_, ?_⟩
  · rw [buildDiscoveryWindowFinalization_eq, built]
    simp only [Except.mapError, ok_bind, evaluated, summarized]
    rfl
  · change buildDiscoveryWindowFinalization window finalizedAtUnixMs
      snapshot.completeness.reasonCode = _
    rw [buildDiscoveryWindowFinalization_eq, rebuilt]
    simp only [Except.mapError, ok_bind, evaluated, summarized]
    rfl
  · exact validateFinalization_canonical canonical reasonVisible summarized
  · intro row loaded
    exact validateFinalizationForWindow_canonical consistent summarized loaded

def samplePrefilter : PrefilterDefaults where
  maxEventAgeMs := 15000
  observationWindowMs := 60000
  maxActiveWindows := 128
  rpcRequestsPerSecond := 1
  rpcMaxInFlight := 4
  rpcRequestTimeoutMs := 5000
  rpcRateLimitCooldownMs := 5000

def sampleRow : WindowIdentityRow where
  id := 3
  network := .solanaMainnet
  sourceProgram := .pumpSwap
  venue := .pumpSwap
  marketAddress := "a"
  mint := "m"
  quoteMint := wrappedSolMint
  targetKind := .pumpSwapPool
  targetAddress := "a"
  openedAtUnixMs := 0
  closesAtUnixMs := 10
  collectorRunId := "run"
  prefilterRevision := 1
  prefilterValues := samplePrefilter
  qualificationRevision := 2
  qualificationValues := .safeInitial
  status := .active

/-- A trade as it is stored; an empty wallet makes it malformed. -/
def storedTrade (eventIndex : Nat) (wallet : String) : Observation :=
  { sampleObservation eventIndex .buy wallet with
    commitment := .confirmed
    schemaVersion := 1
    decoderVersion := "decoder-v1"
    eventKind := "BUY"
    rawEvidenceHash := "hash"
    sourceEvidenceBase64 := "ZXZpZGVuY2U="
    sourceDetails := "null" }

def sampleWindow : DiscoveryWindowRecord where
  windowId := 3
  market := sampleRow.market
  sourceProgram := .pumpSwap
  openedAtUnixMs := 0
  closesAtUnixMs := 10
  collectorRunId := "run"
  prefilterRevision := 1
  prefilterValues := samplePrefilter
  qualificationRevision := 2
  qualificationValues := .safeInitial
  observations := [storedTrade 0 "u", storedTrade 1 ""]

/-- A malformed trade gives the request without a reason one; the payload is rebuilt from it. -/
theorem buildDiscoveryWindowFinalization_fixpoint_malformed :
    ∃ finalized, buildDiscoveryWindowFinalization sampleWindow 10 none = .ok finalized ∧
      buildDiscoveryWindowFinalization sampleWindow 10 finalized.completenessReason =
        .ok finalized ∧
      validateFinalization finalized = .ok () ∧
      validateFinalizationForWindow sampleRow finalized = .ok () := by
  obtain ⟨finalized, built, rebuilt, -, consistent, identified⟩ :=
    buildDiscoveryWindowFinalization_fixpoint sampleWindow 10 none (by decide) (by decide)
      (by decide) (by decide) (by decide) rfl
  have loaded : sampleRow.intoRecord sampleWindow.observations = .ok sampleWindow := rfl
  exact ⟨finalized, built, rebuilt, consistent fun _ => by decide, identified sampleRow loaded⟩

end Soldisco.Persistence
