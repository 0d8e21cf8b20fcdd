import Soldisco.Construction.Qualification
import Soldisco.Proof.Snapshot.Builder

/-
This file characterizes the windows that pass the qualification rules.
-/

namespace Soldisco.Qualification
open Domain Snapshot

/-- The native or the wrapped form of SOL is the quote asset. -/
def NativeQuote (market : MarketIdentity) : Prop :=
  market.quoteMint = some nativeSolMint ∨ market.quoteMint = some wrappedSolMint

/-- The canonical stable coin counts on the main network only. -/
def StableQuote (market : MarketIdentity) : Prop :=
  market.quoteMint = some canonicalUsdcMint ∧ market.network = .solanaMainnet

/-- The exact conditions on the trades of a complete window. -/
structure PassConditions (market : MarketIdentity) (policy : QualificationPolicy)
    (trades : List Trade) : Prop where
  wellFormed : ∀ trade ∈ trades,
    Text.isBlank trade.wallet = false ∧ trade.baseUnits ≠ 0 ∧ trade.quoteUnits ≠ 0
  traded : trades ≠ []
  count : policy.minimumTrades ≤ trades.length
  traders : policy.minimumUniqueTraders ≤ (trades.map Trade.wallet).dedup.length
  buys : policy.minimumBuys ≤ sideCount .buy trades
  sells : policy.minimumSells ≤ sideCount .sell trades
  volume : NativeQuote market ∧ policy.minimumNativeQuoteVolumeUnits ≤ quoteVolume trades ∨
    StableQuote market ∧ policy.minimumStableQuoteVolumeUnits ≤ quoteVolume trades
  concentration : ∀ wallet, walletVolume trades wallet * 10000 ≤
    policy.maximumSingleWalletQuoteVolumeBps * quoteVolume trades

theorem classifyQuoteAsset_eq_native (market : MarketIdentity) :
    classifyQuoteAsset market = .native ↔ NativeQuote market := by
  unfold classifyQuoteAsset NativeQuote
  split
  · rename_i quoteMint found
    simp only [found, Option.some.injEq]
    split
    · simp_all
    · split <;> simp_all
  · simp_all

theorem classifyQuoteAsset_eq_stable (market : MarketIdentity) :
    classifyQuoteAsset market = .stable ↔ StableQuote market := by
  unfold classifyQuoteAsset StableQuote
  split
  · rename_i quoteMint found
    simp only [found, Option.some.injEq]
    split
    · rename_i native
      have different : quoteMint ≠ canonicalUsdcMint := by
        rcases native with native | native <;> rw [native] <;> decide
      simp [different]
    · split <;> simp_all
  · simp_all

/-- A window passes when each of its rules does. -/
theorem aggregate_eq_pass (rules : List RuleResult) :
    aggregate rules = .pass ↔ ∀ result ∈ rules, result.decision = .pass := by
  unfold aggregate
  split
  · rename_i rejected
    obtain ⟨result, member, decision⟩ := List.any_eq_true.mp rejected
    simp only [reduceCtorEq, false_iff]
    intro passes
    simp [passes result member] at decision
  · rename_i notRejected
    split
    · rename_i unknown
      obtain ⟨result, member, decision⟩ := List.any_eq_true.mp unknown
      simp only [reduceCtorEq, false_iff]
      intro passes
      simp [passes result member] at decision
    · rename_i notUnknown
      simp only [true_iff]
      intro result member
      simp only [List.any_eq_true, not_exists, not_and, beq_iff_eq] at notRejected notUnknown
      have decided := notRejected result member
      have known := notUnknown result member
      cases decision : result.decision <;> simp_all

@[simp] theorem minimumRule_pass (ruleId : QualificationRuleId) (actual minimum : Nat)
    (observedSlot : Option Nat) :
    (minimumRule ruleId actual minimum observedSlot).decision = .pass ↔ minimum ≤ actual := by
  by_cases reached : minimum ≤ actual <;> simp [minimumRule, rule, reached]

theorem quoteAssetRule_pass (snapshot : MarketWindowSnapshot) (quoteAsset : QuoteAssetClass) :
    (quoteAssetRule snapshot quoteAsset).decision = .pass ↔ quoteAsset ≠ .unsupported := by
  cases quoteAsset <;> simp [quoteAssetRule, rule]

/-- The volume rule passes when the minimum of the class is reached. -/
theorem quoteVolumeRule_pass (snapshot : MarketWindowSnapshot) (policy : QualificationPolicy)
    (quoteAsset : QuoteAssetClass) (totalQuoteVolume : Nat) :
    (quoteVolumeRule snapshot policy quoteAsset totalQuoteVolume).decision = .pass ↔
      quoteAsset = .native ∧ policy.minimumNativeQuoteVolumeUnits ≤ totalQuoteVolume ∨
        quoteAsset = .stable ∧ policy.minimumStableQuoteVolumeUnits ≤ totalQuoteVolume := by
  cases quoteAsset with
  | native => simp [quoteVolumeRule]
  | stable => simp [quoteVolumeRule]
  | unsupported => simp [quoteVolumeRule, rule]

/-- The concentration rule passes when the window has trades and no wallet exceeds the limit. -/
theorem walletConcentrationRule_pass (snapshot : MarketWindowSnapshot) (policy : QualificationPolicy)
    (totalQuoteVolume : Nat) {trades : List Trade} (described : MetricsOf trades snapshot.metrics) :
    (walletConcentrationRule snapshot policy totalQuoteVolume).decision = .pass ↔
      trades ≠ [] ∧ ∀ wallet, walletVolume trades wallet * 10000 ≤
        policy.maximumSingleWalletQuoteVolumeBps * quoteVolume trades := by
  have maximal := described.largest
  unfold walletConcentrationRule
  cases found : snapshot.metrics.largestWalletQuoteVolume with
  | none =>
      rw [found] at maximal
      have empty : trades = [] := List.map_eq_nil_iff.mp maximal
      simp [rule, empty]
  | some largest =>
      rw [found] at maximal
      have traded : trades ≠ [] := by
        rintro rfl
        exact absurd maximal.member (by simp)
      have within := maximal.within policy.maximumSingleWalletQuoteVolumeBps
      rw [basisPointsScale] at within
      rw [← within]
      by_cases passes : largest.shareBps ≤ policy.maximumSingleWalletQuoteVolumeBps <;>
        simp [rule, passes, traded]

theorem wellFormed_iff (trades : List Trade) : trades.all Trade.wellFormed = true ↔
    ∀ trade ∈ trades,
      Text.isBlank trade.wallet = false ∧ trade.baseUnits ≠ 0 ∧ trade.quoteUnits ≠ 0 := by
  simp [List.all_eq_true, Trade.wellFormed, and_assoc]

/-- The rules of a complete window pass exactly under the conditions. -/
theorem completeRules_pass (snapshot : MarketWindowSnapshot) (policy : QualificationPolicy)
    {trades : List Trade} (described : MetricsOf trades snapshot.metrics)
    (wellFormed : trades.all Trade.wellFormed = true) :
    (∀ result ∈ completeRules snapshot policy (quoteVolume trades), result.decision = .pass) ↔
      PassConditions snapshot.market policy trades := by
  simp only [completeRules, List.forall_mem_cons, quoteAssetRule_pass, minimumRule_pass,
    quoteVolumeRule_pass, walletConcentrationRule_pass snapshot policy _ described,
    described.count, described.buys, described.sells, described.uniqueTraders,
    classifyQuoteAsset_eq_native, classifyQuoteAsset_eq_stable]
  constructor
  · rintro ⟨-, -, count, traders, buys, sells, volume, ⟨traded, concentration⟩, -⟩
    exact { wellFormed := (wellFormed_iff trades).mp wellFormed
            traded, count, traders, buys, sells, volume, concentration }
  · intro conditions
    refine ⟨rfl, ?_, conditions.count, conditions.traders, conditions.buys, conditions.sells,
      conditions.volume, ⟨conditions.traded, conditions.concentration⟩, by simp⟩
    intro unsupported
    rcases conditions.volume with ⟨native, -⟩ | ⟨stable, -⟩
    · rw [(classifyQuoteAsset_eq_native _).mpr native] at unsupported
      cases unsupported
    · rw [(classifyQuoteAsset_eq_stable _).mpr stable] at unsupported
      cases unsupported

/-- Each rule of an incomplete window is unknown. -/
structure UnknownAssessment (assessment : QualificationAssessment) : Prop where
  decision : assessment.decision = .unknown
  ruleIds : assessment.rules.map RuleResult.ruleId = allRuleIds.map QualificationRuleId.asStr
  rules : ∀ result ∈ assessment.rules, result.decision = .unknown

theorem incompleteAssessment_unknown (snapshot : MarketWindowSnapshot)
    (policy : QualificationPolicy) : UnknownAssessment (incompleteAssessment snapshot policy) where
  decision := rfl
  ruleIds := rfl
  rules := by
    intro result member
    obtain ⟨ruleId, -, rfl⟩ := List.mem_map.mp member
    rfl

theorem evaluateQualification_incomplete {snapshot : MarketWindowSnapshot}
    {policy : QualificationPolicy} (valid : policy.validate = .ok ())
    (incomplete : snapshot.completeness.isComplete = false) :
    evaluateQualification snapshot policy = .ok (incompleteAssessment snapshot policy) := by
  rw [evaluateQualification, valid, ok_bind, incomplete]
  rfl

/-- A complete window of well-formed trades passes exactly under the conditions. -/
theorem evaluateQualification_complete {snapshot : MarketWindowSnapshot}
    {policy : QualificationPolicy} {trades : List Trade} (valid : policy.validate = .ok ())
    (complete : snapshot.completeness.isComplete = true)
    (described : MetricsOf trades snapshot.metrics)
    (wellFormed : trades.all Trade.wellFormed = true) :
    ∃ assessment, evaluateQualification snapshot policy = .ok assessment ∧
      (assessment.decision = .pass ↔ PassConditions snapshot.market policy trades) := by
  simp only [evaluateQualification, valid, ok_bind, complete, described.volume]
  refine ⟨_, rfl, ?_⟩
  rw [aggregate_eq_pass]
  exact completeRules_pass snapshot policy described wellFormed

section Window

variable (market : MarketIdentity) {openedAtUnixMs closesAtUnixMs : Int}
  {observations : List NormalizedObservation} {policy : QualificationPolicy}

/-- A window that is or becomes incomplete leaves the qualification unknown. -/
theorem qualifyMarketWindow_incomplete {completeness : SnapshotCompleteness}
    (bounds : openedAtUnixMs < closesAtUnixMs) (length : observations.length < 2 ^ 63)
    (distinct : (observations.map NormalizedObservation.key).Nodup)
    (valid : policy.validate = .ok ()) (reason : completeness.reasonCode.any Text.isBlank = false)
    (incomplete : (completeness.isComplete &&
      (sliceTrades market openedAtUnixMs closesAtUnixMs observations).all Trade.wellFormed) = false) :
    ∃ assessment, qualifyMarketWindow market openedAtUnixMs closesAtUnixMs completeness
      observations policy = .ok assessment ∧ UnknownAssessment assessment := by
  obtain ⟨snapshot, built, described⟩ :=
    buildMarketWindowSnapshot_ok market completeness bounds reason length distinct
  have unknown := evaluateQualification_incomplete valid (described.complete.trans incomplete)
  refine ⟨incompleteAssessment snapshot policy, ?_, incompleteAssessment_unknown snapshot policy⟩
  rw [qualifyMarketWindow, built]
  exact unknown

/-- A complete window passes exactly under the conditions on the trades of its slice. An incomplete
window with a reason and a window with a malformed trade stay unknown in all rules; an incomplete
window without a reason is refused. -/
theorem qualifyMarketWindow_decision (bounds : openedAtUnixMs < closesAtUnixMs)
    (length : observations.length < 2 ^ 63)
    (distinct : (observations.map NormalizedObservation.key).Nodup)
    (valid : policy.validate = .ok ()) :
    (∃ assessment, qualifyMarketWindow market openedAtUnixMs closesAtUnixMs .complete observations
        policy = .ok assessment ∧
      (assessment.decision = .pass ↔ PassConditions market policy
        (sliceTrades market openedAtUnixMs closesAtUnixMs observations))) ∧
    (∀ reasonCode, Text.isBlank reasonCode = false →
      ∃ assessment, qualifyMarketWindow market openedAtUnixMs closesAtUnixMs (.incomplete reasonCode)
        observations policy = .ok assessment ∧ UnknownAssessment assessment) ∧
    ((∃ trade ∈ sliceTrades market openedAtUnixMs closesAtUnixMs observations,
        Text.isBlank trade.wallet = true ∨ trade.baseUnits = 0 ∨ trade.quoteUnits = 0) →
      ∃ assessment, qualifyMarketWindow market openedAtUnixMs closesAtUnixMs .complete observations
        policy = .ok assessment ∧ UnknownAssessment assessment) ∧
    ∀ reasonCode, Text.isBlank reasonCode = true →
      qualifyMarketWindow market openedAtUnixMs closesAtUnixMs (.incomplete reasonCode) observations
        policy = .error (.snapshot .missingIncompleteReason) := by
  set trades := sliceTrades market openedAtUnixMs closesAtUnixMs observations with tradesEq
  have malformedUnknown : trades.all Trade.wellFormed = false →
      ∃ assessment, qualifyMarketWindow market openedAtUnixMs closesAtUnixMs .complete observations
        policy = .ok assessment ∧ UnknownAssessment assessment := fun malformed =>
    qualifyMarketWindow_incomplete market bounds length distinct valid rfl malformed
  refine ⟨?_, ?_, ?_, ?_⟩
  · cases wellFormed : trades.all Trade.wellFormed with
    | false =>
        obtain ⟨assessment, ok, unknown⟩ := malformedUnknown wellFormed
        refine ⟨assessment, ok, ?_⟩
        rw [unknown.decision]
        simp only [reduceCtorEq, false_iff]
        intro conditions
        rw [(wellFormed_iff trades).mpr conditions.wellFormed] at wellFormed
        cases wellFormed
    | true =>
        obtain ⟨snapshot, built, described⟩ :=
          buildMarketWindowSnapshot_ok market .complete bounds rfl length distinct
        have recorded : trades.filter Trade.wellFormed = trades :=
          List.filter_eq_self.mpr (List.all_eq_true.mp wellFormed)
        have metrics := described.metrics
        rw [← tradesEq, recorded] at metrics
        obtain ⟨assessment, ok, decision⟩ := evaluateQualification_complete valid
          (described.complete.trans wellFormed) metrics wellFormed
        refine ⟨assessment, ?_, ?_⟩
        · rw [qualifyMarketWindow, built]
          exact ok
        · rw [decision, described.market]
  · intro reasonCode present
    exact qualifyMarketWindow_incomplete market bounds length distinct valid present rfl
  · rintro ⟨trade, member, malformed⟩
    apply malformedUnknown
    rw [List.all_eq_false]
    refine ⟨trade, member, ?_⟩
    rcases malformed with blank | zero | zero <;> simp [Trade.wellFormed, *]
  · intro reasonCode blank
    have refused : buildMarketWindowSnapshot market openedAtUnixMs closesAtUnixMs
        (.incomplete reasonCode) observations = .error .missingIncompleteReason := by
      rw [buildMarketWindowSnapshot, if_neg (by omega), if_pos (by exact blank)]
    rw [qualifyMarketWindow, refused]
    rfl

end Window

/-- A trade of one wallet in the wrapped asset on the main network. -/
def sampleObservation (eventIndex : Nat) (side : TradeSide) (wallet : String) :
    NormalizedObservation where
  key := { network := .solanaMainnet, program := .pumpSwap,
           coordinate := { slot := 1, transactionIndex := none, signature := "s",
                           instructionIndex := 0, eventIndex } }
  market := { network := .solanaMainnet, mint := "m", venue := .pumpSwap, marketAddress := "a",
              quoteMint := some wrappedSolMint }
  sourceEventTimeUnixMs := none
  receivedTimeUnixMs := 5
  payload := .trade side wallet 7 30000000 none none

/-- Two wallets that trade both ways pass a policy that asks for two trades. -/
theorem qualifyMarketWindow_decision_pass :
    ∃ assessment, qualifyMarketWindow (sampleObservation 0 .buy "u").market 0 10 .complete
        [sampleObservation 0 .buy "u", sampleObservation 1 .sell "v"]
        { QualificationPolicy.default with
          minimumTrades := 2, minimumUniqueTraders := 2
          maximumSingleWalletQuoteVolumeBps := 10000 } = .ok assessment ∧
      assessment.decision = .pass := by
  obtain ⟨⟨assessment, ok, decision⟩, -⟩ := qualifyMarketWindow_decision
    (sampleObservation 0 .buy "u").market (by decide : (0 : Int) < 10)
    (by decide : [sampleObservation 0 .buy "u", sampleObservation 1 .sell "v"].length < 2 ^ 63)
    (by decide) (by decide : QualificationPolicy.validate { QualificationPolicy.default with
      minimumTrades := 2, minimumUniqueTraders := 2
      maximumSingleWalletQuoteVolumeBps := 10000 } = .ok ())
  refine ⟨assessment, ok, decision.mpr ?_⟩
  exact {
    wellFormed := by decide
    traded := by decide
    count := by decide
    traders := by decide
    buys := by decide
    sells := by decide
    volume := .inl ⟨.inr rfl, by decide⟩
    concentration := fun wallet => by
      rw [Nat.mul_comm]
      exact Nat.mul_le_mul_left 10000 (walletVolume_le _ wallet) }

/-- Without a reason an incomplete window has no decision at all. -/
theorem blank_reason_refused : ¬ ∀ reasonCode, ∃ assessment,
    qualifyMarketWindow (sampleObservation 0 .buy "u").market 0 10 (.incomplete reasonCode) []
        QualificationPolicy.default = .ok assessment ∧
      assessment.decision = .unknown := by
  intro unknown
  obtain ⟨assessment, ok, -⟩ := unknown " "
  have refused : qualifyMarketWindow (sampleObservation 0 .buy "u").market 0 10 (.incomplete " ") []
      QualificationPolicy.default = .error (.snapshot .missingIncompleteReason) := by decide
  rw [refused] at ok
  cases ok

end Soldisco.Qualification
