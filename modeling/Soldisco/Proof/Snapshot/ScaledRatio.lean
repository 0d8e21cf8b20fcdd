import Mathlib.Algebra.Order.Floor.Div
import Soldisco.Construction.Qualification
import Soldisco.Proof.Snapshot.Conservation

/-
This file proves that the scaled ratio stays within its width and that the shares in basis points
round up exactly.
-/

namespace Soldisco.Snapshot
open Domain MachineInteger MetricsAccumulator Qualification

/-- A call that neither panics nor runs out of passes. -/
def onMachine {Value : Type} (call : Except SnapshotError Value) : Except MachineFault Value :=
  call.mapError .returned

theorem onMachine_bind {Value Result : Type} (first : Except SnapshotError Value)
    (next : Value → Except SnapshotError Result) :
    onMachine (first >>= next) = onMachine first >>= fun value => onMachine (next value) := by
  cases first with
  | error error => rfl
  | ok value => rfl

theorem plainAdd_ok {left right : Nat} (fits : left + right < u128Size) :
    plainAdd left right = .ok (left + right) := by
  rw [plainAdd, if_pos fits]

theorem plainSub_ok {left right : Nat} (below : right ≤ left) :
    plainSub left right = .ok (left - right) := by
  rw [plainSub, if_pos below]

/-- The half of a distance is rounded up. -/
theorem divCeil_two {value : Nat} (fits : value < u128Size) :
    divCeil value 2 = .ok ((value + 1) / 2) := by
  unfold divCeil
  unfold u128Size at fits
  split
  · rw [plainAdd_ok (by unfold u128Size; omega)]
    exact congrArg Except.ok (by omega)
  · exact congrArg Except.ok (by omega)

/-- The rounded fraction is no larger than the product it divides. -/
theorem ceilScaledDenominatorMachine_eq (multiplier value divisor : Nat) :
    ceilScaledDenominatorMachine multiplier value divisor =
      onMachine (ceilScaledDenominator multiplier value divisor) := by
  unfold ceilScaledDenominatorMachine ceilScaledDenominator
  by_cases invalid : (decide (divisor = 0) || decide (multiplier > divisor)) = true
  · rw [if_pos invalid, if_pos invalid]
    rfl
  · rw [if_neg invalid, if_neg invalid]
    have positive : 0 < divisor := by
      simp only [Bool.or_eq_true, decide_eq_true_iff, not_or] at invalid
      omega
    by_cases whole : value / divisor * multiplier < u128Size
    · by_cases product : value % divisor * multiplier < u128Size
      · simp only [checkedMul_ok whole, checkedMul_ok product]
        have rounded := (@roundedQuotient_le_iff (value % divisor * multiplier) divisor
          (value % divisor * multiplier) positive).mpr (Nat.le_mul_of_pos_right _ positive)
        have fits := plainAdd_ok (rounded.trans_lt product)
        change (plainAdd _ _ >>= fun fraction => onMachine (checkedAdd u128Size _ fraction)) = _
        rw [fits]
        rfl
      · simp only [checkedMul_ok whole, checkedMul_error (not_lt.mp product)]
        rfl
    · simp only [checkedMul_error (not_lt.mp whole)]
      rfl

section Search

variable {numerator denominator scale : Nat}

/-- The test of the binary search. -/
def testMidpoint (numerator denominator scale midpoint : Nat) : Except SnapshotError Bool := do
  let ceiling ← ceilScaledDenominator midpoint denominator scale
  return decide (ceiling ≤ numerator)

/-- Each pass halves the interval, and its bounds stay within the width. -/
theorem searchPasses_eq {passes low high : Nat} (short : high - low < 2 ^ passes)
    (fits : high < u128Size) :
    searchPasses numerator denominator scale passes low high =
      onMachine (BinarySearch.searchLast (testMidpoint numerator denominator scale) low high) := by
  induction passes generalizing low high with
  | zero =>
      have closed : ¬ low < high := by
        rw [pow_zero] at short
        omega
      rw [searchPasses, if_neg closed, BinarySearch.searchLast, dif_neg closed]
      rfl
  | succ passes ih =>
      rw [searchPasses, BinarySearch.searchLast]
      by_cases wide : low < high
      · have half : low + (high - low + 1) / 2 ≤ high := by omega
        have above : low < low + (high - low + 1) / 2 := by omega
        rw [if_pos wide, dif_pos wide, plainSub_ok wide.le]
        simp only [ok_bind]
        rw [divCeil_two ((Nat.sub_le _ _).trans_lt fits)]
        simp only [ok_bind]
        rw [plainAdd_ok (half.trans_lt fits), onMachine_bind]
        simp only [ok_bind, ceilScaledDenominatorMachine_eq]
        have left : high - (low + (high - low + 1) / 2) < 2 ^ passes := by
          rw [pow_succ] at short
          omega
        have right : low + (high - low + 1) / 2 - 1 - low < 2 ^ passes := by
          rw [pow_succ] at short
          omega
        generalize low + (high - low + 1) / 2 = midpoint at half above left right
        unfold testMidpoint
        cases ceilScaledDenominator midpoint denominator scale with
        | error error => rfl
        | ok ceiling =>
            change (if ceiling ≤ numerator then _ else _) =
              onMachine (if decide (ceiling ≤ numerator) = true then _ else _)
            by_cases accepted : ceiling ≤ numerator
            · rw [if_pos accepted, if_pos (decide_eq_true accepted)]
              exact ih left fits
            · rw [if_neg accepted, if_neg (by simpa using accepted), plainSub_ok (by omega)]
              exact ih right (by omega)
      · rw [if_neg wide, dif_neg wide]
        rfl

theorem scaledProperFractionMachine_eq (proper : numerator < denominator)
    (narrow : scale ≤ u64Size) :
    scaledProperFractionMachine 65 numerator denominator scale =
      onMachine (scaledProperFraction numerator denominator scale) := by
  unfold scaledProperFractionMachine scaledProperFraction
  rw [if_pos proper]
  split
  · rfl
  · refine searchPasses_eq ?_ ?_
    · unfold u64Size at narrow
      omega
    · unfold u64Size at narrow
      unfold u128Size
      omega

/-- No plain operation of the scaled ratio leaves its width, and its search ends after at most 65
passes. -/
theorem checkedScaledRatioMachine_eq (positive : 0 < denominator) (narrow : scale ≤ u64Size) :
    checkedScaledRatioMachine 65 numerator denominator scale =
      onMachine (checkedScaledRatio numerator denominator scale) := by
  unfold checkedScaledRatioMachine checkedScaledRatio
  rw [if_neg positive.ne', if_neg positive.ne']
  dsimp only
  rw [scaledProperFractionMachine_eq (Nat.mod_lt numerator positive) narrow, onMachine_bind]
  simp only [onMachine_bind]
  rfl

/-- The scaled ratio of 128-bit values is the exact floor whenever that fits, and an error
otherwise; its binary search ends and none of its operations overflows. The width of the numerator
is not needed: it is only divided and reduced. -/
theorem checkedScaledRatio_exact {numerator denominator scale : Nat}
    (denominatorFits : denominator < u128Size) (positive : 0 < denominator)
    (narrow : scale ≤ 2 ^ 64) :
    checkedScaledRatio numerator denominator scale =
        (if numerator * scale / denominator < 2 ^ 128 then .ok (numerator * scale / denominator)
        else .error .arithmeticOverflow) ∧
      checkedScaledRatioMachine 65 numerator denominator scale =
        (if numerator * scale / denominator < 2 ^ 128 then .ok (numerator * scale / denominator)
        else .error (.returned .arithmeticOverflow)) := by
  have exact_ := @checkedScaledRatio_eq numerator denominator scale positive denominatorFits narrow
  refine ⟨exact_, ?_⟩
  rw [checkedScaledRatioMachine_eq positive narrow, exact_]
  by_cases fits : numerator * scale / denominator < u128Size
  · rw [if_pos fits]
    exact (if_pos fits).symm
  · rw [if_neg fits]
    exact (if_neg fits).symm

theorem checkedScaledRatio_exact_third :
    checkedScaledRatio 7 3 (2 ^ 64) = .ok 43042402838655620437 ∧
      checkedScaledRatioMachine 65 7 3 (2 ^ 64) = .ok 43042402838655620437 := by
  have both := @checkedScaledRatio_exact 7 3 (2 ^ 64) (by decide) (by decide) (le_refl (2 ^ 64))
  rw [if_pos (by decide), if_pos (by decide)] at both
  exact both

end Search

section Shares

/-- The share in basis points is the ceiling of the scaled fraction. -/
theorem fractionToBasisPoints_eq {numerator denominator : Nat} (positive : 0 < denominator)
    (fits : denominator < u128Size) (proper : numerator ≤ denominator) :
    fractionToBasisPoints numerator denominator = .ok (numerator * 10000 ⌈/⌉ denominator) := by
  obtain ⟨share, computed, within⟩ := fractionToBasisPoints_ok positive fits proper
  have ceiling : share = numerator * 10000 ⌈/⌉ denominator := by
    apply eq_of_forall_ge_iff
    intro limit
    rw [within limit, ceilDiv_le_iff_le_mul positive, Nat.mul_comm limit, basisPointsScale]
  rw [computed, ceiling]

/-- The ceiling stays within a limit exactly when the fraction does. -/
theorem ceilShare_le_iff {numerator denominator : Nat} (positive : 0 < denominator) (limit : Nat) :
    numerator * 10000 ⌈/⌉ denominator ≤ limit ↔ numerator * 10000 ≤ limit * denominator := by
  rw [ceilDiv_le_iff_le_mul positive, Nat.mul_comm limit]

/-- The share of the largest wallet is computed from its volume. -/
def IsShareOf (total : Nat) (largest : Option WalletVolumeShare) : Prop :=
  ∀ share, largest = some share →
    fractionToBasisPoints share.quoteVolumeUnits total = .ok share.shareBps

theorem IsShareOf.larger {total : Nat} {largest next : Option WalletVolumeShare}
    {entry : String × WalletMetrics} (before : IsShareOf total largest)
    (passed : largerWallet total largest entry = .ok next) : IsShareOf total next := by
  unfold largerWallet at passed
  obtain ⟨volume, -, passed⟩ := bind_ok passed
  dsimp only at passed
  split_ifs at passed
  · obtain ⟨shareBps, computed, passed⟩ := bind_ok passed
    cases passed
    intro share same
    cases same
    exact computed
  · cases passed
    exact before

/-- A share is computed of a part of a positive whole only. -/
theorem fractionToBasisPoints_proper {numerator denominator share : Nat}
    (computed : fractionToBasisPoints numerator denominator = .ok share) :
    0 < denominator ∧ numerator ≤ denominator := by
  unfold fractionToBasisPoints at computed
  split at computed
  · cases computed
  · rename_i valid
    simp only [Bool.or_eq_true, decide_eq_true_iff, not_or] at valid
    omega

/-- The largest wallet of finished metrics has the share of its volume in the whole. -/
theorem MetricsAccumulator.finish_largest {accumulator : MetricsAccumulator} {observations : Nat}
    {creators : Std.TreeSet String} {firstTrade lastTrade : Option TradeSample}
    {metrics : MarketWindowMetrics} {largest : WalletVolumeShare}
    (finished : accumulator.finish observations creators firstTrade lastTrade = .ok metrics)
    (found : metrics.largestWalletQuoteVolume = some largest) :
    metrics.buyQuoteUnits + metrics.sellQuoteUnits < u128Size ∧
      fractionToBasisPoints largest.quoteVolumeUnits
        (metrics.buyQuoteUnits + metrics.sellQuoteUnits) = .ok largest.shareBps := by
  unfold MetricsAccumulator.finish at finished
  obtain ⟨total, added, finished⟩ := bind_ok finished
  obtain ⟨traders, -, finished⟩ := bind_ok finished
  obtain ⟨buyers, -, finished⟩ := bind_ok finished
  obtain ⟨sellers, -, finished⟩ := bind_ok finished
  obtain ⟨candidate, folded, finished⟩ := bind_ok finished
  obtain ⟨creatorShare, -, finished⟩ := bind_ok finished
  have shared : IsShareOf total candidate :=
    Accumulation.foldlM_keeps (IsShareOf total)
      (fun entry before next _ kept passed => kept.larger passed)
      (fun share impossible => by cases impossible) folded
  have whole := checkedAdd_eq_ok added
  have fits : accumulator.buyQuoteUnits + accumulator.sellQuoteUnits < u128Size := by
    by_contra wide
    rw [checkedAdd_error (not_lt.mp wide)] at added
    cases added
  cases finished
  exact ⟨fits, whole ▸ shared largest found⟩

/-- The concentration rule compares the exact fraction of the largest wallet with the limit. -/
theorem walletConcentrationRule_exact {metrics : MarketWindowMetrics} {largest : WalletVolumeShare}
    (fits : metrics.buyQuoteUnits + metrics.sellQuoteUnits < u128Size)
    (shared : fractionToBasisPoints largest.quoteVolumeUnits
      (metrics.buyQuoteUnits + metrics.sellQuoteUnits) = .ok largest.shareBps)
    (snapshot : MarketWindowSnapshot) (same : snapshot.metrics = metrics)
    (found : metrics.largestWalletQuoteVolume = some largest) (policy : QualificationPolicy)
    (totalQuoteVolume : Nat) :
    (walletConcentrationRule snapshot policy totalQuoteVolume).decision = .pass ↔
      largest.quoteVolumeUnits * 10000 ≤ policy.maximumSingleWalletQuoteVolumeBps *
        (metrics.buyQuoteUnits + metrics.sellQuoteUnits) := by
  obtain ⟨positive, proper⟩ := fractionToBasisPoints_proper shared
  rw [fractionToBasisPoints_eq positive fits proper] at shared
  injection shared with shared
  rw [← ceilShare_le_iff positive, shared]
  unfold walletConcentrationRule
  rw [same, found]
  by_cases passes : largest.shareBps ≤ policy.maximumSingleWalletQuoteVolumeBps
  · simp [rule, passes]
  · simp [rule, passes]

/-- Shares in basis points round up exactly, so the concentration rule of every snapshot compares
exact fractions and passes no wallet above its limit. -/
theorem shares_round_up :
    (∀ numerator denominator, 0 < denominator → denominator < u128Size → numerator ≤ denominator →
      fractionToBasisPoints numerator denominator = .ok (numerator * 10000 ⌈/⌉ denominator) ∧
      ∀ share limit, fractionToBasisPoints numerator denominator = .ok share →
        (share ≤ limit ↔ numerator * 10000 ≤ limit * denominator)) ∧
    ∀ (market : MarketIdentity) (openedAtUnixMs closesAtUnixMs : Int)
      (completeness : SnapshotCompleteness) (observations : List NormalizedObservation)
      (snapshot : MarketWindowSnapshot) (policy : QualificationPolicy)
      (totalQuoteVolume : Nat) (largest : WalletVolumeShare),
      buildMarketWindowSnapshot market openedAtUnixMs closesAtUnixMs completeness observations =
        .ok snapshot →
      snapshot.metrics.largestWalletQuoteVolume = some largest →
      ((walletConcentrationRule snapshot policy totalQuoteVolume).decision = .pass ↔
        largest.quoteVolumeUnits * 10000 ≤ policy.maximumSingleWalletQuoteVolumeBps *
          (snapshot.metrics.buyQuoteUnits + snapshot.metrics.sellQuoteUnits)) ∧
      ((walletConcentrationRule snapshot policy totalQuoteVolume).decision = .pass →
        ∀ wallet ∈ (snapshot.tradeSamples.map TradeSample.trade).map Trade.wallet,
          walletVolume (snapshot.tradeSamples.map TradeSample.trade) wallet * 10000 ≤
            policy.maximumSingleWalletQuoteVolumeBps *
              (snapshot.metrics.buyQuoteUnits + snapshot.metrics.sellQuoteUnits)) := by
  constructor
  · intro numerator denominator positive fits proper
    have rounded := fractionToBasisPoints_eq positive fits proper
    refine ⟨rounded, ?_⟩
    intro share limit computed
    rw [rounded] at computed
    injection computed with ceiling
    rw [← ceiling]
    exact ceilShare_le_iff positive limit
  · intro market openedAtUnixMs closesAtUnixMs completeness observations snapshot policy
      totalQuoteVolume largest built found
    obtain ⟨accumulator, count, firstTrade, lastTrade, accumulated, finished⟩ :=
      buildMarketWindowSnapshot_sampled built
    obtain ⟨fits, shared⟩ := MetricsAccumulator.finish_largest finished found
    have exact_ := walletConcentrationRule_exact fits shared snapshot rfl found policy
      totalQuoteVolume
    refine ⟨exact_, ?_⟩
    intro passes wallet traded
    obtain ⟨-, volume, dominates⟩ := (accumulated.conserved finished).largest largest found
    have smaller : walletVolume (snapshot.tradeSamples.map TradeSample.trade) wallet ≤
        largest.quoteVolumeUnits := by
      rw [volume]
      rcases dominates wallet traded with below | ⟨equal, -⟩
      · exact below.le
      · exact equal.le
    exact (Nat.mul_le_mul_right 10000 smaller).trans (exact_.mp passes)

/-- A limit of 90 percent. -/
def ninetyPercent : QualificationPolicy where
  rulesetVersion := "exact-concentration-v1"
  minimumTrades := 2
  minimumUniqueTraders := 2
  minimumBuys := 1
  minimumSells := 1
  minimumNativeQuoteVolumeUnits := 1
  minimumStableQuoteVolumeUnits := 1
  maximumSingleWalletQuoteVolumeBps := 9000

/-- A wallet with 9001 of 10001 units rounds up to 9001 basis points and exceeds 90 percent. -/
theorem shares_round_up_dominant :
    fractionToBasisPoints 9001 10001 = .ok 9001 ∧ ∃ snapshot largest,
      buildMarketWindowSnapshot (sampleTrade 0 .buy "dominant" 9001).market 0 200 .complete
          [sampleTrade 0 .buy "dominant" 9001, sampleTrade 1 .sell "other" 1000] = .ok snapshot ∧
      snapshot.metrics.largestWalletQuoteVolume = some largest ∧
      ((walletConcentrationRule snapshot ninetyPercent 10001).decision = .pass ↔
        largest.quoteVolumeUnits * 10000 ≤
          9000 * (snapshot.metrics.buyQuoteUnits + snapshot.metrics.sellQuoteUnits)) := by
  constructor
  · rw [(shares_round_up.1 9001 10001 (by decide) (by decide) (by decide)).1]
    decide
  · obtain ⟨snapshot, built, described⟩ := buildMarketWindowSnapshot_ok
      (sampleTrade 0 .buy "dominant" 9001).market .complete (show (0 : Int) < 200 by decide) rfl
      (show [sampleTrade 0 .buy "dominant" 9001, sampleTrade 1 .sell "other" 1000].length < 2 ^ 63
        by decide)
      (by decide)
    have maximal := described.metrics.largest
    cases found : snapshot.metrics.largestWalletQuoteVolume with
    | none =>
        rw [found] at maximal
        have nobody := List.map_eq_nil_iff.mp maximal
        exact absurd nobody (by decide)
    | some largest =>
        exact ⟨snapshot, largest, built, found, (shares_round_up.2 _ 0 200 .complete _ snapshot
          ninetyPercent 10001 largest built found).1⟩

end Shares

end Soldisco.Snapshot
