import Soldisco.Construction.Snapshot.Builder
import Soldisco.Proof.Snapshot.Metrics

/-
This file proves that the snapshot builder succeeds and describes the trades of its slice.
-/

namespace Soldisco.Snapshot
open Domain MachineInteger MetricsAccumulator

/-- The trade that an observation reports. -/
def tradeOf (observation : NormalizedObservation) : Option Trade :=
  match observation.payload with
  | .trade side wallet baseAmount quoteAmount _ _ =>
      some { side, wallet, baseUnits := baseAmount.toNat, quoteUnits := quoteAmount.toNat }
  | _ => none

/-- A well-formed trade names its wallet and moves both assets. -/
def Trade.wellFormed (trade : Trade) : Bool :=
  !Text.isBlank trade.wallet && trade.baseUnits != 0 && trade.quoteUnits != 0

/-- The trades of one market received inside the half-open interval. -/
def sliceTrades (market : MarketIdentity) (openedAtUnixMs closesAtUnixMs : Int)
    (observations : List NormalizedObservation) : List Trade :=
  (observations.filter (inSlice market openedAtUnixMs closesAtUnixMs)).filterMap tradeOf

/-- The trades that enter the metrics. -/
def recordedTrades (observations : List NormalizedObservation) : List Trade :=
  (observations.filterMap tradeOf).filter Trade.wellFormed

theorem tradeOf_bounds {observation : NormalizedObservation} {trade : Trade}
    (reported : tradeOf observation = some trade) :
    trade.baseUnits < u64Size ∧ trade.quoteUnits < u64Size := by
  unfold tradeOf at reported
  split at reported
  · cases reported
    exact ⟨UInt64.toNat_lt _, UInt64.toNat_lt _⟩
  · cases reported

theorem Trade.wellFormed_pos {trade : Trade} (valid : trade.wellFormed = true) :
    0 < trade.baseUnits ∧ 0 < trade.quoteUnits := by
  simp only [wellFormed, Bool.and_eq_true, bne_iff_ne] at valid
  omega

theorem recordedTrades_inRange {observations : List NormalizedObservation}
    (length : observations.length < 2 ^ 63) : TradesInRange (recordedTrades observations) where
  length := by
    have reported := List.length_filterMap_le tradeOf observations
    have recorded := List.length_filter_le Trade.wellFormed (observations.filterMap tradeOf)
    exact (recorded.trans reported).trans_lt length
  base := fun trade member => by
    obtain ⟨observation, -, reported⟩ := List.mem_filterMap.mp (List.mem_of_mem_filter member)
    exact (tradeOf_bounds reported).1
  quote := fun trade member => by
    obtain ⟨observation, -, reported⟩ := List.mem_filterMap.mp (List.mem_of_mem_filter member)
    exact (tradeOf_bounds reported).2
  positive := fun trade member => (Trade.wellFormed_pos (List.mem_filter.mp member).2).2

/-- Prices are ratios of 64-bit amounts. -/
def PriceRatio.InRange (ratio : PriceRatio) : Prop :=
  ratio.quoteUnits < u64Size ∧ ratio.baseUnits < u64Size

theorem PriceRatio.new_ok {quoteUnits baseUnits : Nat} (quotePositive : 0 < quoteUnits)
    (basePositive : 0 < baseUnits) (quote : quoteUnits < u64Size) (base : baseUnits < u64Size) :
    ∃ ratio, PriceRatio.new quoteUnits baseUnits = .ok ratio ∧ ratio.InRange := by
  have valid : ¬ (quoteUnits = 0 || baseUnits = 0) = true := by
    simp
    omega
  rw [PriceRatio.new, if_neg valid]
  exact ⟨_, rfl, (Nat.div_le_self _ _).trans_lt quote, (Nat.div_le_self _ _).trans_lt base⟩

theorem mul_lt_u128Size {left right : Nat} (leftBound : left < u64Size)
    (rightBound : right < u64Size) : left * right < u128Size :=
  calc left * right < u64Size * u64Size := Nat.mul_lt_mul'' leftBound rightBound
    _ = u128Size := by decide

theorem PriceRatio.checkedCmp_ok {price other : PriceRatio} (range : price.InRange)
    (otherRange : other.InRange) : ∃ order, price.checkedCmp other = .ok order := by
  rw [checkedCmp, checkedMul_ok (mul_lt_u128Size range.1 otherRange.2),
    checkedMul_ok (mul_lt_u128Size otherRange.1 range.2)]
  exact ⟨_, rfl⟩

/-- One pass of the price loop succeeds and keeps the bounds in range. -/
theorem comparePrice_ok {bounds : PricePoint × PricePoint} {point : PricePoint}
    (low : bounds.1.ratio.InRange) (high : bounds.2.ratio.InRange) (range : point.ratio.InRange) :
    ∃ next, comparePrice bounds point = .ok next ∧ next.1.ratio.InRange ∧ next.2.ratio.InRange := by
  obtain ⟨lowOrder, lowOk⟩ := PriceRatio.checkedCmp_ok range low
  obtain ⟨highOrder, highOk⟩ := PriceRatio.checkedCmp_ok range high
  simp only [comparePrice, lowOk, highOk, ok_bind]
  refine ⟨_, rfl, ?_, ?_⟩
  · dsimp only
    split <;> assumption
  · dsimp only
    split <;> assumption

theorem summarizePrices_ok {points : List PricePoint}
    (range : ∀ point ∈ points, point.ratio.InRange) :
    ∃ prices, summarizePrices points = .ok prices := by
  cases points with
  | nil => exact ⟨none, rfl⟩
  | cons first rest =>
      have firstRange := range first List.mem_cons_self
      let bounded (bounds : PricePoint × PricePoint) :=
        bounds.1.ratio.InRange ∧ bounds.2.ratio.InRange
      have initial : bounded (first, first) := ⟨firstRange, firstRange⟩
      obtain ⟨bounds, folded, -⟩ := Accumulation.foldlM_ok (fun _ => bounded) initial
        (fun seen point bounds position before => comparePrice_ok before.1 before.2
          (range point (List.mem_cons_of_mem first (position.subset (by simp)))))
      simp only [summarizePrices, folded, ok_bind]
      exact ⟨_, rfl⟩

/-- A mark leaves no window complete. -/
@[simp] theorem isComplete_markIncompleteIfComplete (completeness : SnapshotCompleteness)
    (reasonCode : String) :
    (markIncompleteIfComplete completeness reasonCode).isComplete = false := by
  cases completeness <;> rfl

/-- The loop describes the observations that it has visited. -/
structure SnapshotLoop.Visited (completeness : SnapshotCompleteness)
    (seen : List NormalizedObservation) (loop : SnapshotLoop) : Prop where
  complete : loop.completeness.isComplete =
    (completeness.isComplete && (seen.filterMap tradeOf).all Trade.wellFormed)
  accumulated : Accumulated loop.accumulator (recordedTrades seen)
  keys : loop.observationKeys.length = seen.length
  prices : ∀ point ∈ loop.pricePoints, point.ratio.InRange

namespace SnapshotLoop

theorem start_visited (completeness : SnapshotCompleteness) :
    Visited completeness [] (start completeness) where
  complete := (Bool.and_true _).symm
  accumulated := default_accumulated
  keys := rfl
  prices := fun _ member => nomatch member

section Visit

variable {completeness : SnapshotCompleteness} {seen : List NormalizedObservation}
  {loop : SnapshotLoop} {observation : NormalizedObservation}

/-- An observation without a trade leaves the trades, the prices and the completeness alone. -/
theorem Visited.other (visited : Visited completeness seen loop) (other : tradeOf observation = none)
    {next : SnapshotLoop} (sameCompleteness : next.completeness = loop.completeness)
    (sameAccumulator : next.accumulator = loop.accumulator)
    (samePrices : next.pricePoints = loop.pricePoints)
    (listed : next.observationKeys = loop.observationKeys ++ [observation.key]) :
    Visited completeness (seen ++ [observation]) next where
  complete := by simp [sameCompleteness, visited.complete, other]
  accumulated := by
    rw [sameAccumulator]
    simpa [recordedTrades, other] using visited.accumulated
  keys := by simp [listed, visited.keys]
  prices := by
    rw [samePrices]
    exact visited.prices

/-- A malformed trade makes the window incomplete and is not recorded. -/
theorem Visited.malformed (visited : Visited completeness seen loop) {trade : Trade}
    (reported : tradeOf observation = some trade) (malformed : trade.wellFormed = false)
    (reasonCode : String) :
    Visited completeness (seen ++ [observation]) { loop.list observation with
      completeness := markIncompleteIfComplete loop.completeness reasonCode } where
  complete := by simp [reported, malformed]
  accumulated := by simpa [recordedTrades, reported, malformed, list] using visited.accumulated
  keys := by simp [list, visited.keys]
  prices := visited.prices

/-- One pass over an observation with a trade. -/
theorem Visited.recordTrade (visited : Visited completeness seen loop) {trade : Trade}
    (reported : tradeOf observation = some trade)
    (length : (seen ++ [observation]).length < 2 ^ 63)
    (baseReserveUnits quoteReserveUnits : Option Nat) :
    ∃ next, (loop.list observation).recordTrade observation trade.side trade.wallet trade.baseUnits
        trade.quoteUnits baseReserveUnits quoteReserveUnits = .ok next ∧
      Visited completeness (seen ++ [observation]) next := by
  rw [SnapshotLoop.recordTrade]
  by_cases blank : Text.isBlank trade.wallet = true
  · rw [if_pos blank]
    have malformed : trade.wellFormed = false := by simp [Trade.wellFormed, blank]
    exact ⟨_, rfl, visited.malformed reported malformed _⟩
  rw [if_neg blank]
  by_cases zero : (trade.baseUnits = 0 || trade.quoteUnits = 0) = true
  · rw [if_pos zero]
    have malformed : trade.wellFormed = false := by
      simp only [Bool.or_eq_true, decide_eq_true_eq] at zero
      rcases zero with zero | zero <;> simp [Trade.wellFormed, zero]
    exact ⟨_, rfl, visited.malformed reported malformed _⟩
  rw [if_neg zero]
  have valid : trade.wellFormed = true := by
    simp only [Bool.or_eq_true, decide_eq_true_eq, not_or] at zero
    simp [Trade.wellFormed, blank, zero]
  obtain ⟨basePositive, quotePositive⟩ := Trade.wellFormed_pos valid
  obtain ⟨base, quote⟩ := tradeOf_bounds reported
  obtain ⟨ratio, divided, ratioRange⟩ := PriceRatio.new_ok quotePositive basePositive quote base
  have recorded : recordedTrades (seen ++ [observation]) = recordedTrades seen ++ [trade] := by
    simp [recordedTrades, reported, valid]
  have range := recordedTrades_inRange length
  rw [recorded] at range
  obtain ⟨accumulator, added, accumulated⟩ := visited.accumulated.checkedRecord range
  have listed : (loop.list observation).accumulator = loop.accumulator := rfl
  simp only [divided, listed, added, ok_bind]
  refine ⟨_, rfl, ?_⟩
  refine
    { complete := by simp [list, visited.complete, reported, valid]
      accumulated := recorded ▸ accumulated
      keys := by simp [list, visited.keys]
      prices := ?_ }
  intro point member
  rcases List.mem_append.mp member with earlier | latest
  · exact visited.prices point earlier
  · rw [List.mem_singleton.mp latest]
    exact ratioRange

/-- One pass over any observation succeeds and keeps the description. -/
theorem Visited.visit (visited : Visited completeness seen loop)
    (length : (seen ++ [observation]).length < 2 ^ 63) :
    ∃ next, loop.visit observation = .ok next ∧
      Visited completeness (seen ++ [observation]) next := by
  cases payload : observation.payload with
  | trade side wallet baseAmount quoteAmount baseReserve quoteReserve =>
      have reported : tradeOf observation = some
          { side, wallet, baseUnits := baseAmount.toNat, quoteUnits := quoteAmount.toNat } := by
        simp only [tradeOf, payload]
      simp only [SnapshotLoop.visit, payload]
      exact visited.recordTrade reported length _ _
  | _ =>
      have other : tradeOf observation = none := by simp only [tradeOf, payload]
      simp only [SnapshotLoop.visit, payload]
      exact ⟨_, rfl, visited.other other rfl rfl rfl rfl⟩

end Visit
end SnapshotLoop

/-- Observations with distinct keys have no duplicate. -/
theorem firstDuplicate_eq_none {observations : List NormalizedObservation}
    (distinct : (observations.map NormalizedObservation.key).Nodup) (seen : List ObservationKey)
    (fresh : ∀ observation ∈ observations, observation.key ∉ seen) :
    firstDuplicate seen observations = none := by
  induction observations generalizing seen with
  | nil => rfl
  | cons observation rest ih =>
      obtain ⟨absent, distinctRest⟩ := List.nodup_cons.mp distinct
      rw [firstDuplicate, if_neg (fresh observation List.mem_cons_self)]
      apply ih distinctRest
      intro later member
      simp only [List.mem_cons, not_or]
      refine ⟨fun equal => absent ?_, fresh later (List.mem_cons_of_mem _ member)⟩
      exact equal ▸ List.mem_map_of_mem member

section Order

variable {sorted trades : List Trade}

theorem walletVolume_perm (same : sorted.Perm trades) (wallet : String) :
    walletVolume sorted wallet = walletVolume trades wallet :=
  ((same.filter _).map _).sum_eq

theorem quoteVolume_perm (same : sorted.Perm trades) : quoteVolume sorted = quoteVolume trades :=
  (same.map _).sum_eq

/-- The order of the trades does not matter for the largest wallet. -/
theorem Largest.perm (same : sorted.Perm trades) {seen : List String}
    {largest : Option WalletVolumeShare} (before : Largest sorted seen largest) :
    Largest trades seen largest := by
  cases largest with
  | none => exact before
  | some largest =>
      exact {
        member := before.member
        volume := before.volume.trans (walletVolume_perm same _)
        maximal := fun wallet member => walletVolume_perm same wallet ▸ before.maximal wallet member
        share := quoteVolume_perm same ▸ before.share }

/-- The order of the trades does not matter for the metrics of the window. -/
theorem MetricsOf.perm (same : sorted.Perm trades) {metrics : MarketWindowMetrics}
    (before : MetricsOf sorted metrics) : MetricsOf trades metrics where
  count := before.count.trans same.length_eq
  buys := before.buys.trans (same.countP_eq _)
  sells := before.sells.trans (same.countP_eq _)
  uniqueTraders := before.uniqueTraders.trans (same.map _).dedup.length_eq
  volume := quoteVolume_perm same ▸ before.volume
  largest := (before.largest.perm same).congr fun _ => (same.map Trade.wallet).mem_iff

end Order

/-- The snapshot describes the trades of its slice; one malformed trade makes it incomplete. -/
structure SnapshotOf (market : MarketIdentity) (completeness : SnapshotCompleteness)
    (trades : List Trade) (snapshot : MarketWindowSnapshot) : Prop where
  market : snapshot.market = market
  complete : snapshot.completeness.isComplete =
    (completeness.isComplete && trades.all Trade.wellFormed)
  metrics : MetricsOf (trades.filter Trade.wellFormed) snapshot.metrics

/-- The builder succeeds on a slice of distinct observations and describes its trades. -/
theorem buildMarketWindowSnapshot_slice_ok (market : MarketIdentity)
    (completeness : SnapshotCompleteness)
    {openedAtUnixMs closesAtUnixMs : Int} {observations : List NormalizedObservation}
    (bounds : openedAtUnixMs < closesAtUnixMs)
    (reason : completeness.reasonCode.any Text.isBlank = false)
    (length : observations.length < 2 ^ 63)
    (distinct : ((observations.filter (inSlice market openedAtUnixMs closesAtUnixMs)).map
      NormalizedObservation.key).Nodup) :
    ∃ snapshot, buildMarketWindowSnapshot market openedAtUnixMs closesAtUnixMs completeness
        observations = .ok snapshot ∧
      SnapshotOf market completeness (sliceTrades market openedAtUnixMs closesAtUnixMs observations)
        snapshot := by
  set slice := observations.filter (inSlice market openedAtUnixMs closesAtUnixMs) with sliceEq
  set matching := slice.insertionSort fun left right => observationOrder left right ≠ .gt
    with matchingEq
  have same : matching.Perm slice := List.perm_insertionSort _ _
  have matchingLength : matching.length < 2 ^ 63 := by
    rw [same.length_eq]
    exact (List.length_filter_le _ _).trans_lt length
  have matchingDistinct : (matching.map NormalizedObservation.key).Nodup :=
    (same.map _).nodup_iff.mpr distinct
  have duplicate := firstDuplicate_eq_none matchingDistinct [] (by simp)
  obtain ⟨loop, folded, visited⟩ := Accumulation.foldlM_ok (SnapshotLoop.Visited completeness)
    (SnapshotLoop.start_visited completeness) (fun seen observation loop position before =>
      before.visit (position.length_le.trans_lt matchingLength))
  have listed : loop.observationKeys.length < u64Size := by
    rw [visited.keys]
    exact matchingLength.trans (by decide)
  obtain ⟨metrics, finished, described⟩ := visited.accumulated.finish
    (recordedTrades_inRange matchingLength) loop.observationKeys.length (creatorWallets matching)
    loop.tradeSamples.head? loop.tradeSamples.getLast?
  obtain ⟨prices, summarized⟩ := summarizePrices_ok visited.prices
  have reported : (matching.filterMap tradeOf).Perm
      (sliceTrades market openedAtUnixMs closesAtUnixMs observations) := same.filterMap _
  rw [buildMarketWindowSnapshot, if_neg (by omega), reason]
  simp only [Bool.false_eq_true, if_false, ← sliceEq, ← matchingEq, duplicate, folded, ok_bind,
    tryFrom_ok listed, finished, summarized]
  refine ⟨_, rfl, rfl, ?_, described.perm (reported.filter _)⟩
  rw [visited.complete, reported.all_eq]

/-- The builder succeeds on distinct observations and describes the trades of the slice. -/
theorem buildMarketWindowSnapshot_ok (market : MarketIdentity) (completeness : SnapshotCompleteness)
    {openedAtUnixMs closesAtUnixMs : Int} {observations : List NormalizedObservation}
    (bounds : openedAtUnixMs < closesAtUnixMs)
    (reason : completeness.reasonCode.any Text.isBlank = false)
    (length : observations.length < 2 ^ 63)
    (distinct : (observations.map NormalizedObservation.key).Nodup) :
    ∃ snapshot, buildMarketWindowSnapshot market openedAtUnixMs closesAtUnixMs completeness
        observations = .ok snapshot ∧
      SnapshotOf market completeness (sliceTrades market openedAtUnixMs closesAtUnixMs observations)
        snapshot :=
  buildMarketWindowSnapshot_slice_ok market completeness bounds reason length
    (distinct.sublist (List.filter_sublist.map _))

end Soldisco.Snapshot
