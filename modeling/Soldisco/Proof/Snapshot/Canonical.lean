import Soldisco.Proof.Snapshot.Builder

/-
This file proves that a snapshot is rebuilt from its own completeness and counts consistently.
-/

namespace Soldisco.Snapshot
open Domain MachineInteger MetricsAccumulator

namespace SnapshotLoop

def withCompleteness (loop : SnapshotLoop) (completeness : SnapshotCompleteness) : SnapshotLoop :=
  { loop with completeness }

/-- The evidence of a loop that starts incomplete does not depend on its reason. -/
theorem visit_withCompleteness (loop : SnapshotLoop) (observation : NormalizedObservation)
    (reasonCode : String) :
    (loop.withCompleteness (.incomplete reasonCode)).visit observation =
      (loop.visit observation).map fun next => next.withCompleteness (.incomplete reasonCode) := by
  cases payload : observation.payload with
  | trade side wallet baseAmount quoteAmount baseReserve quoteReserve =>
      simp only [visit, payload, recordTrade]
      by_cases blank : Text.isBlank wallet = true
      · rw [if_pos blank, if_pos blank]
        rfl
      rw [if_neg blank, if_neg blank]
      by_cases zero : (baseAmount.toNat = 0 || quoteAmount.toNat = 0) = true
      · rw [if_pos zero, if_pos zero]
        rfl
      rw [if_neg zero, if_neg zero]
      have listed : ((loop.withCompleteness (.incomplete reasonCode)).list observation).accumulator =
          (loop.list observation).accumulator := rfl
      rw [listed]
      cases PriceRatio.new quoteAmount.toNat baseAmount.toNat with
      | error error => rfl
      | ok ratio =>
          cases (loop.list observation).accumulator.checkedRecord side wallet baseAmount.toNat
              quoteAmount.toNat with
          | error error => rfl
          | ok accumulator => rfl
  | _ =>
      simp only [visit, payload]
      rfl

theorem foldlM_withCompleteness (observations : List NormalizedObservation) (loop : SnapshotLoop)
    (reasonCode : String) :
    observations.foldlM visit (loop.withCompleteness (.incomplete reasonCode)) =
      (observations.foldlM visit loop).map fun last =>
        last.withCompleteness (.incomplete reasonCode) := by
  induction observations generalizing loop with
  | nil => rfl
  | cons observation rest ih =>
      rw [List.foldlM_cons, List.foldlM_cons, visit_withCompleteness]
      cases loop.visit observation with
      | error error => rfl
      | ok next => exact ih next

end SnapshotLoop

def MarketWindowSnapshot.withCompleteness (snapshot : MarketWindowSnapshot)
    (completeness : SnapshotCompleteness) : MarketWindowSnapshot :=
  { snapshot with completeness }

/-- A request with a reason builds the evidence of a complete request under that reason. -/
theorem buildMarketWindowSnapshot_incomplete (market : MarketIdentity)
    (openedAtUnixMs closesAtUnixMs : Int) (observations : List NormalizedObservation)
    {reasonCode : String} (visible : Text.isBlank reasonCode = false) :
    buildMarketWindowSnapshot market openedAtUnixMs closesAtUnixMs (.incomplete reasonCode)
        observations =
      (buildMarketWindowSnapshot market openedAtUnixMs closesAtUnixMs .complete observations).map
        fun snapshot => snapshot.withCompleteness (.incomplete reasonCode) := by
  unfold buildMarketWindowSnapshot
  by_cases bounds : closesAtUnixMs ≤ openedAtUnixMs
  · rw [if_pos bounds, if_pos bounds]
    rfl
  have present : ((SnapshotCompleteness.incomplete reasonCode).reasonCode.any Text.isBlank) = false :=
    visible
  have absent : (SnapshotCompleteness.complete.reasonCode.any Text.isBlank) = false := rfl
  rw [if_neg bounds, if_neg bounds, present, absent]
  simp only [Bool.false_eq_true, if_false]
  split
  · rfl
  have started : SnapshotLoop.start (.incomplete reasonCode) =
      (SnapshotLoop.start .complete).withCompleteness (.incomplete reasonCode) := rfl
  rw [started, SnapshotLoop.foldlM_withCompleteness]
  cases List.foldlM SnapshotLoop.visit (SnapshotLoop.start .complete) _ with
  | error error => rfl
  | ok loop =>
      simp only [Except.map, ok_bind, SnapshotLoop.withCompleteness]
      cases tryFrom u64Size loop.observationKeys.length with
      | error error => rfl
      | ok count =>
          simp only [ok_bind]
          cases loop.accumulator.finish count _ loop.tradeSamples.head?
              loop.tradeSamples.getLast? with
          | error error => rfl
          | ok metrics =>
              simp only [ok_bind]
              cases summarizePrices loop.pricePoints with
              | error error => rfl
              | ok prices => rfl

/-- A snapshot comes from the loop over its sorted slice. -/
theorem buildMarketWindowSnapshot_eq_ok {market : MarketIdentity}
    {openedAtUnixMs closesAtUnixMs : Int} {completeness : SnapshotCompleteness}
    {observations : List NormalizedObservation} {snapshot : MarketWindowSnapshot}
    (built : buildMarketWindowSnapshot market openedAtUnixMs closesAtUnixMs completeness
      observations = .ok snapshot) :
    ∃ (matching : List NormalizedObservation) (loop : SnapshotLoop)
      (creators : Std.TreeSet String) (firstTrade lastTrade : Option TradeSample) (count : Nat),
      matching.Perm (observations.filter (inSlice market openedAtUnixMs closesAtUnixMs)) ∧
      matching.foldlM SnapshotLoop.visit (.start completeness) = .ok loop ∧
      tryFrom u64Size loop.observationKeys.length = .ok count ∧
      loop.accumulator.finish count creators firstTrade lastTrade = .ok snapshot.metrics ∧
      snapshot.completeness = loop.completeness := by
  unfold buildMarketWindowSnapshot at built
  split at built
  · cases built
  split at built
  · cases built
  dsimp only at built
  split at built
  · cases built
  obtain ⟨loop, folded, built⟩ := Accumulation.bind_eq_ok.mp built
  obtain ⟨count, counted, built⟩ := Accumulation.bind_eq_ok.mp built
  obtain ⟨metrics, finished, built⟩ := Accumulation.bind_eq_ok.mp built
  obtain ⟨prices, -, built⟩ := Accumulation.bind_eq_ok.mp built
  cases built
  exact ⟨_, loop, _, _, _, count, List.perm_insertionSort _ _, folded, counted, finished, rfl⟩

/-- A reason that the loop introduces is not blank. -/
theorem SnapshotLoop.visit_reasonCode {loop next : SnapshotLoop} {observation : NormalizedObservation}
    (visited : loop.visit observation = .ok next)
    (visible : loop.completeness.reasonCode.any Text.isBlank = false) :
    next.completeness.reasonCode.any Text.isBlank = false := by
  have marked : ∀ reasonCode, Text.isBlank reasonCode = false →
      (markIncompleteIfComplete loop.completeness reasonCode).reasonCode.any Text.isBlank =
        false := by
    intro reasonCode present
    unfold markIncompleteIfComplete
    split
    · exact present
    · exact visible
  unfold visit at visited
  dsimp only at visited
  split at visited
  · unfold recordTrade at visited
    split at visited
    · cases visited
      exact marked _ (by decide)
    split at visited
    · cases visited
      exact marked _ (by decide)
    obtain ⟨ratio, -, visited⟩ := Accumulation.bind_eq_ok.mp visited
    obtain ⟨accumulator, -, visited⟩ := Accumulation.bind_eq_ok.mp visited
    cases visited
    exact visible
  all_goals
    cases visited
    exact visible

theorem SnapshotLoop.foldlM_reasonCode {observations : List NormalizedObservation}
    {loop last : SnapshotLoop} (folded : observations.foldlM visit loop = .ok last)
    (visible : loop.completeness.reasonCode.any Text.isBlank = false) :
    last.completeness.reasonCode.any Text.isBlank = false := by
  induction observations generalizing loop with
  | nil =>
      cases folded
      exact visible
  | cons observation rest ih =>
      obtain ⟨next, visited, folded⟩ := Accumulation.foldlM_cons_eq_ok.mp folded
      exact ih folded (visit_reasonCode visited visible)

/-- The reason of a snapshot is visible when the requested one is. -/
theorem buildMarketWindowSnapshot_reasonCode {market : MarketIdentity}
    {openedAtUnixMs closesAtUnixMs : Int} {completeness : SnapshotCompleteness}
    {observations : List NormalizedObservation} {snapshot : MarketWindowSnapshot}
    (built : buildMarketWindowSnapshot market openedAtUnixMs closesAtUnixMs completeness
      observations = .ok snapshot)
    (visible : completeness.reasonCode.any Text.isBlank = false) :
    snapshot.completeness.reasonCode.any Text.isBlank = false := by
  obtain ⟨matching, loop, creators, firstTrade, lastTrade, count, -, folded, -, -, same⟩ :=
    buildMarketWindowSnapshot_eq_ok built
  rw [same]
  exact SnapshotLoop.foldlM_reasonCode folded visible

/-- The completeness of a request for a reason. -/
def requestedCompleteness : Option String → SnapshotCompleteness
  | some reasonCode => .incomplete reasonCode
  | none => .complete

theorem requestedCompleteness_reasonCode (completeness : SnapshotCompleteness) :
    requestedCompleteness completeness.reasonCode = completeness := by
  cases completeness <;> rfl

/-- A snapshot is rebuilt from the reason that it carries. -/
theorem buildMarketWindowSnapshot_rebuild {market : MarketIdentity}
    {openedAtUnixMs closesAtUnixMs : Int} {reason : Option String}
    {observations : List NormalizedObservation} {snapshot : MarketWindowSnapshot}
    (built : buildMarketWindowSnapshot market openedAtUnixMs closesAtUnixMs
      (requestedCompleteness reason) observations = .ok snapshot)
    (visible : reason.any Text.isBlank = false) :
    buildMarketWindowSnapshot market openedAtUnixMs closesAtUnixMs
      (requestedCompleteness snapshot.completeness.reasonCode) observations = .ok snapshot := by
  rw [requestedCompleteness_reasonCode]
  cases reason with
  | some reasonCode =>
      have requested := buildMarketWindowSnapshot_incomplete market openedAtUnixMs closesAtUnixMs
        observations visible
      change buildMarketWindowSnapshot market openedAtUnixMs closesAtUnixMs (.incomplete reasonCode)
        observations = .ok snapshot at built
      rw [requested] at built
      cases complete : buildMarketWindowSnapshot market openedAtUnixMs closesAtUnixMs .complete
          observations with
      | error error =>
          rw [complete] at built
          cases built
      | ok evidence =>
          rw [complete] at built
          cases built
          change buildMarketWindowSnapshot market openedAtUnixMs closesAtUnixMs
            (.incomplete reasonCode) observations = _
          rw [requested, complete]
          rfl
  | none =>
      have own := buildMarketWindowSnapshot_reasonCode built rfl
      change buildMarketWindowSnapshot market openedAtUnixMs closesAtUnixMs .complete observations =
        .ok snapshot at built
      cases carried : snapshot.completeness with
      | complete => exact built
      | incomplete reasonCode =>
          rw [carried] at own
          rw [buildMarketWindowSnapshot_incomplete market openedAtUnixMs closesAtUnixMs observations
            own, built]
          change Except.ok (snapshot.withCompleteness (.incomplete reasonCode)) = _
          unfold MarketWindowSnapshot.withCompleteness
          rw [← carried]

/-- The number of wallets with a trade on one side stays within the trades of that side. -/
theorem countP_wallets_le {accumulator : MetricsAccumulator} {trades : List Trade}
    (accumulated : Accumulated accumulator trades) (side : TradeSide)
    (count : WalletMetrics → Nat)
    (counts : ∀ wallet, count (metricsOf (tradesOf wallet trades)) =
      sideCount side (tradesOf wallet trades)) :
    (accumulator.wallets.toList.countP fun entry => count entry.2 > 0) ≤ sideCount side trades := by
  have ones : ∀ items : List Trade, sideCount side items =
      (items.map fun trade => if trade.side = side then 1 else 0).sum := by
    intro items
    induction items with
    | nil => rfl
    | cons trade rest ih =>
        rw [List.map_cons, List.sum_cons, ← ih, sideCount, List.countP_cons, ← sideCount]
        by_cases same : trade.side = side <;> simp [same, Nat.add_comm]
  have each : ∀ entry ∈ accumulator.wallets.toList, count entry.2 =
      ((trades.filter fun trade => trade.wallet = entry.1).map fun trade =>
        if trade.side = side then 1 else 0).sum := by
    intro entry member
    rw [(accumulated.entry member).2, counts, ones]
    rfl
  have positive : ∀ entries : List (String × WalletMetrics),
      (entries.countP fun entry => count entry.2 > 0) ≤
        (entries.map fun entry => count entry.2).sum := by
    intro entries
    induction entries with
    | nil => exact Nat.le_refl _
    | cons entry rest ih =>
        rw [List.countP_cons, List.map_cons, List.sum_cons]
        by_cases some : count entry.2 > 0
        · rw [if_pos (by simpa using some)]
          omega
        · rw [if_neg (by simpa using some)]
          omega
  have distinct : (accumulator.wallets.toList.map Prod.fst).Nodup := by
    rw [Std.TreeMap.map_fst_toList_eq_keys]
    exact Std.TreeMap.nodup_keys
  have groups := Accumulation.sum_groups_le _ distinct trades Trade.wallet fun trade =>
    if trade.side = side then 1 else 0
  rw [List.map_map] at groups
  rw [ones trades]
  refine (positive _).trans (le_of_eq_of_le ?_ groups)
  exact congrArg List.sum (List.map_congr_left each)

/-- The counts, sums and shares of finished metrics fit together. -/
structure MetricsConsistent (metrics : MarketWindowMetrics) : Prop where
  sides : metrics.buys + metrics.sells = metrics.trades
  trades : metrics.trades < u64Size
  uniqueTraders : metrics.uniqueTraders ≤ metrics.trades
  uniqueBuyers : metrics.uniqueBuyers ≤ metrics.buys
  uniqueSellers : metrics.uniqueSellers ≤ metrics.sells
  base : metrics.buyBaseUnits + metrics.sellBaseUnits < u128Size
  quote : metrics.buyQuoteUnits + metrics.sellQuoteUnits < u128Size
  share : ∀ largest ∈ metrics.largestWalletQuoteVolume, largest.shareBps ≤ basisPointsScale

theorem sideCount_add (trades : List Trade) :
    sideCount .buy trades + sideCount .sell trades = trades.length := by
  induction trades with
  | nil => rfl
  | cons trade rest ih =>
      rw [sideCount, sideCount, List.countP_cons, List.countP_cons, ← sideCount, ← sideCount,
        List.length_cons]
      cases trade.side <;> simp <;> omega

theorem sideUnits_add_lt {trades : List Trade} (length : trades.length < 2 ^ 63)
    {units : Trade → Nat} (bounded : ∀ trade ∈ trades, units trade < u64Size) :
    sideUnits .buy units trades + sideUnits .sell units trades < u128Size := by
  rw [sideUnits_add]
  exact (sum_lt_of_inRange length bounded).trans (by decide)

/-- The largest wallet holds at most the whole volume. -/
theorem Largest.share_le {trades : List Trade} {seen : List String}
    {largest : Option WalletVolumeShare} (maximal : Largest trades seen largest) :
    ∀ share ∈ largest, share.shareBps ≤ basisPointsScale := by
  rintro share ⟨⟩
  have held : LargestShare trades seen share := maximal
  rw [held.share basisPointsScale, held.volume, Nat.mul_comm]
  exact Nat.mul_le_mul_left _ (walletVolume_le trades share.wallet)

/-- Finishing an accumulator gives consistent metrics. -/
theorem MetricsAccumulator.Accumulated.consistent {accumulator : MetricsAccumulator}
    {trades : List Trade} (accumulated : Accumulated accumulator trades)
    (range : TradesInRange trades) {count : Nat} {creators : Std.TreeSet String}
    {firstTrade lastTrade : Option TradeSample} {metrics : MarketWindowMetrics}
    (finished : accumulator.finish count creators firstTrade lastTrade = .ok metrics) :
    metrics.observations = count ∧ MetricsConsistent metrics := by
  obtain ⟨described, found, facts⟩ := accumulated.finish range count creators firstTrade lastTrade
  rw [finished] at found
  cases found
  have finishedBuyers : ∀ size value result, tryFrom size value = .ok result → result = value := by
    intro size value result converted
    unfold tryFrom at converted
    split at converted <;> cases converted
    rfl
  unfold MetricsAccumulator.finish at finished
  obtain ⟨total, -, finished⟩ := Accumulation.bind_eq_ok.mp finished
  obtain ⟨traders, -, finished⟩ := Accumulation.bind_eq_ok.mp finished
  obtain ⟨buyers, buyersOk, finished⟩ := Accumulation.bind_eq_ok.mp finished
  obtain ⟨sellers, sellersOk, finished⟩ := Accumulation.bind_eq_ok.mp finished
  obtain ⟨largest, -, finished⟩ := Accumulation.bind_eq_ok.mp finished
  obtain ⟨creatorShare, -, finished⟩ := Accumulation.bind_eq_ok.mp finished
  cases finished
  have totals := accumulated.totals
  have buyBase : accumulator.buyBaseUnits = sideUnits .buy Trade.baseUnits trades :=
    congrArg WalletMetrics.buyBaseUnits totals
  have sellBase : accumulator.sellBaseUnits = sideUnits .sell Trade.baseUnits trades :=
    congrArg WalletMetrics.sellBaseUnits totals
  have buyQuote : accumulator.buyQuoteUnits = sideUnits .buy Trade.quoteUnits trades :=
    congrArg WalletMetrics.buyQuoteUnits totals
  have sellQuote : accumulator.sellQuoteUnits = sideUnits .sell Trade.quoteUnits trades :=
    congrArg WalletMetrics.sellQuoteUnits totals
  refine ⟨rfl, ?_⟩
  exact {
    sides := by rw [facts.buys, facts.sells, facts.count, sideCount_add]
    trades := by
      rw [facts.count]
      exact range.length.trans (by decide)
    uniqueTraders := by
      rw [facts.uniqueTraders, facts.count]
      exact (List.dedup_sublist _).length_le.trans (List.length_map _).le
    uniqueBuyers := by
      rw [facts.buys]
      change buyers ≤ _
      rw [finishedBuyers _ _ _ buyersOk]
      exact countP_wallets_le accumulated .buy WalletMetrics.buys fun _ => rfl
    uniqueSellers := by
      rw [facts.sells]
      change sellers ≤ _
      rw [finishedBuyers _ _ _ sellersOk]
      exact countP_wallets_le accumulated .sell WalletMetrics.sells fun _ => rfl
    base := by
      change accumulator.buyBaseUnits + accumulator.sellBaseUnits < _
      rw [buyBase, sellBase]
      exact sideUnits_add_lt range.length range.base
    quote := by
      change accumulator.buyQuoteUnits + accumulator.sellQuoteUnits < _
      rw [buyQuote, sellQuote]
      exact sideUnits_add_lt range.length range.quote
    share := facts.largest.share_le }

/-- The metrics of a built snapshot are finished from the loop over its slice. -/
theorem buildMarketWindowSnapshot_visited {market : MarketIdentity}
    {openedAtUnixMs closesAtUnixMs : Int} {completeness : SnapshotCompleteness}
    {observations : List NormalizedObservation} {snapshot : MarketWindowSnapshot}
    (built : buildMarketWindowSnapshot market openedAtUnixMs closesAtUnixMs completeness
      observations = .ok snapshot) (length : observations.length < 2 ^ 63) :
    ∃ (matching : List NormalizedObservation) (loop : SnapshotLoop)
      (creators : Std.TreeSet String) (firstTrade lastTrade : Option TradeSample),
      matching.Perm (observations.filter (inSlice market openedAtUnixMs closesAtUnixMs)) ∧
      matching.length < 2 ^ 63 ∧ SnapshotLoop.Visited completeness matching loop ∧
      loop.accumulator.finish matching.length creators firstTrade lastTrade =
        .ok snapshot.metrics := by
  obtain ⟨matching, loop, creators, firstTrade, lastTrade, count, same, folded, counted, finished,
    -⟩ := buildMarketWindowSnapshot_eq_ok built
  have matchingLength : matching.length < 2 ^ 63 := by
    rw [same.length_eq]
    exact (List.length_filter_le _ _).trans_lt length
  obtain ⟨last, foldedLast, visited⟩ := Accumulation.foldlM_ok
    (SnapshotLoop.Visited completeness) (SnapshotLoop.start_visited completeness)
    (fun seen observation loop position before =>
      before.visit (position.length_le.trans_lt matchingLength))
  rw [folded] at foldedLast
  cases foldedLast
  have listed : loop.observationKeys.length < u64Size := by
    rw [visited.keys]
    exact matchingLength.trans (by decide)
  rw [tryFrom_ok listed] at counted
  cases counted
  rw [visited.keys] at finished
  exact ⟨matching, loop, creators, firstTrade, lastTrade, same, matchingLength, visited, finished⟩

/-- A built snapshot counts the observations of its slice and has consistent metrics. -/
theorem buildMarketWindowSnapshot_consistent {market : MarketIdentity}
    {openedAtUnixMs closesAtUnixMs : Int} {completeness : SnapshotCompleteness}
    {observations : List NormalizedObservation} {snapshot : MarketWindowSnapshot}
    (built : buildMarketWindowSnapshot market openedAtUnixMs closesAtUnixMs completeness
      observations = .ok snapshot) (length : observations.length < 2 ^ 63) :
    snapshot.metrics.observations =
        (observations.filter (inSlice market openedAtUnixMs closesAtUnixMs)).length ∧
      MetricsConsistent snapshot.metrics := by
  obtain ⟨matching, loop, creators, firstTrade, lastTrade, same, matchingLength, visited,
    finished⟩ := buildMarketWindowSnapshot_visited built length
  obtain ⟨observed, consistent⟩ := visited.accumulated.consistent
    (recordedTrades_inRange matchingLength) finished
  exact ⟨by rw [observed, same.length_eq], consistent⟩

/-- A snapshot counts no more trades than its window has observations. -/
theorem buildMarketWindowSnapshot_trades_le {market : MarketIdentity}
    {openedAtUnixMs closesAtUnixMs : Int} {completeness : SnapshotCompleteness}
    {observations : List NormalizedObservation} {snapshot : MarketWindowSnapshot}
    (built : buildMarketWindowSnapshot market openedAtUnixMs closesAtUnixMs completeness
      observations = .ok snapshot) (length : observations.length < 2 ^ 63) :
    snapshot.metrics.trades ≤ observations.length := by
  obtain ⟨matching, loop, creators, firstTrade, lastTrade, same, matchingLength, visited,
    finished⟩ := buildMarketWindowSnapshot_visited built length
  obtain ⟨metrics, found, facts⟩ := visited.accumulated.finish
    (recordedTrades_inRange matchingLength) matching.length creators firstTrade lastTrade
  rw [finished] at found
  cases found
  calc snapshot.metrics.trades = (recordedTrades matching).length := facts.count
    _ ≤ (matching.filterMap tradeOf).length := List.length_filter_le _ _
    _ ≤ matching.length := List.length_filterMap_le _ _
    _ = (observations.filter (inSlice market openedAtUnixMs closesAtUnixMs)).length :=
        same.length_eq
    _ ≤ observations.length := List.length_filter_le _ _

end Soldisco.Snapshot
