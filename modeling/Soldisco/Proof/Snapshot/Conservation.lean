import Soldisco.Proof.Snapshot.Canonical
import Soldisco.Proof.Snapshot.Order
import Soldisco.Library.OrderedSet

/-
This file proves that the metrics of every snapshot agree with its trade samples, as a whole and
wallet by wallet.
-/

namespace Soldisco.Snapshot
open Domain MachineInteger MetricsAccumulator

theorem checkedAdd_eq_ok {size left right sum : Nat} (added : checkedAdd size left right = .ok sum) :
    sum = left + right := by
  unfold checkedAdd okOrOverflow MachineInteger.checkedAdd at added
  split_ifs at added with fits
  · cases added
    rfl

theorem tryFrom_eq_ok {size value narrow : Nat} (converted : tryFrom size value = .ok narrow) :
    narrow = value := by
  unfold tryFrom at converted
  split at converted
  · cases converted
    rfl
  · cases converted

/-- A recorded trade extends the metrics of a list by that trade. -/
theorem WalletMetrics.checkedRecord_eq_ok {trades : List Trade} {trade : Trade}
    {next : WalletMetrics}
    (recorded : (metricsOf trades).checkedRecord trade.side trade.baseUnits trade.quoteUnits =
      .ok next) : next = metricsOf (trades ++ [trade]) := by
  unfold checkedRecord at recorded
  obtain ⟨count, counted, recorded⟩ := bind_ok recorded
  have counts : count = trades.length + 1 := checkedAdd_eq_ok counted
  cases side : trade.side <;>
    · rw [side] at recorded
      obtain ⟨sides, sideCounted, recorded⟩ := bind_ok recorded
      obtain ⟨base, baseAdded, recorded⟩ := bind_ok recorded
      obtain ⟨quote, quoteAdded, recorded⟩ := bind_ok recorded
      cases recorded
      rw [checkedAdd_eq_ok sideCounted, checkedAdd_eq_ok baseAdded, checkedAdd_eq_ok quoteAdded,
        counts]
      simp [metricsOf, side]

/-- A recorded trade keeps the description of all the trades. -/
theorem MetricsAccumulator.Accumulated.recorded {accumulator next : MetricsAccumulator}
    {trades : List Trade} {trade : Trade} (accumulated : Accumulated accumulator trades)
    (recorded : accumulator.checkedRecord trade.side trade.wallet trade.baseUnits trade.quoteUnits =
      .ok next) : Accumulated next (trades ++ [trade]) := by
  unfold MetricsAccumulator.checkedRecord at recorded
  obtain ⟨count, counted, recorded⟩ := bind_ok recorded
  obtain ⟨entry, walletRecorded, recorded⟩ := bind_ok recorded
  rw [accumulated.current] at walletRecorded
  have own := WalletMetrics.checkedRecord_eq_ok walletRecorded
  have totalled : ∃ total, accumulator.totals.checkedRecord trade.side trade.baseUnits
      trade.quoteUnits = .ok total ∧ next.totals = total ∧
      next.wallets = accumulator.wallets.insert trade.wallet entry := by
    cases side : trade.side <;>
      · rw [side] at recorded
        obtain ⟨sides, sideCounted, recorded⟩ := bind_ok recorded
        obtain ⟨base, baseAdded, recorded⟩ := bind_ok recorded
        obtain ⟨quote, quoteAdded, recorded⟩ := bind_ok recorded
        cases recorded
        refine ⟨_, ?_, rfl, rfl⟩
        simp only [WalletMetrics.checkedRecord, MetricsAccumulator.totals, counted, sideCounted,
          baseAdded, quoteAdded, ok_bind]
        rfl
  obtain ⟨total, recordedTotal, same, wallets⟩ := totalled
  rw [accumulated.totals] at recordedTotal
  rw [own] at wallets
  exact accumulated.insert (same.trans (WalletMetrics.checkedRecord_eq_ok recordedTotal)) wallets

/-- The trade that a sample reports. -/
def TradeSample.trade (sample : TradeSample) : Trade where
  side := sample.side
  wallet := sample.wallet
  baseUnits := sample.baseAmountUnits
  quoteUnits := sample.quoteAmountUnits

namespace SnapshotLoop

/-- The accumulator describes the samples of the loop. -/
def IsSampled (loop : SnapshotLoop) : Prop :=
  Accumulated loop.accumulator (loop.tradeSamples.map TradeSample.trade)

theorem IsSampled.recordTrade {loop next : SnapshotLoop} {observation : NormalizedObservation}
    {side : TradeSide} {wallet : String} {baseAmountUnits quoteAmountUnits : Nat}
    {baseReserveUnits quoteReserveUnits : Option Nat} (sampled : loop.IsSampled)
    (recorded : loop.recordTrade observation side wallet baseAmountUnits quoteAmountUnits
      baseReserveUnits quoteReserveUnits = .ok next) : next.IsSampled := by
  unfold SnapshotLoop.recordTrade at recorded
  split at recorded
  · cases recorded
    exact sampled
  split at recorded
  · cases recorded
    exact sampled
  obtain ⟨ratio, -, recorded⟩ := bind_ok recorded
  obtain ⟨accumulator, added, recorded⟩ := bind_ok recorded
  cases recorded
  have after : Accumulated accumulator (_ ++ [⟨side, wallet, baseAmountUnits, quoteAmountUnits⟩]) :=
    sampled.recorded added
  unfold IsSampled
  rw [List.map_append]
  exact after

theorem IsSampled.visit {loop next : SnapshotLoop} {observation : NormalizedObservation}
    (sampled : loop.IsSampled) (visited : loop.visit observation = .ok next) : next.IsSampled := by
  unfold SnapshotLoop.visit at visited
  dsimp only at visited
  split at visited
  · have listed : (loop.list observation).IsSampled := sampled
    exact listed.recordTrade visited
  all_goals
    cases visited
    exact sampled

end SnapshotLoop

/-- A snapshot comes from the loop over its sorted slice. -/
theorem buildMarketWindowSnapshot_sampled {market : MarketIdentity}
    {openedAtUnixMs closesAtUnixMs : Int} {completeness : SnapshotCompleteness}
    {observations : List NormalizedObservation} {snapshot : MarketWindowSnapshot}
    (built : buildMarketWindowSnapshot market openedAtUnixMs closesAtUnixMs completeness
      observations = .ok snapshot) :
    ∃ (accumulator : MetricsAccumulator) (count : Nat) (firstTrade lastTrade : Option TradeSample),
      Accumulated accumulator (snapshot.tradeSamples.map TradeSample.trade) ∧
      accumulator.finish count (creatorWallets (sortedSlice (observations.filter
        (inSlice market openedAtUnixMs closesAtUnixMs)))) firstTrade lastTrade =
        .ok snapshot.metrics := by
  rw [buildMarketWindowSnapshot_eq] at built
  split at built
  · cases built
  split at built
  · cases built
  unfold snapshotOfSorted at built
  split at built
  · cases built
  obtain ⟨loop, folded, built⟩ := bind_ok built
  obtain ⟨count, -, built⟩ := bind_ok built
  obtain ⟨metrics, finished, built⟩ := bind_ok built
  obtain ⟨prices, -, built⟩ := bind_ok built
  cases built
  have initial : (SnapshotLoop.start completeness).IsSampled := default_accumulated
  have sampled : loop.IsSampled := Accumulation.foldlM_keeps SnapshotLoop.IsSampled
    (fun observation state next _ before visited => before.visit visited) initial folded
  exact ⟨loop.accumulator, count, _, _, sampled, finished⟩

/-- Each visit lists its observation. -/
theorem SnapshotLoop.visit_observationKeys {loop next : SnapshotLoop}
    {observation : NormalizedObservation} (visited : loop.visit observation = .ok next) :
    next.observationKeys = loop.observationKeys ++ [observation.key] := by
  unfold SnapshotLoop.visit at visited
  dsimp only at visited
  split at visited
  · unfold SnapshotLoop.recordTrade at visited
    split at visited
    · cases visited
      rfl
    split at visited
    · cases visited
      rfl
    obtain ⟨ratio, -, visited⟩ := bind_ok visited
    obtain ⟨accumulator, -, visited⟩ := bind_ok visited
    cases visited
    rfl
  all_goals
    cases visited
    rfl

theorem MetricsAccumulator.finish_observations {accumulator : MetricsAccumulator} {count : Nat}
    {creators : Std.TreeSet String} {firstTrade lastTrade : Option TradeSample}
    {metrics : MarketWindowMetrics}
    (finished : accumulator.finish count creators firstTrade lastTrade = .ok metrics) :
    metrics.observations = count := by
  unfold MetricsAccumulator.finish at finished
  obtain ⟨total, -, finished⟩ := bind_ok finished
  obtain ⟨traders, -, finished⟩ := bind_ok finished
  obtain ⟨buyers, -, finished⟩ := bind_ok finished
  obtain ⟨sellers, -, finished⟩ := bind_ok finished
  obtain ⟨largest, -, finished⟩ := bind_ok finished
  obtain ⟨creatorShare, -, finished⟩ := bind_ok finished
  cases finished
  rfl

/-- A snapshot counts the observations of its slice. -/
theorem buildMarketWindowSnapshot_observations {market : MarketIdentity}
    {openedAtUnixMs closesAtUnixMs : Int} {completeness : SnapshotCompleteness}
    {observations : List NormalizedObservation} {snapshot : MarketWindowSnapshot}
    (built : buildMarketWindowSnapshot market openedAtUnixMs closesAtUnixMs completeness
      observations = .ok snapshot) :
    snapshot.metrics.observations =
      (observations.filter (inSlice market openedAtUnixMs closesAtUnixMs)).length := by
  obtain ⟨matching, loop, creators, firstTrade, lastTrade, count, same, folded, counted, finished,
    -⟩ := buildMarketWindowSnapshot_eq_ok built
  have listed : loop.observationKeys.length = matching.length :=
    Accumulation.foldlM_describes (fun seen loop => loop.observationKeys.length = seen.length)
      (fun seen observation loop next before visited => by
        rw [SnapshotLoop.visit_observationKeys visited, List.length_append, List.length_append,
          before]
        rfl) rfl folded
  calc snapshot.metrics.observations = count := MetricsAccumulator.finish_observations finished
    _ = loop.observationKeys.length := tryFrom_eq_ok counted
    _ = matching.length := listed
    _ = _ := same.length_eq

theorem sideUnits_eq_sum (side : TradeSide) (units : Trade → Nat) (trades : List Trade) :
    sideUnits side units trades =
      (trades.map fun trade => if trade.side = side then units trade else 0).sum := by
  induction trades with
  | nil => rfl
  | cons trade rest ih =>
      rw [List.map_cons, List.sum_cons, ← ih]
      by_cases same : trade.side = side <;> simp [sideUnits, same]

def entryVolume (entry : String × WalletMetrics) : Nat :=
  entry.2.buyQuoteUnits + entry.2.sellQuoteUnits

namespace MetricsAccumulator.Accumulated

variable {accumulator : MetricsAccumulator} {trades : List Trade}

/-- A field that adds up over the trades adds up over the wallets. -/
theorem sum_wallets (accumulated : Accumulated accumulator trades) {field : WalletMetrics → Nat}
    {value : Trade → Nat} (additive : ∀ items, field (metricsOf items) = (items.map value).sum) :
    (accumulator.wallets.toList.map fun entry => field entry.2).sum = field (metricsOf trades) := by
  have each : (accumulator.wallets.toList.map fun entry => field entry.2) =
      accumulator.wallets.keys.map fun wallet =>
        ((trades.filter fun trade => trade.wallet = wallet).map value).sum := by
    rw [← Std.TreeMap.map_fst_toList_eq_keys, List.map_map]
    apply List.map_congr_left
    intro entry member
    rw [(accumulated.entry member).2, additive]
    rfl
  rw [each, additive]
  apply Accumulation.sum_groups_eq _ Std.TreeMap.nodup_keys
  intro trade member
  rw [Std.TreeMap.mem_keys, accumulated.mem_wallets]
  exact List.mem_map_of_mem member

/-- The wallets with a trade on one side are counted once each. -/
theorem countP_wallets (accumulated : Accumulated accumulator trades) (side : TradeSide)
    {count : WalletMetrics → Nat}
    (counts : ∀ items, count (metricsOf items) = sideCount side items) :
    (accumulator.wallets.toList.countP fun entry => count entry.2 > 0) =
      ((trades.filter fun trade => trade.side = side).map Trade.wallet).dedup.length := by
  have distinct : ((accumulator.wallets.toList.filter fun entry => count entry.2 > 0).map
      Prod.fst).Nodup := by
    have keys : (accumulator.wallets.toList.map Prod.fst).Nodup := by
      rw [Std.TreeMap.map_fst_toList_eq_keys]
      exact Std.TreeMap.nodup_keys
    exact keys.sublist (List.filter_sublist.map _)
  have active : ∀ wallet, count (metricsOf (tradesOf wallet trades)) > 0 ↔
      wallet ∈ (trades.filter fun trade => trade.side = side).map Trade.wallet := by
    intro wallet
    rw [counts, sideCount, gt_iff_lt, List.countP_pos_iff]
    simp only [tradesOf, List.mem_filter, List.mem_map, decide_eq_true_eq]
    constructor
    · rintro ⟨trade, ⟨listed, own⟩, same⟩
      exact ⟨trade, ⟨listed, same⟩, own⟩
    · rintro ⟨trade, ⟨listed, same⟩, own⟩
      exact ⟨trade, ⟨listed, own⟩, same⟩
  have same : ((accumulator.wallets.toList.filter fun entry => count entry.2 > 0).map
      Prod.fst).Perm ((trades.filter fun trade => trade.side = side).map Trade.wallet).dedup := by
    rw [List.perm_ext_iff_of_nodup distinct (List.nodup_dedup _)]
    intro wallet
    rw [List.mem_dedup, ← active]
    simp only [List.mem_map, List.mem_filter, decide_eq_true_eq]
    constructor
    · rintro ⟨entry, ⟨listed, counted⟩, rfl⟩
      rwa [(accumulated.entry listed).2] at counted
    · intro counted
      have traded : tradesOf wallet trades ≠ [] := by
        intro empty
        rw [empty, counts] at counted
        exact absurd counted (Nat.lt_irrefl 0)
      refine ⟨(wallet, metricsOf (tradesOf wallet trades)), ⟨?_, counted⟩, rfl⟩
      rw [Std.TreeMap.mem_toList_iff_getElem?_eq_some, accumulated.wallets, if_neg traded]
  rw [List.countP_eq_length_filter, ← same.length_eq, List.length_map]

/-- Only without trades the map has no entry. -/
theorem toList_eq_nil (accumulated : Accumulated accumulator trades) :
    accumulator.wallets.toList = [] ↔ trades = [] := by
  rw [← List.length_eq_zero_iff, Std.TreeMap.length_toList, accumulated.size,
    List.length_eq_zero_iff, List.dedup_eq_nil, List.map_eq_nil_iff]

/-- The entry of a wallet holds its volume. -/
theorem entryVolume_eq (accumulated : Accumulated accumulator trades)
    {entry : String × WalletMetrics} (member : entry ∈ accumulator.wallets.toList) :
    entryVolume entry = walletVolume trades entry.1 := by
  unfold entryVolume
  rw [(accumulated.entry member).2]
  exact sideUnits_add Trade.quoteUnits (tradesOf entry.1 trades)

end MetricsAccumulator.Accumulated

/-- The largest wallet stands behind smaller ones only, and no later one is larger. -/
def IsFirstLargest (seen : List (String × WalletMetrics)) : Option WalletVolumeShare → Prop
  | none => seen = []
  | some largest => ∃ front entry back, seen = front ++ entry :: back ∧ largest.wallet = entry.1 ∧
      largest.quoteVolumeUnits = entryVolume entry ∧
      (∀ other ∈ front, entryVolume other < entryVolume entry) ∧
      ∀ other ∈ back, entryVolume other ≤ entryVolume entry

/-- One pass of the wallet loop keeps the first of the largest wallets. -/
theorem IsFirstLargest.larger {total : Nat} {seen : List (String × WalletMetrics)}
    {largest next : Option WalletVolumeShare} {entry : String × WalletMetrics}
    (before : IsFirstLargest seen largest) (passed : largerWallet total largest entry = .ok next) :
    IsFirstLargest (seen ++ [entry]) next := by
  unfold largerWallet at passed
  obtain ⟨volume, added, passed⟩ := bind_ok passed
  have own : volume = entryVolume entry := checkedAdd_eq_ok added
  subst own
  cases largest with
  | none =>
      have start : seen = [] := before
      rw [if_pos rfl] at passed
      obtain ⟨share, -, passed⟩ := bind_ok passed
      cases passed
      refine ⟨[], entry, [], by rw [start], rfl, rfl, ?_, ?_⟩
      · intro other member
        cases member
      · intro other member
        cases member
  | some current =>
      obtain ⟨front, best, back, split, wallet, held, smaller, larger⟩ := before
      by_cases exceeds : entryVolume entry > current.quoteVolumeUnits
      · rw [if_pos (by simpa using exceeds)] at passed
        obtain ⟨share, -, passed⟩ := bind_ok passed
        cases passed
        refine ⟨seen, entry, [], rfl, rfl, rfl, ?_, ?_⟩
        · intro other member
          rw [held] at exceeds
          rw [split] at member
          rcases List.mem_append.mp member with earlier | later
          · exact (smaller other earlier).trans exceeds
          · rcases List.mem_cons.mp later with rfl | behind
            · exact exceeds
            · exact (larger other behind).trans_lt exceeds
        · intro other member
          cases member
      · rw [if_neg (by simpa using exceeds)] at passed
        cases passed
        refine ⟨front, best, back ++ [entry], ?_, wallet, held, smaller, ?_⟩
        · rw [split, List.append_assoc, List.cons_append]
        · intro other member
          rcases List.mem_append.mp member with earlier | last
          · exact larger other earlier
          · rw [List.mem_singleton.mp last, ← held]
            exact not_lt.mp exceeds

theorem IsFirstLargest.eq_none_iff {seen : List (String × WalletMetrics)}
    {largest : Option WalletVolumeShare} (first : IsFirstLargest seen largest) :
    largest = none ↔ seen = [] := by
  cases largest with
  | none => exact ⟨fun _ => first, fun _ => rfl⟩
  | some share =>
      obtain ⟨front, entry, back, split, -⟩ := first
      simp [split]

/-- The creators whose names are not empty, once each. -/
theorem mem_creatorWallets {matching : List NormalizedObservation} {wallet : String} :
    wallet ∈ (creatorWallets matching).toList ↔ wallet ≠ "" ∧
      ∃ observation ∈ matching, creator observation.payload = some wallet := by
  have inserted : ∀ (names : List String) (wallets : Std.TreeSet String),
      wallet ∈ names.foldl (fun wallets creator => wallets.insert creator) wallets ↔
        wallet ∈ names ∨ wallet ∈ wallets := by
    intro names
    induction names with
    | nil => simp
    | cons name rest ih =>
        intro wallets
        rw [List.foldl_cons, ih, Std.TreeSet.mem_insert, List.mem_cons,
          Std.LawfulEqCmp.compare_eq_iff_eq]
        constructor
        · rintro (later | rfl | before)
          · exact .inl (.inr later)
          · exact .inl (.inl rfl)
          · exact .inr before
        · rintro ((rfl | later) | before)
          · exact .inr (.inl rfl)
          · exact .inl later
          · exact .inr (.inr before)
  rw [Std.TreeSet.mem_toList, creatorWallets, inserted]
  simp only [List.mem_filter, List.mem_filterMap, Std.TreeSet.not_mem_emptyc, or_false,
    Bool.not_eq_true', String.isEmpty_eq_false_iff]
  exact and_comm

/-- The creator loop adds up the volumes of the distinct creators. -/
theorem MetricsAccumulator.Accumulated.creatorVolume_eq_ok {accumulator : MetricsAccumulator}
    {trades : List Trade} (accumulated : Accumulated accumulator trades) {total : Nat}
    {creators : Std.TreeSet String} {result : Option CreatorVolumeShare}
    (computed : accumulator.creatorVolume total creators = .ok result) :
    (result = none ↔ creators.toList = []) ∧ ∀ share, result = some share →
      share.creatorWallets = creators.toList ∧
      share.quoteVolumeUnits = (creators.toList.map (walletVolume trades)).sum := by
  unfold MetricsAccumulator.creatorVolume at computed
  split at computed
  · rename_i empty
    cases computed
    refine ⟨⟨fun _ => ?_, fun _ => rfl⟩, fun share impossible => nomatch impossible⟩
    rw [← List.isEmpty_iff, Std.TreeSet.isEmpty_toList]
    exact empty
  · rename_i nonempty
    obtain ⟨volume, folded, computed⟩ := bind_ok computed
    have shared : ∃ shareBps, result = some ⟨creators.toList, volume, shareBps⟩ := by
      dsimp only at computed
      split at computed
      · obtain ⟨share, -, computed⟩ := bind_ok computed
        cases computed
        exact ⟨share, rfl⟩
      · cases computed
        exact ⟨none, rfl⟩
    obtain ⟨shareBps, rfl⟩ := shared
    have added : volume = (creators.toList.map (walletVolume trades)).sum := by
      apply Accumulation.foldlM_describes
        (fun seen volume => volume = (seen.map (walletVolume trades)).sum) _ rfl folded
      intro seen creator current next before passed
      rw [List.map_append, List.sum_append, ← before, List.map_singleton, List.sum_singleton]
      unfold addCreator at passed
      split at passed
      · rename_i metrics found
        obtain ⟨own, totalled, passed⟩ := bind_ok passed
        rw [checkedAdd_eq_ok passed, checkedAdd_eq_ok totalled]
        have member : (creator, metrics) ∈ accumulator.wallets.toList :=
          Std.TreeMap.mem_toList_iff_getElem?_eq_some.mpr found
        rw [← accumulated.entryVolume_eq member]
        rfl
      · rename_i absent
        cases passed
        rw [accumulated.wallets] at absent
        split at absent
        · rename_i untraded
          rw [walletVolume, untraded]
          rfl
        · cases absent
    refine ⟨⟨?_, fun empty => ?_⟩, ?_⟩
    · intro impossible
      cases impossible
    · rw [← List.isEmpty_iff, Std.TreeSet.isEmpty_toList] at empty
      exact absurd empty nonempty
    · intro share same
      cases same
      exact ⟨rfl, added⟩

/-- What the metrics of a snapshot say about its slice and its trade samples. -/
structure MetricsConserved (slice : List NormalizedObservation) (trades : List Trade)
    (metrics : MarketWindowMetrics) : Prop where
  count : metrics.trades = trades.length
  sides : metrics.trades = metrics.buys + metrics.sells
  walletTrades : metrics.trades = (metrics.wallets.toList.map fun entry => entry.2.trades).sum
  buyBase : metrics.buyBaseUnits = sideUnits .buy Trade.baseUnits trades ∧
    metrics.buyBaseUnits = (metrics.wallets.toList.map fun entry => entry.2.buyBaseUnits).sum
  sellBase : metrics.sellBaseUnits = sideUnits .sell Trade.baseUnits trades ∧
    metrics.sellBaseUnits = (metrics.wallets.toList.map fun entry => entry.2.sellBaseUnits).sum
  buyQuote : metrics.buyQuoteUnits = sideUnits .buy Trade.quoteUnits trades ∧
    metrics.buyQuoteUnits = (metrics.wallets.toList.map fun entry => entry.2.buyQuoteUnits).sum
  sellQuote : metrics.sellQuoteUnits = sideUnits .sell Trade.quoteUnits trades ∧
    metrics.sellQuoteUnits = (metrics.wallets.toList.map fun entry => entry.2.sellQuoteUnits).sum
  uniqueTraders : metrics.uniqueTraders = (trades.map Trade.wallet).dedup.length
  uniqueBuyers : metrics.uniqueBuyers =
    ((trades.filter fun trade => trade.side = .buy).map Trade.wallet).dedup.length
  uniqueSellers : metrics.uniqueSellers =
    ((trades.filter fun trade => trade.side = .sell).map Trade.wallet).dedup.length
  largestPresent : metrics.largestWalletQuoteVolume ≠ none ↔ trades ≠ []
  largest : ∀ largest, metrics.largestWalletQuoteVolume = some largest →
    largest.wallet ∈ trades.map Trade.wallet ∧
    largest.quoteVolumeUnits = walletVolume trades largest.wallet ∧
    ∀ wallet ∈ trades.map Trade.wallet,
      walletVolume trades wallet < walletVolume trades largest.wallet ∨
        walletVolume trades wallet = walletVolume trades largest.wallet ∧ largest.wallet ≤ wallet
  creatorPresent : metrics.creatorQuoteVolume ≠ none ↔
    ∃ observation ∈ slice, ∃ wallet, wallet ≠ "" ∧ creator observation.payload = some wallet
  creators : ∀ share, metrics.creatorQuoteVolume = some share →
    share.creatorWallets.Nodup ∧
    (∀ wallet, wallet ∈ share.creatorWallets ↔ wallet ≠ "" ∧
      ∃ observation ∈ slice, creator observation.payload = some wallet) ∧
    share.quoteVolumeUnits = (share.creatorWallets.map (walletVolume trades)).sum ∧
    share.quoteVolumeUnits ≤ metrics.buyQuoteUnits + metrics.sellQuoteUnits

theorem IsFirstLargest.isLargest {accumulator : MetricsAccumulator} {trades : List Trade}
    (accumulated : Accumulated accumulator trades) {largest : WalletVolumeShare}
    (first : IsFirstLargest accumulator.wallets.toList (some largest)) :
    largest.wallet ∈ trades.map Trade.wallet ∧
    largest.quoteVolumeUnits = walletVolume trades largest.wallet ∧
    ∀ wallet ∈ trades.map Trade.wallet,
      walletVolume trades wallet < walletVolume trades largest.wallet ∨
        walletVolume trades wallet = walletVolume trades largest.wallet ∧
          largest.wallet ≤ wallet := by
  obtain ⟨front, best, back, split, named, held, smaller, larger⟩ := first
  have bestMember : best ∈ accumulator.wallets.toList := by
    rw [split]
    exact List.mem_append_right _ List.mem_cons_self
  have traded := (accumulated.entry bestMember).1
  refine ⟨?_, ?_, ?_⟩
  · rw [named]
    by_contra absent
    exact traded (tradesOf_eq_nil.mpr absent)
  · rw [held, named, accumulated.entryVolume_eq bestMember]
  · intro wallet known
    have listed : (wallet, metricsOf (tradesOf wallet trades)) ∈ accumulator.wallets.toList := by
      rw [Std.TreeMap.mem_toList_iff_getElem?_eq_some, accumulated.wallets, if_neg]
      exact fun empty => tradesOf_eq_nil.mp empty known
    have own := accumulated.entryVolume_eq listed
    have bestOwn := accumulated.entryVolume_eq bestMember
    have ordered := @Std.TreeMap.ordered_keys_toList String WalletMetrics compare accumulator.wallets _
    rw [split] at listed ordered
    rw [named, ← bestOwn]
    change entryVolume (wallet, _) = walletVolume trades wallet at own
    rw [← own]
    rcases List.mem_append.mp listed with earlier | later
    · exact .inl (smaller _ earlier)
    · rcases List.mem_cons.mp later with same | behind
      · rw [← same]
        exact .inr ⟨rfl, le_refl _⟩
      · rcases (larger _ behind).lt_or_eq with below | tie
        · exact .inl below
        · have after := (List.pairwise_cons.mp (List.pairwise_append.mp ordered).2.1).1 _ behind
          exact .inr ⟨tie, (compare_lt_iff_lt.mp after).le⟩

/-- The finished metrics conserve what the accumulator describes. -/
theorem MetricsAccumulator.Accumulated.conserved {accumulator : MetricsAccumulator}
    {trades : List Trade} (accumulated : Accumulated accumulator trades)
    {slice : List NormalizedObservation} {count : Nat} {firstTrade lastTrade : Option TradeSample}
    {metrics : MarketWindowMetrics}
    (finished : accumulator.finish count (creatorWallets (sortedSlice slice)) firstTrade lastTrade =
      .ok metrics) : MetricsConserved slice trades metrics := by
  unfold MetricsAccumulator.finish at finished
  obtain ⟨total, -, finished⟩ := bind_ok finished
  obtain ⟨traders, tradersOk, finished⟩ := bind_ok finished
  obtain ⟨buyers, buyersOk, finished⟩ := bind_ok finished
  obtain ⟨sellers, sellersOk, finished⟩ := bind_ok finished
  obtain ⟨largest, folded, finished⟩ := bind_ok finished
  obtain ⟨creatorShare, creatorOk, finished⟩ := bind_ok finished
  cases finished
  have totals := accumulated.totals
  have field (read : WalletMetrics → Nat) : read accumulator.totals = read (metricsOf trades) :=
    congrArg read totals
  have initial : IsFirstLargest [] none := rfl
  have first : IsFirstLargest accumulator.wallets.toList largest :=
    Accumulation.foldlM_describes IsFirstLargest
      (fun seen entry current next before passed => before.larger passed) initial folded
  have creators := accumulated.creatorVolume_eq_ok creatorOk
  have members : ∀ wallet, wallet ∈ (creatorWallets (sortedSlice slice)).toList ↔ wallet ≠ "" ∧
      ∃ observation ∈ slice, creator observation.payload = some wallet := by
    intro wallet
    rw [mem_creatorWallets]
    simp only [(sortedSlice_perm slice).mem_iff]
  exact {
    count := field WalletMetrics.trades
    sides := by
      change accumulator.totals.trades = accumulator.totals.buys + accumulator.totals.sells
      rw [totals]
      exact (sideCount_add trades).symm
    walletTrades := by
      rw [accumulated.sum_wallets fun items => ?_]
      · exact field WalletMetrics.trades
      · exact fun _ => 1
      · simp [metricsOf]
    buyBase := ⟨field WalletMetrics.buyBaseUnits, (field WalletMetrics.buyBaseUnits).trans
      (accumulated.sum_wallets fun items => sideUnits_eq_sum .buy Trade.baseUnits items).symm⟩
    sellBase := ⟨field WalletMetrics.sellBaseUnits, (field WalletMetrics.sellBaseUnits).trans
      (accumulated.sum_wallets fun items => sideUnits_eq_sum .sell Trade.baseUnits items).symm⟩
    buyQuote := ⟨field WalletMetrics.buyQuoteUnits, (field WalletMetrics.buyQuoteUnits).trans
      (accumulated.sum_wallets fun items => sideUnits_eq_sum .buy Trade.quoteUnits items).symm⟩
    sellQuote := ⟨field WalletMetrics.sellQuoteUnits, (field WalletMetrics.sellQuoteUnits).trans
      (accumulated.sum_wallets fun items => sideUnits_eq_sum .sell Trade.quoteUnits items).symm⟩
    uniqueTraders := (tryFrom_eq_ok tradersOk).trans accumulated.size
    uniqueBuyers := (tryFrom_eq_ok buyersOk).trans (accumulated.countP_wallets .buy fun _ => rfl)
    uniqueSellers := (tryFrom_eq_ok sellersOk).trans (accumulated.countP_wallets .sell fun _ => rfl)
    largestPresent := by
      change largest ≠ none ↔ trades ≠ []
      rw [not_iff_not, ← accumulated.toList_eq_nil]
      exact first.eq_none_iff
    largest := fun share same => by
      change largest = some share at same
      rw [same] at first
      exact first.isLargest accumulated
    creatorPresent := by
      change creatorShare ≠ none ↔ _
      rw [ne_eq, creators.1, List.eq_nil_iff_forall_not_mem]
      simp only [members]
      constructor
      · intro some
        push Not at some
        obtain ⟨wallet, named, observation, member, found⟩ := some
        exact ⟨observation, member, wallet, named, found⟩
      · rintro ⟨observation, member, wallet, named, found⟩ nobody
        exact nobody wallet ⟨named, observation, member, found⟩
    creators := fun share same => by
      obtain ⟨wallets, volume⟩ := creators.2 share same
      have distinct := OrderedSet.toList_nodup (creatorWallets (sortedSlice slice))
      refine ⟨wallets ▸ distinct, ?_, ?_, ?_⟩
      · intro wallet
        rw [wallets]
        exact members wallet
      · rw [volume, wallets]
      · have bound := creatorVolume_le trades distinct
        have whole : accumulator.buyQuoteUnits + accumulator.sellQuoteUnits = quoteVolume trades := by
          rw [quoteVolume, ← sideUnits_add Trade.quoteUnits trades]
          exact congrArg₂ (· + ·) (field WalletMetrics.buyQuoteUnits)
            (field WalletMetrics.sellQuoteUnits)
        rw [volume]
        change _ ≤ accumulator.buyQuoteUnits + accumulator.sellQuoteUnits
        rw [whole]
        exact bound }

/-- The metrics of every snapshot are conserved. -/
theorem buildMarketWindowSnapshot_conserved {market : MarketIdentity}
    {openedAtUnixMs closesAtUnixMs : Int} {completeness : SnapshotCompleteness}
    {observations : List NormalizedObservation} {snapshot : MarketWindowSnapshot}
    (built : buildMarketWindowSnapshot market openedAtUnixMs closesAtUnixMs completeness
      observations = .ok snapshot) :
    MetricsConserved (observations.filter (inSlice market openedAtUnixMs closesAtUnixMs))
      (snapshot.tradeSamples.map TradeSample.trade) snapshot.metrics := by
  obtain ⟨accumulator, count, firstTrade, lastTrade, accumulated, finished⟩ :=
    buildMarketWindowSnapshot_sampled built
  exact accumulated.conserved finished

theorem buildMarketWindowSnapshot_conserved_sample : ∃ snapshot,
    buildMarketWindowSnapshot (sampleTrade 0 .buy "first" 5).market 0 200 .complete
        [sampleTrade 0 .buy "first" 5, sampleTrade 1 .sell "second" 5] = .ok snapshot ∧
      MetricsConserved [sampleTrade 0 .buy "first" 5, sampleTrade 1 .sell "second" 5]
        (snapshot.tradeSamples.map TradeSample.trade) snapshot.metrics := by
  obtain ⟨snapshot, built, -⟩ := buildMarketWindowSnapshot_ok (sampleTrade 0 .buy "first" 5).market
    .complete (show (0 : Int) < 200 by decide) rfl
    (show [sampleTrade 0 .buy "first" 5, sampleTrade 1 .sell "second" 5].length < 2 ^ 63 by decide)
    (by decide)
  exact ⟨snapshot, built, buildMarketWindowSnapshot_conserved built⟩

end Soldisco.Snapshot
