import Soldisco.Library.OrderedSet
import Mathlib.Data.List.Dedup
import Soldisco.Construction.Snapshot.Metrics
import Soldisco.Library.Accumulation
import Soldisco.Proof.Snapshot.Arithmetic

/-
This file proves that the accumulator counts and sums the recorded trades exactly.
-/

namespace Soldisco.Snapshot
open Domain MachineInteger

/-- A recorded trade without the identity of its observation. -/
structure Trade where
  side : TradeSide
  wallet : String
  baseUnits : Nat
  quoteUnits : Nat
deriving DecidableEq, Repr

/-- The number of trades on one side. -/
def sideCount (side : TradeSide) (trades : List Trade) : Nat :=
  trades.countP fun trade => trade.side = side

/-- The units that one side of the trades has moved. -/
def sideUnits (side : TradeSide) (units : Trade → Nat) (trades : List Trade) : Nat :=
  ((trades.filter fun trade => trade.side = side).map units).sum

/-- The exact quote volume of the trades. -/
def quoteVolume (trades : List Trade) : Nat :=
  (trades.map Trade.quoteUnits).sum

def tradesOf (wallet : String) (trades : List Trade) : List Trade :=
  trades.filter fun trade => trade.wallet = wallet

/-- The metrics that describe a list of trades. -/
def metricsOf (trades : List Trade) : WalletMetrics where
  trades := trades.length
  buys := sideCount .buy trades
  sells := sideCount .sell trades
  buyBaseUnits := sideUnits .buy Trade.baseUnits trades
  sellBaseUnits := sideUnits .sell Trade.baseUnits trades
  buyQuoteUnits := sideUnits .buy Trade.quoteUnits trades
  sellQuoteUnits := sideUnits .sell Trade.quoteUnits trades

/-- The range of the trades of one snapshot: positive 64-bit amounts and fewer than 2^63 trades. -/
structure TradesInRange (trades : List Trade) : Prop where
  length : trades.length < 2 ^ 63
  base : ∀ trade ∈ trades, trade.baseUnits < u64Size
  quote : ∀ trade ∈ trades, trade.quoteUnits < u64Size
  positive : ∀ trade ∈ trades, 0 < trade.quoteUnits

theorem TradesInRange.sublist {some all : List Trade} (range : TradesInRange all)
    (sublist : some.Sublist all) : TradesInRange some where
  length := sublist.length_le.trans_lt range.length
  base := fun trade member => range.base trade (sublist.subset member)
  quote := fun trade member => range.quote trade (sublist.subset member)
  positive := fun trade member => range.positive trade (sublist.subset member)

@[simp] theorem sideCount_concat (side : TradeSide) (trades : List Trade) (trade : Trade) :
    sideCount side (trades ++ [trade]) =
      sideCount side trades + if trade.side = side then 1 else 0 := by
  simp [sideCount, List.countP_append, List.countP_cons]

@[simp] theorem sideUnits_concat (side : TradeSide) (units : Trade → Nat) (trades : List Trade)
    (trade : Trade) : sideUnits side units (trades ++ [trade]) =
      sideUnits side units trades + if trade.side = side then units trade else 0 := by
  by_cases same : trade.side = side <;> simp [sideUnits, same]

theorem sideUnits_add (units : Trade → Nat) (trades : List Trade) :
    sideUnits .buy units trades + sideUnits .sell units trades = (trades.map units).sum := by
  have split := Accumulation.sum_filter_add_sum_filter_not trades
    (fun trade => decide (trade.side = .buy)) units
  have sells : (trades.filter fun trade => !decide (trade.side = .buy)) =
      trades.filter fun trade => trade.side = .sell := by
    apply List.filter_congr
    intro trade _
    cases trade.side <;> decide
  rwa [sells] at split

/-- Sums of 64-bit amounts over fewer than 2^63 trades fit 127 bits. -/
theorem sum_lt_of_inRange {trades : List Trade} (length : trades.length < 2 ^ 63)
    {units : Trade → Nat} (bounded : ∀ trade ∈ trades, units trade < u64Size) :
    (trades.map units).sum < 2 ^ 127 := by
  have sum := Accumulation.sum_le_length_mul fun trade member => (bounded trade member).le
  have product : trades.length * u64Size < 2 ^ 63 * u64Size :=
    Nat.mul_lt_mul_of_pos_right length (by decide)
  calc (trades.map units).sum ≤ trades.length * u64Size := sum
    _ < 2 ^ 63 * u64Size := product
    _ = 2 ^ 127 := by decide

theorem sideUnits_lt {trades : List Trade} (length : trades.length < 2 ^ 63)
    {units : Trade → Nat} (bounded : ∀ trade ∈ trades, units trade < u64Size) (side : TradeSide) :
    sideUnits side units trades < u128Size := by
  have total := sum_lt_of_inRange length bounded
  have part := Accumulation.sum_filter_le trades (fun trade => decide (trade.side = side)) units
  exact (part.trans_lt total).trans (by decide)

theorem sideCount_lt {trades : List Trade} (length : trades.length < 2 ^ 63) (side : TradeSide) :
    sideCount side trades < u64Size :=
  (List.countP_le_length.trans_lt length).trans (by decide)

/-- Recording one trade extends the metrics of a list by that trade. -/
theorem WalletMetrics.checkedRecord_ok {trades : List Trade} {trade : Trade}
    (range : TradesInRange (trades ++ [trade])) :
    (metricsOf trades).checkedRecord trade.side trade.baseUnits trade.quoteUnits =
      .ok (metricsOf (trades ++ [trade])) := by
  have count : trades.length + 1 < u64Size := by
    have length := range.length
    simp only [List.length_append, List.length_singleton] at length
    exact length.trans (by decide)
  have sideCounts := sideCount_lt range.length
  have baseSums := sideUnits_lt range.length range.base
  have quoteSums := sideUnits_lt range.length range.quote
  have counted := sideCounts trade.side
  have base := baseSums trade.side
  have quote := quoteSums trade.side
  simp only [sideCount_concat, sideUnits_concat, if_true] at counted base quote
  cases side : trade.side <;>
    · rw [side] at counted base quote
      simp only [checkedRecord, metricsOf, checkedAdd_ok count, checkedAdd_ok counted,
        checkedAdd_ok base, checkedAdd_ok quote, ok_bind]
      simp [side]
      rfl

theorem tradesOf_concat (wallet : String) (trades : List Trade) (trade : Trade) :
    tradesOf wallet (trades ++ [trade]) =
      tradesOf wallet trades ++ if trade.wallet = wallet then [trade] else [] := by
  by_cases same : trade.wallet = wallet <;> simp [tradesOf, same]

theorem tradesOf_eq_nil {wallet : String} {trades : List Trade} :
    tradesOf wallet trades = [] ↔ wallet ∉ trades.map Trade.wallet := by
  simp [tradesOf, List.filter_eq_nil_iff]

namespace MetricsAccumulator

/-- The fields that the accumulator shares with the metrics of one wallet. -/
def totals (accumulator : MetricsAccumulator) : WalletMetrics where
  trades := accumulator.trades
  buys := accumulator.buys
  sells := accumulator.sells
  buyBaseUnits := accumulator.buyBaseUnits
  sellBaseUnits := accumulator.sellBaseUnits
  buyQuoteUnits := accumulator.buyQuoteUnits
  sellQuoteUnits := accumulator.sellQuoteUnits

/-- The accumulator describes the trades as a whole and wallet by wallet. -/
structure Accumulated (accumulator : MetricsAccumulator) (trades : List Trade) : Prop where
  totals : accumulator.totals = metricsOf trades
  wallets : ∀ wallet, accumulator.wallets[wallet]? =
    if tradesOf wallet trades = [] then none else some (metricsOf (tradesOf wallet trades))

theorem default_accumulated : Accumulated .default [] where
  totals := rfl
  wallets := fun wallet => by simp [default, tradesOf]

/-- The accumulator records its totals as a wallet does and replaces the entry of the wallet. -/
theorem checkedRecord_eq (accumulator : MetricsAccumulator) (trade : Trade) {next total : WalletMetrics}
    (recorded : (accumulator.wallets[trade.wallet]?.getD .default).checkedRecord trade.side
      trade.baseUnits trade.quoteUnits = .ok next)
    (totalled : accumulator.totals.checkedRecord trade.side trade.baseUnits trade.quoteUnits =
      .ok total) :
    ∃ result, accumulator.checkedRecord trade.side trade.wallet trade.baseUnits trade.quoteUnits =
        .ok result ∧ result.totals = total ∧
      result.wallets = accumulator.wallets.insert trade.wallet next := by
  obtain ⟨trades, counted, totalled⟩ := bind_ok totalled
  rw [totals] at counted
  cases side : trade.side <;>
    · rw [side] at recorded totalled
      obtain ⟨sides, sideCounted, totalled⟩ := bind_ok totalled
      obtain ⟨base, baseAdded, totalled⟩ := bind_ok totalled
      obtain ⟨quote, quoteAdded, rest⟩ := bind_ok totalled
      cases rest
      simp only [totals] at sideCounted baseAdded quoteAdded
      simp only [checkedRecord, recorded, counted, sideCounted, baseAdded, quoteAdded, ok_bind]
      exact ⟨_, rfl, rfl, rfl⟩

/-- The entry of a wallet, or the one of a wallet without trades. -/
theorem Accumulated.current {accumulator : MetricsAccumulator} {trades : List Trade}
    (accumulated : Accumulated accumulator trades) (wallet : String) :
    accumulator.wallets[wallet]?.getD .default = metricsOf (tradesOf wallet trades) := by
  rw [accumulated.wallets]
  by_cases empty : tradesOf wallet trades = []
  · rw [if_pos empty, empty]
    rfl
  · rw [if_neg empty]
    rfl

/-- The totals and the entry of the wallet describe one more trade. -/
theorem Accumulated.insert {accumulator next : MetricsAccumulator} {trades : List Trade}
    {trade : Trade} (accumulated : Accumulated accumulator trades)
    (totals : next.totals = metricsOf (trades ++ [trade]))
    (wallets : next.wallets = accumulator.wallets.insert trade.wallet
      (metricsOf (tradesOf trade.wallet trades ++ [trade]))) :
    Accumulated next (trades ++ [trade]) := by
  refine ⟨totals, fun wallet => ?_⟩
  rw [wallets, Std.TreeMap.getElem?_insert, accumulated.wallets, tradesOf_concat]
  by_cases same : trade.wallet = wallet
  · subst same
    simp
  · simp [same]

/-- Recording one trade keeps the description of all the trades. -/
theorem Accumulated.checkedRecord {accumulator : MetricsAccumulator} {trades : List Trade}
    {trade : Trade} (accumulated : Accumulated accumulator trades)
    (range : TradesInRange (trades ++ [trade])) :
    ∃ next, accumulator.checkedRecord trade.side trade.wallet trade.baseUnits trade.quoteUnits =
      .ok next ∧ Accumulated next (trades ++ [trade]) := by
  have own : tradesOf trade.wallet (trades ++ [trade]) = tradesOf trade.wallet trades ++ [trade] := by
    rw [tradesOf_concat, if_pos rfl]
  have ownRange : TradesInRange (tradesOf trade.wallet trades ++ [trade]) := by
    rw [← own]
    exact range.sublist List.filter_sublist
  have recorded := WalletMetrics.checkedRecord_ok ownRange
  rw [← accumulated.current] at recorded
  have totalled := WalletMetrics.checkedRecord_ok range
  rw [← accumulated.totals] at totalled
  obtain ⟨next, ok, total, wallets⟩ := checkedRecord_eq accumulator trade recorded totalled
  exact ⟨next, ok, accumulated.insert total wallets⟩

/-- Each entry of the map describes the trades of its wallet. -/
theorem Accumulated.entry {accumulator : MetricsAccumulator} {trades : List Trade}
    (accumulated : Accumulated accumulator trades) {entry : String × WalletMetrics}
    (member : entry ∈ accumulator.wallets.toList) :
    tradesOf entry.1 trades ≠ [] ∧ entry.2 = metricsOf (tradesOf entry.1 trades) := by
  have found := Std.TreeMap.mem_toList_iff_getElem?_eq_some.mp member
  rw [accumulated.wallets] at found
  split at found
  · cases found
  · rename_i traded
    exact ⟨traded, (Option.some.inj found).symm⟩

theorem Accumulated.mem_wallets {accumulator : MetricsAccumulator} {trades : List Trade}
    (accumulated : Accumulated accumulator trades) (wallet : String) :
    wallet ∈ accumulator.wallets ↔ wallet ∈ trades.map Trade.wallet := by
  have absent := @tradesOf_eq_nil wallet trades
  rw [Std.TreeMap.mem_iff_isSome_getElem?, accumulated.wallets]
  by_cases empty : tradesOf wallet trades = []
  · simp [empty, absent.mp empty]
  · simp only [if_neg empty, Option.isSome_some, true_iff]
    exact not_not.mp (mt absent.mpr empty)

/-- The map has one entry for each distinct wallet. -/
theorem Accumulated.size {accumulator : MetricsAccumulator} {trades : List Trade}
    (accumulated : Accumulated accumulator trades) :
    accumulator.wallets.size = (trades.map Trade.wallet).dedup.length := by
  rw [← Std.TreeMap.length_keys]
  refine ((List.perm_ext_iff_of_nodup Std.TreeMap.nodup_keys (List.nodup_dedup _)).mpr ?_).length_eq
  intro wallet
  rw [Std.TreeMap.mem_keys, accumulated.mem_wallets, List.mem_dedup]

end MetricsAccumulator

/-- The exact quote volume of one wallet. -/
def walletVolume (trades : List Trade) (wallet : String) : Nat :=
  quoteVolume (tradesOf wallet trades)

theorem walletVolume_le (trades : List Trade) (wallet : String) :
    walletVolume trades wallet ≤ quoteVolume trades :=
  Accumulation.sum_filter_le trades (fun trade => decide (trade.wallet = wallet)) Trade.quoteUnits

theorem TradesInRange.quoteVolume_lt {trades : List Trade} (range : TradesInRange trades) :
    quoteVolume trades < u128Size :=
  (sum_lt_of_inRange range.length range.quote).trans (by decide)

theorem TradesInRange.quoteVolume_pos {trades : List Trade} (range : TradesInRange trades)
    (traded : trades ≠ []) : 0 < quoteVolume trades := by
  obtain ⟨trade, member⟩ := List.exists_mem_of_ne_nil trades traded
  exact (range.positive trade member).trans_le
    (List.single_le_sum (fun _ _ => Nat.zero_le _) _ (List.mem_map_of_mem member))

theorem WalletMetrics.totalQuoteUnits_ok {trades : List Trade} (range : TradesInRange trades) :
    (metricsOf trades).totalQuoteUnits = .ok (quoteVolume trades) := by
  have sum : (metricsOf trades).buyQuoteUnits + (metricsOf trades).sellQuoteUnits =
      quoteVolume trades := sideUnits_add Trade.quoteUnits trades
  rw [totalQuoteUnits, checkedAdd_ok (sum ▸ range.quoteVolume_lt), sum]

/-- A share in basis points orders limits exactly as the fraction does. -/
def ShareOf (volume total share : Nat) : Prop :=
  ∀ limit, share ≤ limit ↔ volume * basisPointsScale ≤ limit * total

/-- The largest wallet is one of those seen and none of them has a larger volume. -/
structure LargestShare (trades : List Trade) (seen : List String) (largest : WalletVolumeShare) :
    Prop where
  member : largest.wallet ∈ seen
  volume : largest.quoteVolumeUnits = walletVolume trades largest.wallet
  maximal : ∀ wallet ∈ seen, walletVolume trades wallet ≤ largest.quoteVolumeUnits
  share : ShareOf largest.quoteVolumeUnits (quoteVolume trades) largest.shareBps

/-- Only a loop that has seen no wallet has no largest one. -/
def Largest (trades : List Trade) (seen : List String) : Option WalletVolumeShare → Prop
  | none => seen = []
  | some largest => LargestShare trades seen largest

namespace MetricsAccumulator

section Finish

variable {accumulator : MetricsAccumulator} {trades : List Trade}

/-- One pass of the wallet loop keeps the largest of the wallets seen. -/
theorem largerWallet_ok (accumulated : Accumulated accumulator trades) (range : TradesInRange trades)
    {entry : String × WalletMetrics} (member : entry ∈ accumulator.wallets.toList)
    {seen : List String} {largest : Option WalletVolumeShare} (before : Largest trades seen largest) :
    ∃ next, largerWallet (quoteVolume trades) largest entry = .ok next ∧
      Largest trades (seen ++ [entry.1]) next := by
  obtain ⟨traded, metrics⟩ := accumulated.entry member
  have ownRange : TradesInRange (tradesOf entry.1 trades) := range.sublist List.filter_sublist
  have volume : entry.2.totalQuoteUnits = .ok (walletVolume trades entry.1) := by
    rw [metrics, WalletMetrics.totalQuoteUnits_ok ownRange]
    rfl
  have positive : 0 < quoteVolume trades :=
    (ownRange.quoteVolume_pos traded).trans_le (walletVolume_le trades entry.1)
  obtain ⟨share, shared, within⟩ :=
    fractionToBasisPoints_ok positive range.quoteVolume_lt (walletVolume_le trades entry.1)
  simp only [largerWallet, volume, ok_bind, shared]
  cases largest with
  | none =>
      refine ⟨_, rfl, ?_⟩
      cases before
      exact { member := by simp, volume := rfl, maximal := by simp, share := within }
  | some current =>
      by_cases larger : walletVolume trades entry.1 > current.quoteVolumeUnits
      · refine ⟨_, by simp only [decide_eq_true larger, if_true]; rfl, ?_⟩
        refine { member := by simp, volume := rfl, maximal := ?_, share := within }
        intro wallet seenWallet
        rcases List.mem_append.mp seenWallet with earlier | latest
        · exact (before.maximal wallet earlier).trans larger.le
        · rw [List.mem_singleton.mp latest]
      · refine ⟨some current, by simp only [decide_eq_false larger]; rfl, ?_⟩
        refine { before with member := List.mem_append_left _ before.member, maximal := ?_ }
        intro wallet seenWallet
        rcases List.mem_append.mp seenWallet with earlier | latest
        · exact before.maximal wallet earlier
        · rw [List.mem_singleton.mp latest]
          exact Nat.le_of_not_gt larger

/-- The wallet loop ends with the largest of all wallets. -/
theorem largestWallet_ok (accumulated : Accumulated accumulator trades)
    (range : TradesInRange trades) :
    ∃ largest, accumulator.wallets.toList.foldlM (largerWallet (quoteVolume trades)) none =
      .ok largest ∧ Largest trades accumulator.wallets.keys largest := by
  have initial : Largest trades (([] : List (String × WalletMetrics)).map Prod.fst) none := rfl
  obtain ⟨largest, folded, result⟩ := Accumulation.foldlM_ok
    (fun seen => Largest trades (seen.map Prod.fst)) initial
    (fun seen entry largest position before => by
      have member : entry ∈ accumulator.wallets.toList := position.subset (by simp)
      obtain ⟨next, ok, after⟩ := largerWallet_ok accumulated range member before
      exact ⟨next, ok, by simpa using after⟩)
  rw [Std.TreeMap.map_fst_toList_eq_keys] at result
  exact ⟨largest, folded, result⟩

/-- The volume of the creators seen stays within the total. -/
theorem creatorVolume_le (trades : List Trade) {creators : List String} (distinct : creators.Nodup) :
    (creators.map (walletVolume trades)).sum ≤ quoteVolume trades :=
  Accumulation.sum_groups_le creators distinct trades Trade.wallet Trade.quoteUnits

/-- One pass of the creator loop adds the volume of one creator. -/
theorem addCreator_ok (accumulated : Accumulated accumulator trades) (range : TradesInRange trades)
    {seen : List String} {creator : String} (distinct : (seen ++ [creator]).Nodup) :
    addCreator accumulator.wallets (seen.map (walletVolume trades)).sum creator =
      .ok ((seen ++ [creator]).map (walletVolume trades)).sum := by
  have bound := (creatorVolume_le trades distinct).trans_lt range.quoteVolume_lt
  simp only [List.map_append, List.map_cons, List.map_nil, List.sum_append, List.sum_singleton]
    at bound ⊢
  rw [addCreator, accumulated.wallets]
  by_cases empty : tradesOf creator trades = []
  · have zero : walletVolume trades creator = 0 := by rw [walletVolume, empty]; rfl
    rw [if_pos empty, zero, Nat.add_zero]
  · have ownRange : TradesInRange (tradesOf creator trades) := range.sublist List.filter_sublist
    rw [if_neg empty]
    simp only [WalletMetrics.totalQuoteUnits_ok ownRange, ok_bind]
    exact checkedAdd_ok bound

/-- The creator loop succeeds and its volume has a share. -/
theorem creatorVolume_ok (accumulated : Accumulated accumulator trades)
    (range : TradesInRange trades) (creators : Std.TreeSet String) :
    ∃ result, accumulator.creatorVolume (quoteVolume trades) creators = .ok result := by
  rw [creatorVolume]
  split
  · exact ⟨none, rfl⟩
  have initial : 0 = (([] : List String).map (walletVolume trades)).sum := rfl
  obtain ⟨volume, folded, sum⟩ := Accumulation.foldlM_ok
    (fun seen volume => volume = (seen.map (walletVolume trades)).sum) initial
    (fun seen creator volume position before => by
      have distinct := (OrderedSet.toList_nodup creators).sublist position.sublist
      rw [before]
      exact ⟨_, addCreator_ok accumulated range distinct, rfl⟩)
  have proper := creatorVolume_le trades (OrderedSet.toList_nodup creators)
  simp only [folded, ok_bind]
  by_cases positive : quoteVolume trades > 0
  · obtain ⟨share, shared, -⟩ :=
      fractionToBasisPoints_ok positive range.quoteVolume_lt (sum ▸ proper)
    rw [if_pos positive, shared]
    exact ⟨_, rfl⟩
  · rw [if_neg positive]
    exact ⟨_, rfl⟩

end Finish
end MetricsAccumulator

/-- The finished metrics describe the trades exactly. -/
structure MetricsOf (trades : List Trade) (metrics : MarketWindowMetrics) : Prop where
  count : metrics.trades = trades.length
  buys : metrics.buys = sideCount .buy trades
  sells : metrics.sells = sideCount .sell trades
  uniqueTraders : metrics.uniqueTraders = (trades.map Trade.wallet).dedup.length
  volume : metrics.totalQuoteVolumeUnits = .ok (quoteVolume trades)
  largest : Largest trades (trades.map Trade.wallet) metrics.largestWalletQuoteVolume

theorem Largest.congr {trades : List Trade} {seen all : List String}
    (same : ∀ wallet, wallet ∈ seen ↔ wallet ∈ all) {largest : Option WalletVolumeShare}
    (before : Largest trades seen largest) : Largest trades all largest := by
  cases largest with
  | none =>
      apply List.eq_nil_iff_forall_not_mem.mpr
      intro wallet member
      have absent : seen = [] := before
      simpa [absent] using (same wallet).mpr member
  | some largest =>
      exact { before with
        member := (same _).mp before.member
        maximal := fun wallet member => before.maximal wallet ((same wallet).mpr member) }

/-- The accumulator finishes into metrics that describe its trades. -/
theorem MetricsAccumulator.Accumulated.finish {accumulator : MetricsAccumulator}
    {trades : List Trade} (accumulated : Accumulated accumulator trades)
    (range : TradesInRange trades) (observations : Nat) (creators : Std.TreeSet String)
    (firstTrade lastTrade : Option TradeSample) :
    ∃ metrics, accumulator.finish observations creators firstTrade lastTrade = .ok metrics ∧
      MetricsOf trades metrics := by
  have total : checkedAdd u128Size accumulator.buyQuoteUnits accumulator.sellQuoteUnits =
      .ok (quoteVolume trades) := by
    have sum := WalletMetrics.totalQuoteUnits_ok range
    rwa [← accumulated.totals] at sum
  have size : accumulator.wallets.size < u64Size := by
    rw [accumulated.size]
    have distinct := (List.dedup_sublist (trades.map Trade.wallet)).length_le
    rw [List.length_map] at distinct
    exact (distinct.trans_lt range.length).trans (by decide)
  have entries : ∀ selects : String × WalletMetrics → Bool,
      accumulator.wallets.toList.countP selects < u64Size := fun selects => by
    refine List.countP_le_length.trans_lt ?_
    rwa [Std.TreeMap.length_toList]
  obtain ⟨largest, folded, maximal⟩ := largestWallet_ok accumulated range
  obtain ⟨creatorShare, creatorOk⟩ := creatorVolume_ok accumulated range creators
  simp only [MetricsAccumulator.finish, total, tryFrom_ok size, tryFrom_ok (entries _), folded,
    creatorOk, ok_bind]
  refine ⟨_, rfl, ?_⟩
  have totals := accumulated.totals
  refine
    { count := congrArg WalletMetrics.trades totals
      buys := congrArg WalletMetrics.buys totals
      sells := congrArg WalletMetrics.sells totals
      uniqueTraders := accumulated.size
      volume := total
      largest := maximal.congr fun wallet => ?_ }
  rw [Std.TreeMap.mem_keys, accumulated.mem_wallets]

/-- The largest share stays within a limit exactly when the volume of every wallet does. -/
theorem LargestShare.within {trades : List Trade} {largest : WalletVolumeShare}
    (maximal : LargestShare trades (trades.map Trade.wallet) largest) (limit : Nat) :
    largest.shareBps ≤ limit ↔ ∀ wallet,
      walletVolume trades wallet * basisPointsScale ≤ limit * quoteVolume trades := by
  rw [maximal.share limit]
  constructor
  · intro within wallet
    by_cases traded : wallet ∈ trades.map Trade.wallet
    · exact (Nat.mul_le_mul_right _ (maximal.maximal wallet traded)).trans within
    · rw [walletVolume, tradesOf_eq_nil.mpr traded]
      exact Nat.zero_le _
  · intro within
    rw [maximal.volume]
    exact within largest.wallet

end Soldisco.Snapshot
