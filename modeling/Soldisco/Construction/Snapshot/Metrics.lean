import Soldisco.Construction.Snapshot.Arithmetic

/-
This file embeds the trade accumulator and the metrics that it finishes into.
-/

namespace Soldisco.Snapshot
open Domain MachineInteger

structure WalletMetrics where
  trades : Nat
  buys : Nat
  sells : Nat
  buyBaseUnits : Nat
  sellBaseUnits : Nat
  buyQuoteUnits : Nat
  sellQuoteUnits : Nat
deriving DecidableEq, Repr

namespace WalletMetrics

def default : WalletMetrics where
  trades := 0
  buys := 0
  sells := 0
  buyBaseUnits := 0
  sellBaseUnits := 0
  buyQuoteUnits := 0
  sellQuoteUnits := 0

def checkedRecord (metrics : WalletMetrics) (side : TradeSide) (baseUnits quoteUnits : Nat) :
    Except SnapshotError WalletMetrics := do
  let trades ← checkedAdd u64Size metrics.trades 1
  match side with
  | .buy =>
      let buys ← checkedAdd u64Size metrics.buys 1
      let buyBaseUnits ← checkedAdd u128Size metrics.buyBaseUnits baseUnits
      let buyQuoteUnits ← checkedAdd u128Size metrics.buyQuoteUnits quoteUnits
      return { metrics with trades, buys, buyBaseUnits, buyQuoteUnits }
  | .sell =>
      let sells ← checkedAdd u64Size metrics.sells 1
      let sellBaseUnits ← checkedAdd u128Size metrics.sellBaseUnits baseUnits
      let sellQuoteUnits ← checkedAdd u128Size metrics.sellQuoteUnits quoteUnits
      return { metrics with trades, sells, sellBaseUnits, sellQuoteUnits }

def totalQuoteUnits (metrics : WalletMetrics) : Except SnapshotError Nat :=
  checkedAdd u128Size metrics.buyQuoteUnits metrics.sellQuoteUnits

end WalletMetrics

structure WalletVolumeShare where
  wallet : String
  quoteVolumeUnits : Nat
  shareBps : Nat
deriving DecidableEq, Repr

structure CreatorVolumeShare where
  creatorWallets : List String
  quoteVolumeUnits : Nat
  shareBps : Option Nat
deriving DecidableEq, Repr

structure TradeSample where
  observationKey : ObservationKey
  receivedTimeUnixMs : Int
  sourceEventTimeUnixMs : Option Int
  side : TradeSide
  wallet : String
  baseAmountUnits : Nat
  quoteAmountUnits : Nat
  baseReserveUnits : Option Nat
  quoteReserveUnits : Option Nat
deriving DecidableEq, Repr

structure MarketWindowMetrics where
  observations : Nat
  trades : Nat
  buys : Nat
  sells : Nat
  buyBaseUnits : Nat
  sellBaseUnits : Nat
  buyQuoteUnits : Nat
  sellQuoteUnits : Nat
  uniqueTraders : Nat
  uniqueBuyers : Nat
  uniqueSellers : Nat
  wallets : Std.TreeMap String WalletMetrics
  largestWalletQuoteVolume : Option WalletVolumeShare
  creatorQuoteVolume : Option CreatorVolumeShare
  firstTradeReceivedAtUnixMs : Option Int
  lastTradeReceivedAtUnixMs : Option Int
  firstTradeSlot : Option Nat
  lastTradeSlot : Option Nat

def MarketWindowMetrics.totalQuoteVolumeUnits (metrics : MarketWindowMetrics) :
    Except SnapshotError Nat :=
  checkedAdd u128Size metrics.buyQuoteUnits metrics.sellQuoteUnits

structure MetricsAccumulator where
  trades : Nat
  buys : Nat
  sells : Nat
  buyBaseUnits : Nat
  sellBaseUnits : Nat
  buyQuoteUnits : Nat
  sellQuoteUnits : Nat
  wallets : Std.TreeMap String WalletMetrics

namespace MetricsAccumulator

def default : MetricsAccumulator where
  trades := 0
  buys := 0
  sells := 0
  buyBaseUnits := 0
  sellBaseUnits := 0
  buyQuoteUnits := 0
  sellQuoteUnits := 0
  wallets := ∅

def checkedRecord (accumulator : MetricsAccumulator) (side : TradeSide) (wallet : String)
    (baseUnits quoteUnits : Nat) : Except SnapshotError MetricsAccumulator := do
  let trades ← checkedAdd u64Size accumulator.trades 1
  let currentWallet := accumulator.wallets[wallet]?.getD .default
  let nextWallet ← currentWallet.checkedRecord side baseUnits quoteUnits
  let wallets := accumulator.wallets.insert wallet nextWallet
  match side with
  | .buy =>
      let buys ← checkedAdd u64Size accumulator.buys 1
      let buyBaseUnits ← checkedAdd u128Size accumulator.buyBaseUnits baseUnits
      let buyQuoteUnits ← checkedAdd u128Size accumulator.buyQuoteUnits quoteUnits
      return { accumulator with trades, buys, buyBaseUnits, buyQuoteUnits, wallets }
  | .sell =>
      let sells ← checkedAdd u64Size accumulator.sells 1
      let sellBaseUnits ← checkedAdd u128Size accumulator.sellBaseUnits baseUnits
      let sellQuoteUnits ← checkedAdd u128Size accumulator.sellQuoteUnits quoteUnits
      return { accumulator with trades, sells, sellBaseUnits, sellQuoteUnits, wallets }

/-- One pass of the loop over the wallets keeps the first of the largest volumes. -/
def largerWallet (totalQuoteVolume : Nat) (largest : Option WalletVolumeShare)
    (entry : String × WalletMetrics) : Except SnapshotError (Option WalletVolumeShare) := do
  let quoteVolumeUnits ← entry.2.totalQuoteUnits
  let replace := match largest with
    | none => true
    | some largest => decide (quoteVolumeUnits > largest.quoteVolumeUnits)
  if replace then
    let shareBps ← fractionToBasisPoints quoteVolumeUnits totalQuoteVolume
    return some { wallet := entry.1, quoteVolumeUnits, shareBps }
  else return largest

/-- One pass of the loop over the creators adds the volume of a creator that traded. -/
def addCreator (wallets : Std.TreeMap String WalletMetrics) (quoteVolumeUnits : Nat)
    (creator : String) : Except SnapshotError Nat :=
  match wallets[creator]? with
  | some metrics => do checkedAdd u128Size quoteVolumeUnits (← metrics.totalQuoteUnits)
  | none => .ok quoteVolumeUnits

def creatorVolume (accumulator : MetricsAccumulator) (totalQuoteVolume : Nat)
    (creatorWallets : Std.TreeSet String) : Except SnapshotError (Option CreatorVolumeShare) :=
  if creatorWallets.isEmpty then .ok none
  else do
    let quoteVolumeUnits ← creatorWallets.toList.foldlM (addCreator accumulator.wallets) 0
    let shareBps ← if totalQuoteVolume > 0 then
        some <$> fractionToBasisPoints quoteVolumeUnits totalQuoteVolume
      else .ok none
    return some { creatorWallets := creatorWallets.toList, quoteVolumeUnits, shareBps }

def finish (accumulator : MetricsAccumulator) (observations : Nat)
    (creatorWallets : Std.TreeSet String) (firstTrade lastTrade : Option TradeSample) :
    Except SnapshotError MarketWindowMetrics := do
  let totalQuoteVolume ←
    checkedAdd u128Size accumulator.buyQuoteUnits accumulator.sellQuoteUnits
  let uniqueTraders ← tryFrom u64Size accumulator.wallets.size
  let uniqueBuyers ← tryFrom u64Size
    (accumulator.wallets.toList.countP fun entry => entry.2.buys > 0)
  let uniqueSellers ← tryFrom u64Size
    (accumulator.wallets.toList.countP fun entry => entry.2.sells > 0)
  let largestWalletQuoteVolume ←
    accumulator.wallets.toList.foldlM (largerWallet totalQuoteVolume) none
  let creatorQuoteVolume ← accumulator.creatorVolume totalQuoteVolume creatorWallets
  return {
    observations
    trades := accumulator.trades
    buys := accumulator.buys
    sells := accumulator.sells
    buyBaseUnits := accumulator.buyBaseUnits
    sellBaseUnits := accumulator.sellBaseUnits
    buyQuoteUnits := accumulator.buyQuoteUnits
    sellQuoteUnits := accumulator.sellQuoteUnits
    uniqueTraders
    uniqueBuyers
    uniqueSellers
    wallets := accumulator.wallets
    largestWalletQuoteVolume
    creatorQuoteVolume
    firstTradeReceivedAtUnixMs := firstTrade.map (·.receivedTimeUnixMs)
    lastTradeReceivedAtUnixMs := lastTrade.map (·.receivedTimeUnixMs)
    firstTradeSlot := firstTrade.map (·.observationKey.coordinate.slot)
    lastTradeSlot := lastTrade.map (·.observationKey.coordinate.slot) }

end MetricsAccumulator
end Soldisco.Snapshot
