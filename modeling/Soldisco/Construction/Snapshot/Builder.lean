import Mathlib.Data.List.Sort
import Soldisco.Construction.Snapshot.Metrics
import Soldisco.Library.Text

/-
This file embeds the snapshot of one market and one half-open receipt interval.
-/

namespace Soldisco.Snapshot
open Domain MachineInteger

/-- An incomplete window carries the code of its reason. -/
inductive SnapshotCompleteness where
  | complete
  | incomplete (reasonCode : String)
deriving DecidableEq, Repr

namespace SnapshotCompleteness

def isComplete : SnapshotCompleteness → Bool
  | .complete => true
  | .incomplete _ => false

def reasonCode : SnapshotCompleteness → Option String
  | .complete => none
  | .incomplete reasonCode => some reasonCode

end SnapshotCompleteness

def invalidTradeAmountReason : String := "INVALID_TRADE_AMOUNT"

def invalidTradeWalletReason : String := "INVALID_TRADE_WALLET"

inductive LiquidityDirection where
  | deposit
  | withdraw
deriving DecidableEq, Repr

structure LiquiditySample where
  observationKey : ObservationKey
  receivedTimeUnixMs : Int
  sourceEventTimeUnixMs : Option Int
  direction : LiquidityDirection
  provider : String
  baseAmountUnits : Nat
  quoteAmountUnits : Nat
  baseReserveUnits : Nat
  quoteReserveUnits : Nat
  lpTokenAmountUnits : Nat
  lpTokenSupplyUnits : Nat
deriving DecidableEq, Repr

structure ReserveSample where
  observationKey : ObservationKey
  receivedTimeUnixMs : Int
  baseUnits : Option Nat
  quoteUnits : Option Nat
deriving DecidableEq, Repr

structure ReserveExtremum where
  observationKey : ObservationKey
  receivedTimeUnixMs : Int
  units : Nat
deriving DecidableEq, Repr

structure ReserveSummary where
  first : ReserveSample
  latest : ReserveSample
  minimumBase : Option ReserveExtremum
  maximumBase : Option ReserveExtremum
  minimumQuote : Option ReserveExtremum
  maximumQuote : Option ReserveExtremum
  samples : List ReserveSample
deriving DecidableEq, Repr

structure PricePoint where
  observationKey : ObservationKey
  receivedTimeUnixMs : Int
  ratio : PriceRatio
deriving DecidableEq, Repr

structure PriceSummary where
  first : PricePoint
  last : PricePoint
  low : PricePoint
  high : PricePoint
  changeBps : Option Int
deriving DecidableEq, Repr

structure MarketWindowSnapshot where
  market : MarketIdentity
  openedAtUnixMs : Int
  closesAtUnixMs : Int
  completeness : SnapshotCompleteness
  observationKeys : List ObservationKey
  tradeSamples : List TradeSample
  liquiditySamples : List LiquiditySample
  metrics : MarketWindowMetrics
  reserves : Option ReserveSummary
  prices : Option PriceSummary
  completionObserved : Bool
  migrationObserved : Bool
  completionObservationKeys : List ObservationKey
  migrationObservationKeys : List ObservationKey
  latestObservedSlot : Option Nat

/-- The first mark wins. -/
def markIncompleteIfComplete (completeness : SnapshotCompleteness) (reasonCode : String) :
    SnapshotCompleteness :=
  if completeness.isComplete then .incomplete reasonCode else completeness

def sourceProgramRank : SourceProgram → Nat
  | .pump => 0
  | .pumpSwap => 1
  | .raydiumCpmm => 2
  | .raydiumClmm => 3
  | .raydiumAmmV4 => 4

def observationOrder (left right : NormalizedObservation) : Ordering :=
  (compare left.receivedTimeUnixMs right.receivedTimeUnixMs).then <|
  (compare left.key.coordinate.slot right.key.coordinate.slot).then <|
  (compare left.key.coordinate.transactionIndex right.key.coordinate.transactionIndex).then <|
  (compare left.key.coordinate.signature right.key.coordinate.signature).then <|
  (compare left.key.coordinate.instructionIndex right.key.coordinate.instructionIndex).then <|
  (compare left.key.coordinate.eventIndex right.key.coordinate.eventIndex).then <|
  compare (sourceProgramRank left.key.program) (sourceProgramRank right.key.program)

/-- The reserves update a pair of a minimum and a maximum. -/
def updateExtrema (extrema : Option ReserveExtremum × Option ReserveExtremum)
    (sample : ReserveSample) (units : Option Nat) :
    Option ReserveExtremum × Option ReserveExtremum :=
  match units with
  | none => extrema
  | some units =>
      let candidate : ReserveExtremum :=
        { observationKey := sample.observationKey
          receivedTimeUnixMs := sample.receivedTimeUnixMs
          units }
      (if extrema.1.all fun current => units < current.units then some candidate else extrema.1,
        if extrema.2.all fun current => units > current.units then some candidate else extrema.2)

def summarizeReserves (samples : List ReserveSample) : Option ReserveSummary := do
  let first ← samples.head?
  let latest ← samples.getLast?
  let base := samples.foldl (fun extrema sample => updateExtrema extrema sample sample.baseUnits)
    (none, none)
  let quote := samples.foldl (fun extrema sample => updateExtrema extrema sample sample.quoteUnits)
    (none, none)
  return {
    first
    latest
    minimumBase := base.1
    maximumBase := base.2
    minimumQuote := quote.1
    maximumQuote := quote.2
    samples }

/-- One pass of the price loop compares a point with the lowest and the highest so far. -/
def comparePrice (bounds : PricePoint × PricePoint) (point : PricePoint) :
    Except SnapshotError (PricePoint × PricePoint) := do
  let low := if (← point.ratio.checkedCmp bounds.1.ratio) = .lt then point else bounds.1
  let high := if (← point.ratio.checkedCmp bounds.2.ratio) = .gt then point else bounds.2
  return (low, high)

/-- An unrepresentable change leaves the change absent. -/
def summarizePrices : List PricePoint → Except SnapshotError (Option PriceSummary)
  | [] => .ok none
  | first :: rest => do
      let last := (first :: rest).getLastD first
      let bounds ← rest.foldlM comparePrice (first, first)
      return some {
        first
        last
        low := bounds.1
        high := bounds.2
        changeBps := (priceChangeBasisPoints first.ratio last.ratio).toOption }

/-- The values that the loop over the matching observations fills. -/
structure SnapshotLoop where
  completeness : SnapshotCompleteness
  accumulator : MetricsAccumulator
  tradeSamples : List TradeSample
  liquiditySamples : List LiquiditySample
  reserveSamples : List ReserveSample
  pricePoints : List PricePoint
  completionObservationKeys : List ObservationKey
  migrationObservationKeys : List ObservationKey
  observationKeys : List ObservationKey
  latestObservedSlot : Option Nat

namespace SnapshotLoop

def start (completeness : SnapshotCompleteness) : SnapshotLoop where
  completeness
  accumulator := .default
  tradeSamples := []
  liquiditySamples := []
  reserveSamples := []
  pricePoints := []
  completionObservationKeys := []
  migrationObservationKeys := []
  observationKeys := []
  latestObservedSlot := none

/-- Each matching observation is listed before its payload is read. -/
def list (loop : SnapshotLoop) (observation : NormalizedObservation) : SnapshotLoop :=
  { loop with
    observationKeys := loop.observationKeys ++ [observation.key]
    latestObservedSlot := some (match loop.latestObservedSlot with
      | none => observation.key.coordinate.slot
      | some slot => max slot observation.key.coordinate.slot) }

/-- A malformed trade makes the window incomplete and is left out of the metrics. -/
def recordTrade (loop : SnapshotLoop) (observation : NormalizedObservation) (side : TradeSide)
    (wallet : String) (baseAmountUnits quoteAmountUnits : Nat)
    (baseReserveUnits quoteReserveUnits : Option Nat) : Except SnapshotError SnapshotLoop :=
  if Text.isBlank wallet then
    .ok { loop with
      completeness := markIncompleteIfComplete loop.completeness invalidTradeWalletReason }
  else if baseAmountUnits = 0 || quoteAmountUnits = 0 then
    .ok { loop with
      completeness := markIncompleteIfComplete loop.completeness invalidTradeAmountReason }
  else do
    let ratio ← PriceRatio.new quoteAmountUnits baseAmountUnits
    let accumulator ←
      loop.accumulator.checkedRecord side wallet baseAmountUnits quoteAmountUnits
    let sample : TradeSample :=
      { observationKey := observation.key
        receivedTimeUnixMs := observation.receivedTimeUnixMs
        sourceEventTimeUnixMs := observation.sourceEventTimeUnixMs
        side, wallet, baseAmountUnits, quoteAmountUnits, baseReserveUnits, quoteReserveUnits }
    let reserve : ReserveSample :=
      { observationKey := observation.key
        receivedTimeUnixMs := observation.receivedTimeUnixMs
        baseUnits := baseReserveUnits
        quoteUnits := quoteReserveUnits }
    let point : PricePoint :=
      { observationKey := observation.key
        receivedTimeUnixMs := observation.receivedTimeUnixMs
        ratio }
    return { loop with
      accumulator
      reserveSamples := if baseReserveUnits.isSome || quoteReserveUnits.isSome then
        loop.reserveSamples ++ [reserve] else loop.reserveSamples
      pricePoints := loop.pricePoints ++ [point]
      tradeSamples := loop.tradeSamples ++ [sample] }

/-- Deposits and withdrawals differ only in their direction. -/
def recordLiquidity (loop : SnapshotLoop) (observation : NormalizedObservation)
    (direction : LiquidityDirection) (provider : String) (baseAmountUnits quoteAmountUnits
      baseReserveUnits quoteReserveUnits lpTokenAmountUnits lpTokenSupplyUnits : Nat) :
    SnapshotLoop :=
  { loop with
    liquiditySamples := loop.liquiditySamples ++ [{
      observationKey := observation.key
      receivedTimeUnixMs := observation.receivedTimeUnixMs
      sourceEventTimeUnixMs := observation.sourceEventTimeUnixMs
      direction, provider, baseAmountUnits, quoteAmountUnits, baseReserveUnits, quoteReserveUnits,
      lpTokenAmountUnits, lpTokenSupplyUnits }]
    reserveSamples := loop.reserveSamples ++ [{
      observationKey := observation.key
      receivedTimeUnixMs := observation.receivedTimeUnixMs
      baseUnits := some baseReserveUnits
      quoteUnits := some quoteReserveUnits }] }

/-- One pass of the loop over the matching observations. -/
def visit (loop : SnapshotLoop) (observation : NormalizedObservation) :
    Except SnapshotError SnapshotLoop :=
  let listed := loop.list observation
  match observation.payload with
  | .trade side wallet baseAmount quoteAmount baseReserve quoteReserve =>
      listed.recordTrade observation side wallet baseAmount.toNat quoteAmount.toNat
        (baseReserve.map UInt64.toNat) (quoteReserve.map UInt64.toNat)
  | .marketCompleted _ =>
      .ok { listed with
        completionObservationKeys := listed.completionObservationKeys ++ [observation.key] }
  | .marketMigrated _ _ _ _ =>
      .ok { listed with
        migrationObservationKeys := listed.migrationObservationKeys ++ [observation.key] }
  | .liquidityDeposited provider baseAmount quoteAmount baseReserve quoteReserve lpAmount lpSupply =>
      .ok (listed.recordLiquidity observation .deposit provider baseAmount.toNat quoteAmount.toNat
        baseReserve.toNat quoteReserve.toNat lpAmount.toNat lpSupply.toNat)
  | .liquidityWithdrawn provider baseAmount quoteAmount baseReserve quoteReserve lpAmount lpSupply =>
      .ok (listed.recordLiquidity observation .withdraw provider baseAmount.toNat quoteAmount.toNat
        baseReserve.toNat quoteReserve.toNat lpAmount.toNat lpSupply.toNat)
  | .tokenCreated _ _ _ _ _ | .marketCreated _ _ _ => .ok listed

end SnapshotLoop

/-- The slice is one exact market inside the half-open interval. -/
def inSlice (market : MarketIdentity) (openedAtUnixMs closesAtUnixMs : Int)
    (observation : NormalizedObservation) : Bool :=
  observation.market == market && openedAtUnixMs ≤ observation.receivedTimeUnixMs &&
    observation.receivedTimeUnixMs < closesAtUnixMs

/-- The first key that an earlier observation already has. -/
def firstDuplicate (seen : List ObservationKey) : List NormalizedObservation → Option ObservationKey
  | [] => none
  | observation :: rest =>
      if observation.key ∈ seen then some observation.key
      else firstDuplicate (observation.key :: seen) rest

def creator : ObservationPayload → Option String
  | .tokenCreated _ _ _ creator _ => some creator
  | .marketCreated creator _ _ => some creator
  | _ => none

def creatorWallets (matching : List NormalizedObservation) : Std.TreeSet String :=
  ((matching.filterMap fun observation => creator observation.payload).filter
    fun creator => !creator.isEmpty).foldl (fun wallets creator => wallets.insert creator) ∅

def buildMarketWindowSnapshot (market : MarketIdentity) (openedAtUnixMs closesAtUnixMs : Int)
    (completeness : SnapshotCompleteness) (observations : List NormalizedObservation) :
    Except SnapshotError MarketWindowSnapshot :=
  if closesAtUnixMs ≤ openedAtUnixMs then .error .invalidWindowBounds
  else if completeness.reasonCode.any Text.isBlank then .error .missingIncompleteReason
  else
    let matching := (observations.filter (inSlice market openedAtUnixMs closesAtUnixMs)).insertionSort
      fun left right => observationOrder left right ≠ .gt
    match firstDuplicate [] matching with
    | some key => .error (.duplicateObservation key)
    | none => do
        let creatorWallets := creatorWallets matching
        let loop ← matching.foldlM SnapshotLoop.visit (.start completeness)
        let observations ← tryFrom u64Size loop.observationKeys.length
        let metrics ← loop.accumulator.finish observations creatorWallets loop.tradeSamples.head?
          loop.tradeSamples.getLast?
        let prices ← summarizePrices loop.pricePoints
        return {
          market
          openedAtUnixMs
          closesAtUnixMs
          completeness := loop.completeness
          observationKeys := loop.observationKeys
          tradeSamples := loop.tradeSamples
          liquiditySamples := loop.liquiditySamples
          metrics
          reserves := summarizeReserves loop.reserveSamples
          prices
          completionObserved := !loop.completionObservationKeys.isEmpty
          migrationObserved := !loop.migrationObservationKeys.isEmpty
          completionObservationKeys := loop.completionObservationKeys
          migrationObservationKeys := loop.migrationObservationKeys
          latestObservedSlot := loop.latestObservedSlot }

end Soldisco.Snapshot
