import Soldisco.Construction.Intake.Notification
import Soldisco.Construction.Persistence.Values
import Soldisco.Library.Table

/-
This file embeds the registry of known markets and the normalization of a decoded event.
The lock of the registry is always available, since no holder of it panics.
-/

namespace Soldisco.Pipeline
open Domain Intake SourcePump MachineInteger
open Persistence (Commitment Observation)

inductive MarketLookupKey where
  | pumpMint (mint : String)
  | pumpSwapPool (pool : String)
deriving DecidableEq, Repr

structure RegisteredMarket where
  identity : MarketIdentity
  pumpSwapSourceOrientation : Option PumpSwapSourceOrientation
deriving DecidableEq, Repr

structure MarketRegistry where
  markets : Table MarketLookupKey RegisteredMarket

inductive NormalizationError where
  | pumpMarketUnresolved (mint : String)
  | pumpSwapMarketUnresolved (pool : String)
  | unsupportedPumpSwapPair (baseMint quoteMint : String)
  | pumpSwapSourceOrientationRequired
  | quoteMintMismatch (mint : String)
  | zeroTradeAmount
deriving DecidableEq, Repr

def displayNormalizationError : NormalizationError → String
  | .pumpMarketUnresolved mint => "no Pump bonding-curve market is known for mint " ++ mint
  | .pumpSwapMarketUnresolved pool => "no PumpSwap market is known for pool " ++ pool
  | .unsupportedPumpSwapPair baseMint quoteMint =>
      "PumpSwap pair " ++ baseMint ++ "/" ++ quoteMint ++
        " does not contain exactly one supported quote asset"
  | .pumpSwapSourceOrientationRequired =>
      "PumpSwap markets must be registered from their source pool orientation"
  | .quoteMintMismatch mint =>
      "Pump trade quote mint does not match the registered market for mint " ++ mint
  | .zeroTradeAmount => "trade base and quote amounts must both be non-zero"

def pumpSwapMarketIdentity (network : Network) (pool : String) (pair : PumpSwapPair) :
    MarketIdentity where
  network
  mint := pair.tokenMint
  venue := .pumpSwap
  marketAddress := pool
  quoteMint := some pair.quoteMint

namespace MarketRegistry

/-- The registry of a new pipeline knows no market. -/
def empty : MarketRegistry := ⟨∅⟩

/-- A PumpSwap market needs the order of its source; other venues have no lookup. -/
def register (registry : MarketRegistry) (market : MarketIdentity) :
    Except NormalizationError MarketRegistry :=
  match market.venue with
  | .pumpBondingCurve => .ok ⟨registry.markets.insert (.pumpMint market.mint)
      { identity := market, pumpSwapSourceOrientation := none }⟩
  | .pumpSwap => .error .pumpSwapSourceOrientationRequired
  | .raydiumCpmm | .raydiumClmm | .raydiumAmmV4 => .ok registry

def registerPumpSwapPool (registry : MarketRegistry) (network : Network)
    (pool sourceBaseMint sourceQuoteMint : String) : Option MarketIdentity × MarketRegistry :=
  match normalizePumpSwapPair network sourceBaseMint sourceQuoteMint with
  | none => (none, registry)
  | some pair =>
      let market := pumpSwapMarketIdentity network pool pair
      (some market, ⟨registry.markets.insert (.pumpSwapPool pool)
        { identity := market, pumpSwapSourceOrientation := some pair.sourceOrientation }⟩)

def registerAll (registry : MarketRegistry) (markets : List MarketIdentity) :
    Except NormalizationError MarketRegistry :=
  markets.foldlM register registry

def retirePumpMarket (registry : MarketRegistry) (mint : String) : MarketRegistry :=
  ⟨registry.markets.erase (.pumpMint mint)⟩

def pumpMarket (registry : MarketRegistry) (mint : String) :
    Except NormalizationError MarketIdentity :=
  match registry.markets.lookup (.pumpMint mint) with
  | some market => .ok market.identity
  | none => .error (.pumpMarketUnresolved mint)

def pumpSwapMarket (registry : MarketRegistry) (pool : String) :
    Except NormalizationError RegisteredMarket :=
  match registry.markets.lookup (.pumpSwapPool pool) with
  | some market => .ok market
  | none => .error (.pumpSwapMarketUnresolved pool)

end MarketRegistry

/-- The pool of a creation with the order of its source. -/
structure PumpSwapPool where
  network : Network
  poolAddress : String
  baseMint : String
  quoteMint : String
  observedSlot : Nat
  observedSignature : String
deriving DecidableEq, Repr

/-- The Pump markets of the candidates and the stored pools fill the registry of a new pipeline. -/
def hydrateMarketRegistry (discoveryMarkets : List MarketIdentity) (pools : List PumpSwapPool) :
    Except NormalizationError MarketRegistry := do
  let registry ← MarketRegistry.empty.registerAll
    (discoveryMarkets.filter fun market => market.venue = .pumpBondingCurve)
  return pools.foldl (fun registry pool => (registry.registerPumpSwapPool pool.network
    pool.poolAddress pool.baseMint pool.quoteMint).2) registry

def decoderSchemaVersion : Nat := 1

def decoderVersion : String :=
  "pump-idl-9c82f61cb711b044a17f770ab8ce9f9bdf78f333-soldisco-0.1.0"

/-- The external encodings: the two directions of base64, the hash in hexadecimal digits and the
document of an event. -/
structure EvidenceEncoding where
  decodeBase64 : String → Option (List UInt8)
  encodeBase64 : List UInt8 → String
  evidenceHash : List UInt8 → String
  sourceDetails : SourcePump.PumpEvent → String

def eventTimestamp : SourcePump.PumpEvent → Int64
  | .create event => event.timestamp
  | .trade event => event.timestamp
  | .complete event => event.timestamp
  | .completePumpAmmMigration event => event.timestamp
  | .pumpSwapCreatePool event => event.timestamp
  | .pumpSwapBuy event => event.timestamp
  | .pumpSwapSell event => event.timestamp
  | .pumpSwapDeposit event => event.timestamp
  | .pumpSwapWithdraw event => event.timestamp

/-- The source amounts in the order of token and quote. -/
def orientSourceAmounts (sourceOrientation : PumpSwapSourceOrientation)
    (sourceBaseUnits sourceQuoteUnits : UInt64) : UInt64 × UInt64 :=
  match sourceOrientation with
  | .baseIsToken => (sourceBaseUnits, sourceQuoteUnits)
  | .quoteIsToken => (sourceQuoteUnits, sourceBaseUnits)

def tradeSide : TradeDirection → TradeSide
  | .buy => .buy
  | .sell => .sell

def requireNonZeroTradeAmounts (baseAmountUnits quoteAmountUnits : UInt64) :
    Except NormalizationError Unit :=
  if baseAmountUnits = 0 ∨ quoteAmountUnits = 0 then .error .zeroTradeAmount else .ok ()

/-- The part of a normalized event that depends on its kind. -/
structure NormalizedFields where
  eventKind : String
  market : MarketIdentity
  payload : ObservationPayload
  discoveredMarket : Option MarketIdentity
deriving DecidableEq, Repr

/-- A pool that is known carries the order of its source. -/
def orientedPool (markets : MarketRegistry) (pool : String) :
    Except NormalizationError (MarketIdentity × PumpSwapSourceOrientation) := do
  let registered ← markets.pumpSwapMarket pool
  match registered.pumpSwapSourceOrientation with
  | some sourceOrientation => .ok (registered.identity, sourceOrientation)
  | none => .error .pumpSwapSourceOrientationRequired

/-- A trade is a purchase or a sale of the token. -/
def pumpSwapTradeKind : TradeSide → String
  | .buy => "BUY"
  | .sell => "SELL"

def normalizeFields (network : Network) (markets : MarketRegistry) :
    SourcePump.PumpEvent → Except NormalizationError NormalizedFields
  | .create event =>
      let market : MarketIdentity := {
        network
        mint := event.mint
        venue := .pumpBondingCurve
        marketAddress := event.bondingCurve
        quoteMint := some event.quoteMint }
      .ok {
        eventKind := "CREATE"
        market
        payload := .tokenCreated event.name event.symbol event.uri event.creator event.user
        discoveredMarket := some market }
  | .trade event => do
      requireNonZeroTradeAmounts event.tokenAmount event.quoteAmount
      let market ← markets.pumpMarket event.mint
      if market.quoteMint ≠ some event.quoteMint then
        .error (.quoteMintMismatch event.mint)
      else
        return {
          eventKind := "TRADE"
          market
          payload := .trade (tradeSide event.direction) event.user event.tokenAmount
            event.quoteAmount (some event.virtualTokenReserves) (some event.virtualQuoteReserves)
          discoveredMarket := none }
  | .complete event => .ok {
      eventKind := "COMPLETE"
      market := {
        network
        mint := event.mint
        venue := .pumpBondingCurve
        marketAddress := event.bondingCurve
        quoteMint := some event.quoteMint }
      payload := .marketCompleted event.user
      discoveredMarket := none }
  | .completePumpAmmMigration event => .ok {
      eventKind := "COMPLETE_PUMP_AMM_MIGRATION"
      market := {
        network
        mint := event.mint
        venue := .pumpBondingCurve
        marketAddress := event.bondingCurve
        quoteMint := some event.quoteMint }
      payload := .marketMigrated event.user event.pool event.mintAmount event.legacySolAmount
      discoveredMarket := none }
  | .pumpSwapCreatePool event =>
      match normalizePumpSwapPair network event.baseMint event.quoteMint with
      | none => .error (.unsupportedPumpSwapPair event.baseMint event.quoteMint)
      | some pair =>
          let market := pumpSwapMarketIdentity network event.pool pair
          let amounts := orientSourceAmounts pair.sourceOrientation event.baseAmountIn
            event.quoteAmountIn
          .ok {
            eventKind := "CREATE_POOL"
            market
            payload := .marketCreated event.creator amounts.1 amounts.2
            discoveredMarket := some market }
  | .pumpSwapBuy event => do
      requireNonZeroTradeAmounts event.baseAmountOut event.quoteAmountIn
      let (market, sourceOrientation) ← orientedPool markets event.pool
      let (side, baseAmountUnits, quoteAmountUnits) := match sourceOrientation with
        | .baseIsToken => (TradeSide.buy, event.baseAmountOut, event.quoteAmountIn)
        | .quoteIsToken => (TradeSide.sell, event.quoteAmountIn, event.baseAmountOut)
      let reserves := orientSourceAmounts sourceOrientation event.poolBaseTokenReserves
        event.poolQuoteTokenReserves
      return {
        eventKind := pumpSwapTradeKind side
        market
        payload := .trade side event.user baseAmountUnits quoteAmountUnits (some reserves.1)
          (some reserves.2)
        discoveredMarket := none }
  | .pumpSwapSell event => do
      requireNonZeroTradeAmounts event.baseAmountIn event.quoteAmountOut
      let (market, sourceOrientation) ← orientedPool markets event.pool
      let (side, baseAmountUnits, quoteAmountUnits) := match sourceOrientation with
        | .baseIsToken => (TradeSide.sell, event.baseAmountIn, event.quoteAmountOut)
        | .quoteIsToken => (TradeSide.buy, event.quoteAmountOut, event.baseAmountIn)
      let reserves := orientSourceAmounts sourceOrientation event.poolBaseTokenReserves
        event.poolQuoteTokenReserves
      return {
        eventKind := pumpSwapTradeKind side
        market
        payload := .trade side event.user baseAmountUnits quoteAmountUnits (some reserves.1)
          (some reserves.2)
        discoveredMarket := none }
  | .pumpSwapDeposit event => do
      let (market, sourceOrientation) ← orientedPool markets event.pool
      let amounts := orientSourceAmounts sourceOrientation event.baseAmountIn event.quoteAmountIn
      let reserves := orientSourceAmounts sourceOrientation event.poolBaseTokenReserves
        event.poolQuoteTokenReserves
      return {
        eventKind := "LIQUIDITY_DEPOSIT"
        market
        payload := .liquidityDeposited event.user amounts.1 amounts.2 reserves.1 reserves.2
          event.lpTokenAmountOut event.lpMintSupply
        discoveredMarket := none }
  | .pumpSwapWithdraw event => do
      let (market, sourceOrientation) ← orientedPool markets event.pool
      let amounts := orientSourceAmounts sourceOrientation event.baseAmountOut event.quoteAmountOut
      let reserves := orientSourceAmounts sourceOrientation event.poolBaseTokenReserves
        event.poolQuoteTokenReserves
      return {
        eventKind := "LIQUIDITY_WITHDRAW"
        market
        payload := .liquidityWithdrawn event.user amounts.1 amounts.2 reserves.1 reserves.2
          event.lpTokenAmountIn event.lpMintSupply
        discoveredMarket := none }

structure NormalizedPumpEvent where
  observation : Observation
  discoveredMarket : Option MarketIdentity
deriving DecidableEq, Repr

/-- A time before the epoch or beyond 64 bits is left out. -/
def sourceEventTime (event : SourcePump.PumpEvent) : Option Int :=
  (checkedI64 ((eventTimestamp event).toInt * 1000)).filter fun timestamp => 0 ≤ timestamp

def normalizePumpEvent (encoding : EvidenceEncoding) (decoded : DecodedPumpEvent)
    (network : Network) (commitment : Commitment) (receivedTimeUnixMs : Int)
    (rawEvidence : List UInt8) (markets : MarketRegistry) :
    Except NormalizationError NormalizedPumpEvent := do
  let fields ← normalizeFields network markets decoded.event
  return {
    observation := {
      key := {
        network
        program := decoded.program.sourceProgram
        coordinate := decoded.coordinate }
      commitment
      schemaVersion := decoderSchemaVersion
      decoderVersion
      eventKind := fields.eventKind
      market := fields.market
      sourceEventTimeUnixMs := sourceEventTime decoded.event
      receivedTimeUnixMs
      rawEvidenceHash := encoding.evidenceHash rawEvidence
      sourceEvidenceBase64 := encoding.encodeBase64 rawEvidence
      sourceDetails := encoding.sourceDetails decoded.event
      payload := fields.payload }
    discoveredMarket := fields.discoveredMarket }

end Soldisco.Pipeline
