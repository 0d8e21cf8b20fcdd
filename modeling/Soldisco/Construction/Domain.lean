import Mathlib.Data.String.Basic

/-
This file gives the provider-neutral facts that the backend crates share.
-/

namespace Soldisco.Domain

inductive Network where
  | solanaMainnet
  | solanaDevnet
deriving DecidableEq, Repr

inductive Venue where
  | pumpBondingCurve
  | pumpSwap
  | raydiumCpmm
  | raydiumClmm
  | raydiumAmmV4
deriving DecidableEq, Repr

structure MarketIdentity where
  network : Network
  mint : String
  venue : Venue
  marketAddress : String
  quoteMint : Option String
deriving DecidableEq, Repr

inductive SourceProgram where
  | pump
  | pumpSwap
  | raydiumCpmm
  | raydiumClmm
  | raydiumAmmV4
deriving DecidableEq, Repr

inductive TradeSide where
  | buy
  | sell
deriving DecidableEq, Repr

/-- The slot and transaction index are unsigned 64-bit and both indexes unsigned 16-bit. -/
structure ChainCoordinate where
  slot : Nat
  transactionIndex : Option Nat
  signature : String
  instructionIndex : Nat
  eventIndex : Nat
deriving DecidableEq, Repr

structure ObservationKey where
  network : Network
  program : SourceProgram
  coordinate : ChainCoordinate
deriving DecidableEq, Repr

/-- The source-neutral facts of one event. -/
inductive ObservationPayload where
  | tokenCreated (name symbol uri creator user : String)
  | marketCreated (creator : String) (baseAmountUnits quoteAmountUnits : UInt64)
  | trade (side : TradeSide) (wallet : String) (baseAmountUnits quoteAmountUnits : UInt64)
      (baseReserveUnits quoteReserveUnits : Option UInt64)
  | liquidityDeposited (provider : String) (baseAmountUnits quoteAmountUnits baseReserveUnits
      quoteReserveUnits lpTokenAmountUnits lpTokenSupplyUnits : UInt64)
  | liquidityWithdrawn (provider : String) (baseAmountUnits quoteAmountUnits baseReserveUnits
      quoteReserveUnits lpTokenAmountUnits lpTokenSupplyUnits : UInt64)
  | marketCompleted (user : String)
  | marketMigrated (user destinationMarket : String) (baseAmountUnits legacySolAmountUnits : UInt64)
deriving DecidableEq, Repr

/-- The fields of an observation that the engine reads. -/
structure NormalizedObservation where
  key : ObservationKey
  market : MarketIdentity
  sourceEventTimeUnixMs : Option Int
  receivedTimeUnixMs : Int
  payload : ObservationPayload
deriving DecidableEq, Repr

inductive AssessmentDecision where
  | pass
  | reject
  | unknown
deriving DecidableEq, Repr

structure RuleResult where
  ruleId : String
  ruleVersion : String
  decision : AssessmentDecision
  reasonCode : String
  evidenceReference : Option String
  observedSlot : Option Nat
deriving DecidableEq, Repr

end Soldisco.Domain
