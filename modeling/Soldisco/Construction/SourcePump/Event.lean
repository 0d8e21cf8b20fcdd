import Soldisco.Construction.Domain

/-
This file embeds the programs, the events and the pinned discriminators of the Pump sources.
-/

namespace Soldisco.SourcePump
open Domain

inductive PumpProgram where
  | pump
  | pumpSwap
deriving DecidableEq, Repr

inductive TradeDirection where
  | buy
  | sell
deriving DecidableEq, Repr

structure PumpShareholder where
  address : String
  shareBasisPoints : UInt16
deriving DecidableEq, Repr

structure PumpCreateEvent where
  name : String
  symbol : String
  uri : String
  mint : String
  bondingCurve : String
  user : String
  creator : String
  timestamp : Int64
  virtualTokenReserves : UInt64
  virtualSolReserves : UInt64
  realTokenReserves : UInt64
  tokenTotalSupply : UInt64
  tokenProgram : String
  isMayhemMode : Bool
  isCashbackEnabled : Bool
  quoteMint : String
  virtualQuoteReserves : UInt64
deriving DecidableEq, Repr

structure PumpTradeEvent where
  mint : String
  legacySolAmount : UInt64
  tokenAmount : UInt64
  direction : TradeDirection
  user : String
  timestamp : Int64
  virtualSolReserves : UInt64
  virtualTokenReserves : UInt64
  realSolReserves : UInt64
  realTokenReserves : UInt64
  feeRecipient : String
  feeBasisPoints : UInt64
  feeAmount : UInt64
  creator : String
  creatorFeeBasisPoints : UInt64
  creatorFeeAmount : UInt64
  trackVolume : Bool
  totalUnclaimedTokens : UInt64
  totalClaimedTokens : UInt64
  currentSolVolume : UInt64
  lastUpdateTimestamp : Int64
  instructionName : String
  mayhemMode : Bool
  cashbackFeeBasisPoints : UInt64
  cashbackAmount : UInt64
  buybackFeeBasisPoints : UInt64
  buybackFeeAmount : UInt64
  shareholders : List PumpShareholder
  quoteMint : String
  quoteAmount : UInt64
  virtualQuoteReserves : UInt64
  realQuoteReserves : UInt64
deriving DecidableEq, Repr

structure PumpCompleteEvent where
  user : String
  mint : String
  bondingCurve : String
  timestamp : Int64
  quoteMint : String
deriving DecidableEq, Repr

structure PumpMigrationEvent where
  user : String
  mint : String
  mintAmount : UInt64
  legacySolAmount : UInt64
  poolMigrationFee : UInt64
  bondingCurve : String
  timestamp : Int64
  pool : String
  quoteMint : String
deriving DecidableEq, Repr

structure PumpSwapCreatePoolEvent where
  timestamp : Int64
  index : UInt16
  creator : String
  baseMint : String
  quoteMint : String
  baseMintDecimals : UInt8
  quoteMintDecimals : UInt8
  baseAmountIn : UInt64
  quoteAmountIn : UInt64
  poolBaseAmount : UInt64
  poolQuoteAmount : UInt64
  minimumLiquidity : UInt64
  initialLiquidity : UInt64
  lpTokenAmountOut : UInt64
  poolBump : UInt8
  pool : String
  lpMint : String
  userBaseTokenAccount : String
  userQuoteTokenAccount : String
  coinCreator : String
  isMayhemMode : Bool
deriving DecidableEq, Repr

/-- The virtual reserve is a signed 128-bit number in two's complement. -/
structure PumpSwapBuyEvent where
  timestamp : Int64
  baseAmountOut : UInt64
  maxQuoteAmountIn : UInt64
  userBaseTokenReserves : UInt64
  userQuoteTokenReserves : UInt64
  poolBaseTokenReserves : UInt64
  poolQuoteTokenReserves : UInt64
  quoteAmountIn : UInt64
  lpFeeBasisPoints : UInt64
  lpFeeAmount : UInt64
  protocolFeeBasisPoints : UInt64
  protocolFeeAmount : UInt64
  quoteAmountInWithLpFee : UInt64
  userQuoteAmountIn : UInt64
  pool : String
  user : String
  userBaseTokenAccount : String
  userQuoteTokenAccount : String
  protocolFeeRecipient : String
  protocolFeeRecipientTokenAccount : String
  coinCreator : String
  coinCreatorFeeBasisPoints : UInt64
  coinCreatorFeeAmount : UInt64
  trackVolume : Bool
  totalUnclaimedTokens : UInt64
  totalClaimedTokens : UInt64
  currentSolVolume : UInt64
  lastUpdateTimestamp : Int64
  minBaseAmountOut : UInt64
  instructionName : String
  cashbackFeeBasisPoints : UInt64
  cashbackAmount : UInt64
  buybackFeeBasisPoints : UInt64
  buybackFeeAmount : UInt64
  virtualQuoteReserves : BitVec 128
  canBoost : Bool
  baseSupply : UInt64
deriving DecidableEq, Repr

structure PumpSwapSellEvent where
  timestamp : Int64
  baseAmountIn : UInt64
  minQuoteAmountOut : UInt64
  userBaseTokenReserves : UInt64
  userQuoteTokenReserves : UInt64
  poolBaseTokenReserves : UInt64
  poolQuoteTokenReserves : UInt64
  quoteAmountOut : UInt64
  lpFeeBasisPoints : UInt64
  lpFeeAmount : UInt64
  protocolFeeBasisPoints : UInt64
  protocolFeeAmount : UInt64
  quoteAmountOutWithoutLpFee : UInt64
  userQuoteAmountOut : UInt64
  pool : String
  user : String
  userBaseTokenAccount : String
  userQuoteTokenAccount : String
  protocolFeeRecipient : String
  protocolFeeRecipientTokenAccount : String
  coinCreator : String
  coinCreatorFeeBasisPoints : UInt64
  coinCreatorFeeAmount : UInt64
  cashbackFeeBasisPoints : UInt64
  cashbackAmount : UInt64
  buybackFeeBasisPoints : UInt64
  buybackFeeAmount : UInt64
  virtualQuoteReserves : BitVec 128
  canBoost : Bool
  baseSupply : UInt64
deriving DecidableEq, Repr

/-- Amounts and reserves keep the base and quote order of the source. -/
structure PumpSwapDepositEvent where
  timestamp : Int64
  lpTokenAmountOut : UInt64
  maxBaseAmountIn : UInt64
  maxQuoteAmountIn : UInt64
  userBaseTokenReserves : UInt64
  userQuoteTokenReserves : UInt64
  poolBaseTokenReserves : UInt64
  poolQuoteTokenReserves : UInt64
  baseAmountIn : UInt64
  quoteAmountIn : UInt64
  lpMintSupply : UInt64
  pool : String
  user : String
  userBaseTokenAccount : String
  userQuoteTokenAccount : String
  userPoolTokenAccount : String
deriving DecidableEq, Repr

/-- Amounts and reserves keep the base and quote order of the source. -/
structure PumpSwapWithdrawEvent where
  timestamp : Int64
  lpTokenAmountIn : UInt64
  minBaseAmountOut : UInt64
  minQuoteAmountOut : UInt64
  userBaseTokenReserves : UInt64
  userQuoteTokenReserves : UInt64
  poolBaseTokenReserves : UInt64
  poolQuoteTokenReserves : UInt64
  baseAmountOut : UInt64
  quoteAmountOut : UInt64
  lpMintSupply : UInt64
  pool : String
  user : String
  userBaseTokenAccount : String
  userQuoteTokenAccount : String
  userPoolTokenAccount : String
deriving DecidableEq, Repr

inductive PumpEvent where
  | create (event : PumpCreateEvent)
  | trade (event : PumpTradeEvent)
  | complete (event : PumpCompleteEvent)
  | completePumpAmmMigration (event : PumpMigrationEvent)
  | pumpSwapCreatePool (event : PumpSwapCreatePoolEvent)
  | pumpSwapBuy (event : PumpSwapBuyEvent)
  | pumpSwapSell (event : PumpSwapSellEvent)
  | pumpSwapDeposit (event : PumpSwapDepositEvent)
  | pumpSwapWithdraw (event : PumpSwapWithdrawEvent)
deriving DecidableEq, Repr

structure DecodedPumpEvent where
  program : PumpProgram
  coordinate : ChainCoordinate
  event : PumpEvent
deriving DecidableEq, Repr

def pumpProgramId : String := "6EF8rrecthR5Dkzon8Nwu78hRvfCKubJ14M5uBEwF6P"

def pumpSwapProgramId : String := "pAMMBay6oceH9fJKBRHGP5D4bD4sWpmSwMn52FMfXEA"

/-- The prefix of an event that is carried by a self-invocation. -/
def anchorEventCpiDiscriminator : List UInt8 := [228, 69, 165, 46, 81, 203, 154, 29]

def completeEventDiscriminator : List UInt8 := [95, 114, 97, 156, 212, 46, 152, 8]

def completePumpAmmMigrationEventDiscriminator : List UInt8 :=
  [189, 233, 93, 185, 92, 148, 234, 148]

def createEventDiscriminator : List UInt8 := [27, 114, 169, 77, 222, 235, 99, 118]

def tradeEventDiscriminator : List UInt8 := [189, 219, 127, 211, 78, 230, 97, 238]

def createPoolEventDiscriminator : List UInt8 := [177, 49, 12, 210, 160, 118, 167, 116]

def pumpSwapBuyEventDiscriminator : List UInt8 := [103, 244, 82, 31, 44, 245, 119, 119]

def pumpSwapSellEventDiscriminator : List UInt8 := [62, 47, 55, 10, 165, 3, 220, 42]

def pumpSwapDepositEventDiscriminator : List UInt8 := [120, 248, 61, 83, 31, 142, 107, 144]

def pumpSwapWithdrawEventDiscriminator : List UInt8 := [22, 9, 133, 26, 160, 44, 71, 192]

def pumpEventDiscriminators : List (List UInt8) :=
  [[64, 69, 192, 104, 29, 30, 25, 107],
    [245, 59, 70, 34, 75, 185, 109, 92],
    [147, 250, 108, 120, 247, 29, 67, 222],
    [226, 214, 246, 33, 7, 242, 147, 229],
    [79, 172, 246, 49, 205, 91, 206, 232],
    [146, 159, 189, 172, 146, 88, 56, 244],
    [122, 2, 127, 1, 14, 191, 12, 175],
    completeEventDiscriminator,
    completePumpAmmMigrationEventDiscriminator,
    createEventDiscriminator,
    [165, 55, 129, 112, 4, 179, 202, 40],
    [97, 97, 215, 144, 93, 146, 22, 124],
    [134, 36, 13, 72, 232, 101, 130, 216],
    [155, 167, 104, 220, 213, 108, 243, 3],
    [168, 216, 132, 239, 235, 182, 49, 52],
    [43, 188, 250, 18, 221, 75, 187, 95],
    [237, 52, 123, 37, 245, 251, 72, 210],
    [142, 203, 6, 32, 127, 105, 191, 162],
    [223, 195, 159, 246, 62, 48, 143, 131],
    [197, 122, 167, 124, 116, 81, 91, 255],
    tradeEventDiscriminator,
    [182, 195, 137, 42, 35, 206, 207, 247],
    [117, 123, 228, 182, 161, 168, 220, 214]]

def pumpSwapEventDiscriminators : List (List UInt8) :=
  [[45, 220, 93, 24, 25, 97, 172, 104],
    [147, 250, 108, 120, 247, 29, 67, 222],
    [63, 69, 28, 22, 48, 92, 194, 185],
    pumpSwapBuyEventDiscriminator,
    [226, 214, 246, 33, 7, 242, 147, 229],
    [79, 172, 246, 49, 205, 91, 206, 232],
    [146, 159, 189, 172, 146, 88, 56, 244],
    [232, 245, 194, 238, 234, 218, 58, 89],
    [107, 52, 89, 129, 55, 226, 81, 22],
    createPoolEventDiscriminator,
    [120, 248, 61, 83, 31, 142, 107, 144],
    [107, 253, 193, 76, 228, 202, 27, 104],
    [97, 97, 215, 144, 93, 146, 22, 124],
    [174, 124, 74, 249, 4, 81, 246, 17],
    [134, 36, 13, 72, 232, 101, 130, 216],
    [170, 221, 82, 199, 147, 165, 247, 46],
    [43, 188, 250, 18, 221, 75, 187, 95],
    pumpSwapSellEventDiscriminator,
    [242, 231, 235, 102, 65, 99, 189, 211],
    [89, 128, 240, 141, 91, 202, 71, 105],
    [150, 107, 199, 123, 124, 207, 102, 228],
    [197, 122, 167, 124, 116, 81, 91, 255],
    [225, 152, 171, 87, 246, 63, 66, 234],
    [90, 23, 65, 35, 62, 244, 188, 208],
    [22, 9, 133, 26, 160, 44, 71, 192]]

/-- The discriminator belongs to the pinned events of the program, decoded or not. -/
def isPinnedEventDiscriminator (program : PumpProgram) (discriminator : List UInt8) : Bool :=
  match program with
  | .pump => pumpEventDiscriminators.contains discriminator
  | .pumpSwap => pumpSwapEventDiscriminators.contains discriminator

namespace PumpProgram

def programId : PumpProgram → String
  | .pump => pumpProgramId
  | .pumpSwap => pumpSwapProgramId

def sourceProgram : PumpProgram → SourceProgram
  | .pump => .pump
  | .pumpSwap => .pumpSwap

end PumpProgram

def supportedProgram (programId : String) : Option PumpProgram :=
  if programId = pumpProgramId then some .pump
  else if programId = pumpSwapProgramId then some .pumpSwap
  else none

end Soldisco.SourcePump
