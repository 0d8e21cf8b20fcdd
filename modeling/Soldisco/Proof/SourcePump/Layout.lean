import Soldisco.Proof.SourcePump.Borsh

/-
This file gives the layout of each event and proves that its decoder reads exactly that layout.
-/

namespace Soldisco.SourcePump
open ByteReader BorshReader

def PumpCreateEvent.parts (event : PumpCreateEvent) : List (List UInt8) :=
  [Encoding.string event.name, Encoding.string event.symbol, Encoding.string event.uri,
    Encoding.pubkey event.mint, Encoding.pubkey event.bondingCurve, Encoding.pubkey event.user,
    Encoding.pubkey event.creator, Encoding.i64 event.timestamp,
    Encoding.u64 event.virtualTokenReserves, Encoding.u64 event.virtualSolReserves,
    Encoding.u64 event.realTokenReserves, Encoding.u64 event.tokenTotalSupply,
    Encoding.pubkey event.tokenProgram, Encoding.boolean event.isMayhemMode,
    Encoding.boolean event.isCashbackEnabled, Encoding.pubkey event.quoteMint,
    Encoding.u64 event.virtualQuoteReserves]

def PumpCreateEvent.Valid (event : PumpCreateEvent) : Prop :=
  FitsLimit maxNameBytes event.name ∧ FitsLimit maxSymbolBytes event.symbol ∧
    FitsLimit maxUriBytes event.uri ∧ IsAddress event.mint ∧ IsAddress event.bondingCurve ∧
    IsAddress event.user ∧ IsAddress event.creator ∧ IsAddress event.tokenProgram ∧
    IsAddress event.quoteMint

def PumpTradeEvent.parts (event : PumpTradeEvent) : List (List UInt8) :=
  [Encoding.pubkey event.mint, Encoding.u64 event.legacySolAmount, Encoding.u64 event.tokenAmount,
    Encoding.boolean (event.direction == .buy), Encoding.pubkey event.user,
    Encoding.i64 event.timestamp, Encoding.u64 event.virtualSolReserves,
    Encoding.u64 event.virtualTokenReserves, Encoding.u64 event.realSolReserves,
    Encoding.u64 event.realTokenReserves, Encoding.pubkey event.feeRecipient,
    Encoding.u64 event.feeBasisPoints, Encoding.u64 event.feeAmount, Encoding.pubkey event.creator,
    Encoding.u64 event.creatorFeeBasisPoints, Encoding.u64 event.creatorFeeAmount,
    Encoding.boolean event.trackVolume, Encoding.u64 event.totalUnclaimedTokens,
    Encoding.u64 event.totalClaimedTokens, Encoding.u64 event.currentSolVolume,
    Encoding.i64 event.lastUpdateTimestamp, Encoding.string event.instructionName,
    Encoding.boolean event.mayhemMode, Encoding.u64 event.cashbackFeeBasisPoints,
    Encoding.u64 event.cashbackAmount, Encoding.u64 event.buybackFeeBasisPoints,
    Encoding.u64 event.buybackFeeAmount, Encoding.shareholders event.shareholders,
    Encoding.pubkey event.quoteMint, Encoding.u64 event.quoteAmount,
    Encoding.u64 event.virtualQuoteReserves, Encoding.u64 event.realQuoteReserves]

def PumpTradeEvent.Valid (event : PumpTradeEvent) : Prop :=
  IsAddress event.mint ∧ IsAddress event.user ∧ IsAddress event.feeRecipient ∧
    IsAddress event.creator ∧ FitsLimit maxInstructionNameBytes event.instructionName ∧
    ValidShareholders event.shareholders ∧ IsAddress event.quoteMint

def PumpCompleteEvent.parts (event : PumpCompleteEvent) : List (List UInt8) :=
  [Encoding.pubkey event.user, Encoding.pubkey event.mint, Encoding.pubkey event.bondingCurve,
    Encoding.i64 event.timestamp, Encoding.pubkey event.quoteMint]

def PumpCompleteEvent.Valid (event : PumpCompleteEvent) : Prop :=
  IsAddress event.user ∧ IsAddress event.mint ∧ IsAddress event.bondingCurve ∧
    IsAddress event.quoteMint

def PumpMigrationEvent.parts (event : PumpMigrationEvent) : List (List UInt8) :=
  [Encoding.pubkey event.user, Encoding.pubkey event.mint, Encoding.u64 event.mintAmount,
    Encoding.u64 event.legacySolAmount, Encoding.u64 event.poolMigrationFee,
    Encoding.pubkey event.bondingCurve, Encoding.i64 event.timestamp, Encoding.pubkey event.pool,
    Encoding.pubkey event.quoteMint]

def PumpMigrationEvent.Valid (event : PumpMigrationEvent) : Prop :=
  IsAddress event.user ∧ IsAddress event.mint ∧ IsAddress event.bondingCurve ∧
    IsAddress event.pool ∧ IsAddress event.quoteMint

def PumpSwapCreatePoolEvent.parts (event : PumpSwapCreatePoolEvent) : List (List UInt8) :=
  [Encoding.i64 event.timestamp, Encoding.u16 event.index, Encoding.pubkey event.creator,
    Encoding.pubkey event.baseMint, Encoding.pubkey event.quoteMint,
    Encoding.u8 event.baseMintDecimals, Encoding.u8 event.quoteMintDecimals,
    Encoding.u64 event.baseAmountIn, Encoding.u64 event.quoteAmountIn,
    Encoding.u64 event.poolBaseAmount, Encoding.u64 event.poolQuoteAmount,
    Encoding.u64 event.minimumLiquidity, Encoding.u64 event.initialLiquidity,
    Encoding.u64 event.lpTokenAmountOut, Encoding.u8 event.poolBump, Encoding.pubkey event.pool,
    Encoding.pubkey event.lpMint, Encoding.pubkey event.userBaseTokenAccount,
    Encoding.pubkey event.userQuoteTokenAccount, Encoding.pubkey event.coinCreator,
    Encoding.boolean event.isMayhemMode]

def PumpSwapCreatePoolEvent.Valid (event : PumpSwapCreatePoolEvent) : Prop :=
  IsAddress event.creator ∧ IsAddress event.baseMint ∧ IsAddress event.quoteMint ∧
    IsAddress event.pool ∧ IsAddress event.lpMint ∧ IsAddress event.userBaseTokenAccount ∧
    IsAddress event.userQuoteTokenAccount ∧ IsAddress event.coinCreator

def PumpSwapBuyEvent.parts (event : PumpSwapBuyEvent) : List (List UInt8) :=
  [Encoding.i64 event.timestamp, Encoding.u64 event.baseAmountOut,
    Encoding.u64 event.maxQuoteAmountIn, Encoding.u64 event.userBaseTokenReserves,
    Encoding.u64 event.userQuoteTokenReserves, Encoding.u64 event.poolBaseTokenReserves,
    Encoding.u64 event.poolQuoteTokenReserves, Encoding.u64 event.quoteAmountIn,
    Encoding.u64 event.lpFeeBasisPoints, Encoding.u64 event.lpFeeAmount,
    Encoding.u64 event.protocolFeeBasisPoints, Encoding.u64 event.protocolFeeAmount,
    Encoding.u64 event.quoteAmountInWithLpFee, Encoding.u64 event.userQuoteAmountIn,
    Encoding.pubkey event.pool, Encoding.pubkey event.user,
    Encoding.pubkey event.userBaseTokenAccount, Encoding.pubkey event.userQuoteTokenAccount,
    Encoding.pubkey event.protocolFeeRecipient,
    Encoding.pubkey event.protocolFeeRecipientTokenAccount, Encoding.pubkey event.coinCreator,
    Encoding.u64 event.coinCreatorFeeBasisPoints, Encoding.u64 event.coinCreatorFeeAmount,
    Encoding.boolean event.trackVolume, Encoding.u64 event.totalUnclaimedTokens,
    Encoding.u64 event.totalClaimedTokens, Encoding.u64 event.currentSolVolume,
    Encoding.i64 event.lastUpdateTimestamp, Encoding.u64 event.minBaseAmountOut,
    Encoding.string event.instructionName, Encoding.u64 event.cashbackFeeBasisPoints,
    Encoding.u64 event.cashbackAmount, Encoding.u64 event.buybackFeeBasisPoints,
    Encoding.u64 event.buybackFeeAmount, Encoding.i128 event.virtualQuoteReserves,
    Encoding.boolean event.canBoost, Encoding.u64 event.baseSupply]

def PumpSwapBuyEvent.Valid (event : PumpSwapBuyEvent) : Prop :=
  IsAddress event.pool ∧ IsAddress event.user ∧ IsAddress event.userBaseTokenAccount ∧
    IsAddress event.userQuoteTokenAccount ∧ IsAddress event.protocolFeeRecipient ∧
    IsAddress event.protocolFeeRecipientTokenAccount ∧ IsAddress event.coinCreator ∧
    FitsLimit maxInstructionNameBytes event.instructionName

def PumpSwapSellEvent.parts (event : PumpSwapSellEvent) : List (List UInt8) :=
  [Encoding.i64 event.timestamp, Encoding.u64 event.baseAmountIn,
    Encoding.u64 event.minQuoteAmountOut, Encoding.u64 event.userBaseTokenReserves,
    Encoding.u64 event.userQuoteTokenReserves, Encoding.u64 event.poolBaseTokenReserves,
    Encoding.u64 event.poolQuoteTokenReserves, Encoding.u64 event.quoteAmountOut,
    Encoding.u64 event.lpFeeBasisPoints, Encoding.u64 event.lpFeeAmount,
    Encoding.u64 event.protocolFeeBasisPoints, Encoding.u64 event.protocolFeeAmount,
    Encoding.u64 event.quoteAmountOutWithoutLpFee, Encoding.u64 event.userQuoteAmountOut,
    Encoding.pubkey event.pool, Encoding.pubkey event.user,
    Encoding.pubkey event.userBaseTokenAccount, Encoding.pubkey event.userQuoteTokenAccount,
    Encoding.pubkey event.protocolFeeRecipient,
    Encoding.pubkey event.protocolFeeRecipientTokenAccount, Encoding.pubkey event.coinCreator,
    Encoding.u64 event.coinCreatorFeeBasisPoints, Encoding.u64 event.coinCreatorFeeAmount,
    Encoding.u64 event.cashbackFeeBasisPoints, Encoding.u64 event.cashbackAmount,
    Encoding.u64 event.buybackFeeBasisPoints, Encoding.u64 event.buybackFeeAmount,
    Encoding.i128 event.virtualQuoteReserves, Encoding.boolean event.canBoost,
    Encoding.u64 event.baseSupply]

def PumpSwapSellEvent.Valid (event : PumpSwapSellEvent) : Prop :=
  IsAddress event.pool ∧ IsAddress event.user ∧ IsAddress event.userBaseTokenAccount ∧
    IsAddress event.userQuoteTokenAccount ∧ IsAddress event.protocolFeeRecipient ∧
    IsAddress event.protocolFeeRecipientTokenAccount ∧ IsAddress event.coinCreator

def PumpSwapDepositEvent.parts (event : PumpSwapDepositEvent) : List (List UInt8) :=
  [Encoding.i64 event.timestamp, Encoding.u64 event.lpTokenAmountOut,
    Encoding.u64 event.maxBaseAmountIn, Encoding.u64 event.maxQuoteAmountIn,
    Encoding.u64 event.userBaseTokenReserves, Encoding.u64 event.userQuoteTokenReserves,
    Encoding.u64 event.poolBaseTokenReserves, Encoding.u64 event.poolQuoteTokenReserves,
    Encoding.u64 event.baseAmountIn, Encoding.u64 event.quoteAmountIn,
    Encoding.u64 event.lpMintSupply, Encoding.pubkey event.pool, Encoding.pubkey event.user,
    Encoding.pubkey event.userBaseTokenAccount, Encoding.pubkey event.userQuoteTokenAccount,
    Encoding.pubkey event.userPoolTokenAccount]

def PumpSwapDepositEvent.Valid (event : PumpSwapDepositEvent) : Prop :=
  IsAddress event.pool ∧ IsAddress event.user ∧ IsAddress event.userBaseTokenAccount ∧
    IsAddress event.userQuoteTokenAccount ∧ IsAddress event.userPoolTokenAccount

def PumpSwapWithdrawEvent.parts (event : PumpSwapWithdrawEvent) : List (List UInt8) :=
  [Encoding.i64 event.timestamp, Encoding.u64 event.lpTokenAmountIn,
    Encoding.u64 event.minBaseAmountOut, Encoding.u64 event.minQuoteAmountOut,
    Encoding.u64 event.userBaseTokenReserves, Encoding.u64 event.userQuoteTokenReserves,
    Encoding.u64 event.poolBaseTokenReserves, Encoding.u64 event.poolQuoteTokenReserves,
    Encoding.u64 event.baseAmountOut, Encoding.u64 event.quoteAmountOut,
    Encoding.u64 event.lpMintSupply, Encoding.pubkey event.pool, Encoding.pubkey event.user,
    Encoding.pubkey event.userBaseTokenAccount, Encoding.pubkey event.userQuoteTokenAccount,
    Encoding.pubkey event.userPoolTokenAccount]

def PumpSwapWithdrawEvent.Valid (event : PumpSwapWithdrawEvent) : Prop :=
  IsAddress event.pool ∧ IsAddress event.user ∧ IsAddress event.userBaseTokenAccount ∧
    IsAddress event.userQuoteTokenAccount ∧ IsAddress event.userPoolTokenAccount

section Decoders

attribute [ext] PumpCreateEvent PumpTradeEvent PumpCompleteEvent PumpMigrationEvent
  PumpSwapCreatePoolEvent PumpSwapBuyEvent PumpSwapSellEvent PumpSwapDepositEvent
  PumpSwapWithdrawEvent

theorem decodePumpCreate_reads :
    Reads decodePumpCreate (fun event => event.parts.flatten) PumpCreateEvent.Valid := by
  unfold decodePumpCreate PumpCreateEvent.parts PumpCreateEvent.Valid
  exact .ofLayout (by simp [PumpCreateEvent.ext_iff, eq_comm, and_assoc])

/-- The side of a trade is a flag. -/
theorem direction_eq_iff (flag : Bool) (direction : TradeDirection) :
    direction = (if flag = true then .buy else .sell) ↔ flag = (direction == .buy) := by
  cases flag <;> cases direction <;> decide

theorem decodePumpTrade_reads :
    Reads decodePumpTrade (fun event => event.parts.flatten) PumpTradeEvent.Valid := by
  unfold decodePumpTrade PumpTradeEvent.parts PumpTradeEvent.Valid
  exact .ofLayout (by simp [PumpTradeEvent.ext_iff, direction_eq_iff, eq_comm, and_assoc])

theorem decodePumpComplete_reads :
    Reads decodePumpComplete (fun event => event.parts.flatten) PumpCompleteEvent.Valid := by
  unfold decodePumpComplete PumpCompleteEvent.parts PumpCompleteEvent.Valid
  exact .ofLayout (by simp [PumpCompleteEvent.ext_iff, eq_comm, and_assoc])

theorem decodePumpMigration_reads :
    Reads decodePumpMigration (fun event => event.parts.flatten) PumpMigrationEvent.Valid := by
  unfold decodePumpMigration PumpMigrationEvent.parts PumpMigrationEvent.Valid
  exact .ofLayout (by simp [PumpMigrationEvent.ext_iff, eq_comm, and_assoc])

theorem decodePumpSwapCreatePool_reads :
    Reads decodePumpSwapCreatePool (fun event => event.parts.flatten) PumpSwapCreatePoolEvent.Valid := by
  unfold decodePumpSwapCreatePool PumpSwapCreatePoolEvent.parts PumpSwapCreatePoolEvent.Valid
  exact .ofLayout (by simp [PumpSwapCreatePoolEvent.ext_iff, eq_comm, and_assoc])

theorem decodePumpSwapBuy_reads :
    Reads decodePumpSwapBuy (fun event => event.parts.flatten) PumpSwapBuyEvent.Valid := by
  unfold decodePumpSwapBuy PumpSwapBuyEvent.parts PumpSwapBuyEvent.Valid
  exact .ofLayout (by simp [PumpSwapBuyEvent.ext_iff, eq_comm, and_assoc])

theorem decodePumpSwapSell_reads :
    Reads decodePumpSwapSell (fun event => event.parts.flatten) PumpSwapSellEvent.Valid := by
  unfold decodePumpSwapSell PumpSwapSellEvent.parts PumpSwapSellEvent.Valid
  exact .ofLayout (by simp [PumpSwapSellEvent.ext_iff, eq_comm, and_assoc])

theorem decodePumpSwapDeposit_reads :
    Reads decodePumpSwapDeposit (fun event => event.parts.flatten) PumpSwapDepositEvent.Valid := by
  unfold decodePumpSwapDeposit PumpSwapDepositEvent.parts PumpSwapDepositEvent.Valid
  exact .ofLayout (by simp [PumpSwapDepositEvent.ext_iff, eq_comm, and_assoc])

theorem decodePumpSwapWithdraw_reads :
    Reads decodePumpSwapWithdraw (fun event => event.parts.flatten) PumpSwapWithdrawEvent.Valid := by
  unfold decodePumpSwapWithdraw PumpSwapWithdrawEvent.parts PumpSwapWithdrawEvent.Valid
  exact .ofLayout (by simp [PumpSwapWithdrawEvent.ext_iff, eq_comm, and_assoc])

end Decoders
end Soldisco.SourcePump
