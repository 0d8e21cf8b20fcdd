import Soldisco.Construction.SourcePump.Event
import Soldisco.Library.ByteReader
import Soldisco.Library.Text

/-
This file embeds the strict decoder of the Pump events.
-/

namespace Soldisco.SourcePump
open Domain

def programDataPrefix : String := "Program data: "

def maxNameBytes : Nat := 256

def maxSymbolBytes : Nat := 64

def maxUriBytes : Nat := 4096

def maxInstructionNameBytes : Nat := 96

def maxShareholders : Nat := 64

inductive DecodeError where
  | unsupportedProgram (programId : String)
  | emptySignature
  | missingDiscriminator
  | missingCpiDiscriminator
  | unknownDiscriminator (program : PumpProgram) (discriminator : List UInt8)
  | truncated (field : String) (needed remaining : Nat)
  | invalidUtf8 (field : String)
  | invalidBoolean (field : String) (value : UInt8)
  | limitExceeded (field : String) (limit actual : Nat)
  | trailingBytes (remaining : Nat)
  | invalidProgramDataLog
  | invalidBase64
deriving DecidableEq, Repr

/-- The digit of each base-58 character is its position. -/
def base58Alphabet : List Char :=
  "123456789ABCDEFGHJKLMNPQRSTUVWXYZabcdefghijkmnopqrstuvwxyz".toList

/-- The digits of a carry that is left after the last digit. -/
def carryDigits : Nat → Nat → List Nat
  | 0, _ => []
  | bound + 1, carry => if carry = 0 then [] else carry % 58 :: carryDigits bound (carry / 58)

/-- The digits, lowest first, times 256 plus the carry. -/
def shiftDigits (carry : Nat) : List Nat → List Nat
  | [] => carryDigits carry carry
  | digit :: higher =>
      (digit * 256 + carry) % 58 :: shiftDigits ((digit * 256 + carry) / 58) higher

/-- Zeroes at the high end are dropped down to the last digit. -/
def dropHighZeroes : List Nat → List Nat
  | [] => []
  | [digit] => [digit]
  | digit :: higher =>
      match dropHighZeroes higher with
      | [0] => [digit]
      | kept => digit :: kept

def encodeBase58 (bytes : List UInt8) : String :=
  let leadingZeroes := (bytes.takeWhile (· == 0)).length
  let digits := dropHighZeroes
    (bytes.foldl (fun digits byte => shiftDigits byte.toNat digits) [0])
  String.ofList (List.replicate leadingZeroes '1' ++
    if leadingZeroes = bytes.length then []
    else digits.reverse.map fun digit => base58Alphabet.getD digit '1')

/-- The state of the reader are the bytes after its position. -/
abbrev BorshReader := ByteReader.Reader DecodeError

namespace BorshReader

def finish : BorshReader Unit := fun remaining =>
  if remaining.length = 0 then .ok ((), remaining)
  else .error (.trailingBytes remaining.length)

def take (field : String) (length : Nat) : BorshReader (List UInt8) :=
  ByteReader.take (fun remaining => .truncated field length remaining) length

def u8 (field : String) : BorshReader UInt8 := do
  return (← take field 1).headD 0

def u16 (field : String) : BorshReader UInt16 := do
  return UInt16.ofNat (LittleEndian.value (← take field 2))

def u32 (field : String) : BorshReader UInt32 := do
  return UInt32.ofNat (LittleEndian.value (← take field 4))

def u64 (field : String) : BorshReader UInt64 := do
  return UInt64.ofNat (LittleEndian.value (← take field 8))

def i64 (field : String) : BorshReader Int64 := do
  return (UInt64.ofNat (LittleEndian.value (← take field 8))).toInt64

def i128 (field : String) : BorshReader (BitVec 128) := do
  return BitVec.ofNat 128 (LittleEndian.value (← take field 16))

def boolean (field : String) : BorshReader Bool := do
  match ← u8 field with
  | 0 => return false
  | 1 => return true
  | value => throw (.invalidBoolean field value)

def pubkey (field : String) : BorshReader String := do
  return encodeBase58 (← take field 32)

def string (field : String) (limit : Nat) : BorshReader String := do
  let length := (← u32 field).toNat
  if length > limit then throw (.limitExceeded field limit length)
  else
    let bytes ← take field length
    match String.fromUTF8? ⟨bytes.toArray⟩ with
    | none => throw (.invalidUtf8 field)
    | some text => return text

def shareholder : BorshReader PumpShareholder := do
  return {
    address := ← pubkey "shareholder.address"
    shareBasisPoints := ← u16 "shareholder.share_bps" }

def shareholders : BorshReader (List PumpShareholder) := do
  let count := (← u32 "shareholders").toNat
  if count > maxShareholders then throw (.limitExceeded "shareholders" maxShareholders count)
  else ByteReader.repeated shareholder count

end BorshReader

open BorshReader

def decodePumpCreate : BorshReader PumpCreateEvent := do
  return {
    name := ← string "name" maxNameBytes
    symbol := ← string "symbol" maxSymbolBytes
    uri := ← string "uri" maxUriBytes
    mint := ← pubkey "mint"
    bondingCurve := ← pubkey "bonding_curve"
    user := ← pubkey "user"
    creator := ← pubkey "creator"
    timestamp := ← i64 "timestamp"
    virtualTokenReserves := ← u64 "virtual_token_reserves"
    virtualSolReserves := ← u64 "virtual_sol_reserves"
    realTokenReserves := ← u64 "real_token_reserves"
    tokenTotalSupply := ← u64 "token_total_supply"
    tokenProgram := ← pubkey "token_program"
    isMayhemMode := ← boolean "is_mayhem_mode"
    isCashbackEnabled := ← boolean "is_cashback_enabled"
    quoteMint := ← pubkey "quote_mint"
    virtualQuoteReserves := ← u64 "virtual_quote_reserves" }

def decodePumpTrade : BorshReader PumpTradeEvent := do
  let mint ← pubkey "mint"
  let legacySolAmount ← u64 "sol_amount"
  let tokenAmount ← u64 "token_amount"
  let direction := if ← boolean "is_buy" then TradeDirection.buy else TradeDirection.sell
  return {
    mint
    legacySolAmount
    tokenAmount
    direction
    user := ← pubkey "user"
    timestamp := ← i64 "timestamp"
    virtualSolReserves := ← u64 "virtual_sol_reserves"
    virtualTokenReserves := ← u64 "virtual_token_reserves"
    realSolReserves := ← u64 "real_sol_reserves"
    realTokenReserves := ← u64 "real_token_reserves"
    feeRecipient := ← pubkey "fee_recipient"
    feeBasisPoints := ← u64 "fee_basis_points"
    feeAmount := ← u64 "fee"
    creator := ← pubkey "creator"
    creatorFeeBasisPoints := ← u64 "creator_fee_basis_points"
    creatorFeeAmount := ← u64 "creator_fee"
    trackVolume := ← boolean "track_volume"
    totalUnclaimedTokens := ← u64 "total_unclaimed_tokens"
    totalClaimedTokens := ← u64 "total_claimed_tokens"
    currentSolVolume := ← u64 "current_sol_volume"
    lastUpdateTimestamp := ← i64 "last_update_timestamp"
    instructionName := ← string "ix_name" maxInstructionNameBytes
    mayhemMode := ← boolean "mayhem_mode"
    cashbackFeeBasisPoints := ← u64 "cashback_fee_basis_points"
    cashbackAmount := ← u64 "cashback"
    buybackFeeBasisPoints := ← u64 "buyback_fee_basis_points"
    buybackFeeAmount := ← u64 "buyback_fee"
    shareholders := ← shareholders
    quoteMint := ← pubkey "quote_mint"
    quoteAmount := ← u64 "quote_amount"
    virtualQuoteReserves := ← u64 "virtual_quote_reserves"
    realQuoteReserves := ← u64 "real_quote_reserves" }

def decodePumpComplete : BorshReader PumpCompleteEvent := do
  return {
    user := ← pubkey "user"
    mint := ← pubkey "mint"
    bondingCurve := ← pubkey "bonding_curve"
    timestamp := ← i64 "timestamp"
    quoteMint := ← pubkey "quote_mint" }

def decodePumpMigration : BorshReader PumpMigrationEvent := do
  return {
    user := ← pubkey "user"
    mint := ← pubkey "mint"
    mintAmount := ← u64 "mint_amount"
    legacySolAmount := ← u64 "sol_amount"
    poolMigrationFee := ← u64 "pool_migration_fee"
    bondingCurve := ← pubkey "bonding_curve"
    timestamp := ← i64 "timestamp"
    pool := ← pubkey "pool"
    quoteMint := ← pubkey "quote_mint" }

def decodePumpSwapCreatePool : BorshReader PumpSwapCreatePoolEvent := do
  return {
    timestamp := ← i64 "timestamp"
    index := ← u16 "index"
    creator := ← pubkey "creator"
    baseMint := ← pubkey "base_mint"
    quoteMint := ← pubkey "quote_mint"
    baseMintDecimals := ← u8 "base_mint_decimals"
    quoteMintDecimals := ← u8 "quote_mint_decimals"
    baseAmountIn := ← u64 "base_amount_in"
    quoteAmountIn := ← u64 "quote_amount_in"
    poolBaseAmount := ← u64 "pool_base_amount"
    poolQuoteAmount := ← u64 "pool_quote_amount"
    minimumLiquidity := ← u64 "minimum_liquidity"
    initialLiquidity := ← u64 "initial_liquidity"
    lpTokenAmountOut := ← u64 "lp_token_amount_out"
    poolBump := ← u8 "pool_bump"
    pool := ← pubkey "pool"
    lpMint := ← pubkey "lp_mint"
    userBaseTokenAccount := ← pubkey "user_base_token_account"
    userQuoteTokenAccount := ← pubkey "user_quote_token_account"
    coinCreator := ← pubkey "coin_creator"
    isMayhemMode := ← boolean "is_mayhem_mode" }

def decodePumpSwapBuy : BorshReader PumpSwapBuyEvent := do
  return {
    timestamp := ← i64 "timestamp"
    baseAmountOut := ← u64 "base_amount_out"
    maxQuoteAmountIn := ← u64 "max_quote_amount_in"
    userBaseTokenReserves := ← u64 "user_base_token_reserves"
    userQuoteTokenReserves := ← u64 "user_quote_token_reserves"
    poolBaseTokenReserves := ← u64 "pool_base_token_reserves"
    poolQuoteTokenReserves := ← u64 "pool_quote_token_reserves"
    quoteAmountIn := ← u64 "quote_amount_in"
    lpFeeBasisPoints := ← u64 "lp_fee_basis_points"
    lpFeeAmount := ← u64 "lp_fee"
    protocolFeeBasisPoints := ← u64 "protocol_fee_basis_points"
    protocolFeeAmount := ← u64 "protocol_fee"
    quoteAmountInWithLpFee := ← u64 "quote_amount_in_with_lp_fee"
    userQuoteAmountIn := ← u64 "user_quote_amount_in"
    pool := ← pubkey "pool"
    user := ← pubkey "user"
    userBaseTokenAccount := ← pubkey "user_base_token_account"
    userQuoteTokenAccount := ← pubkey "user_quote_token_account"
    protocolFeeRecipient := ← pubkey "protocol_fee_recipient"
    protocolFeeRecipientTokenAccount := ← pubkey "protocol_fee_recipient_token_account"
    coinCreator := ← pubkey "coin_creator"
    coinCreatorFeeBasisPoints := ← u64 "coin_creator_fee_basis_points"
    coinCreatorFeeAmount := ← u64 "coin_creator_fee"
    trackVolume := ← boolean "track_volume"
    totalUnclaimedTokens := ← u64 "total_unclaimed_tokens"
    totalClaimedTokens := ← u64 "total_claimed_tokens"
    currentSolVolume := ← u64 "current_sol_volume"
    lastUpdateTimestamp := ← i64 "last_update_timestamp"
    minBaseAmountOut := ← u64 "min_base_amount_out"
    instructionName := ← string "ix_name" maxInstructionNameBytes
    cashbackFeeBasisPoints := ← u64 "cashback_fee_basis_points"
    cashbackAmount := ← u64 "cashback"
    buybackFeeBasisPoints := ← u64 "buyback_fee_basis_points"
    buybackFeeAmount := ← u64 "buyback_fee"
    virtualQuoteReserves := ← i128 "virtual_quote_reserves"
    canBoost := ← boolean "can_boost"
    baseSupply := ← u64 "base_supply" }

def decodePumpSwapSell : BorshReader PumpSwapSellEvent := do
  return {
    timestamp := ← i64 "timestamp"
    baseAmountIn := ← u64 "base_amount_in"
    minQuoteAmountOut := ← u64 "min_quote_amount_out"
    userBaseTokenReserves := ← u64 "user_base_token_reserves"
    userQuoteTokenReserves := ← u64 "user_quote_token_reserves"
    poolBaseTokenReserves := ← u64 "pool_base_token_reserves"
    poolQuoteTokenReserves := ← u64 "pool_quote_token_reserves"
    quoteAmountOut := ← u64 "quote_amount_out"
    lpFeeBasisPoints := ← u64 "lp_fee_basis_points"
    lpFeeAmount := ← u64 "lp_fee"
    protocolFeeBasisPoints := ← u64 "protocol_fee_basis_points"
    protocolFeeAmount := ← u64 "protocol_fee"
    quoteAmountOutWithoutLpFee := ← u64 "quote_amount_out_without_lp_fee"
    userQuoteAmountOut := ← u64 "user_quote_amount_out"
    pool := ← pubkey "pool"
    user := ← pubkey "user"
    userBaseTokenAccount := ← pubkey "user_base_token_account"
    userQuoteTokenAccount := ← pubkey "user_quote_token_account"
    protocolFeeRecipient := ← pubkey "protocol_fee_recipient"
    protocolFeeRecipientTokenAccount := ← pubkey "protocol_fee_recipient_token_account"
    coinCreator := ← pubkey "coin_creator"
    coinCreatorFeeBasisPoints := ← u64 "coin_creator_fee_basis_points"
    coinCreatorFeeAmount := ← u64 "coin_creator_fee"
    cashbackFeeBasisPoints := ← u64 "cashback_fee_basis_points"
    cashbackAmount := ← u64 "cashback"
    buybackFeeBasisPoints := ← u64 "buyback_fee_basis_points"
    buybackFeeAmount := ← u64 "buyback_fee"
    virtualQuoteReserves := ← i128 "virtual_quote_reserves"
    canBoost := ← boolean "can_boost"
    baseSupply := ← u64 "base_supply" }

def decodePumpSwapDeposit : BorshReader PumpSwapDepositEvent := do
  return {
    timestamp := ← i64 "timestamp"
    lpTokenAmountOut := ← u64 "lp_token_amount_out"
    maxBaseAmountIn := ← u64 "max_base_amount_in"
    maxQuoteAmountIn := ← u64 "max_quote_amount_in"
    userBaseTokenReserves := ← u64 "user_base_token_reserves"
    userQuoteTokenReserves := ← u64 "user_quote_token_reserves"
    poolBaseTokenReserves := ← u64 "pool_base_token_reserves"
    poolQuoteTokenReserves := ← u64 "pool_quote_token_reserves"
    baseAmountIn := ← u64 "base_amount_in"
    quoteAmountIn := ← u64 "quote_amount_in"
    lpMintSupply := ← u64 "lp_mint_supply"
    pool := ← pubkey "pool"
    user := ← pubkey "user"
    userBaseTokenAccount := ← pubkey "user_base_token_account"
    userQuoteTokenAccount := ← pubkey "user_quote_token_account"
    userPoolTokenAccount := ← pubkey "user_pool_token_account" }

def decodePumpSwapWithdraw : BorshReader PumpSwapWithdrawEvent := do
  return {
    timestamp := ← i64 "timestamp"
    lpTokenAmountIn := ← u64 "lp_token_amount_in"
    minBaseAmountOut := ← u64 "min_base_amount_out"
    minQuoteAmountOut := ← u64 "min_quote_amount_out"
    userBaseTokenReserves := ← u64 "user_base_token_reserves"
    userQuoteTokenReserves := ← u64 "user_quote_token_reserves"
    poolBaseTokenReserves := ← u64 "pool_base_token_reserves"
    poolQuoteTokenReserves := ← u64 "pool_quote_token_reserves"
    baseAmountOut := ← u64 "base_amount_out"
    quoteAmountOut := ← u64 "quote_amount_out"
    lpMintSupply := ← u64 "lp_mint_supply"
    pool := ← pubkey "pool"
    user := ← pubkey "user"
    userBaseTokenAccount := ← pubkey "user_base_token_account"
    userQuoteTokenAccount := ← pubkey "user_quote_token_account"
    userPoolTokenAccount := ← pubkey "user_pool_token_account" }

/-- The layout of an event is chosen by the program and the discriminator. -/
def eventDecoder (program : PumpProgram) (discriminator : List UInt8) : BorshReader PumpEvent :=
  match program with
  | .pump =>
      if discriminator = createEventDiscriminator then return .create (← decodePumpCreate)
      else if discriminator = tradeEventDiscriminator then return .trade (← decodePumpTrade)
      else if discriminator = completeEventDiscriminator then
        return .complete (← decodePumpComplete)
      else if discriminator = completePumpAmmMigrationEventDiscriminator then
        return .completePumpAmmMigration (← decodePumpMigration)
      else throw (.unknownDiscriminator .pump discriminator)
  | .pumpSwap =>
      if discriminator = createPoolEventDiscriminator then
        return .pumpSwapCreatePool (← decodePumpSwapCreatePool)
      else if discriminator = pumpSwapBuyEventDiscriminator then
        return .pumpSwapBuy (← decodePumpSwapBuy)
      else if discriminator = pumpSwapSellEventDiscriminator then
        return .pumpSwapSell (← decodePumpSwapSell)
      else if discriminator = pumpSwapDepositEventDiscriminator then
        return .pumpSwapDeposit (← decodePumpSwapDeposit)
      else if discriminator = pumpSwapWithdrawEventDiscriminator then
        return .pumpSwapWithdraw (← decodePumpSwapWithdraw)
      else throw (.unknownDiscriminator .pumpSwap discriminator)

/-- The event must end with the input. -/
def readEvent (program : PumpProgram) (discriminator : List UInt8) : BorshReader PumpEvent := do
  let event ← eventDecoder program discriminator
  finish
  return event

def isAnchorEventCpi (data : List UInt8) : Bool :=
  anchorEventCpiDiscriminator.isPrefixOf data

/-- A direct event payload or what follows the prefix of a self-invocation. -/
def eventData (data : List UInt8) : List UInt8 :=
  if isAnchorEventCpi data then data.drop anchorEventCpiDiscriminator.length else data

def decodeAnchorEvent (programId : String) (coordinate : ChainCoordinate) (data : List UInt8) :
    Except DecodeError DecodedPumpEvent :=
  match supportedProgram programId with
  | none => .error (.unsupportedProgram programId)
  | some program =>
      if coordinate.signature.isEmpty then .error .emptySignature
      else if (eventData data).length < 8 then .error .missingDiscriminator
      else
        match readEvent program ((eventData data).take 8) ((eventData data).drop 8) with
        | .error error => .error error
        | .ok (event, _) => .ok { program, coordinate, event }

/-- An event of a self-invocation must carry the prefix. -/
def decodeCpiEvent (programId : String) (coordinate : ChainCoordinate) (data : List UInt8) :
    Except DecodeError DecodedPumpEvent :=
  if !isAnchorEventCpi data then .error .missingCpiDiscriminator
  else decodeAnchorEvent programId coordinate data

section Log

-- The standard base-64 decoder is a library outside the sources.
variable (decodeBase64 : String → Option (List UInt8))

def decodeProgramDataBytes (log : String) : Except DecodeError (List UInt8) :=
  match Text.stripPrefix log programDataPrefix with
  | none => .error .invalidProgramDataLog
  | some encoded =>
      match decodeBase64 encoded with
      | none => .error .invalidBase64
      | some bytes => .ok bytes

def decodeProgramDataLog (programId : String) (coordinate : ChainCoordinate) (log : String) :
    Except DecodeError DecodedPumpEvent := do
  decodeAnchorEvent programId coordinate (← decodeProgramDataBytes decodeBase64 log)

end Log
end Soldisco.SourcePump
